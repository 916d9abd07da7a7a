import CurlSnippets.Text.Digit
import CurlSnippets.Text.Template
import CurlSnippets.Text.Word

/-!
# Layouts

A layout is a template whose placeholders name what is put in: the name stands in parentheses behind
the percent sign.  A text in which no placeholder has a name is no layout.
-/

namespace CurlSnippets

/-- Why a layout cannot be filled in. -/
inductive LayoutError where
  /-- No placeholder in it has a name. -/
  | nameless (layout : Text)
  /-- It ends inside a name. -/
  | incompleteName
  /-- Nothing has the name. -/
  | unknownName (name : Text)
  /-- It is wrong as a template. -/
  | template (e : TemplateError)
deriving DecidableEq

namespace LayoutError

/-- Whether it is the layout that is wrong, and not what it is filled with. -/
def isMalformed : LayoutError → Bool
  | .template e => e.isMalformed
  | _ => true

/-- The wording of the error. -/
def message : LayoutError → Text
  | .nameless layout => List.flatten ["Invalid format '", layout, "' for '%' style"]
  | .incompleteName => "incomplete format key"
  | .unknownName name => "Formatting field not found in record: " ++ Text.quoted name
  | .template e => e.message

end LayoutError

namespace Layout

/-! ### Which texts are layouts -/

/-- What follows a width or a length: a star or digits, if there are any. -/
def dropSize : Text → Text
  | '*' :: rest => rest
  | t => t.dropWhile Text.isDecimalDigit

/-- What follows a length behind a point, if there is one. -/
def dropPrecision : Text → Text
  | '.' :: rest => if (dropSize rest).length < rest.length then dropSize rest else '.' :: rest
  | t => t

/-- Whether the text behind a percent sign begins with a whole placeholder that has a name. -/
def startsNamed : Text → Bool
  | '(' :: rest =>
    match rest.takeWhile Text.isWord, rest.dropWhile Text.isWord with
    | _ :: _, ')' :: behind =>
      (dropPrecision (dropSize (behind.dropWhile Placeholder.isFlag))).head?.any fun form =>
        "diouxefgcrsa%".toList.contains form.toLower
    | _, _ => false
  | _ => false

/-- Whether a text has a placeholder with a name. -/
def isLayout : Text → Bool
  | [] => false
  | c :: rest => c = '%' && startsNamed rest || isLayout rest

/-! ### Filling a layout in -/

/-- A name up to its closing parenthesis, and what follows that.  Parentheses inside the name go in
pairs; `depth` of them are open. -/
def cutName (depth : Nat) : Text → Option (Text × Text)
  | [] => none
  | c :: rest =>
    if c = ')' && depth = 0 then some ([], rest)
    else
      let inside := if c = '(' then depth + 1 else if c = ')' then depth - 1 else depth
      (cutName inside rest).map fun found => (c :: found.1, found.2)

theorem length_of_cutName {depth : Nat} {t name rest : Text}
    (h : cutName depth t = some (name, rest)) : rest.length < t.length := by
  induction t generalizing depth name with
  | nil => simp [cutName] at h
  | cons c t ih =>
    rw [cutName] at h
    split at h
    · simp only [Option.some.injEq, Prod.mk.injEq] at h
      rw [← h.2]
      exact Nat.lt_succ_self _
    · simp only [Option.map_eq_some_iff, Prod.mk.injEq] at h
      obtain ⟨⟨n, r⟩, hcut, -, rfl⟩ := h
      exact Nat.lt_succ_of_lt (ih hcut)

/-- The rest of a layout of a given length, filled in with values by name; `named` says that a
placeholder with a name stands before it.  One without a name takes all values at once, which have
no form as a text, but only before the first with a name. -/
def fillFrom (length : Nat) (values : List (Text × Text)) (named : Bool) (t : Text) :
    Except LayoutError Text :=
  match t with
  | [] => .ok []
  | '%' :: '%' :: rest => (fillFrom length values named rest).map ('%' :: ·)
  | '%' :: '(' :: rest =>
    match _hn : cutName 0 rest with
    | none => .error .incompleteName
    | some (name, behind) =>
      match values.lookup name with
      | none => .error (.unknownName name)
      | some value =>
        match _hp : Placeholder.cut behind with
        | .error e => .error (.template e)
        | .ok (p, after) =>
          match p.write (length - after.length - 1) value with
          | .error e => .error (.template e)
          | .ok written => (fillFrom length values true after).map (written ++ ·)
  | '%' :: rest =>
    match Placeholder.cut rest with
    | .error e => .error (.template (if e = .star && named then .tooFew else e))
    | .ok (p, after) =>
      .error (.template (if named then .tooFew else p.refusal (length - after.length - 1) .fields))
  | c :: rest => (fillFrom length values named rest).map (c :: ·)
termination_by t.length
decreasing_by
  · simp only [List.length_cons]
    omega
  · have h1 := length_of_cutName _hn
    have h2 := Placeholder.length_of_cut _hp
    simp only [List.length_cons]
    omega
  · simp

/-- The layout that stands for an empty one. -/
def default : Text := "%(message)s"

/-- A text as a layout, if it is one. -/
def ofText (t : Text) : Except LayoutError Text :=
  if t.isEmpty then .ok default else if isLayout t then .ok t else .error (.nameless t)

/-- A layout filled in with values by name. -/
def fill (values : List (Text × Text)) (layout : Text) : Except LayoutError Text :=
  fillFrom layout.length values false layout

end Layout

end CurlSnippets
