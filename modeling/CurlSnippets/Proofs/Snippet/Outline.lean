import CurlSnippets.Http.Headers
import CurlSnippets.Form.Encoded
import CurlSnippets.Proofs.Text.Delimited

/-!
# What a program tells of its request

Every program is a list of lines that tells the method, the url, the headers and a part of the payload
of its request (`Request.outline`): some programs show a payload as one text (`Payload.text`), others
the fields of a form one by one (`Payload.sent`).
-/

namespace CurlSnippets

open Text

/-! ### What is sent behind the headers -/

/-- What a request sends behind its headers. -/
inductive Payload where
  | raw (content : Text)
  | form (fields : Fields)
deriving DecidableEq

namespace Payload

/-- A payload as one text. -/
def text : Payload → Text
  | .raw content => content
  | .form fields => Form.encode fields

/-- A payload with the fields alone that a form sends. -/
def sent : Payload → Payload
  | .raw content => .raw content
  | .form fields => .form (Form.sent fields)

/-- A payload as a literal, raw content in a form of its own. -/
def literal (rawLiteral literal : Text → Text) : Payload → Text
  | .raw content => rawLiteral content
  | .form fields => literal (Form.encode fields)

theorem shows_literal {rawLiteral literal : Text → Text} {opening stop : Text}
    (encoded : Shows literal id) (raw : ∀ t, RawOr literal opening stop t (rawLiteral t))
    (quoted : ∀ t, RawOr literal opening stop t (literal t)) :
    Shows (Payload.literal rawLiteral literal) text :=
  encoded.of_rawOr fun
    | .raw content => raw content
    | .form fields => quoted (Form.encode fields)

theorem text_sent (p : Payload) : p.sent.text = p.text := by
  cases p with
  | raw content => rfl
  | form fields =>
    have again : Form.sent (Form.sent fields) = Form.sent fields :=
      Fields.ext_entries (by simp [Form.sent])
    rw [sent, text, text, Form.encode, Form.encode, again]

end Payload

/-- The payload of a body, whatever type is declared for it. -/
def Body.payload? : Body → Option Payload
  | .none => Option.none
  | .raw content _ => some (.raw content)
  | .form fields => some (.form fields)

/-- What a program tells of a request, with a part of its payload. -/
def Request.outline {β : Type} (part : Payload → β) (r : Request) :
    Method × Text × Fields × Option β :=
  (r.method, r.url, r.effectiveHeaders true, r.body.payload?.map part)

theorem Method.name_injective : Function.Injective Method.name := fun m n h => by
  simpa using congrArg Method.ofName? h

theorem outline_eq {β : Type} {part : Payload → β} {r₁ r₂ : Request}
    (method : r₁.method.name = r₂.method.name) (url : r₁.url = r₂.url)
    (headers : r₁.effectiveHeaders true = r₂.effectiveHeaders true)
    (payload : r₁.body.payload?.map part = r₂.body.payload?.map part) :
    r₁.outline part = r₂.outline part := by
  rw [Request.outline, Request.outline, Method.name_injective method, url, headers, payload]

namespace Snippet

/-! ### Lines -/

/-- Lines below others, of which the last need not be finished. -/
def below (ls : List Text) : Text := ls.flatMap ('\n' :: ·)

theorem lines_cons (l : Text) (ls : List Text) : lines (l :: ls) = l ++ below ls :=
  join_cons ['\n'] l ls

theorem below_nil : below [] = [] := rfl

theorem below_cons (l : Text) (ls : List Text) : below (l :: ls) = '\n' :: (l ++ below ls) := rfl

theorem below_append (ls ls' : List Text) : below (ls ++ ls') = below ls ++ below ls' :=
  List.flatMap_append

theorem below_map {α : Type} {line write : α → Text} (h : ∀ a, '\n' :: line a = write a)
    (l : List α) : below (l.map line) = l.flatMap write := by
  rw [below, List.flatMap_map]
  exact List.flatMap_congr fun a _ => h a

section Framed

variable {α β : Type} (start stop : Text) (inner : α → Text) (a : α)

/-- A line that is written between a fixed beginning and a fixed end. -/
def framed : Text := below [start] ++ (inner a ++ stop)

theorem framed_eq : framed start stop inner a = '\n' :: (start ++ inner a ++ stop) := by
  simp only [framed, below_cons, below_nil, List.append_nil, List.cons_append, List.append_assoc]

theorem startsIn_framed : StartsIn [below [start]] (framed start stop inner a) := startsIn_append _ _

variable {inner} in
theorem shows_framed {view : α → β} (h : Shows inner view) : Shows (framed start stop inner) view :=
  (h.append_const stop).const_append (below [start])

end Framed

/-- The arguments of a call that adds a header. -/
def headerArguments (literal : Text → Text) (p : Text × Text) : Text :=
  literal p.1 ++ (", " ++ literal p.2)

theorem shows_headerArguments {literal : Text → Text} (h : Shows literal id) :
    Shows (headerArguments literal) id :=
  (h.comp Prod.fst).append ((h.comp Prod.snd).const_append ", ")

/-- A line that adds a header. -/
def headerLine (start : Text) (literal : Text → Text) (p : Text × Text) : Text :=
  framed start ")" (headerArguments literal) p

theorem headerLine_eq (start : Text) (literal : Text → Text) (p : Text × Text) :
    headerLine start literal p = '\n' :: (start ++ literal p.1 ++ ", " ++ literal p.2 ++ ")") := by
  simp only [headerLine, framed_eq, headerArguments, List.append_assoc]

/-! ### Parts that may be missing -/

/-- What is told of a request for which certificates are not checked. -/
def unchecked? (r : Request) : Option Unit := if r.verifySsl then none else some ()

theorem verifySsl_eq {r₁ r₂ : Request} (h : unchecked? r₁ = unchecked? r₂) :
    r₁.verifySsl = r₂.verifySsl := by
  unfold unchecked? at h
  cases h₁ : r₁.verifySsl <;> cases h₂ : r₂.verifySsl <;> simp [h₁, h₂] at h ⊢

/-- A payload shows what a form sends of it if its two kinds are written differently. -/
theorem shows_sent {write : Payload → Text} {starts stops : List Text}
    (raw : Shows (fun content => write (.raw content)) id)
    (form : Shows (fun fields => write (.form fields)) Form.sent)
    (hs : ∀ content, StartsIn starts (write (.raw content)))
    (hs' : ∀ fields, StartsIn stops (write (.form fields)))
    (apart : ∀ s ∈ starts, ∀ s' ∈ stops, Apart s s') : Shows write Payload.sent := by
  have differ : ∀ content fields x y, write (.raw content) ++ x ≠ write (.form fields) ++ y := by
    intro content fields x y e
    obtain ⟨s, mem, hp⟩ := hs' fields
    exact (hs content).ne ⟨s, mem, hp.trans (List.prefix_append _ y)⟩ apart x e
  intro p q x y e
  -- two of one kind, or of different kinds, which do not begin alike
  match p, q with
  | .raw content, .raw content' =>
    obtain ⟨same, rest⟩ := raw e
    exact ⟨congrArg Payload.raw same, rest⟩
  | .raw content, .form fields => exact absurd e (differ content fields x y)
  | .form fields, .raw content => exact absurd e.symm (differ content fields y x)
  | .form fields, .form fields' =>
    obtain ⟨same, rest⟩ := form e
    exact ⟨congrArg Payload.form same, rest⟩

end Snippet

end CurlSnippets
