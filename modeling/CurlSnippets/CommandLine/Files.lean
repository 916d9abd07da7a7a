import CurlSnippets.Bytes.Utf8

/-!
# Files to read

The files in and below a directory, by their paths, and what comes of opening one.  A path may have
`.` and `..` in it; what lies above the directory is not known.  Line breaks of every kind are read
as line feeds.
-/

namespace CurlSnippets.CommandLine

/-- Why a file cannot be opened. -/
inductive OpenError where
  | missing | directory | notDirectory | tooLong
deriving DecidableEq, Repr

/-- The wording of the error. -/
def OpenError.message : OpenError → Text
  | .missing => "No such file or directory"
  | .directory => "Is a directory"
  | .notDirectory => "Not a directory"
  | .tooLong => "File name too long"

/-- The octets that a name on a path may have. -/
def greatestName : Nat := 255

/-- The octets that a path may have. -/
def greatestPath : Nat := 4095

/-- Whether a text has more octets than allowed. -/
def isLonger (t : Text) (allowed : Nat) : Bool := allowed < (Utf8.encode t).length

/-- The files in and below a directory, each with the names on its path. -/
structure Directory where
  files : List (List Text × Text) := []

namespace Directory

/-- The directory with files under given paths. -/
def ofFiles (files : List (Text × Text)) : Directory :=
  ⟨files.map fun f => (Text.split '/' f.1, f.2)⟩

/-- Whether the names lead to a directory that is known. -/
def isDirectory (d : Directory) (names : List Text) : Bool :=
  names.isEmpty || d.files.any fun f => names.isPrefixOf f.1 && names ≠ f.1

/-- Follows names from a place in the directory, or from one above it. -/
def follow (d : Directory) (place : Option (List Text)) :
    List Text → Except OpenError (Option (List Text))
  | [] => .ok place
  | name :: rest =>
    match place with
    | none =>
      if name.isEmpty || name = "." || name = ".." then follow d none rest
      else .error (if isLonger name greatestName then .tooLong else .missing)
    | some names =>
      if !d.isDirectory names then
        .error (if (d.files.lookup names).isSome then .notDirectory else .missing)
      else if name.isEmpty || name = "." then follow d place rest
      else if name = ".." then
        follow d (if names.isEmpty then none else some names.dropLast) rest
      else if isLonger name greatestName then .error .tooLong
      else follow d (some (names ++ [name])) rest

/-- The content of the file at a path. -/
def read (d : Directory) (path : Text) : Except OpenError Text :=
  let start := if path.head? = some '/' then none else some []
  if path.isEmpty then .error .missing
  else if isLonger path greatestPath then .error .tooLong
  else match d.follow start (Text.split '/' path) with
    | .error e => .error e
    | .ok none => .error .directory
    | .ok (some names) =>
      match d.files.lookup names with
      | some content => .ok content
      | none => .error (if d.isDirectory names then .directory else .missing)

end Directory

/-- A text with every line break as a line feed. -/
def withLineFeeds : Text → Text
  | [] => []
  | '\r' :: '\n' :: rest => '\n' :: withLineFeeds rest
  | c :: rest => (if c = '\r' then '\n' else c) :: withLineFeeds rest

/-- A text without carriage returns is read as it is. -/
theorem withLineFeeds_of_not_mem {t : Text} (h : '\r' ∉ t) : withLineFeeds t = t := by
  fun_induction withLineFeeds t with
  | case1 => rfl
  | case2 rest => simp at h
  | case3 c rest _ ih =>
    simp only [List.mem_cons, not_or] at h
    simp [ih h.2, Ne.symm h.1]

end CurlSnippets.CommandLine
