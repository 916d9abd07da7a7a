import CurlSnippets.Text.Blank
import CurlSnippets.Text.Digit
import CurlSnippets.Text.Word

/-!
# Paragraphs in lines

A paragraph is cut into chunks, which are blanks, words and dashes between words, and a line takes
as many chunks as fit.  A word may be cut after a hyphen between letters; one that is longer than a
line is cut where the line ends, or after the last hyphen before that.
-/

namespace CurlSnippets.Text.Wrap

/-- Whether a character separates words in a paragraph. -/
def isSpace (c : Char) : Bool := c = ' ' || (9 ≤ c.toNat && c.toNat ≤ 13)

/-- Whether a character is part of a word or of its punctuation. -/
def isWordPunct (c : Char) : Bool := isWord c || "!\"'&.,?".toList.contains c

/-- Whether a character is a letter: a word character that is no decimal digit. -/
def isLetter (c : Char) : Bool := isWord c && !isDecimalDigit c

/-! ### Chunks

`behind` is what stands before a place, the nearest character first. -/

/-- Whether a text begins with two or more dashes and a word character behind them. -/
def startsDash (t : Text) : Bool :=
  2 ≤ (t.takeWhile (· = '-')).length
    && ((t.dropWhile (· = '-')).head?.any isWord)

/-- Whether a text begins with two letters, between which a hyphen may stand. -/
def startsLetters : Text → Bool
  | a :: '-' :: b :: _ => isLetter a && isLetter b
  | a :: b :: _ => isLetter a && isLetter b
  | _ => false

/-- Whether a word may be cut after the hyphen at a place with `behind` before it and `ahead` after
it: on either side are two letters, between which another hyphen may stand. -/
def hyphenates (behind ahead : Text) : Bool := startsLetters behind && startsLetters ahead

/-- The rest of a word behind its first characters, and what follows the word. -/
def cutWord (behind : Text) : Text → Text × Text
  | [] => ([], [])
  | c :: rest =>
    if c = '-' && hyphenates behind rest then ([c], rest)
    else if isSpace c then ([], c :: rest)
    else if behind.head?.any isWordPunct && startsDash (c :: rest) then ([], c :: rest)
    else (c :: (cutWord (c :: behind) rest).1, (cutWord (c :: behind) rest).2)

theorem length_cutWord_le (behind t : Text) : (cutWord behind t).2.length ≤ t.length := by
  induction t generalizing behind with
  | nil => simp [cutWord]
  | cons c t ih =>
    simp only [cutWord]
    split
    · simp
    split
    · simp
    split
    · simp
    · exact Nat.le_succ_of_le (ih _)

/-- The chunks of a paragraph. -/
def chunksFrom (behind : Text) (t : Text) : List Text :=
  match t with
  | [] => []
  | c :: rest =>
    if isSpace c then
      (c :: rest.takeWhile isSpace)
        :: chunksFrom ((c :: rest.takeWhile isSpace).reverse ++ behind) (rest.dropWhile isSpace)
    else if behind.head?.any isWordPunct && startsDash (c :: rest) then
      (c :: rest.takeWhile (· = '-'))
        :: chunksFrom ((c :: rest.takeWhile (· = '-')).reverse ++ behind)
          (rest.dropWhile (· = '-'))
    else
      (c :: (cutWord (c :: behind) rest).1)
        :: chunksFrom ((c :: (cutWord (c :: behind) rest).1).reverse ++ behind)
          (cutWord (c :: behind) rest).2
termination_by t.length
decreasing_by
  · exact Nat.lt_succ_of_le (List.dropWhile_sublist _).length_le
  · exact Nat.lt_succ_of_le (List.dropWhile_sublist _).length_le
  · exact Nat.lt_succ_of_le (length_cutWord_le _ _)

/-! ### Lines -/

/-- The chunks that fit behind `used` characters of a line, and those left. -/
def takeLine (width used : Nat) : List Text → List Text × List Text
  | [] => ([], [])
  | c :: cs =>
    if used + c.length ≤ width then
      (c :: (takeLine width (used + c.length) cs).1, (takeLine width (used + c.length) cs).2)
    else ([], c :: cs)

/-- Where a word is cut that is longer than the room for it: after the last hyphen in that room, if
there is more than hyphens before it, and otherwise where the room ends. -/
def cutPlace (room : Nat) (word : Text) : Nat :=
  let upTo := ((word.take room).reverse.dropWhile (· ≠ '-')).reverse
  if upTo.any (· ≠ '-') then upTo.length else room

/-- A line with as much of the next word as fits, if no line can hold the whole word. -/
def breakWord (width : Nat) (line : List Text) : List Text → List Text × List Text
  | [] => (line, [])
  | c :: cs =>
    if c.length > width then
      let n := cutPlace (width - line.flatten.length) c
      (line ++ [c.take n], c.drop n :: cs)
    else (line, c :: cs)

/-- Whether a chunk is nothing but blank. -/
def isBlankChunk (c : Text) : Bool := (trim c).isEmpty

/-- A line without a blank last chunk. -/
def dropLastBlank (line : List Text) : List Text :=
  if line.getLast?.any isBlankChunk then line.dropLast else line

/-- Chunks without a blank first one. -/
def dropFirstBlank : List Text → List Text
  | c :: cs => if isBlankChunk c then cs else c :: cs
  | [] => []

/-- The lines that chunks make, at most so many; `first` says that none stands above them. -/
def linesFrom (width : Nat) : (most : Nat) → (first : Bool) → List Text → List Text
  | 0, _, _ => []
  | _, _, [] => []
  | most + 1, first, c :: cs =>
    let chunks := if first then c :: cs else dropFirstBlank (c :: cs)
    let (line, rest) := takeLine width 0 chunks
    let (line, rest) := breakWord width line rest
    match dropLastBlank line with
    | [] => linesFrom width most first rest
    | line => line.flatten :: linesFrom width most false rest

end CurlSnippets.Text.Wrap

namespace CurlSnippets.Text

/-- A paragraph in lines of at most a width. -/
def wrap (width : Nat) (t : Text) : List Text :=
  Wrap.linesFrom width (t.length + 1) true (Wrap.chunksFrom [] t)

end CurlSnippets.Text
