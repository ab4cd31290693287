import LoxLexis.Text.Width

/-!
# The lines of a source in a report

A report counts lines by every line break that Unicode knows, not by newlines alone, and
places by characters, not by bytes. A line keeps its break, a carriage return with the
newline after it being one break, so the lines of a source make up the source
(`SourceLine.flatten_cut`). A source without characters has one empty line.
-/

namespace LoxLexis

/-- A line of a source. -/
structure SourceLine where
  /-- The number of the line, counted from one. -/
  number : Nat
  /-- The number of characters before the line. -/
  start : Nat
  /-- The line with its break. -/
  text : Text
  deriving DecidableEq, Repr

namespace SourceLine

/-- Whether a character ends a line. -/
def isBreak (character : Char) : Bool :=
  character = '\n' || character = '\r' || character = '\x0b' || character = '\x0c' ||
    character = '\u0085' || character = '\u2028' || character = '\u2029'

/-- The first line of a text with its break, and what follows it. -/
def splitFirst : Text → Text × Text
  | [] => ([], [])
  | '\r' :: '\n' :: rest => (['\r', '\n'], rest)
  | character :: rest =>
      if isBreak character then ([character], rest)
      else (character :: (splitFirst rest).1, (splitFirst rest).2)

/-- Splitting off the first line loses nothing. -/
theorem append_splitFirst (text : Text) : (splitFirst text).1 ++ (splitFirst text).2 = text := by
  fun_induction splitFirst text with
  | case1 => rfl
  | case2 rest => rfl
  | case3 character rest _ ends => rfl
  | case4 character rest _ inside ih => simp [ih]

theorem splitFirst_cons_ne_nil (character : Char) (rest : Text) :
    (splitFirst (character :: rest)).1 ≠ [] := by
  unfold splitFirst
  split
  · simp_all
  · simp
  · split <;> simp

theorem splitFirst_length_lt (character : Char) (rest : Text) :
    (splitFirst (character :: rest)).2.length < (character :: rest).length := by
  have whole := congrArg List.length (append_splitFirst (character :: rest))
  have taken := List.length_pos_iff.mpr (splitFirst_cons_ne_nil character rest)
  rw [List.length_append] at whole
  omega

/-- The lines of a text, each with its break. -/
def cut : Text → List Text
  | [] => []
  | character :: rest =>
      (splitFirst (character :: rest)).1 :: cut (splitFirst (character :: rest)).2
termination_by text => text.length
decreasing_by exact splitFirst_length_lt character rest

/-- The lines of a text make up the text. -/
theorem flatten_cut (text : Text) : (cut text).flatten = text := by
  fun_induction cut text with
  | case1 => rfl
  | case2 character rest ih => rw [List.flatten_cons, ih, append_splitFirst]

/-- Texts that follow each other as lines, counted on from a line number and a number of
characters. -/
def enumerate (number start : Nat) : List Text → List SourceLine
  | [] => []
  | text :: others => ⟨number, start, text⟩ :: enumerate (number + 1) (start + text.length) others

/-- The lines of a source. -/
def ofSource (source : Text) : List SourceLine :=
  match source with
  | [] => [⟨1, 0, []⟩]
  | _ => enumerate 1 0 (cut source)

/-- The number of characters up to the end of a line. -/
def stop (line : SourceLine) : Nat :=
  line.start + line.text.length

/-- The line on which a character offset falls: the last one that starts no later. -/
def at? (lines : List SourceLine) (offset : Nat) : Option SourceLine :=
  (lines.takeWhile fun line => line.start ≤ offset).getLast?

/-- What a report shows of a line: the line without the white space at its end. -/
def visible (line : SourceLine) : Text :=
  Text.trimEnd Text.isWhite line.text

/-- The columns that the first so many characters of a line take; where nothing is shown,
each place takes one. -/
def widths (line : SourceLine) (count : Nat) : List Nat :=
  let shown := line.visible.zipIdx.map fun (character, column) => Text.widthAt column character
  shown.take count ++ List.replicate (count - shown.length) 1

end SourceLine

end LoxLexis
