/-!
# Texts

A text is the list of its characters. Offsets into a text count the bytes of its
UTF-8 form, and lines are counted by newline characters alone. Both counts add up
over concatenation (`Text.byteLength_append`, `Text.newlines_append`), which is what
lets a position be carried from one part of a text to the next.
-/

namespace LoxLexis

/-- A text, as the sequence of its characters. -/
abbrev Text := List Char

namespace Text

/-- The number of bytes in the UTF-8 form of a text. -/
def byteLength (text : Text) : Nat :=
  text.foldr (fun first rest => first.utf8Size + rest) 0

@[simp] theorem byteLength_nil : byteLength [] = 0 := rfl

@[simp] theorem byteLength_cons (first : Char) (rest : Text) :
    byteLength (first :: rest) = first.utf8Size + byteLength rest := rfl

@[simp] theorem byteLength_append (left right : Text) :
    byteLength (left ++ right) = byteLength left + byteLength right := by
  induction left with
  | nil => simp
  | cons first rest ih => simp [ih, Nat.add_assoc]

/-- A text takes at least one byte for each of its characters. -/
theorem length_le_byteLength (text : Text) : text.length ≤ text.byteLength := by
  induction text with
  | nil => simp
  | cons first rest ih =>
      have positive := first.utf8Size_pos
      simp only [List.length_cons, byteLength_cons]
      omega

/-- A text of characters that are single bytes takes one byte for each of them. -/
theorem byteLength_eq_length {text : Text} (single : ∀ character ∈ text, character.utf8Size = 1) :
    text.byteLength = text.length := by
  induction text with
  | nil => rfl
  | cons first rest ih =>
      rw [List.forall_mem_cons] at single
      rw [byteLength_cons, single.1, ih single.2, List.length_cons, Nat.add_comm]

/-- The number of newline characters in a text. -/
def newlines (text : Text) : Nat :=
  text.count '\n'

@[simp] theorem newlines_nil : newlines [] = 0 := rfl

@[simp] theorem newlines_append (left right : Text) :
    newlines (left ++ right) = newlines left + newlines right := by
  simp [newlines]

/-- A text is at least as long in bytes as it has newlines. -/
theorem newlines_le_byteLength (text : Text) : text.newlines ≤ text.byteLength :=
  Nat.le_trans List.count_le_length text.length_le_byteLength

/-- A number in decimal digits. -/
def ofNat (number : Nat) : Text :=
  Nat.toDigits 10 number

/-- A run of spaces. -/
def spaces (count : Nat) : Text :=
  List.replicate count ' '

@[simp] theorem length_spaces (count : Nat) : (spaces count).length = count := by
  simp [spaces]

/-- The text without the characters at its end that satisfy a condition. -/
def trimEnd (isTrimmed : Char → Bool) (text : Text) : Text :=
  (text.reverse.dropWhile isTrimmed).reverse

/-- Every text followed by a line break. -/
def ofLines (texts : List Text) : Text :=
  texts.flatMap (· ++ ['\n'])

@[simp] theorem ofLines_nil : ofLines [] = [] := rfl

@[simp] theorem ofLines_cons (first : Text) (rest : List Text) :
    ofLines (first :: rest) = first ++ '\n' :: ofLines rest := by
  simp [ofLines]

@[simp] theorem ofLines_append (left right : List Text) :
    ofLines (left ++ right) = ofLines left ++ ofLines right := by
  simp [ofLines]

end Text

end LoxLexis
