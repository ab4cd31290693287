import LoxLexis.Span

/-!
# Positions

A position in a text is a byte offset together with the line it lies on. Reading a
text moves a position by the text's bytes and newlines (`Position.after_offset`,
`Position.after_line`), so a position depends only on what was read, not on how the
reading was divided (`Position.after_append`).
-/

namespace LoxLexis

/-- A place between two characters of a text. -/
structure Position where
  /-- The number of bytes before the place. -/
  offset : Nat
  /-- The line of the place, counted from one. -/
  line : Nat
  deriving DecidableEq, Repr

namespace Position

/-- The start of a text. -/
def origin : Position := ⟨0, 1⟩

/-- The position after reading a text. -/
def after (position : Position) (text : Text) : Position :=
  ⟨position.offset + text.byteLength, position.line + text.newlines⟩

@[simp] theorem after_offset (position : Position) (text : Text) :
    (position.after text).offset = position.offset + text.byteLength := rfl

@[simp] theorem after_line (position : Position) (text : Text) :
    (position.after text).line = position.line + text.newlines := rfl

@[simp] theorem after_nil (position : Position) : position.after [] = position := rfl

theorem after_append (position : Position) (left right : Text) :
    position.after (left ++ right) = (position.after left).after right := by
  simp only [after, Text.byteLength_append, Text.newlines_append, Nat.add_assoc]

/-- The span of a text that starts at a position. -/
def spanOf (position : Position) (text : Text) : Span :=
  ⟨position.offset, position.offset + text.byteLength⟩

end Position

end LoxLexis
