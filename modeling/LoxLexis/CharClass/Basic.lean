/-!
# Classes of characters

A class of characters is given by ranges of code points, both ends included.
-/

namespace LoxLexis

/-- A set of characters, as ranges from a first to a last code point. -/
structure CharClass where
  /-- The ranges, each with its first and its last code point. -/
  ranges : List (Nat × Nat)

namespace CharClass

/-- Whether a character belongs to a class. -/
def contains (charClass : CharClass) (character : Char) : Bool :=
  charClass.ranges.any fun range =>
    range.1 ≤ character.toNat && character.toNat ≤ range.2

end CharClass

end LoxLexis
