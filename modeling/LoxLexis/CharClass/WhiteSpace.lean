import LoxLexis.CharClass.Basic

/-!
# White space

The characters with the Unicode property White_Space: spaces of all widths, tabulators
and line separators.
-/

namespace LoxLexis

namespace CharClass

/-- The white space characters. -/
def whiteSpace : CharClass where
  ranges :=
    [(0x9, 0xD), (0x20, 0x20), (0x85, 0x85), (0xA0, 0xA0), (0x1680, 0x1680), (0x2000, 0x200A),
      (0x2028, 0x2029), (0x202F, 0x202F), (0x205F, 0x205F), (0x3000, 0x3000)]

end CharClass

end LoxLexis
