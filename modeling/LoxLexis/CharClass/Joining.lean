import LoxLexis.CharClass.Basic

/-!
# Joining characters

The characters that take no column of their own because they join the one beside them:
the vowels and final consonants of Hangul syllables, the signs that are written before
the letter they belong to, and a few signs that are drawn above or around what follows.
-/

namespace LoxLexis

namespace CharClass

/-- The characters that join the one beside them. -/
def joining : CharClass where
  ranges :=
    [(0x605, 0x605), (0x70F, 0x70F), (0x890, 0x891), (0x8E2, 0x8E2), (0xD4E, 0xD4E),
      (0x1160, 0x11FF), (0xA8FA, 0xA8FA), (0xD7B0, 0xD7C6), (0xD7CB, 0xD7FB), (0x111C2, 0x111C3),
      (0x1193F, 0x1193F), (0x11941, 0x11941), (0x11A3A, 0x11A3A), (0x11A84, 0x11A89),
      (0x11D46, 0x11D46), (0x11F02, 0x11F02)]

end CharClass

end LoxLexis
