import LoxLexis.Text.Basic

/-!
# Counting newlines before an offset

The newlines before a byte offset of a text are those of the part that ends at the offset
(`Text.newlinesBefore_append`). Bytes and newlines both grow from a text to a longer one
that begins with it.
-/

namespace LoxLexis

namespace Text

/-- The number of newline characters that begin before a byte offset of a text. -/
def newlinesBefore : Text → Nat → Nat
  | [], _ => 0
  | first :: rest, offset =>
      if offset = 0 then 0
      else (if first = '\n' then 1 else 0) + newlinesBefore rest (offset - first.utf8Size)

@[simp] theorem newlinesBefore_zero (text : Text) : newlinesBefore text 0 = 0 := by
  cases text <;> rfl

theorem newlines_cons (first : Char) (rest : Text) :
    newlines (first :: rest) = (if first = '\n' then 1 else 0) + newlines rest := by
  simp [newlines, List.count_cons, Nat.add_comm]

/-- The newlines before the end of a part of a text are the newlines of that part. -/
theorem newlinesBefore_append (before behind : Text) :
    newlinesBefore (before ++ behind) before.byteLength = before.newlines := by
  induction before with
  | nil => exact newlinesBefore_zero behind
  | cons first rest ih =>
      have positive := first.utf8Size_pos
      have offset : first.utf8Size + byteLength rest ≠ 0 := by omega
      rw [List.cons_append, byteLength_cons, newlinesBefore, if_neg offset,
        Nat.add_sub_cancel_left, ih, newlines_cons]

/-- What a text begins with has no more bytes than the text. -/
theorem byteLength_le_of_prefix {left right : Text} (begins : left <+: right) :
    left.byteLength ≤ right.byteLength := by
  obtain ⟨rest, rfl⟩ := begins
  rw [byteLength_append]
  exact Nat.le_add_right _ _

/-- What a text begins with has no more newlines than the text. -/
theorem newlines_le_of_prefix {left right : Text} (begins : left <+: right) :
    left.newlines ≤ right.newlines :=
  begins.sublist.count_le _

end Text

end LoxLexis
