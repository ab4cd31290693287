import LoxLexis.Text.Basic

/-!
# Parts of a text between byte offsets

Offsets count the bytes of a text, but only those between two characters can be cut at.
`Text.splitAt?` answers at these offsets and at no others, and `Text.slice?` gives the
part between two of them.
-/

namespace LoxLexis

namespace Text

/-- The parts of a text before and after a byte offset, if the offset lies between two
characters or at an end. -/
def splitAt? : Text → Nat → Option (Text × Text)
  | text, 0 => some ([], text)
  | [], _ + 1 => none
  | first :: rest, offset + 1 =>
      if first.utf8Size ≤ offset + 1 then
        (splitAt? rest (offset + 1 - first.utf8Size)).map fun (before, behind) =>
          (first :: before, behind)
      else none

/-- The part of a text between two byte offsets, if both can be cut at in that order. -/
def slice? (text : Text) (start stop : Nat) : Option Text :=
  if start ≤ stop then
    (splitAt? text stop).bind fun (before, _) => (splitAt? before start).map Prod.snd
  else none

@[simp] theorem splitAt?_zero (text : Text) : splitAt? text 0 = some ([], text) := by
  cases text <;> rfl

/-- A text can be cut at the length of each of its parts. -/
theorem splitAt?_append (before behind : Text) :
    splitAt? (before ++ behind) before.byteLength = some (before, behind) := by
  induction before with
  | nil => simp
  | cons first rest ih =>
      have positive := first.utf8Size_pos
      obtain ⟨count, length⟩ : ∃ count, first.utf8Size + byteLength rest = count + 1 :=
        ⟨first.utf8Size + byteLength rest - 1, by omega⟩
      have fits : first.utf8Size ≤ count + 1 := by omega
      have remaining : count + 1 - first.utf8Size = byteLength rest := by omega
      rw [List.cons_append, byteLength_cons, length, splitAt?, if_pos fits, remaining, ih]
      rfl

/-- Cutting a text at an offset gives two parts of it, the first as long as the offset. -/
theorem eq_append_of_splitAt? {text before behind : Text} {offset : Nat}
    (cut : splitAt? text offset = some (before, behind)) :
    text = before ++ behind ∧ before.byteLength = offset := by
  fun_induction splitAt? text offset generalizing before with
  | case1 text =>
      simp only [Option.some.injEq, Prod.mk.injEq] at cut
      obtain ⟨rfl, rfl⟩ := cut
      simp
  | case2 offset => simp at cut
  | case3 first rest offset fits ih =>
      obtain ⟨⟨before', behind'⟩, rest_, found⟩ := Option.map_eq_some_iff.mp cut
      simp only [Prod.mk.injEq] at found
      obtain ⟨rfl, rfl⟩ := found
      obtain ⟨rfl, length⟩ := ih rest_
      refine ⟨rfl, ?_⟩
      rw [byteLength_cons, length]
      omega
  | case4 first rest offset _ => simp at cut

/-- The part of a text between two other parts is found by its offsets. -/
theorem slice?_append (before middle behind : Text) :
    slice? (before ++ middle ++ behind) before.byteLength (before ++ middle).byteLength =
      some middle := by
  rw [slice?, if_pos (by simp), splitAt?_append]
  simp [splitAt?_append]

end Text

end LoxLexis
