import LoxLexis.Pipe

/-!
# Pouring into a pipe

However many writes it takes, pouring bytes into a pipe gives it as many of them as fit,
leaves the others, and fails exactly when there are others (`Pipe.pour_eq`). An unlimited
pipe takes everything (`Pipe.pour_of_unlimited`).
-/

namespace LoxLexis

namespace Pipe

/-- A write takes the bytes that fit, and nothing more fits behind them. -/
theorem write_eq_ok {pipe following : Pipe} {bytes : Bytes} {count : Nat}
    (written : pipe.write bytes = .ok (count, following)) :
    count = pipe.fitting bytes.length ∧
      following = { pipe with accepted := pipe.accepted.appendList (bytes.take count) } ∧
      following.fitting (bytes.drop count).length = 0 := by
  simp only [write] at written
  split at written
  · cases written
  · cases written
    refine ⟨rfl, rfl, ?_⟩
    have size (added : Bytes) :
        (pipe.accepted.appendList added).size = pipe.accepted.size + added.length := by
      rw [Array.appendList_eq_append, ← Array.length_toList, Array.toList_appendList,
        List.length_append, Array.length_toList]
    rw [List.length_drop]
    cases limit : pipe.capacity with
    | none => simp [fitting, limit]
    | some capacity =>
        simp only [fitting, limit, size, List.length_take]
        omega

/-- A write is refused only when there are bytes and none of them fits. -/
theorem write_eq_error {pipe : Pipe} {bytes : Bytes} {cause : IoCause}
    (refused : pipe.write bytes = .error cause) :
    cause = .streamFull ∧ pipe.fitting bytes.length = 0 ∧ bytes ≠ [] := by
  simp only [write] at refused
  split at refused
  · next full =>
      cases refused
      simpa using full
  · cases refused

/-- **What pouring does.** The pipe takes the bytes that fit and the others are left; it
is full exactly when there are others. -/
theorem pour_eq (pipe : Pipe) (bytes : Bytes) :
    pipe.pour bytes =
      ({ pipe with
          accepted := pipe.accepted.appendList (bytes.take (pipe.fitting bytes.length)) },
        bytes.drop (pipe.fitting bytes.length),
        if pipe.fitting bytes.length < bytes.length then some .streamFull else none) := by
  fun_induction pour pipe bytes with
  | case1 pipe => simp
  | case2 pipe bytes more cause refused =>
      obtain ⟨rfl, nothing, -⟩ := write_eq_error refused
      have positive := List.length_pos_iff.mpr more
      simp [nothing, positive]
  | case3 pipe bytes more count following written ih =>
      -- Nothing fits behind a write, so what is left of the bytes is left for good.
      obtain ⟨fits, stands, full⟩ := write_eq_ok written
      rw [ih, full, ← fits, stands]
      simp only [List.take_zero, List.drop_zero, Array.appendList_eq_append, Array.appendList_nil,
        List.length_drop, Nat.sub_pos_iff_lt]

/-- An unlimited pipe takes all bytes. -/
theorem pour_of_unlimited {pipe : Pipe} (unlimited : pipe.capacity = none) (bytes : Bytes) :
    pipe.pour bytes = ({ pipe with accepted := pipe.accepted.appendList bytes }, [], none) := by
  have fits : pipe.fitting bytes.length = bytes.length := by rw [fitting, unlimited]
  rw [pour_eq, fits, List.take_length, List.drop_length, if_neg (Nat.lt_irrefl _)]

end Pipe

end LoxLexis
