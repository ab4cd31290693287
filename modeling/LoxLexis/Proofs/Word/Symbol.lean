import LoxLexis.Word.Grammar

/-!
# Symbols where they stand

No symbol is longer than two characters, and only an equals sign makes one symbol of
another. So a symbol is whole before a text exactly when the text does not begin with the
one character that would have changed its reading (`Word.symbolFits_iff`).
-/

namespace LoxLexis

namespace Symbol

/-- A symbol begins another one only when an equals sign grows it into that one. -/
theorem spelling_prefix_iff (short long : Symbol) :
    short.spelling <+: long.spelling ↔ long = short ∨ short.withEqual? = some long := by
  cases short <;> cases long <;> decide

/-- A symbol is a character of its own, or such a character grown by an equals sign. -/
theorem single_or_grown (mark : Symbol) :
    (∃ character, mark.spelling = [character] ∧ ofChar? character = some mark) ∨
      ∃ character short, mark.spelling = [character, '='] ∧ ofChar? character = some short ∧
        short.withEqual? = some mark := by
  cases mark with
  | bangEqual | equalEqual | lessEqual | greaterEqual => exact .inr ⟨_, _, rfl, rfl, rfl⟩
  | _ => exact .inl ⟨_, rfl, rfl⟩

/-- A character begins a symbol exactly when it is one on its own. -/
theorem ofChar?_eq_none_iff (character : Char) :
    ofChar? character = none ↔ ∀ mark : Symbol, mark.spelling.head? ≠ some character := by
  constructor
  · intro unknown mark heads
    obtain ⟨own, spelled, found⟩ | ⟨own, short, spelled, found, -⟩ := mark.single_or_grown
    all_goals
      rw [spelled] at heads
      rw [← Option.some.inj heads, found] at unknown
      exact Option.some_ne_none _ unknown
  · intro absent
    cases found : ofChar? character with
    | none => rfl
    | some mark => exact absurd (by rw [spelling_of_ofChar? found]; rfl) (absent mark)

/-- A symbol that an equals sign has made longer is made longer by no other, and is not the
slash. -/
theorem withEqual?_of_grown {short long : Symbol} (grown : short.withEqual? = some long) :
    long.withEqual? = none ∧ long ≠ slash := by
  cases short <;> simp only [withEqual?, Option.some.injEq, reduceCtorEq] at grown <;>
    subst grown <;> exact ⟨rfl, by decide⟩

end Symbol

namespace Word

/-- A symbol that an equals sign grows is whole when none follows, and a slash when no
second slash follows. -/
theorem symbolFits_iff (mark : Symbol) (following : Text) :
    SymbolFits mark following ↔
      (mark.withEqual? ≠ none → following.head? ≠ some '=') ∧
        (mark = .slash → following.head? ≠ some '/') := by
  refine and_congr_left fun _ => ?_
  constructor
  · -- A grown symbol would stand there too, and growing is not staying the same.
    intro longest grows equals
    obtain ⟨long, grown⟩ := Option.ne_none_iff_exists'.mp grows
    obtain ⟨rest, rfl⟩ := List.head?_eq_some_iff.mp equals
    have stands : long.spelling <+: mark.spelling ++ '=' :: rest :=
      ⟨rest, by simp [Symbol.spelling_of_withEqual? grown]⟩
    have same := longest long ((Symbol.spelling_prefix_iff mark long).mpr (.inr grown)) stands
    rw [same] at grown
    exact grows (Symbol.withEqual?_of_grown grown).1
  · intro ungrown long begins stands
    rcases (Symbol.spelling_prefix_iff mark long).mp begins with same | grown
    · exact same
    · rw [Symbol.spelling_of_withEqual? grown, List.prefix_append_right_inj] at stands
      obtain ⟨rest, rfl⟩ := stands
      exact absurd rfl (ungrown (by rw [grown]; exact Option.some_ne_none _))

end Word

end LoxLexis
