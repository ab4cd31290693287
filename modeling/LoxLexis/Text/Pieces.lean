import LoxLexis.Text.Basic

/-!
# Cutting a list after certain elements

`cutAfter` cuts a list after every element that ends a piece; what stands after the last
such element is a piece of its own unless it is empty. The pieces make up the list
(`flatten_cutAfter`).
-/

namespace LoxLexis

variable {α : Type}

/-- The pieces of a list, each up to and including the first element that ends it. -/
def cutAfter (isEnd : α → Bool) : List α → List (List α)
  | [] => []
  | first :: rest =>
      if isEnd first then [first] :: cutAfter isEnd rest
      else
        match cutAfter isEnd rest with
        | [] => [[first]]
        | piece :: others => (first :: piece) :: others

@[simp] theorem cutAfter_nil (isEnd : α → Bool) : cutAfter isEnd [] = [] := rfl

/-- The pieces of a list, one after the other, are the list. -/
theorem flatten_cutAfter (isEnd : α → Bool) (list : List α) :
    (cutAfter isEnd list).flatten = list := by
  induction list with
  | nil => rfl
  | cons first rest ih =>
      rw [cutAfter]
      split
      · rw [List.flatten_cons, ih]; rfl
      · split
        · next noPiece => rw [noPiece] at ih; simp [← ih]
        · next piece others found => rw [found] at ih; simp [← ih]

end LoxLexis
