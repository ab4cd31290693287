import LoxLexis.Proofs.Text.Blanking
import LoxLexis.Text.Pieces
import Mathlib.Data.List.TakeWhile

/-!
# The lines of a text

Cutting a list after certain elements goes piece by piece (`cutAfter_append`), and what is
shown of a list may be shown piece by piece too (`cutAfter_induction`). So what is shown of a
text may be shown line by line (`Text.lines_induction`).
-/

namespace LoxLexis

section Pieces

variable {α : Type} {isEnd : α → Bool} {body list : List α}

/-- A list without an element that ends a piece is one piece. -/
theorem cutAfter_of_forall_not (inside : ∀ element ∈ list, isEnd element = false)
    (nonempty : list ≠ []) : cutAfter isEnd list = [list] := by
  induction list with
  | nil => exact absurd rfl nonempty
  | cons first rest ih =>
      rw [List.forall_mem_cons] at inside
      rw [cutAfter, if_neg (Bool.eq_false_iff.mp inside.1)]
      rcases rest with - | ⟨second, others⟩
      · rfl
      · rw [ih inside.2 (List.cons_ne_nil _ _)]

/-- The first piece of a list reaches to the first element that ends one. -/
theorem cutAfter_append (inside : ∀ element ∈ body, isEnd element = false) {last : α}
    (ends : isEnd last = true) (rest : List α) :
    cutAfter isEnd (body ++ last :: rest) = (body ++ [last]) :: cutAfter isEnd rest := by
  induction body with
  | nil => rw [List.nil_append, cutAfter, if_pos ends, List.nil_append]
  | cons first others ih =>
      rw [List.forall_mem_cons] at inside
      rw [List.cons_append, cutAfter, if_neg (Bool.eq_false_iff.mp inside.1), ih inside.2]
      rfl

/-- A list has no element that ends a piece, or a first piece and others behind it. -/
@[elab_as_elim]
theorem cutAfter_induction {motive : List α → Prop} (isEnd : α → Bool)
    (whole : ∀ list, (∀ element ∈ list, isEnd element = false) → motive list)
    (piece : ∀ body last rest, (∀ element ∈ body, isEnd element = false) → isEnd last = true →
      motive rest → motive (body ++ last :: rest))
    (list : List α) : motive list := by
  induction size : list.length using Nat.strong_induction_on generalizing list with
  | _ count ih =>
      have parts := List.takeWhile_append_dropWhile (p := fun element => !isEnd element) (l := list)
      have inside : ∀ element ∈ list.takeWhile fun element => !isEnd element,
          isEnd element = false := by
        intro element member
        simpa using List.mem_takeWhile_imp member
      cases remaining : list.dropWhile fun element => !isEnd element with
      | nil =>
          rw [remaining, List.append_nil] at parts
          exact whole list (parts ▸ inside)
      | cons last rest =>
          have stops := List.head?_dropWhile_not (fun element => !isEnd element) list
          rw [remaining] at parts stops
          rw [← parts]
          refine piece _ last rest inside (by simpa using stops) (ih rest.length ?_ rest rfl)
          rw [← size, ← parts, List.length_append, List.length_cons]
          omega

/-- Every piece of a list has a last element, and no element before it ends a piece. -/
theorem exists_concat_of_mem_cutAfter {piece : List α} (member : piece ∈ cutAfter isEnd list) :
    ∃ body last, piece = body ++ [last] ∧ ∀ element ∈ body, isEnd element = false := by
  induction list using cutAfter_induction isEnd with
  | whole list inside =>
      rcases list.eq_nil_or_concat with rfl | ⟨body, last, rfl⟩
      · cases member
      · rw [List.concat_eq_append] at inside member
        rw [cutAfter_of_forall_not inside (List.append_ne_nil_of_right_ne_nil _ (by simp)),
          List.mem_singleton] at member
        exact ⟨body, last, member, fun element within => inside element (by simp [within])⟩
  | piece body last rest inside ends ih =>
      rw [cutAfter_append inside ends, List.mem_cons] at member
      rcases member with rfl | later
      · exact ⟨body, last, rfl, inside⟩
      · exact ih later

/-- Every piece but the last has an element that ends it. -/
theorem getLast?_of_mem_dropLast_cutAfter {piece : List α}
    (member : piece ∈ (cutAfter isEnd list).dropLast) :
    ∃ last ∈ piece.getLast?, isEnd last = true := by
  induction list using cutAfter_induction isEnd with
  | whole list inside =>
      rcases eq_or_ne list [] with rfl | nonempty
      · cases member
      · rw [cutAfter_of_forall_not inside nonempty] at member
        cases member
  | piece body last rest inside ends ih =>
      rw [cutAfter_append inside ends] at member
      rcases eq_or_ne (cutAfter isEnd rest) [] with nothing | more
      · rw [nothing] at member
        cases member
      · rw [List.dropLast_cons_of_ne_nil more, List.mem_cons] at member
        rcases member with rfl | later
        · exact ⟨last, List.getLast?_concat, ends⟩
        · exact ih later

end Pieces

namespace Text

/-- Whether a character is the newline, behind which a line is cut off. -/
def isNewline (character : Char) : Bool := character = '\n'

/-- The lines of a text, each with the newline that ends it. -/
def lines (text : Text) : List Text := cutAfter isNewline text

theorem flatten_lines (text : Text) : text.lines.flatten = text :=
  flatten_cutAfter _ text

theorem isNewline_eq_false {text : Text} (oneLine : '\n' ∉ text) :
    ∀ character ∈ text, isNewline character = false := by
  intro character member
  simpa [isNewline] using ne_of_mem_of_not_mem member oneLine

/-- A text without newlines is one line. -/
theorem lines_of_not_mem {text : Text} (oneLine : '\n' ∉ text) (nonempty : text ≠ []) :
    text.lines = [text] :=
  cutAfter_of_forall_not (isNewline_eq_false oneLine) nonempty

/-- The first line of a text reaches to its first newline. -/
theorem lines_append_newline {body : Text} (oneLine : '\n' ∉ body) (rest : Text) :
    lines (body ++ '\n' :: rest) = (body ++ ['\n']) :: rest.lines :=
  cutAfter_append (isNewline_eq_false oneLine) rfl rest

/-- A text is one line that no newline ends, or a line in front of a text. -/
@[elab_as_elim]
theorem lines_induction {motive : Text → Prop} (last : ∀ text, '\n' ∉ text → motive text)
    (line : ∀ body rest, '\n' ∉ body → motive rest → motive (body ++ '\n' :: rest))
    (text : Text) : motive text := by
  have oneLine {part : Text} (inside : ∀ character ∈ part, isNewline character = false) :
      '\n' ∉ part := by
    intro member
    cases inside '\n' member
  induction text using cutAfter_induction isNewline with
  | whole text inside => exact last text (oneLine inside)
  | piece body ending rest inside ends ih =>
      obtain rfl : ending = '\n' := of_decide_eq_true ends
      exact line body rest (oneLine inside) ih

/-- A text has a newline exactly when its bytes have the byte of one. -/
theorem newline_mem_encode_iff {text : Text} : 10 ∈ text.encode ↔ '\n' ∈ text := by
  constructor
  · intro member
    obtain ⟨character, inside, byte⟩ := List.mem_flatMap.mp member
    exact newline_mem_utf8EncodeChar byte ▸ inside
  · intro member
    exact List.mem_flatMap.mpr ⟨'\n', member, List.mem_singleton.mpr rfl⟩

/-- A text that is not empty has bytes. -/
theorem encode_ne_nil {text : Text} (nonempty : text ≠ []) : text.encode ≠ [] := by
  intro nothing
  have bytes := length_encode text
  have characters := text.length_le_byteLength
  have positive := List.length_pos_iff.mpr nonempty
  rw [nothing, List.length_nil] at bytes
  omega

/-- Texts that follow each other have the bytes of each, one after the other. -/
theorem encode_flatten (texts : List Text) :
    encode texts.flatten = (texts.map encode).flatten := by
  induction texts with
  | nil => rfl
  | cons first others ih =>
      rw [List.flatten_cons, encode_append, ih, List.map_cons, List.flatten_cons]

end Text

end LoxLexis
