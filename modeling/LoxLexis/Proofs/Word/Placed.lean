import LoxLexis.Event
import LoxLexis.Word.Grammar

/-!
# Words in their places

Words that stand one after the other are listed with the text before each of them
(`Word.placed`). What a word says of its place depends on that text alone, so the events
of words are those of the placed words, with the end that they reach
(`Event.ofWords_eq_placed`).
-/

namespace LoxLexis

namespace Word

/-- The words that follow a text, each with the whole text before it. -/
def placed (before : Text) : List Word → List (Text × Word)
  | [] => []
  | word :: others => (before, word) :: placed (before ++ word.spelling) others

/-- The bytes of a word that stands behind a text. -/
def placedSpan (place : Text × Word) : Span :=
  ⟨place.1.byteLength, (place.1 ++ place.2.spelling).byteLength⟩

/-- The event of a word behind a text, when the text starts at a position. -/
def placedEvent? (start : Position) (place : Text × Word) : Option Event :=
  place.2.event? (start.after place.1)

/-- Words are placed part by part, the second part behind what the first part spells. -/
theorem placed_append (before : Text) (left right : List Word) :
    placed before (left ++ right) =
      placed before left ++ placed (before ++ left.flatMap spelling) right := by
  induction left generalizing before with
  | nil => simp [placed]
  | cons word others ih =>
      rw [List.cons_append, placed, ih, placed, List.flatMap_cons, ← List.append_assoc before]
      rfl

/-- A text in front of everything stands before every word. -/
theorem placed_behind (front before : Text) (words : List Word) :
    placed (front ++ before) words =
      (placed before words).map fun place => (front ++ place.1, place.2) := by
  induction words generalizing before with
  | nil => rfl
  | cons word others ih => rw [placed, List.append_assoc, ih, placed, List.map_cons]

theorem map_snd_placed (before : Text) (words : List Word) :
    (placed before words).map Prod.snd = words := by
  induction words generalizing before with
  | nil => rfl
  | cons word others ih => exact congrArg (word :: ·) (ih _)

theorem mem_of_mem_placed {before : Text} {words : List Word} {place : Text × Word}
    (member : place ∈ placed before words) : place.2 ∈ words := by
  rw [← map_snd_placed before words]
  exact List.mem_map_of_mem member

/-- Every word has a place. -/
theorem exists_placed_of_mem {words : List Word} {word : Word} (member : word ∈ words)
    (before : Text) : ∃ left, (left, word) ∈ placed before words := by
  rw [← map_snd_placed before words] at member
  obtain ⟨⟨left, same⟩, found, rfl⟩ := List.mem_map.mp member
  exact ⟨left, found⟩

/-- A word of a cut stands in the text that is cut, and is whole there. -/
theorem Cut.fits_of_mem_placed {text before : Text} {words : List Word} {place : Text × Word}
    (cut : Cut text words) (member : place ∈ placed before words) :
    ∃ following, before ++ text = place.1 ++ place.2.spelling ++ following ∧
      place.2.Fits following := by
  induction cut generalizing before with
  | nil => cases member
  | @cons word following others fits _ ih =>
      rcases List.mem_cons.mp member with rfl | later
      · exact ⟨following, (List.append_assoc ..).symm, fits⟩
      · obtain ⟨rest, whole, restFits⟩ := ih later
        exact ⟨rest, by rw [← whole, List.append_assoc], restFits⟩

/-- No word is placed before the text that the first one stands behind. -/
theorem before_prefix_of_mem_placed {before : Text} {words : List Word} {place : Text × Word}
    (member : place ∈ placed before words) : before <+: place.1 := by
  induction words generalizing before with
  | nil => cases member
  | cons word others ih =>
      rcases List.mem_cons.mp member with rfl | later
      · exact List.prefix_refl _
      · exact (List.prefix_append before word.spelling).trans (ih later)

/-- Of two placed words, the text before the later one holds the whole earlier one. -/
theorem pairwise_placed (before : Text) (words : List Word) :
    (placed before words).Pairwise
      fun earlier later => earlier.1 ++ earlier.2.spelling <+: later.1 := by
  induction words generalizing before with
  | nil => exact .nil
  | cons word others ih =>
      exact .cons (fun _ later => before_prefix_of_mem_placed later) (ih _)

end Word

namespace Event

/-- The events of words are those of the words in their places, and the end that they
reach. -/
theorem ofWords_eq_placed (start : Position) (before : Text) (words : List Word) :
    ofWords (start.after before) words =
      (Word.placed before words).filterMap (Word.placedEvent? start) ++
        [token (.endOfFile (start.after (before ++ words.flatMap Word.spelling)))] := by
  induction words generalizing before with
  | nil => simp [ofWords, Word.placed]
  | cons word others ih =>
      rw [ofWords, ← Position.after_append, ih, Word.placed, List.filterMap_cons,
        List.flatMap_cons, List.append_assoc before]
      cases found : word.event? (start.after before) with
      | none => simp only [Word.placedEvent?, found, Option.toList_none, List.nil_append]
      | some event =>
          simp only [Word.placedEvent?, found, Option.toList_some, List.cons_append,
            List.nil_append]

/-- The events before the end are those of the words in their places. -/
theorem dropLast_ofWords (position : Position) (words : List Word) :
    (ofWords position words).dropLast =
      (Word.placed [] words).filterMap (Word.placedEvent? position) := by
  have listed := ofWords_eq_placed position [] words
  rw [Position.after_nil] at listed
  rw [listed, List.dropLast_concat]

end Event

end LoxLexis
