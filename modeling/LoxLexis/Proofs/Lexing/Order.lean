import LoxLexis.Proofs.Tape
import LoxLexis.Proofs.Text.Line
import LoxLexis.Proofs.Word.Cut

/-!
# The order of events

The events of a source come in the order of the source: each takes bytes behind all bytes
of the events before it (`Event.pairwise_ofSource`).
-/

namespace LoxLexis

namespace Event

/-- The bytes that an event takes. -/
def span : Event → Span
  | token read => read.span
  | fault met => met.span

/-- The event of a word in a source takes the bytes of the word. -/
theorem span_of_placedEvent? {place : Text × Word} {event : Event}
    (happens : Word.placedEvent? .origin place = some event) :
    event.span = Word.placedSpan place := by
  obtain ⟨before, word⟩ := place
  cases word <;> cases happens <;>
    simp [span, Word.placedSpan, Position.spanOf, Position.origin, Word.spelling]

/-- The events of a source take its bytes in order. -/
theorem pairwise_ofSource (source : Text) :
    (ofSource source).Pairwise fun earlier later => earlier.span.stop ≤ later.span.start := by
  have listed := ofWords_eq_placed .origin [] (Word.words source)
  rw [Position.after_nil, List.nil_append, Word.flatMap_spelling_words] at listed
  rw [ofSource, listed, List.pairwise_append]
  refine ⟨?_, List.pairwise_singleton _ _, ?_⟩
  · apply (Word.pairwise_placed [] (Word.words source)).filterMap
    intro first second holds earlier happens later follows
    rw [span_of_placedEvent? happens, span_of_placedEvent? follows]
    exact Text.byteLength_le_of_prefix holds
  · intro earlier member ending last
    obtain ⟨place, placed, happens⟩ := List.mem_filterMap.mp member
    obtain ⟨following, whole, -⟩ := (Word.cut_words source).fits_of_mem_placed placed
    rw [List.nil_append] at whole
    rw [List.mem_singleton.mp last, span_of_placedEvent? happens]
    have reached := Text.byteLength_le_of_prefix (whole ▸ List.prefix_append _ following)
    simpa [span, Word.placedSpan, Token.endOfFile, Position.origin] using reached

end Event

end LoxLexis
