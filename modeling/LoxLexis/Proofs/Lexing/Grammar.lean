import LoxLexis.Proofs.Reader.Tape
import LoxLexis.Proofs.Word.Cut
import LoxLexis.Text.Slice
import Mathlib.Data.List.Basic

/-!
# Lexing by the grammar

What a source holds can be read off its only cut: the symbols and the closed strings are
its tokens, the open string and the stray characters its faults, and blanks and comments
are nothing. Each takes the bytes of its word, and begins on the line of its first
character (`lex_eq_image_of_only_cut`).
-/

namespace LoxLexis

namespace Word

/-- The token that a word behind a text stands for, if it is a symbol or a closed string. -/
def placedToken? (place : Text × Word) : Option Token :=
  match place.2 with
  | symbol mark =>
      some
        { kind := .symbol mark
          lexeme := mark.spelling
          literal := none
          line := 1 + place.1.newlines
          span := placedSpan place }
  | string value =>
      some
        { kind := .string
          lexeme := '"' :: value ++ ['"']
          literal := some value
          line := 1 + place.1.newlines
          span := placedSpan place }
  | openString _ | comment _ | blank _ | stray _ => none

/-- The fault that a word behind a text stands for, if it is an open string or a stray
character. -/
def placedFault? (place : Text × Word) : Option Fault :=
  match place.2 with
  | openString value =>
      some
        { cause := .unterminated
          line := 1 + (place.1 ++ '"' :: value).newlines
          span := placedSpan place }
  | stray character =>
      some
        { cause := .unexpected character
          line := 1 + place.1.newlines
          span := placedSpan place }
  | symbol _ | string _ | comment _ | blank _ => none

/-- The event of a word in a source is the token or the fault that the word stands for. -/
theorem token?_placedEvent? (place : Text × Word) :
    (placedEvent? .origin place).bind Event.token? = placedToken? place := by
  obtain ⟨before, word⟩ := place
  cases word <;>
    simp [placedEvent?, event?, placedToken?, placedSpan, Event.token?, Position.spanOf, spelling,
      Position.origin]

/-- The fault of the event of a placed word is the fault of that word. -/
theorem fault?_placedEvent? (place : Text × Word) :
    (placedEvent? .origin place).bind Event.fault? = placedFault? place := by
  obtain ⟨before, word⟩ := place
  cases word <;>
    simp [placedEvent?, event?, placedFault?, placedSpan, Event.fault?, Position.spanOf, spelling,
      Position.origin, Nat.add_assoc]

/-- A word of a cut takes the part of the source that its span names. -/
theorem Cut.slice?_placedSpan {source : Text} {words : List Word} (cut : Cut source words)
    {place : Text × Word} (member : place ∈ placed [] words) :
    source.slice? (placedSpan place).start (placedSpan place).stop = some place.2.spelling := by
  obtain ⟨following, whole, -⟩ := cut.fits_of_mem_placed member
  rw [List.nil_append] at whole
  rw [whole]
  exact Text.slice?_append place.1 place.2.spelling following

end Word

/-- The tokens of a source are those of its words, and the end of the source. -/
theorem lex_tokens (source : Text) :
    (lex source).tokens =
      (Word.placed [] (Word.words source)).filterMap Word.placedToken? ++
        [⟨.endOfFile, [], none, 1 + source.newlines, ⟨source.byteLength, source.byteLength⟩⟩] := by
  have ending : Token.endOfFile (Position.origin.after source) =
      ⟨.endOfFile, [], none, 1 + source.newlines, ⟨source.byteLength, source.byteLength⟩⟩ := by
    simp [Token.endOfFile, Position.origin]
  have images : (Word.placed [] (Word.words source)).filterMap
      (fun place => (Word.placedEvent? .origin place).bind Event.token?) =
        (Word.placed [] (Word.words source)).filterMap Word.placedToken? := by
    apply List.filterMap_congr
    intro place _
    exact Word.token?_placedEvent? place
  rw [← Tape.allTokens_ofSource, Tape.allTokens, Tape.ofSource, Event.ofSource,
    Event.dropLast_ofWords, List.filterMap_filterMap, ending, images]

/-- The faults of a source are those of its words. -/
theorem lex_faults (source : Text) :
    (lex source).faults = (Word.placed [] (Word.words source)).filterMap Word.placedFault? := by
  rw [← Tape.allFaults_ofSource, Tape.allFaults, Tape.ofSource, Event.ofSource,
    Event.dropLast_ofWords, List.filterMap_filterMap]
  apply List.filterMap_congr
  intro place _
  exact Word.fault?_placedEvent? place

/-- The end of a source is its last token and no other. -/
theorem count_endOfFile_tokens (source : Text) :
    (lex source).tokens.countP (fun token => token.kind = .endOfFile) = 1 := by
  have before : ((Word.placed [] (Word.words source)).filterMap Word.placedToken?).countP
      (fun token => token.kind = .endOfFile) = 0 := by
    apply List.countP_eq_zero.mpr
    intro token member
    obtain ⟨⟨left, word⟩, -, read⟩ := List.mem_filterMap.mp member
    cases word <;> cases read <;> simp
  rw [lex_tokens, List.countP_append, before]
  rfl

/-- Collecting the faults of a source leaves them in order. -/
theorem lexInto_collecting (source : Text) :
    lexInto Receive.collecting source #[] = ((lex source).tokens, (lex source).faults.toArray) := by
  rw [lexInto_eq_foldl, Receive.foldl_collecting, Array.empty_append]

/-- **Lexing by the grammar.** Every source is cut into words that are whole where they
stand in exactly one way. Its tokens are those of the symbols and closed strings of that
cut and the end of the source, once and last; its faults are those of the open string and
the stray characters. Each word takes the bytes of the source that spell it. Reading the
source while collecting faults gives the same tokens and faults. -/
theorem lex_eq_image_of_only_cut (source : Text) :
    (∃! words, Word.Cut source words) ∧
      ∃ words, Word.Cut source words ∧
        (∀ word ∈ words, word.spelling ≠ []) ∧
        (∀ place ∈ Word.placed [] words,
          source.slice? (Word.placedSpan place).start (Word.placedSpan place).stop =
            some place.2.spelling) ∧
        (lex source).tokens =
          (Word.placed [] words).filterMap Word.placedToken? ++
            [⟨.endOfFile, [], none, 1 + source.newlines, ⟨source.byteLength, source.byteLength⟩⟩] ∧
        (lex source).tokens.countP (fun token => token.kind = .endOfFile) = 1 ∧
        (lex source).faults = (Word.placed [] words).filterMap Word.placedFault? ∧
        lexInto Receive.collecting source #[] =
          ((lex source).tokens, (lex source).faults.toArray) := by
  have cut := Word.cut_words source
  have only : ∀ others, Word.Cut source others → others = Word.words source := by
    intro others other
    exact Word.cut_iff.mp other
  have nonempty : ∀ word ∈ Word.words source, word.spelling ≠ [] := by
    intro word _
    exact word.spelling_ne_nil
  have bytes : ∀ place ∈ Word.placed [] (Word.words source),
      source.slice? (Word.placedSpan place).start (Word.placedSpan place).stop =
        some place.2.spelling := by
    intro place member
    exact cut.slice?_placedSpan member
  exact ⟨⟨Word.words source, cut, only⟩, Word.words source, cut, nonempty, bytes,
    lex_tokens source, count_endOfFile_tokens source, lex_faults source, lexInto_collecting source⟩

end LoxLexis
