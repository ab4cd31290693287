import LoxLexis.Proofs.Lexing.Grammar
import LoxLexis.Proofs.Text.Line

/-!
# The lines of tokens and faults

A token, and a stray character, is reported on the line on which it begins: one more than
the newlines before its first byte. An open string is reported on the last line of its
source, where the end of the source is too. So no newline is missed or counted twice, and
the lines never decrease along the tokens or along the faults (`lex_lines`).
-/

namespace LoxLexis

namespace Word

variable {source : Text} {words : List Word} {place : Text × Word}

/-- The newlines before the place of a word are those of the text before it. -/
theorem Cut.newlinesBefore_placedSpan (cut : Cut source words) (member : place ∈ placed [] words) :
    source.newlinesBefore (placedSpan place).start = place.1.newlines := by
  obtain ⟨following, whole, -⟩ := cut.fits_of_mem_placed member
  rw [List.nil_append, List.append_assoc] at whole
  rw [whole]
  exact Text.newlinesBefore_append place.1 _

/-- An open string reaches the end of its source. -/
theorem Cut.eq_of_openString (cut : Cut source words) {before value : Text}
    (member : (before, openString value) ∈ placed [] words) : source = before ++ '"' :: value := by
  obtain ⟨following, whole, -, nothing⟩ := cut.fits_of_mem_placed member
  rw [List.nil_append, nothing, List.append_nil] at whole
  exact whole

/-- The token of a word is on the line that the word starts on, and takes the bytes of the word. -/
theorem line_of_placedToken? {token : Token} (read : placedToken? place = some token) :
    token.line = 1 + place.1.newlines ∧ token.span = placedSpan place := by
  obtain ⟨before, word⟩ := place
  cases word <;> cases read <;> exact ⟨rfl, rfl⟩

/-- A fault is reported between the line on which its word begins and the line on which
the word ends. -/
theorem line_of_placedFault? {fault : Fault} (met : placedFault? place = some fault) :
    1 + place.1.newlines ≤ fault.line ∧
      fault.line ≤ 1 + (place.1 ++ place.2.spelling).newlines := by
  obtain ⟨before, word⟩ := place
  cases word <;> cases met <;> simp [spelling]

end Word

/-- The line of a token is one more than the newlines before its first byte. -/
theorem line_of_mem_tokens {source : Text} {token : Token} (member : token ∈ (lex source).tokens) :
    token.line = 1 + source.newlinesBefore token.span.start := by
  rw [lex_tokens, List.mem_append] at member
  rcases member with inside | last
  · obtain ⟨place, placed, read⟩ := List.mem_filterMap.mp inside
    obtain ⟨line, span⟩ := Word.line_of_placedToken? read
    rw [line, span, (Word.cut_words source).newlinesBefore_placedSpan placed]
  · rw [List.mem_singleton.mp last]
    have whole := Text.newlinesBefore_append source []
    rw [List.append_nil] at whole
    exact congrArg (1 + ·) whole.symm

/-- The line of a stray character is one more than the newlines before it. -/
theorem line_of_unexpected {source : Text} {fault : Fault} (member : fault ∈ (lex source).faults)
    {character : Char} (cause : fault.cause = .unexpected character) :
    fault.line = 1 + source.newlinesBefore fault.span.start := by
  rw [lex_faults] at member
  obtain ⟨⟨before, word⟩, placed, met⟩ := List.mem_filterMap.mp member
  have newlines := (Word.cut_words source).newlinesBefore_placedSpan placed
  cases word <;> cases met
  case openString => cases cause
  case stray => exact congrArg (1 + ·) newlines.symm

/-- The line of an open string is the last line of the source. -/
theorem line_of_unterminated {source : Text} {fault : Fault} (member : fault ∈ (lex source).faults)
    (cause : fault.cause = .unterminated) : fault.line = 1 + source.newlines := by
  rw [lex_faults] at member
  obtain ⟨⟨before, word⟩, placed, met⟩ := List.mem_filterMap.mp member
  cases word <;> cases met
  case openString value => rw [(Word.cut_words source).eq_of_openString placed]
  case stray => cases cause

/-- A fault is reported on a line of its source. -/
theorem line_bounds_of_mem_faults {source : Text} {fault : Fault}
    (member : fault ∈ (lex source).faults) :
    1 ≤ fault.line ∧ fault.line ≤ 1 + source.newlines := by
  rw [lex_faults] at member
  obtain ⟨place, placed, met⟩ := List.mem_filterMap.mp member
  obtain ⟨following, whole, -⟩ := (Word.cut_words source).fits_of_mem_placed placed
  obtain ⟨lower, upper⟩ := Word.line_of_placedFault? met
  rw [List.nil_append] at whole
  have newlines := Text.newlines_le_of_prefix (whole ▸ List.prefix_append _ following)
  omega

/-- All faults of a source on one line are on line one. -/
theorem line_eq_one_of_mem_faults {source : Text} (oneLine : '\n' ∉ source) {fault : Fault}
    (member : fault ∈ (lex source).faults) : fault.line = 1 := by
  obtain ⟨lower, upper⟩ := line_bounds_of_mem_faults member
  have newlines : source.newlines = 0 := List.count_eq_zero.mpr oneLine
  omega

/-- The lines of the tokens of a source do not decrease. -/
theorem pairwise_token_lines (source : Text) :
    (lex source).tokens.Pairwise fun earlier later => earlier.line ≤ later.line := by
  rw [lex_tokens, List.pairwise_append]
  refine ⟨?_, List.pairwise_singleton _ _, ?_⟩
  · apply (Word.pairwise_placed [] (Word.words source)).filterMap
    intro first second holds earlier read later follows
    obtain ⟨earlierLine, -⟩ := Word.line_of_placedToken? read
    obtain ⟨laterLine, -⟩ := Word.line_of_placedToken? follows
    have newlines := Text.newlines_le_of_prefix ((List.prefix_append _ _).trans holds)
    omega
  · intro earlier member ending last
    obtain ⟨place, placed, read⟩ := List.mem_filterMap.mp member
    obtain ⟨following, whole, -⟩ := (Word.cut_words source).fits_of_mem_placed placed
    obtain ⟨line, -⟩ := Word.line_of_placedToken? read
    rw [List.nil_append, List.append_assoc] at whole
    have newlines := Text.newlines_le_of_prefix (whole ▸ List.prefix_append place.1 _)
    rw [List.mem_singleton.mp last]
    simp only
    omega

/-- The lines of the faults of a source do not decrease. -/
theorem pairwise_fault_lines (source : Text) :
    (lex source).faults.Pairwise fun earlier later => earlier.line ≤ later.line := by
  rw [lex_faults]
  apply (Word.pairwise_placed [] (Word.words source)).filterMap
  intro first second holds earlier met later follows
  obtain ⟨-, upper⟩ := Word.line_of_placedFault? met
  obtain ⟨lower, -⟩ := Word.line_of_placedFault? follows
  have newlines := Text.newlines_le_of_prefix holds
  omega

/-- **Lines agree with the text.** Every token, and every stray character, is on the line
of its first byte; an open string is on the line of the end of the source, which is one
more than all its newlines. Lines never decrease along the tokens or along the faults. -/
theorem lex_lines (source : Text) :
    (∀ token ∈ (lex source).tokens,
      token.line = 1 + source.newlinesBefore token.span.start) ∧
    (∀ fault ∈ (lex source).faults, ∀ character, fault.cause = .unexpected character →
      fault.line = 1 + source.newlinesBefore fault.span.start) ∧
    (∀ fault ∈ (lex source).faults, fault.cause = .unterminated →
      fault.line = 1 + source.newlines) ∧
    (∃ before ending, (lex source).tokens = before ++ [ending] ∧ ending.kind = .endOfFile ∧
      ending.line = 1 + source.newlines) ∧
    ((lex source).tokens.Pairwise fun earlier later => earlier.line ≤ later.line) ∧
    ((lex source).faults.Pairwise fun earlier later => earlier.line ≤ later.line) := by
  refine ⟨fun token => line_of_mem_tokens, fun fault member character => line_of_unexpected member,
    fun fault => line_of_unterminated, ?_, pairwise_token_lines source,
    pairwise_fault_lines source⟩
  exact ⟨_, _, lex_tokens source, rfl, rfl⟩

/-- A string over two lines, a stray character, and a string left open at the last newline. -/
theorem lex_lines_mixed :
    let source : Text := "\"a\nb\"\n@ \"c\n".toList
    let string : Token := ⟨.string, "\"a\nb\"".toList, some "a\nb".toList, 1, ⟨0, 5⟩⟩
    let stray : Fault := ⟨.unexpected '@', 3, ⟨6, 7⟩⟩
    let unclosed : Fault := ⟨.unterminated, 4, ⟨8, 11⟩⟩
    (string ∈ (lex source).tokens ∧ string.line = 1 + source.newlinesBefore 0) ∧
      (stray ∈ (lex source).faults ∧ stray.line = 1 + source.newlinesBefore 6) ∧
      (unclosed ∈ (lex source).faults ∧ unclosed.line = 1 + source.newlines) := by
  intro source string stray unclosed
  obtain ⟨ofToken, ofStray, ofUnclosed, -⟩ := lex_lines source
  have isToken : string ∈ (lex source).tokens := by decide +kernel
  have isFault : stray ∈ (lex source).faults := by decide +kernel
  have isLast : unclosed ∈ (lex source).faults := by decide +kernel
  exact ⟨⟨isToken, ofToken string isToken⟩, ⟨isFault, ofStray stray isFault '@' rfl⟩,
    isLast, ofUnclosed unclosed isLast rfl⟩

end LoxLexis
