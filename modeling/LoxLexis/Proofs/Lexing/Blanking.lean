import LoxLexis.Proofs.Lexing.Joint
import LoxLexis.Proofs.Lexing.Line
import LoxLexis.Proofs.Text.Blanking
import Mathlib.Data.List.Pairwise

/-!
# Blanking out what is no token

The bytes of a source that no token takes may be blanked out, line breaks apart: what is
left is a text, it has the same tokens at the same places, and it has no faults
(`lex_blankOut`). Each symbol and closed string stays, and every other word is replaced by
as many blanks as it has bytes (`Word.blanked`).
-/

namespace LoxLexis

/-- Whether one of two spans ends before the other begins. -/
def Span.Apart (one other : Span) : Prop :=
  one.stop ≤ other.start ∨ other.stop ≤ one.start

/-- Spans that are apart share no byte. -/
theorem Span.Apart.not_contains {one other : Span} (apart : one.Apart other) {offset : Nat}
    (inside : one.contains offset = true) : ¬ other.contains offset = true := by
  simp only [contains, Bool.and_eq_true, decide_eq_true_eq] at inside ⊢
  rcases apart with before | behind <;> omega

namespace Word

variable {word : Word}

/-- What is left of a word when it is blanked out unless it is a symbol or a closed string. -/
def blanked (word : Word) : List Word :=
  if word.isToken then [word] else (Text.blanks word.spelling).map blank

theorem blanked_of_isToken (token : word.isToken = true) : word.blanked = [word] :=
  if_pos token

theorem blanked_of_not_isToken (silent : ¬ word.isToken = true) :
    word.blanked = (Text.blanks word.spelling).map blank :=
  if_neg silent

/-- What is left of a word is its spelling, or the blanks of its spelling. -/
theorem flatMap_spelling_blanked (word : Word) :
    word.blanked.flatMap spelling =
      if word.isToken then word.spelling else Text.blanks word.spelling := by
  by_cases token : word.isToken = true
  · rw [blanked_of_isToken token, if_pos token, List.flatMap_singleton]
  · rw [blanked_of_not_isToken token, if_neg token, flatMap_spelling_map_blank]

/-! ### The words that are left -/

/-- What stands at the front when words are blanked out stood there before, or is blank. -/
theorem head?_blanked {words : List Word} {character : Char}
    (heads : ((words.flatMap blanked).flatMap spelling).head? = some character)
    (visible : character ≠ ' ' ∧ character ≠ '\n') :
    (words.flatMap spelling).head? = some character := by
  cases words with
  | nil => cases heads
  | cons word others =>
      rw [List.flatMap_cons, List.flatMap_append, flatMap_spelling_blanked] at heads
      rw [List.flatMap_cons]
      split_ifs at heads with token
      · obtain ⟨first, rest, spelled⟩ := List.exists_cons_of_ne_nil word.spelling_ne_nil
        rw [spelled] at heads ⊢
        exact heads
      · obtain ⟨first, rest, spelled⟩ :=
          List.exists_cons_of_ne_nil (Text.blanks_ne_nil word.spelling_ne_nil)
        have isBlank := Text.mem_blanks (spelled ▸ List.mem_cons_self)
        rw [spelled] at heads
        rw [Option.some.inj heads] at isBlank
        exact absurd isBlank (not_or.mpr visible)

/-- Words stay whole when all but the symbols and closed strings among them are blanked out. -/
theorem WholeBefore.blanked {words : List Word} (whole : WholeBefore words []) :
    WholeBefore (words.flatMap Word.blanked) [] := by
  induction words with
  | nil => trivial
  | cons word others ih =>
      obtain ⟨fits, rest⟩ := whole
      rw [List.flatMap_cons]
      refine wholeBefore_append.mpr ⟨?_, ih rest⟩
      rw [List.append_nil] at fits ⊢
      by_cases token : word.isToken = true
      · rw [blanked_of_isToken token]
        refine ⟨fits.of_isToken token ?_ ?_, trivial⟩
        · intro equals
          exact head?_blanked equals (by decide)
        · intro slash
          exact head?_blanked slash (by decide)
      · rw [blanked_of_not_isToken token]
        apply wholeBefore_map_blank
        intro character member
        rcases Text.mem_blanks member with rfl | rfl <;> decide

/-- A word takes as many bytes and lines as what is left of it. -/
theorem after_blanked (position : Position) (word : Word) :
    position.after (word.blanked.flatMap spelling) = position.after word.spelling := by
  rw [flatMap_spelling_blanked]
  split_ifs
  · rfl
  · rw [Position.after, Text.byteLength_blanks, Text.newlines_blanks, Position.after]

/-- Blanking out words leads to the same place behind them. -/
theorem after_flatMap_blanked (position : Position) (words : List Word) :
    position.after ((words.flatMap blanked).flatMap spelling) =
      position.after (words.flatMap spelling) := by
  induction words generalizing position with
  | nil => rfl
  | cons word others ih =>
      rw [List.flatMap_cons, List.flatMap_append, Position.after_append, after_blanked, ih,
        List.flatMap_cons, Position.after_append]

/-- Blanking out words leaves their tokens at their places. -/
theorem tokens_flatMap_blanked (words : List Word) :
    tokens (words.flatMap blanked) = tokens words := by
  induction words with
  | nil => rfl
  | cons word others ih =>
      have alone : tokens word.blanked = tokens [word] := by
        by_cases token : word.isToken = true
        · rw [blanked_of_isToken token]
        · rw [blanked_of_not_isToken token, tokens_eq_nil (by simp [isToken]),
            tokens_eq_nil (by simpa using token)]
      have moved : Token.behind (word.blanked.flatMap spelling) = Token.behind word.spelling :=
        Token.behind_congr (after_blanked .origin word)
      rw [List.flatMap_cons, tokens_append, ih, alone, moved, ← tokens_cons]

/-- No fault is left when words are blanked out. -/
theorem faults_flatMap_blanked (words : List Word) : faults (words.flatMap blanked) = [] := by
  apply faults_eq_nil
  intro left member
  obtain ⟨word, -, member⟩ := List.mem_flatMap.mp member
  by_cases token : word.isToken = true
  · rw [blanked_of_isToken token, List.mem_singleton] at member
    subst member
    cases left with
    | symbol mark | string value => rfl
    | openString _ | comment _ | blank _ | stray _ => cases token
  · rw [blanked_of_not_isToken token] at member
    obtain ⟨character, -, rfl⟩ := List.mem_map.mp member
    rfl

/-! ### The bytes that are left -/

/-- Blanking out bytes, and keeping those of the symbols and closed strings, leaves the bytes
of the words that are left. -/
theorem encode_flatMap_blanked {isKept : Nat → Bool} {before : Text} {words : List Word}
    (agrees : ∀ place ∈ placed before words, ∀ offset,
      (placedSpan place).contains offset = true → isKept offset = place.2.isToken) :
    Text.encode ((words.flatMap blanked).flatMap spelling) =
      Bytes.blankOut (fun offset => isKept (before.byteLength + offset))
        (Text.encode (words.flatMap spelling)) := by
  induction words generalizing before with
  | nil => rfl
  | cons word others ih =>
      rw [placed, List.forall_mem_cons] at agrees
      obtain ⟨here, later⟩ := agrees
      have rest := ih later
      -- The span of a word holds the bytes of the word, so these are kept all together or not.
      have inside : ∀ offset < word.spelling.encode.length,
          isKept (before.byteLength + offset) = word.isToken := by
        intro offset bound
        rw [Text.length_encode] at bound
        apply here
        simp only [placedSpan, Span.contains, Text.byteLength_append, Bool.and_eq_true,
          decide_eq_true_eq]
        omega
      have first : Text.encode (word.blanked.flatMap spelling) =
          Bytes.blankOut (fun offset => isKept (before.byteLength + offset))
            word.spelling.encode := by
        rw [flatMap_spelling_blanked]
        split_ifs with token
        · rw [Bytes.blankOut_of_kept]
          intro offset bound
          rw [inside offset bound, token]
        · rw [Text.encode_blanks, Bytes.blankOut_of_not_kept]
          intro offset bound
          rw [inside offset bound, Bool.eq_false_iff.mpr token]
      rw [List.flatMap_cons, List.flatMap_append, Text.encode_append, first, rest,
        List.flatMap_cons, Text.encode_append, Bytes.blankOut_append]
      simp only [Text.byteLength_append, Text.length_encode, Nat.add_assoc]

/-- Different words of a text have no byte in common. -/
theorem apart_of_mem_placed {before : Text} {words : List Word} {one other : Text × Word}
    (placedOne : one ∈ placed before words) (placedOther : other ∈ placed before words)
    (different : one ≠ other) : (placedSpan one).Apart (placedSpan other) := by
  have symmetric : Std.Symm fun one other => (placedSpan one).Apart (placedSpan other) :=
    ⟨fun _ _ apart => apart.symm⟩
  have apart : (placed before words).Pairwise
      fun one other => (placedSpan one).Apart (placedSpan other) := by
    apply (pairwise_placed before words).imp
    intro earlier later holds
    exact .inl (Text.byteLength_le_of_prefix holds)
  exact apart.forall placedOne placedOther different

/-- A byte of a word lies in a token of the source exactly when the word is a symbol or a
closed string. -/
theorem any_contains_eq_isToken {source : Text} {place : Text × Word}
    (member : place ∈ placed [] (words source)) {offset : Nat}
    (inside : (placedSpan place).contains offset = true) :
    (lex source).tokens.any (fun token => token.span.contains offset) = place.2.isToken := by
  have ending : (Token.endOfFile (Position.origin.after source)).span.contains offset = false := by
    rw [Bool.eq_false_iff, Span.contains, ne_eq, Bool.and_eq_true, decide_eq_true_eq,
      decide_eq_true_eq]
    exact fun within => absurd within.2 (Nat.not_lt.mpr within.1)
  rw [lex_tokens_eq, List.any_append, List.any_cons, List.any_nil, ending, Bool.or_false,
    Bool.or_false, Bool.eq_iff_iff, List.any_eq_true]
  constructor
  · rintro ⟨token, listed, within⟩
    obtain ⟨other, placedOther, read⟩ := List.mem_filterMap.mp listed
    obtain ⟨-, span⟩ := line_of_placedToken? read
    rw [span] at within
    by_cases same : place = other
    · rw [same, ← isSome_placedToken?, read]
      rfl
    · exact absurd within ((apart_of_mem_placed member placedOther same).not_contains inside)
  · intro token
    rw [← isSome_placedToken?] at token
    obtain ⟨read, found⟩ := Option.isSome_iff_exists.mp token
    obtain ⟨-, span⟩ := line_of_placedToken? found
    exact ⟨read, List.mem_filterMap.mpr ⟨place, member, found⟩, span ▸ inside⟩

end Word

/-- **What is no token may be blanked out.** When every byte of a source that lies in none of
its tokens is replaced by a space, line breaks apart, the bytes are still those of a text
as long as the source. It has the tokens of the source, at the same places and with its end
where it was, and no faults. -/
theorem lex_blankOut (source : Text) :
    ∃ blanked : Text,
      Text.decode?
          (Bytes.blankOut
            (fun offset => (lex source).tokens.any fun token => token.span.contains offset)
            source.encode) = some blanked ∧
        blanked.byteLength = source.byteLength ∧
        lex blanked = ⟨(lex source).tokens, []⟩ := by
  let left := (Word.words source).flatMap Word.blanked
  let blanked : Text := left.flatMap Word.spelling
  have words : Word.words blanked = left := (Word.wholeBefore_words source).blanked.words_eq
  have agrees : ∀ place ∈ Word.placed [] (Word.words source), ∀ offset,
      (Word.placedSpan place).contains offset = true →
        (lex source).tokens.any (fun token => token.span.contains offset) =
          place.2.isToken := by
    intro place member offset inside
    exact Word.any_contains_eq_isToken member inside
  have bytes := Word.encode_flatMap_blanked agrees
  have ending := Word.after_flatMap_blanked .origin (Word.words source)
  rw [Word.flatMap_spelling_words] at bytes ending
  simp only [Text.byteLength_nil, Nat.zero_add] at bytes
  have long : blanked.byteLength = source.byteLength := by
    simpa [Position.origin] using congrArg Position.offset ending
  have tokens : (lex blanked).tokens = (lex source).tokens := by
    rw [lex_tokens_eq, words, Word.tokens_flatMap_blanked, ending, lex_tokens_eq]
  have faults : (lex blanked).faults = [] := by
    rw [lex_faults_eq, words, Word.faults_flatMap_blanked]
  refine ⟨blanked, (Text.decode?_eq_some_iff _ _).mpr bytes, long, ?_⟩
  rw [← tokens, ← faults]

end LoxLexis
