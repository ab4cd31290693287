import LoxLexis.Proofs.Word.Symbol
import Mathlib.Data.List.TakeWhile

/-!
# The only cut of a text

The first word of a text is whole where it stands (`Word.first_fits`), and no other word
is whole there (`Word.first_of_fits`). Hence every text is cut in exactly one way, which
is the one that taking words from its front finds (`Word.cut_iff`). To know the words of
a text it is enough to cut it.
-/

namespace LoxLexis

namespace Word

/-! ### The first word fits -/

/-- The string behind a quote is whole, closed or open. -/
theorem ofQuote_fits (rest : Text) : (ofQuote rest).1.Fits (ofQuote rest).2 := by
  have noQuote : '"' ∉ rest.takeWhile isInString := by
    intro member
    simpa [isInString] using List.mem_takeWhile_imp member
  have whole := List.takeWhile_append_dropWhile (p := isInString) (l := rest)
  unfold ofQuote
  split
  · next ended =>
      rw [ended, List.append_nil] at whole
      rw [whole] at noQuote
      exact ⟨noQuote, rfl⟩
  · exact noQuote

/-- The slash or the comment behind a slash is whole. -/
theorem ofSlash_fits (rest : Text) : (ofSlash rest).1.Fits (ofSlash rest).2 := by
  unfold ofSlash
  split
  · next content =>
      have oneLine : '\n' ∉ content.takeWhile isInComment := by
        intro member
        simpa [isInComment] using List.mem_takeWhile_imp member
      have stops := List.head?_dropWhile_not isInComment content
      refine ⟨oneLine, ?_⟩
      cases remaining : content.dropWhile isInComment with
      | nil => exact .inl rfl
      | cons next following =>
          rw [remaining] at stops
          simp only [List.head?_cons, isInComment, decide_not, Bool.not_eq_eq_eq_not,
            Bool.not_false, decide_eq_true_eq] at stops
          exact .inr (by rw [stops]; rfl)
  · next single =>
      apply (symbolFits_iff .slash rest).mpr
      constructor
      · intro grows
        exact absurd rfl grows
      · intro _ slash
        obtain ⟨content, rfl⟩ := List.head?_eq_some_iff.mp slash
        exact single content rfl

/-- A symbol that takes an equals sign with it when it can is whole. -/
theorem ofSymbol_fits {mark : Symbol} (notSlash : mark ≠ .slash) (text : Text) :
    (ofSymbol mark text).1.Fits (ofSymbol mark text).2 := by
  unfold ofSymbol
  split
  · next long following grown =>
      obtain ⟨grownOut, longNotSlash⟩ := Symbol.withEqual?_of_grown grown
      apply (symbolFits_iff long following).mpr
      constructor
      · intro grows
        exact absurd grownOut grows
      · intro slash
        exact absurd slash longNotSlash
  · next text _ _ ungrown =>
      apply (symbolFits_iff mark text).mpr
      constructor
      · intro grows equals
        obtain ⟨long, grown⟩ := Option.ne_none_iff_exists'.mp grows
        obtain ⟨following, rfl⟩ := List.head?_eq_some_iff.mp equals
        exact ungrown long following grown rfl
      · intro slash
        exact absurd slash notSlash

/-- The blank characters are the space, the carriage return, the tabulator and the newline. -/
theorem isBlank_iff (character : Char) :
    isBlank character = true ↔ character ∈ [' ', '\r', '\t', '\n'] := by
  simp [isBlank, or_assoc]

section Starting

variable {character : Char} {mark : Symbol}

/-- A character starts no word exactly when nothing that it is tried as takes it. -/
theorem isStray_iff :
    IsStray character ↔ ¬ isBlank character = true ∧ character ≠ '"' ∧
      Symbol.ofChar? character = none := by
  rw [IsStray, isBlank_iff, Symbol.ofChar?_eq_none_iff]

theorem IsStray.ne_slash (stray : IsStray character) : character ≠ '/' := by
  rintro rfl
  exact stray.2.2 .slash rfl

/-- The slash is the only character that is the symbol of that name. -/
theorem ne_slash_of_ofChar? (found : Symbol.ofChar? character = some mark)
    (other : character ≠ '/') : mark ≠ .slash := by
  rintro rfl
  exact other (List.singleton_inj.mp (Symbol.spelling_of_ofChar? found)).symm

/-- A character that is a symbol other than the slash is tried as nothing else before. -/
theorem apart_of_ofChar? (found : Symbol.ofChar? character = some mark) (notSlash : mark ≠ .slash) :
    character ≠ '"' ∧ character ≠ '/' ∧ ¬ isBlank character = true := by
  refine ⟨?_, ?_, fun blank => ?_⟩
  · rintro rfl
    cases found
  · rintro rfl
    exact notSlash (Option.some.inj found).symm
  · have member := (isBlank_iff character).mp blank
    simp only [List.mem_cons, List.not_mem_nil, or_false] at member
    rcases member with rfl | rfl | rfl | rfl <;> cases found

end Starting

/-- The first word of a text is whole before the text that it leaves. -/
theorem first_fits (character : Char) (rest : Text) :
    (first character rest).1.Fits (first character rest).2 := by
  unfold first
  split
  · exact ofQuote_fits rest
  · next notQuote =>
      split
      · exact ofSlash_fits rest
      · next notSlash =>
          split
          · next blank => exact (isBlank_iff character).mp blank
          · next notBlank =>
              split
              · next mark found => exact ofSymbol_fits (ne_slash_of_ofChar? found notSlash) rest
              · next unknown => exact isStray_iff.mpr ⟨notBlank, notQuote, unknown⟩

/-! ### No other word fits -/

theorem all_isInString {value : Text} (noQuote : '"' ∉ value) :
    ∀ character ∈ value, isInString character = true := by
  intro character member
  simpa [isInString] using ne_of_mem_of_not_mem member noQuote

/-- A string reaches to the first quote behind the one that opens it. -/
theorem ofQuote_closed {value : Text} (noQuote : '"' ∉ value) (following : Text) :
    ofQuote (value ++ '"' :: following) = (string value, following) := by
  have inside := all_isInString noQuote
  rw [ofQuote, List.dropWhile_append_of_pos inside, List.takeWhile_append_of_pos inside]
  simp [isInString]

/-- Without another quote, a string reaches to the end of the text. -/
theorem ofQuote_open {value : Text} (noQuote : '"' ∉ value) :
    ofQuote value = (openString value, []) := by
  have dropped : value.dropWhile isInString = [] :=
    List.dropWhile_eq_nil_iff.mpr (all_isInString noQuote)
  rw [ofQuote, dropped]

/-- A comment reaches to the end of its line. -/
theorem ofSlash_comment {content following : Text} (oneLine : '\n' ∉ content)
    (ends : following = [] ∨ following.head? = some '\n') :
    ofSlash ('/' :: content ++ following) = (comment content, following) := by
  have inside : ∀ character ∈ content, isInComment character = true := by
    intro character member
    simpa [isInComment] using ne_of_mem_of_not_mem member oneLine
  simp only [ofSlash, List.cons_append]
  rw [List.takeWhile_append_of_pos inside, List.dropWhile_append_of_pos inside]
  rcases ends with rfl | newline
  · simp
  · obtain ⟨rest, rfl⟩ := List.head?_eq_some_iff.mp newline
    simp [isInComment]

/-- A slash that no slash follows is a symbol. -/
theorem ofSlash_single {following : Text} (single : following.head? ≠ some '/') :
    ofSlash following = (symbol .slash, following) := by
  unfold ofSlash
  split
  · exact absurd rfl single
  · rfl

/-- A symbol without an equals sign to take is read alone. -/
theorem ofSymbol_ungrown {mark : Symbol} {following : Text}
    (ungrown : mark.withEqual? ≠ none → following.head? ≠ some '=') :
    ofSymbol mark following = (symbol mark, following) := by
  unfold ofSymbol
  split
  · next long rest grown =>
      exact absurd rfl (ungrown (by rw [grown]; exact Option.some_ne_none _))
  · rfl

/-- A symbol takes the equals sign that makes it longer. -/
theorem ofSymbol_grown {short long : Symbol} (grown : short.withEqual? = some long)
    (following : Text) : ofSymbol short ('=' :: following) = (symbol long, following) := by
  simp only [ofSymbol, grown]

/-- A character that is a symbol other than the slash begins that symbol or a longer one. -/
theorem first_of_ofChar? {character : Char} {mark : Symbol}
    (found : Symbol.ofChar? character = some mark) (notSlash : mark ≠ .slash) (rest : Text) :
    first character rest = ofSymbol mark rest := by
  obtain ⟨notQuote, noSlash, notBlank⟩ := apart_of_ofChar? found notSlash
  rw [first, if_neg notQuote, if_neg noSlash, if_neg notBlank, found]

/-- A symbol that is whole at the front of a text is the first word of the text. -/
theorem first_of_symbolFits {mark : Symbol} {following : Text} (fits : SymbolFits mark following)
    {character : Char} {rest : Text} (spelled : mark.spelling ++ following = character :: rest) :
    first character rest = (symbol mark, following) := by
  obtain ⟨ungrown, single⟩ := (symbolFits_iff mark following).mp fits
  obtain ⟨own, spelling, found⟩ | ⟨own, short, spelling, found, grown⟩ := mark.single_or_grown
  · rw [spelling] at spelled
    obtain ⟨rfl, rfl⟩ := List.cons.inj spelled
    -- A slash is tried before the other symbols, as it may open a comment.
    by_cases slash : mark = .slash
    · subst slash
      obtain rfl : '/' = own := by simpa [Symbol.spelling] using spelling
      exact ofSlash_single (single rfl)
    · rw [first_of_ofChar? found slash]
      exact ofSymbol_ungrown ungrown
  · rw [spelling] at spelled
    obtain ⟨rfl, rfl⟩ := List.cons.inj spelled
    have notSlash : short ≠ .slash := by rintro rfl; cases grown
    rw [first_of_ofChar? found notSlash]
    exact ofSymbol_grown grown following

/-- A word that is whole at the front of a text is the first word of the text. -/
theorem first_of_fits {word : Word} {following : Text} (fits : word.Fits following)
    {character : Char} {rest : Text} (spelled : word.spelling ++ following = character :: rest) :
    first character rest = (word, following) := by
  cases word with
  | symbol mark => exact first_of_symbolFits fits spelled
  | string value =>
      simp only [spelling, List.cons_append, List.append_assoc, List.nil_append] at spelled
      obtain ⟨rfl, rfl⟩ := List.cons.inj spelled
      exact ofQuote_closed fits following
  | openString value =>
      obtain ⟨noQuote, rfl⟩ := fits
      rw [spelling, List.append_nil] at spelled
      obtain ⟨rfl, rfl⟩ := List.cons.inj spelled
      exact ofQuote_open noQuote
  | comment content =>
      obtain ⟨oneLine, ends⟩ := fits
      obtain ⟨rfl, rfl⟩ := List.cons.inj spelled
      exact ofSlash_comment oneLine ends
  | blank own =>
      obtain ⟨rfl, rfl⟩ := List.cons.inj spelled
      have notQuote : own ≠ '"' := by rintro rfl; simp [Fits] at fits
      have notSlash : own ≠ '/' := by rintro rfl; simp [Fits] at fits
      rw [first, if_neg notQuote, if_neg notSlash, if_pos ((isBlank_iff own).mpr fits)]
      rfl
  | stray own =>
      obtain ⟨notBlank, notQuote, unknown⟩ := isStray_iff.mp fits
      obtain ⟨rfl, rfl⟩ := List.cons.inj spelled
      rw [first, if_neg notQuote, if_neg (IsStray.ne_slash fits), if_neg notBlank, unknown]
      rfl

/-! ### Cutting a whole text -/

/-- Taking words from the front of a text cuts it. -/
theorem cut_words (text : Text) : Cut text (words text) := by
  fun_induction words text with
  | case1 => exact .nil
  | case2 character rest found ih =>
      have cut := Cut.cons (first_fits character rest) ih
      rwa [first_spelling] at cut

/-- However a text is cut, its words are those taken from its front. -/
theorem Cut.eq_words {text : Text} {others : List Word} (cut : Cut text others) :
    others = words text := by
  induction cut with
  | nil => rw [words]
  | @cons word following others fits _ ih =>
      obtain ⟨character, rest, spelled⟩ := List.exists_cons_of_ne_nil
        (List.append_ne_nil_of_left_ne_nil word.spelling_ne_nil following)
      rw [spelled, words, first_of_fits fits spelled, ih]

/-- A text is cut in exactly one way. -/
theorem cut_iff {text : Text} {others : List Word} : Cut text others ↔ others = words text :=
  ⟨Cut.eq_words, fun same => same ▸ cut_words text⟩

end Word

end LoxLexis
