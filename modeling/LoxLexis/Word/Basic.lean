import LoxLexis.Token.Symbol

/-!
# Words

A source text is cut into words: symbols, strings, comments, blanks and stray
characters. A word knows how it is spelled, and `Word.first` takes the word at the
front of a text, always the longest one that starts there. Nothing is lost in the
cutting (`Word.flatMap_spelling_words`): the spellings of the words, one after the
other, are the text again.
-/

namespace LoxLexis

/-- A part of a source text that is read as one. -/
inductive Word
  /-- A punctuation mark or an operator. -/
  | symbol (symbol : Symbol)
  /-- A string with both of its quotes. -/
  | string (value : Text)
  /-- A string that the text ends in. -/
  | openString (value : Text)
  /-- A comment, from its two slashes to the end of its line. -/
  | comment (content : Text)
  /-- A single blank character or line break. -/
  | blank (character : Char)
  /-- A character that starts no other word. -/
  | stray (character : Char)
  deriving DecidableEq, Repr

namespace Word

/-- The part of the text that a word was read from. -/
def spelling : Word → Text
  | symbol mark => mark.spelling
  | string value => '"' :: value ++ ['"']
  | openString value => '"' :: value
  | comment content => '/' :: '/' :: content
  | blank character => [character]
  | stray character => [character]

/-- A word is never empty. -/
theorem spelling_ne_nil (word : Word) : word.spelling ≠ [] := by
  cases word with
  | symbol mark => cases mark <;> simp [spelling, Symbol.spelling]
  | _ => simp [spelling]

/-- Whether a character only separates words. -/
def isBlank (character : Char) : Bool :=
  character = ' ' || character = '\r' || character = '\t' || character = '\n'

/-- Whether a character lies inside the string that a quote has opened. -/
def isInString (character : Char) : Bool :=
  character ≠ '"'

/-- Whether a character lies inside the comment that two slashes have opened. -/
def isInComment (character : Char) : Bool :=
  character ≠ '\n'

/-- The word that an opening quote starts, given the text after the quote, and what
follows that word. -/
def ofQuote (rest : Text) : Word × Text :=
  match rest.dropWhile isInString with
  | [] => (openString rest, [])
  | _ :: following => (string (rest.takeWhile isInString), following)

/-- The word that a slash starts, given the text after the slash, and what follows
that word. -/
def ofSlash (rest : Text) : Word × Text :=
  match rest with
  | '/' :: content => (comment (content.takeWhile isInComment), content.dropWhile isInComment)
  | _ => (symbol .slash, rest)

/-- The word that a symbol starts, given the text after the symbol, and what follows
that word. -/
def ofSymbol (mark : Symbol) (rest : Text) : Word × Text :=
  match mark.withEqual?, rest with
  | some long, '=' :: following => (symbol long, following)
  | _, _ => (symbol mark, rest)

/-- The word at the front of a text, given its first character and the others, and what
follows that word. -/
def first (character : Char) (rest : Text) : Word × Text :=
  if character = '"' then ofQuote rest
  else if character = '/' then ofSlash rest
  else if isBlank character then (blank character, rest)
  else
    match Symbol.ofChar? character with
    | some mark => ofSymbol mark rest
    | none => (stray character, rest)

theorem ofQuote_spelling (rest : Text) :
    (ofQuote rest).1.spelling ++ (ofQuote rest).2 = '"' :: rest := by
  have whole := List.takeWhile_append_dropWhile (p := isInString) (l := rest)
  unfold ofQuote
  split
  · simp [spelling]
  · next closing following found =>
      have isQuote := List.head?_dropWhile_not isInString rest
      simp only [found, List.head?_cons, isInString, decide_not, Bool.not_eq_eq_eq_not,
        Bool.not_false, decide_eq_true_eq] at isQuote
      rw [found, isQuote] at whole
      simpa [spelling] using whole

theorem ofSlash_spelling (rest : Text) :
    (ofSlash rest).1.spelling ++ (ofSlash rest).2 = '/' :: rest := by
  unfold ofSlash
  split
  · simp [spelling, List.takeWhile_append_dropWhile]
  · simp [spelling, Symbol.spelling]

theorem ofSymbol_spelling (mark : Symbol) (rest : Text) :
    (ofSymbol mark rest).1.spelling ++ (ofSymbol mark rest).2 = mark.spelling ++ rest := by
  unfold ofSymbol
  split
  · next long following grown =>
      simp [spelling, Symbol.spelling_of_withEqual? grown]
  · simp [spelling]

/-- Taking the first word of a text loses nothing. -/
theorem first_spelling (character : Char) (rest : Text) :
    (first character rest).1.spelling ++ (first character rest).2 = character :: rest := by
  unfold first
  split
  · next isQuote => rw [isQuote, ofQuote_spelling]
  · split
    · next isSlash => rw [isSlash, ofSlash_spelling]
    · split
      · rfl
      · split
        · next mark found => rw [ofSymbol_spelling, Symbol.spelling_of_ofChar? found]; rfl
        · rfl

/-- Taking the first word of a text leaves a shorter text. -/
theorem first_length_lt (character : Char) (rest : Text) :
    (first character rest).2.length < (character :: rest).length := by
  have whole := congrArg List.length (first_spelling character rest)
  have taken := List.length_pos_iff.mpr (first character rest).1.spelling_ne_nil
  rw [List.length_append] at whole
  omega

/-- The words of a text, in order. -/
def words : Text → List Word
  | [] => []
  | character :: rest =>
      let found := first character rest
      found.1 :: words found.2
termination_by text => text.length
decreasing_by exact first_length_lt character rest

/-- The words of a text make up the text. -/
theorem flatMap_spelling_words (text : Text) : (words text).flatMap spelling = text := by
  fun_induction words text with
  | case1 => rfl
  | case2 character rest found ih =>
      rw [List.flatMap_cons, ih]
      exact first_spelling character rest

end Word

end LoxLexis
