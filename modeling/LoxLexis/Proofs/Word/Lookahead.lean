import LoxLexis.Proofs.Word.Cut

/-!
# One character of lookahead

Whether a word is whole where it stands depends on the first character behind it alone
(`Word.Fits.congr_head`), and of that character only on whether it is an equals sign, a
slash or a newline. Words that stand one after the other are therefore whole before every
text that the last of them is whole before (`Word.WholeBefore.change`), and a text that
follows them is cut as if nothing stood before it (`Word.WholeBefore.words_append`).
-/

namespace LoxLexis

namespace Word

variable {word : Word} {before after : List Word} {following other : Text}

/-! ### What a word sees -/

/-- Whether a symbol is whole depends on the next character alone. -/
theorem fits_symbol_iff {mark : Symbol} :
    (symbol mark).Fits following ↔
      (mark.withEqual? ≠ none → following.head? ≠ some '=') ∧
        (mark = .slash → following.head? ≠ some '/') :=
  symbolFits_iff mark following

/-- A word that is whole before a text is whole before every text with the same first
character. -/
theorem Fits.congr_head (fits : word.Fits following) (same : other.head? = following.head?) :
    word.Fits other := by
  cases word with
  | symbol mark =>
      apply fits_symbol_iff.mpr
      rw [same]
      exact fits_symbol_iff.mp fits
  | openString value =>
      obtain ⟨noQuote, nothing⟩ := fits
      rw [nothing] at same
      exact ⟨noQuote, List.head?_eq_none_iff.mp same⟩
  | comment content =>
      obtain ⟨oneLine, ends⟩ := fits
      refine ⟨oneLine, ?_⟩
      rw [same]
      rcases ends with nothing | newline
      · rw [nothing] at same
        exact .inl (List.head?_eq_none_iff.mp same)
      · exact .inr newline
  | string value | blank character | stray character => exact fits

/-- Whether a word is read as a token. -/
def isToken : Word → Bool
  | symbol _ | string _ => true
  | openString _ | comment _ | blank _ | stray _ => false

/-- A symbol or a closed string stays whole as long as no equals sign and no slash comes to
stand right behind it. -/
theorem Fits.of_isToken (fits : word.Fits following) (token : word.isToken = true)
    (equals : other.head? = some '=' → following.head? = some '=')
    (slash : other.head? = some '/' → following.head? = some '/') : word.Fits other := by
  cases word with
  | symbol mark =>
      obtain ⟨ungrown, single⟩ := fits_symbol_iff.mp fits
      exact fits_symbol_iff.mpr
        ⟨fun grows found => ungrown grows (equals found), fun isSlash found =>
          single isSlash (slash found)⟩
  | string value => exact fits
  | openString _ | comment _ | blank _ | stray _ => cases token

/-- A newline ends every word but a string that is still open. -/
theorem Fits.before_newline (fits : word.Fits following)
    (closed : ∀ value, word ≠ openString value) (rest : Text) : word.Fits ('\n' :: rest) := by
  cases word with
  | symbol mark => exact fits.of_isToken rfl (by simp) (by simp)
  | openString value => exact absurd rfl (closed value)
  | comment content => exact ⟨fits.1, .inr rfl⟩
  | string value | blank character | stray character => exact fits

/-! ### Words before a text -/

/-- Words that stand one after the other are whole, with a text behind the last of them. -/
def WholeBefore : List Word → Text → Prop
  | [], _ => True
  | word :: others, following =>
      word.Fits (others.flatMap spelling ++ following) ∧ WholeBefore others following

/-- Words are whole when the first of them are before the others, and the others are. -/
theorem wholeBefore_append :
    WholeBefore (before ++ after) following ↔
      WholeBefore before (after.flatMap spelling ++ following) ∧ WholeBefore after following := by
  induction before with
  | nil => simp [WholeBefore]
  | cons word others ih =>
      simp only [List.cons_append, WholeBefore, ih, List.flatMap_append, List.append_assoc,
        and_assoc]

/-- Words that are whole before a text are cut off before it. -/
theorem WholeBefore.cut (whole : WholeBefore before following) (cut : Cut following after) :
    Cut (before.flatMap spelling ++ following) (before ++ after) := by
  induction before with
  | nil => exact cut
  | cons word others ih =>
      obtain ⟨fits, rest⟩ := whole
      rw [List.flatMap_cons, List.append_assoc]
      exact .cons fits (ih rest)

/-- The words of a text behind whole words are the words of that text alone. -/
theorem WholeBefore.words_append (whole : WholeBefore before following) :
    words (before.flatMap spelling ++ following) = before ++ words following :=
  ((whole.cut (cut_words following)).eq_words).symm

/-- Words that are whole up to the end of the text are the words of their spellings. -/
theorem WholeBefore.words_eq (whole : WholeBefore before []) :
    words (before.flatMap spelling) = before := by
  have found := whole.words_append
  rwa [words, List.append_nil, List.append_nil] at found

/-- The words that a text is cut into are whole. -/
theorem Cut.wholeBefore {text : Text} (cut : Cut text before) : WholeBefore before [] := by
  induction cut with
  | nil => trivial
  | cons fits cut ih =>
      refine ⟨?_, ih⟩
      rw [List.append_nil, cut.flatMap_spelling]
      exact fits

/-- The words of a text are whole. -/
theorem wholeBefore_words (text : Text) : WholeBefore (words text) [] :=
  (cut_words text).wholeBefore

theorem flatMap_spelling_map_blank (text : Text) : (text.map blank).flatMap spelling = text := by
  induction text with
  | nil => rfl
  | cons first rest ih => exact congrArg (first :: ·) ih

/-- Blank characters are whole words before any text. -/
theorem wholeBefore_map_blank {text : Text}
    (blanks : ∀ character ∈ text, character ∈ [' ', '\r', '\t', '\n']) (following : Text) :
    WholeBefore (text.map blank) following := by
  induction text with
  | nil => trivial
  | cons first rest ih =>
      rw [List.forall_mem_cons] at blanks
      exact ⟨blanks.1, ih blanks.2⟩

/-- Only at the end of everything can a string be open. -/
theorem WholeBefore.ne_openString (whole : WholeBefore before following) (more : following ≠ [])
    (member : word ∈ before) (value : Text) : word ≠ openString value := by
  induction before with
  | nil => cases member
  | cons head others ih =>
      obtain ⟨fits, rest⟩ := whole
      rcases List.mem_cons.mp member with rfl | later
      · rintro rfl
        exact List.append_ne_nil_of_right_ne_nil _ more fits.2
      · exact ih rest later

/-- What stands behind whole words may be changed as long as the last word stays whole. -/
theorem WholeBefore.change (whole : WholeBefore before following)
    (last : ∀ word ∈ before.getLast?, word.Fits following → word.Fits other) :
    WholeBefore before other := by
  induction before with
  | nil => trivial
  | cons word others ih =>
      obtain ⟨fits, rest⟩ := whole
      cases others with
      | nil => exact ⟨last word rfl fits, trivial⟩
      | cons next others =>
          -- The words in between are not empty, so they hide what stands behind them.
          obtain ⟨character, hidden, spelled⟩ := List.exists_cons_of_ne_nil
            (List.append_ne_nil_of_left_ne_nil next.spelling_ne_nil (others.flatMap spelling))
          have sameHead : ((next :: others).flatMap spelling ++ other).head? =
              ((next :: others).flatMap spelling ++ following).head? := by
            rw [List.flatMap_cons, spelled]
            rfl
          exact ⟨fits.congr_head sameHead, ih rest last⟩

end Word

end LoxLexis
