import LoxLexis.Proofs.Lexing.Joint

/-!
# Sources without faults

A source is faultless when it can be read character by character to its end: each character
outside strings and comments may stand there, and no string is left open. A reader needs only
to remember in which `Context` the next character stands; it sees no words. The sources that
it reads to the end are those that are cut into complete words alone
(`Word.Cut.accepts_iff`), and so they are those without faults
(`lex_faults_eq_nil_iff_accepts`).
-/

namespace LoxLexis

/-- Where the next character of a source stands. -/
inductive Context
  /-- Outside strings and comments. -/
  | outside
  /-- Outside, right behind a slash. -/
  | slash
  /-- In a comment. -/
  | comment
  /-- In a string. -/
  | string
  deriving DecidableEq, Repr

namespace Context

/-- The characters that punctuation and operators are written with, slashes apart. -/
def punctuation : Text :=
  ['(', ')', '\x7b', '\x7d', ',', '.', '-', '+', ';', '*', '!', '=', '<', '>']

/-- The characters that may stand outside strings and comments, beside quotes and slashes. -/
def plain : Text := [' ', '\r', '\t', '\n'] ++ punctuation

/-- The context behind a character that stands outside, if it may stand there. -/
def opened? (character : Char) : Option Context :=
  if character = '"' then some string
  else if character = '/' then some slash
  else if character ∈ plain then some outside
  else none

/-- The context behind a character, if the character may stand in the context before it. -/
def next? (context : Context) (character : Char) : Option Context :=
  match context with
  | outside => opened? character
  | slash => if character = '/' then some comment else opened? character
  | comment => some (if character = '\n' then outside else comment)
  | string => some (if character = '"' then outside else string)

/-- Whether a text can be read to its end from a context, with no string open there. -/
def accepts : Context → Text → Bool
  | context, [] => context ≠ string
  | context, character :: rest =>
      match context.next? character with
      | some following => accepts following rest
      | none => false

variable {context : Context} {content following : Text}

/-- A text whose characters all leave the context as it is decides nothing. -/
theorem accepts_append_of_stays
    (stays : ∀ character ∈ content, context.next? character = some context) (following : Text) :
    context.accepts (content ++ following) = context.accepts following := by
  induction content with
  | nil => rfl
  | cons first rest ih =>
      rw [List.forall_mem_cons] at stays
      simp only [List.cons_append, accepts, stays.1, ih stays.2]

/-- A plain character that stands outside leaves the next one outside. -/
theorem next?_of_plain {character : Char} (member : character ∈ plain) :
    outside.next? character = some outside := by
  have notQuote : character ≠ '"' := ne_of_mem_of_not_mem member (by simp [plain, punctuation])
  have notSlash : character ≠ '/' := ne_of_mem_of_not_mem member (by simp [plain, punctuation])
  simp only [next?, opened?, if_neg notQuote, if_neg notSlash, if_pos member]

/-- Plain characters decide nothing. -/
theorem accepts_append_of_plain (plainOnly : ∀ character ∈ content, character ∈ plain)
    (following : Text) :
    outside.accepts (content ++ following) = outside.accepts following :=
  accepts_append_of_stays (fun character member => next?_of_plain (plainOnly character member)) _

/-- In a comment, a text without newlines decides nothing. -/
theorem accepts_comment_append (oneLine : '\n' ∉ content) (following : Text) :
    comment.accepts (content ++ following) = comment.accepts following := by
  apply accepts_append_of_stays
  intro character member
  exact congrArg some (if_neg (ne_of_mem_of_not_mem member oneLine))

/-- In a string, a text without quotes decides nothing. -/
theorem accepts_string_append (noQuote : '"' ∉ content) (following : Text) :
    string.accepts (content ++ following) = string.accepts following := by
  apply accepts_append_of_stays
  intro character member
  exact congrArg some (if_neg (ne_of_mem_of_not_mem member noQuote))

/-- Before anything but a second slash, a slash may be forgotten. -/
theorem accepts_slash (single : following.head? ≠ some '/') :
    slash.accepts following = outside.accepts following := by
  cases following with
  | nil => rfl
  | cons character rest =>
      have notSlash : character ≠ '/' := fun same => single (congrArg some same)
      simp only [accepts, next?, if_neg notSlash]

/-- Where a comment ends, it may be forgotten. -/
theorem accepts_comment (ends : following = [] ∨ following.head? = some '\n') :
    comment.accepts following = outside.accepts following := by
  rcases ends with rfl | newline
  · rfl
  · obtain ⟨rest, rfl⟩ := List.head?_eq_some_iff.mp newline
    have newlineIsPlain : '\n' ∈ plain := by simp [plain]
    simp only [accepts, next?_of_plain newlineIsPlain]
    rfl

end Context

namespace Word

variable {following : Text}

/-- A symbol that is whole decides nothing. -/
theorem accepts_symbol {mark : Symbol} (fits : (symbol mark).Fits following) :
    Context.outside.accepts (mark.spelling ++ following) =
      Context.outside.accepts following := by
  by_cases slash : mark = .slash
  · subst slash
    exact Context.accepts_slash ((fits_symbol_iff.mp fits).2 rfl)
  · apply Context.accepts_append_of_plain
    cases mark <;> first
      | exact absurd rfl slash
      | simp [Symbol.spelling, Context.plain, Context.punctuation]

/-- A character that starts no word is not plain. -/
theorem IsStray.not_plain {character : Char} (stray : IsStray character) :
    character ∉ Context.plain := by
  obtain ⟨-, -, unknown⟩ := isStray_iff.mp stray
  have begins : ∀ mark ∈ Context.punctuation, Symbol.ofChar? mark ≠ none := by
    simp [Context.punctuation, Symbol.ofChar?]
  rw [Context.plain, List.mem_append, not_or]
  exact ⟨stray.1, fun member => begins character member unknown⟩

/-- What stands behind a word decides whether a source can be read to its end, unless the word
itself is a fault. -/
theorem Fits.accepts {word : Word} (fits : word.Fits following) :
    Context.outside.accepts (word.spelling ++ following) =
      (!word.isFault && Context.outside.accepts following) := by
  cases word with
  | symbol mark => exact accepts_symbol fits
  | string value =>
      have inside := Context.accepts_string_append fits ('"' :: following)
      simpa [spelling, Context.accepts, Context.next?, Context.opened?, isFault] using inside
  | openString value =>
      obtain ⟨noQuote, rfl⟩ := fits
      have inside := Context.accepts_string_append noQuote []
      simpa [spelling, Context.accepts, Context.next?, Context.opened?, isFault] using inside
  | comment content =>
      obtain ⟨oneLine, ends⟩ := fits
      have inside := Context.accepts_comment_append oneLine following
      rw [Context.accepts_comment ends] at inside
      exact inside
  | blank character =>
      exact Context.accepts_append_of_plain
        (List.forall_mem_singleton.mpr (List.mem_append_left _ fits)) following
  | stray character =>
      have notQuote : character ≠ '"' := fits.2.1
      have notSlash : character ≠ '/' := IsStray.ne_slash fits
      simp [spelling, Context.accepts, Context.next?, Context.opened?, notQuote, notSlash,
        fits.not_plain, isFault]

/-- The texts that can be read to their end are those with complete words alone. -/
theorem Cut.accepts_iff {text : Text} {words : List Word} (cut : Cut text words) :
    Context.outside.accepts text = true ↔ ∀ word ∈ words, word.isFault = false := by
  induction cut with
  | nil => simp [Context.accepts]
  | cons fits _ ih =>
      rw [fits.accepts, Bool.and_eq_true, Bool.not_eq_true', ih, List.forall_mem_cons]

end Word

/-- A source has no faults exactly when its words are complete. -/
theorem lex_faults_eq_nil_iff_words (source : Text) :
    (lex source).faults = [] ↔ ∀ word ∈ Word.words source, word.isFault = false := by
  constructor
  · intro faultless word member
    obtain ⟨before, placed⟩ := Word.exists_placed_of_mem member []
    rw [lex_faults, List.filterMap_eq_nil_iff] at faultless
    rw [← Word.isSome_placedFault? (before, word), faultless _ placed]
    rfl
  · intro complete
    rw [lex_faults_eq, Word.faults_eq_nil complete]

/-- A source has no faults exactly when it is cut into complete words alone. -/
theorem lex_faults_eq_nil_iff_cut (source : Text) :
    (lex source).faults = [] ↔
      ∃ words, Word.Cut source words ∧ ∀ word ∈ words, word.isFault = false := by
  rw [lex_faults_eq_nil_iff_words]
  constructor
  · intro complete
    exact ⟨_, Word.cut_words source, complete⟩
  · rintro ⟨words, cut, complete⟩
    rwa [← cut.eq_words]

/-- A source has no faults exactly when it can be read to its end. -/
theorem lex_faults_eq_nil_iff_accepts (source : Text) :
    (lex source).faults = [] ↔ Context.outside.accepts source = true := by
  rw [lex_faults_eq_nil_iff_words, (Word.cut_words source).accepts_iff]

end LoxLexis
