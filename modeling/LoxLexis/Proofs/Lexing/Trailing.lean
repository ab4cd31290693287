import LoxLexis.Proofs.Lexing.Stability

/-!
# Breaks behind a source

Carriage returns and newlines behind a source make its last word longer when that is a
comment or an open string, and are blanks otherwise
(`Word.SettledSplit.exists_words_append_breaks`). They change no token
(`Word.tokens_append_breaks`), and no fault but an open string, which takes them in
(`exists_faults_append_breaks`). So a line may be read without the break at its end
(`lex_append_breaks`).
-/

namespace LoxLexis

namespace Fault

/-- The fault when it takes in a text that follows it. -/
def extend (fault : Fault) (text : Text) : Fault :=
  { fault with
    line := fault.line + text.newlines
    span := ⟨fault.span.start, fault.span.stop + text.byteLength⟩ }

/-- A fault may take a text in before or after it is moved behind another one. -/
theorem extend_behind (front text : Text) (fault : Fault) :
    (fault.extend text).behind front = (fault.behind front).extend text := by
  simp only [extend, behind, shift, Span.shift, Nat.add_right_comm]

/-- A stray character is no open string. -/
theorem ne_unterminated_of_isUnexpected {fault : Fault} (unexpected : fault.isUnexpected = true) :
    fault.cause ≠ .unterminated := by
  intro isOpen
  rw [isUnexpected, isOpen] at unexpected
  cases unexpected

end Fault

namespace Word

/-- Words that become longer when breaks are put behind them. -/
inductive Lengthened (breaks : Text) : List Word → List Word → Prop
  | nothing : Lengthened breaks [] []
  | symbol (mark : Symbol) : Lengthened breaks [symbol mark] [symbol mark]
  | comment (content onLine : Text) :
      Lengthened breaks [comment content] [comment (content ++ onLine)]
  | openString (value : Text) :
      Lengthened breaks [openString value] [openString (value ++ breaks)]

variable {source breaks : Text}

/-- Breaks are blanks, one word each. -/
theorem words_map_blank (only : ∀ character ∈ breaks, character ∈ ['\r', '\n']) :
    words breaks = breaks.map blank := by
  have whole : WholeBefore (breaks.map blank) [] := by
    apply wholeBefore_map_blank
    intro character member
    have isBreak := only character member
    simp only [List.mem_cons, List.not_mem_nil, or_false] at isBreak ⊢
    tauto
  have found := whole.words_eq
  rwa [flatMap_spelling_map_blank] at found

/-- A word that is whole before breaks is cut off before them. -/
theorem Fits.words_append_breaks {word : Word} (fits : word.Fits breaks)
    (only : ∀ character ∈ breaks, character ∈ ['\r', '\n']) :
    words (word.spelling ++ breaks) = [word] ++ breaks.map blank := by
  have whole : WholeBefore [word] breaks := ⟨fits, trivial⟩
  rw [← words_map_blank only, ← whole.words_append, List.flatMap_singleton]

/-- A comment takes in the breaks behind it up to the first newline. -/
theorem words_comment_append (content : Text)
    (only : ∀ character ∈ breaks, character ∈ ['\r', '\n']) (oneLine : '\n' ∉ content) :
    words ((comment content).spelling ++ breaks) =
      [comment (content ++ breaks.takeWhile isInComment)] ++
        (breaks.dropWhile isInComment).map blank := by
  have parts := List.takeWhile_append_dropWhile (p := isInComment) (l := breaks)
  have fits : (comment (content ++ breaks.takeWhile isInComment)).Fits
      (breaks.dropWhile isInComment) := by
    -- The comment that the breaks would go on with if they stood behind two slashes.
    obtain ⟨rest, ends⟩ := ofSlash_fits ('/' :: breaks)
    refine ⟨fun newline => ?_, ends⟩
    rcases List.mem_append.mp newline with inside | behind
    · exact oneLine inside
    · exact rest behind
  have later : ∀ character ∈ breaks.dropWhile isInComment, character ∈ ['\r', '\n'] := by
    intro character member
    exact only character ((List.dropWhile_sublist _).subset member)
  rw [← fits.words_append_breaks later]
  simp [spelling, parts]

/-- An open string takes in all breaks behind it. -/
theorem words_openString_append {value : Text} (noQuote : '"' ∉ value)
    (only : ∀ character ∈ breaks, character ∈ ['\r', '\n']) :
    words ((openString value).spelling ++ breaks) = [openString (value ++ breaks)] := by
  have whole : WholeBefore [openString (value ++ breaks)] [] := by
    refine ⟨⟨?_, rfl⟩, trivial⟩
    intro member
    rcases List.mem_append.mp member with inside | behind
    · exact noQuote inside
    · simpa using only _ behind
  rw [← whole.words_eq, List.flatMap_singleton]
  rfl

/-- **What breaks do to words.** Behind a source breaks are blanks, apart from those that its
last word takes in. -/
theorem SettledSplit.exists_words_append_breaks {kept tail : List Word}
    (split : SettledSplit source kept tail)
    (only : ∀ character ∈ breaks, character ∈ ['\r', '\n']) :
    ∃ longer later, words (source ++ breaks) = kept ++ (longer ++ List.map blank later) ∧
      Lengthened breaks tail longer := by
  have joined : words (source ++ breaks) = kept ++ words (tail.flatMap spelling ++ breaks) := by
    have found := (split.whole breaks).words_append
    rwa [← List.append_assoc, split.flatMap_spelling] at found
  have wholeTail : WholeBefore tail [] := by
    have whole := wholeBefore_words source
    rw [split.words_eq, wholeBefore_append] at whole
    exact whole.2
  -- Only the unsettled word can take breaks in: it stands right before them.
  rcases split.unsettled with rfl | ⟨word, rfl, isOpen⟩
  · refine ⟨[], breaks, ?_, .nothing⟩
    rw [joined, List.flatMap_nil, List.nil_append, words_map_blank only, List.nil_append]
  · rw [joined, List.flatMap_singleton]
    have fits : word.Fits [] := wholeTail.1
    cases word with
    | symbol mark =>
        have nextIsBreak {next : Char} (heads : breaks.head? = some next) : next ∈ ['\r', '\n'] :=
          only next (List.mem_of_mem_head? heads)
        have before : (symbol mark).Fits breaks := by
          refine fits.of_isToken rfl (fun equals => ?_) (fun slash => ?_)
          · simpa using nextIsBreak equals
          · simpa using nextIsBreak slash
        exact ⟨_, _, congrArg (kept ++ ·) (before.words_append_breaks only), .symbol mark⟩
    | comment content =>
        exact ⟨_, _, congrArg (kept ++ ·) (words_comment_append content only fits.1),
          .comment content _⟩
    | openString value =>
        refine ⟨_, [], congrArg (kept ++ ·) ?_, .openString value⟩
        rw [words_openString_append fits.1 only]
        rfl
    | string value | blank character | stray character => cases isOpen

/-! ### What the words hold -/

variable {tail longer : List Word}

/-- Words that become longer have the same tokens, since neither comments nor open strings have
any. -/
theorem Lengthened.tokens_eq (lengthened : Lengthened breaks tail longer) :
    tokens longer = tokens tail := by
  cases lengthened <;> rfl

/-- Of the words that become longer only an open string is a fault, and it stays one. -/
theorem Lengthened.faults_eq (lengthened : Lengthened breaks tail longer) :
    faults tail = [] ∧ faults longer = [] ∨
      ∃ unclosed : Fault, unclosed.cause = .unterminated ∧ faults tail = [unclosed] ∧
        faults longer = [unclosed.extend breaks] := by
  cases lengthened with
  | nothing | symbol mark | comment content => exact .inl ⟨rfl, rfl⟩
  | openString value =>
      have newlines := Text.newlines_append ('"' :: value) breaks
      rw [List.cons_append] at newlines
      refine .inr ⟨_, rfl, rfl, ?_⟩
      simp [faults, placed, placedFault?, placedSpan, spelling, Fault.extend, newlines,
        Nat.add_assoc]

theorem tokens_map_blank (text : Text) : tokens (text.map blank) = [] := by
  apply tokens_eq_nil
  simp [isToken]

theorem faults_map_blank (text : Text) : faults (text.map blank) = [] := by
  apply faults_eq_nil
  simp [isFault]

/-- Breaks behind a source change none of its tokens. -/
theorem tokens_append_breaks (source : Text)
    (only : ∀ character ∈ breaks, character ∈ ['\r', '\n']) :
    tokens (words (source ++ breaks)) = tokens (words source) := by
  obtain ⟨kept, tail, split⟩ := exists_settledSplit source
  obtain ⟨longer, later, found, lengthened⟩ := split.exists_words_append_breaks only
  simp only [found, split.words_eq, tokens_append, tokens_map_blank, lengthened.tokens_eq,
    List.map_nil, List.append_nil]

end Word

variable {source breaks : Text}

/-- Breaks behind a source change none of its faults but an open string, which takes them in. -/
theorem exists_faults_append_breaks (source : Text)
    (only : ∀ character ∈ breaks, character ∈ ['\r', '\n']) :
    ∃ strays : List Fault, (∀ fault ∈ strays, fault.cause ≠ .unterminated) ∧
      ((lex source).faults = strays ∧ (lex (source ++ breaks)).faults = strays ∨
        ∃ unclosed : Fault, unclosed.cause = .unterminated ∧
          (lex source).faults = strays ++ [unclosed] ∧
          (lex (source ++ breaks)).faults = strays ++ [unclosed.extend breaks]) := by
  obtain ⟨kept, tail, split⟩ := Word.exists_settledSplit source
  obtain ⟨longer, later, found, lengthened⟩ := split.exists_words_append_breaks only
  refine ⟨Word.faults kept, fun fault member => Fault.ne_unterminated_of_isUnexpected
    (Word.isUnexpected_of_mem_faults (fun word => split.ne_openString) member), ?_⟩
  simp only [lex_faults_eq, found, split.words_eq, Word.faults_append, Word.faults_map_blank,
    List.map_nil, List.append_nil]
  rcases lengthened.faults_eq with ⟨before, after⟩ | ⟨unclosed, isOpen, before, after⟩
  · rw [before, after, List.map_nil, List.append_nil]
    exact .inl ⟨rfl, rfl⟩
  · rw [before, after]
    exact .inr ⟨unclosed.behind (kept.flatMap Word.spelling), isOpen, rfl,
      congrArg (_ ++ [·]) (Fault.extend_behind _ _ _)⟩

/-- Breaks behind a source without an open string change none of its faults. -/
theorem lex_faults_append_breaks (only : ∀ character ∈ breaks, character ∈ ['\r', '\n'])
    (closed : ∀ fault ∈ (lex source).faults, fault.cause ≠ .unterminated) :
    (lex (source ++ breaks)).faults = (lex source).faults := by
  obtain ⟨strays, -, ⟨before, after⟩ | ⟨unclosed, isOpen, before, -⟩⟩ :=
    exists_faults_append_breaks source only
  · rw [before, after]
  · exact absurd isOpen (closed unclosed (by simp [before]))

/-- A source has an open string if it has one without the breaks behind it. -/
theorem closed_of_closed_append_breaks (only : ∀ character ∈ breaks, character ∈ ['\r', '\n'])
    (closed : ∀ fault ∈ (lex (source ++ breaks)).faults, fault.cause ≠ .unterminated) :
    ∀ fault ∈ (lex source).faults, fault.cause ≠ .unterminated := by
  obtain ⟨strays, -, ⟨before, after⟩ | ⟨unclosed, isOpen, -, after⟩⟩ :=
    exists_faults_append_breaks source only
  · rwa [before, ← after]
  · exact absurd isOpen (closed (unclosed.extend breaks) (by simp [after]))

/-- A line on which no string is open is whole before whatever follows its newline. -/
theorem Word.wholeBefore_line {body : Text}
    (closed : ∀ fault ∈ (lex (body ++ ['\n'])).faults, fault.cause ≠ .unterminated)
    (following : Text) : WholeBefore (words (body ++ ['\n'])) following := by
  have closedBody := closed_of_closed_append_breaks (by simp) closed
  have cut := (wholeBefore_newline closedBody []).words_eq
  rw [flatMap_spelling_newline] at cut
  rw [cut]
  exact wholeBefore_newline closedBody following

/-- **Breaks behind a source.** Carriage returns and newlines behind a source move its end by
their bytes and lines, and its tokens are the same otherwise, and are listed the same. So are its
faults, unless the source ends in an open string: this is the last fault with and without the
breaks, starts at the same byte, and takes the breaks in. -/
theorem lex_append_breaks (source : Text)
    (only : ∀ character ∈ breaks, character ∈ ['\r', '\n']) :
    ∃ (tokens : List Token) (ending : Token) (strays : List Fault),
      (lex source).tokens = tokens ++ [ending] ∧ ending.kind = .endOfFile ∧
      (lex (source ++ breaks)).tokens =
        tokens ++ [ending.shift breaks.length breaks.newlines] ∧
      Token.listing (lex (source ++ breaks)).tokens = Token.listing (lex source).tokens ∧
      (∀ fault ∈ strays, fault.cause ≠ .unterminated) ∧
      ((lex source).faults = strays ∧ (lex (source ++ breaks)).faults = strays ∨
        ∃ unclosed : Fault, unclosed.cause = .unterminated ∧
          (lex source).faults = strays ++ [unclosed] ∧
          (lex (source ++ breaks)).faults =
            strays ++ [⟨.unterminated, unclosed.line + breaks.newlines,
              ⟨unclosed.span.start, unclosed.span.stop + breaks.length⟩⟩]) ∧
      ((∃ fault ∈ (lex source).faults, fault.cause = .unterminated) ↔
        ∃ fault ∈ (lex (source ++ breaks)).faults, fault.cause = .unterminated) := by
  have bytes : breaks.byteLength = breaks.length := by
    apply Text.byteLength_eq_length
    intro character member
    have isBreak := only character member
    simp only [List.mem_cons, List.not_mem_nil, or_false] at isBreak
    rcases isBreak with rfl | rfl <;> rfl
  have ending : Token.endOfFile (Position.origin.after (source ++ breaks)) =
      (Token.endOfFile (Position.origin.after source)).shift breaks.length breaks.newlines := by
    rw [Position.after_append, ← bytes]
    rfl
  have tokens : (lex (source ++ breaks)).tokens = Word.tokens (Word.words source) ++
      [(Token.endOfFile (Position.origin.after source)).shift breaks.length breaks.newlines] := by
    rw [lex_tokens_eq, Word.tokens_append_breaks source only, ending]
  have listed : Token.listing (lex (source ++ breaks)).tokens =
      Token.listing (lex source).tokens := by
    rw [tokens, lex_tokens_eq, Token.listing_append, Token.listing_append]
    rfl
  obtain ⟨strays, unexpected, faults⟩ := exists_faults_append_breaks source only
  refine ⟨_, _, strays, lex_tokens_eq source, rfl, tokens, listed, unexpected, ?_, ?_⟩
  · rcases faults with same | ⟨unclosed, isOpen, before, after⟩
    · exact .inl same
    · rw [Fault.extend, bytes, isOpen] at after
      exact .inr ⟨unclosed, isOpen, before, after⟩
  · rcases faults with ⟨before, after⟩ | ⟨unclosed, isOpen, before, after⟩
    · rw [before, after]
    · exact iff_of_true ⟨unclosed, by simp [before], isOpen⟩
        ⟨unclosed.extend breaks, by simp [after], isOpen⟩

/-- Behind a stray character, a string that is open takes in a whole line break. -/
theorem lex_append_breaks_open :
    let source : Text := "@ \"a".toList
    (lex (source ++ "\r\n".toList)).faults =
      [⟨.unexpected '@', 1, ⟨0, 1⟩⟩, ⟨.unterminated, 2, ⟨2, 6⟩⟩] := by
  intro source
  have faults : (lex source).faults =
      [⟨.unexpected '@', 1, ⟨0, 1⟩⟩] ++ [⟨.unterminated, 1, ⟨2, 4⟩⟩] := by decide +kernel
  obtain ⟨-, -, strays, -, -, -, -, unexpected, same | ⟨unclosed, -, before, after⟩, -⟩ :=
    @lex_append_breaks "\r\n".toList source (by simp)
  · exact absurd rfl (unexpected ⟨.unterminated, 1, ⟨2, 4⟩⟩ (by simp [← same.1, faults]))
  · obtain ⟨rfl, last⟩ := List.append_inj' (faults.symm.trans before) rfl
    obtain rfl := List.singleton_inj.mp last
    exact after

end LoxLexis
