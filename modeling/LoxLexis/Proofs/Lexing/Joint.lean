import LoxLexis.Proofs.Lexing.Grammar
import LoxLexis.Proofs.Word.Lookahead

/-!
# Lexing texts that are joined

Words hold tokens and faults (`Word.tokens`, `Word.faults`), and behind a text the same
words hold the same tokens and faults, moved by what the text is long
(`Word.tokens_append`). So whatever stands behind words that are whole there can be lexed
alone and moved into place (`Word.WholeBefore.lex_tokens`). A newline ends every word but
an open string, and therefore lexing can be done line by line (`lex_append_newline`).
-/

namespace LoxLexis

namespace Token

/-- The token when a text stands in front of its source. -/
def behind (front : Text) (token : Token) : Token :=
  token.shift front.byteLength front.newlines

/-- Texts that lead from the start of a source to the same place move tokens alike. -/
theorem behind_congr {front other : Text}
    (same : Position.origin.after front = Position.origin.after other) :
    behind front = behind other := by
  have bytes := congrArg Position.offset same
  have lines := congrArg Position.line same
  rw [Position.after_offset, Position.after_offset] at bytes
  rw [Position.after_line, Position.after_line] at lines
  funext token
  rw [behind, Nat.add_left_cancel bytes, Nat.add_left_cancel lines, behind]

end Token

namespace Fault

/-- The fault when a text stands in front of its source. -/
def behind (front : Text) (fault : Fault) : Fault :=
  fault.shift front.byteLength front.newlines

end Fault

namespace Word

/-! ### What words hold -/

/-- The tokens of words at the start of a source. -/
def tokens (words : List Word) : List Token :=
  (placed [] words).filterMap placedToken?

/-- The faults of words at the start of a source. -/
def faults (words : List Word) : List Fault :=
  (placed [] words).filterMap placedFault?

/-- Whether a word is met as a fault. -/
def isFault : Word → Bool
  | openString _ | stray _ => true
  | symbol _ | string _ | comment _ | blank _ => false

/-- A word is read as a token wherever it stands, or nowhere. -/
theorem isSome_placedToken? (place : Text × Word) :
    (placedToken? place).isSome = place.2.isToken := by
  obtain ⟨before, word⟩ := place
  cases word <;> rfl

theorem isSome_placedFault? (place : Text × Word) :
    (placedFault? place).isSome = place.2.isFault := by
  obtain ⟨before, word⟩ := place
  cases word <;> rfl

/-- Words that hold nothing each hold nothing together. -/
theorem filterMap_placed_eq_nil {Held : Type} {held? : Text × Word → Option Held}
    {holds : Word → Bool} (sound : ∀ place, (held? place).isSome = holds place.2)
    {words : List Word} (nothing : ∀ word ∈ words, holds word = false) :
    (placed [] words).filterMap held? = [] := by
  apply List.filterMap_eq_nil_iff.mpr
  intro place member
  rw [← Option.not_isSome_iff_eq_none, sound, nothing place.2 (mem_of_mem_placed member)]
  exact Bool.false_ne_true

theorem tokens_eq_nil {words : List Word} (silent : ∀ word ∈ words, word.isToken = false) :
    tokens words = [] :=
  filterMap_placed_eq_nil isSome_placedToken? silent

theorem faults_eq_nil {words : List Word} (faultless : ∀ word ∈ words, word.isFault = false) :
    faults words = [] :=
  filterMap_placed_eq_nil isSome_placedFault? faultless

/-- What the token of a word says. -/
def content? : Word → Option (Kind × Text × Option Text)
  | symbol mark => some (.symbol mark, mark.spelling, none)
  | string value => some (.string, '"' :: value ++ ['"'], some value)
  | openString _ | comment _ | blank _ | stray _ => none

/-- What a token says does not depend on where its word stands. -/
theorem map_content_placedToken? (place : Text × Word) :
    (placedToken? place).map Token.content = place.2.content? := by
  obtain ⟨before, word⟩ := place
  cases word <;> rfl

/-- What tokens say does not depend on where their words stand. -/
theorem map_content_tokens (words : List Word) :
    (tokens words).map Token.content = words.filterMap content? := by
  conv_rhs => rw [← map_snd_placed [] words, List.filterMap_map]
  rw [tokens, List.map_filterMap]
  exact List.filterMap_congr fun place _ => map_content_placedToken? place

/-- The token of a word moves with the text before the word. -/
theorem placedToken?_behind (front : Text) (place : Text × Word) :
    placedToken? (front ++ place.1, place.2) = (placedToken? place).map (Token.behind front) := by
  obtain ⟨before, word⟩ := place
  cases word <;>
    simp [placedToken?, placedSpan, Token.behind, Token.shift, Span.shift] <;> omega

/-- The fault of a word moves with the text before the word. -/
theorem placedFault?_behind (front : Text) (place : Text × Word) :
    placedFault? (front ++ place.1, place.2) = (placedFault? place).map (Fault.behind front) := by
  obtain ⟨before, word⟩ := place
  cases word <;>
    simp [placedFault?, placedSpan, Fault.behind, Fault.shift, Span.shift] <;> omega

/-- What words hold, one by one, is what the first words hold and what the others hold,
moved behind the first. -/
theorem filterMap_placed_append {Held : Type} {held? : Text × Word → Option Held}
    {move : Text → Held → Held}
    (moves : ∀ front place, held? (front ++ place.1, place.2) = (held? place).map (move front))
    (left right : List Word) :
    (placed [] (left ++ right)).filterMap held? =
      (placed [] left).filterMap held? ++
        ((placed [] right).filterMap held?).map (move (left.flatMap spelling)) := by
  have behind := placed_behind (left.flatMap spelling) [] right
  rw [List.append_nil] at behind
  rw [placed_append, List.nil_append, behind, List.filterMap_append, List.filterMap_map,
    List.map_filterMap]
  refine congrArg (_ ++ ·) (List.filterMap_congr ?_)
  intro place _
  exact moves (left.flatMap spelling) place

/-- Words behind others have their own tokens, moved behind what the others spell. -/
theorem tokens_append (left right : List Word) :
    tokens (left ++ right) =
      tokens left ++ (tokens right).map (Token.behind (left.flatMap spelling)) :=
  filterMap_placed_append placedToken?_behind left right

/-- Words behind a first one have their own tokens, moved behind what that one spells. -/
theorem tokens_cons (word : Word) (others : List Word) :
    tokens (word :: others) =
      tokens [word] ++ (tokens others).map (Token.behind word.spelling) := by
  rw [← List.singleton_append, tokens_append, List.flatMap_singleton]

/-- Words behind others have their own faults, moved behind what the others spell. -/
theorem faults_append (left right : List Word) :
    faults (left ++ right) =
      faults left ++ (faults right).map (Fault.behind (left.flatMap spelling)) :=
  filterMap_placed_append placedFault?_behind left right

end Word

/-! ### What a source holds -/

/-- The tokens of a source are those of its words, and its end. -/
theorem lex_tokens_eq (source : Text) :
    (lex source).tokens =
      Word.tokens (Word.words source) ++ [.endOfFile (Position.origin.after source)] := by
  rw [lex_tokens, Word.tokens, Token.endOfFile, Position.after_offset, Position.after_line,
    Position.origin, Nat.zero_add]

/-- The faults of a source are those of its words. -/
theorem lex_faults_eq (source : Text) :
    (lex source).faults = Word.faults (Word.words source) :=
  lex_faults source

/-- Before its end, the tokens of a source are those of its words. -/
theorem dropLast_tokens (source : Text) :
    (lex source).tokens.dropLast = Word.tokens (Word.words source) := by
  rw [lex_tokens_eq, List.dropLast_concat]

/-- What a source says is what its words say, and then its end. -/
theorem map_content_lex (source : Text) :
    (lex source).tokens.map Token.content =
      (Word.words source).filterMap Word.content? ++ [(.endOfFile, [], none)] := by
  rw [lex_tokens_eq, List.map_append, Word.map_content_tokens]
  rfl

namespace Word

variable {before : List Word} {following : Text}

/-- Behind words that are whole there, a text has the tokens that it has alone, moved. -/
theorem WholeBefore.lex_tokens (whole : WholeBefore before following) :
    (lex (before.flatMap spelling ++ following)).tokens =
      tokens before ++ (lex following).tokens.map (Token.behind (before.flatMap spelling)) := by
  have ending : Token.endOfFile (Position.origin.after (before.flatMap spelling ++ following)) =
      (Token.endOfFile (Position.origin.after following)).behind (before.flatMap spelling) := by
    simp [Token.endOfFile, Token.behind, Token.shift, Span.shift, Position.origin, Nat.add_comm,
      Nat.add_assoc]
  rw [lex_tokens_eq, whole.words_append, tokens_append, lex_tokens_eq, List.map_append, ending,
    List.append_assoc, List.map_singleton]

/-- Behind words that are whole there, a text has the faults that it has alone, moved. -/
theorem WholeBefore.lex_faults (whole : WholeBefore before following) :
    (lex (before.flatMap spelling ++ following)).faults =
      faults before ++ (lex following).faults.map (Fault.behind (before.flatMap spelling)) := by
  rw [lex_faults_eq, whole.words_append, faults_append, lex_faults_eq]

/-- A source without an open string has no word that is one. -/
theorem ne_openString_of_closed {source : Text}
    (closed : ∀ fault ∈ (lex source).faults, fault.cause ≠ .unterminated) {word : Word}
    (member : word ∈ words source) (value : Text) : word ≠ openString value := by
  rintro rfl
  obtain ⟨left, place⟩ := exists_placed_of_mem member []
  rw [LoxLexis.lex_faults] at closed
  exact closed _ (List.mem_filterMap.mpr ⟨_, place, rfl⟩) rfl

/-- A newline behind a source without an open string is a word of its own, and ends the
words before it whatever follows. -/
theorem wholeBefore_newline {source : Text}
    (closed : ∀ fault ∈ (lex source).faults, fault.cause ≠ .unterminated) (following : Text) :
    WholeBefore (words source ++ [blank '\n']) following := by
  refine wholeBefore_append.mpr ⟨(wholeBefore_words source).change ?_, ?_, trivial⟩
  · intro word last fits
    have member := List.mem_of_getLast? last
    exact fits.before_newline (ne_openString_of_closed closed member) following
  · simp [Fits]

theorem flatMap_spelling_newline (source : Text) :
    (words source ++ [blank '\n']).flatMap spelling = source ++ ['\n'] := by
  rw [List.flatMap_append, flatMap_spelling_words]
  rfl

end Word

/-- Behind a text and a newline, a token stands one byte and one line further than behind the
text. -/
theorem Token.behind_newline (front : Text) :
    Token.behind (front ++ ['\n']) =
      (Token.shift · (front.byteLength + 1) (1 + front.newlines)) := by
  funext token
  rw [behind, Text.byteLength_append, Text.newlines_append, Nat.add_comm front.newlines]
  rfl

theorem Fault.behind_newline (front : Text) :
    Fault.behind (front ++ ['\n']) =
      (Fault.shift · (front.byteLength + 1) (1 + front.newlines)) := by
  funext fault
  rw [behind, Text.byteLength_append, Text.newlines_append, Nat.add_comm front.newlines]
  rfl

/-- **Lexing line by line.** A source without an open string may be lexed apart from what
follows it behind a newline: its tokens come first, then those of the other text, moved by
the bytes and the lines of the source and the newline, with kind, lexeme and value as they
were; and so it is with the faults. -/
theorem lex_append_newline (first second : Text)
    (closed : ∀ fault ∈ (lex first).faults, fault.cause ≠ .unterminated) :
    (lex (first ++ '\n' :: second)).tokens =
        (lex first).tokens.dropLast ++
          (lex second).tokens.map (Token.shift · (first.byteLength + 1) (1 + first.newlines)) ∧
      (lex (first ++ '\n' :: second)).faults =
        (lex first).faults ++
          (lex second).faults.map (Fault.shift · (first.byteLength + 1) (1 + first.newlines)) ∧
      (lex (first ++ '\n' :: second)).tokens.map Token.content =
        ((lex first).tokens.dropLast ++ (lex second).tokens).map Token.content ∧
      (lex (first ++ '\n' :: second)).faults.map Fault.cause =
        ((lex first).faults ++ (lex second).faults).map Fault.cause := by
  have whole := Word.wholeBefore_newline closed second
  have tokens := whole.lex_tokens
  have faults := whole.lex_faults
  -- The newline itself holds neither a token nor a fault.
  have tokensBefore : Word.tokens (Word.words first ++ [.blank '\n']) =
      (lex first).tokens.dropLast := by
    rw [Word.tokens_append, dropLast_tokens]
    exact List.append_nil _
  have faultsBefore : Word.faults (Word.words first ++ [.blank '\n']) = (lex first).faults := by
    rw [Word.faults_append, lex_faults_eq]
    exact List.append_nil _
  rw [tokensBefore, Word.flatMap_spelling_newline, Token.behind_newline, List.append_assoc,
    List.singleton_append] at tokens
  rw [faultsBefore, Word.flatMap_spelling_newline, Fault.behind_newline, List.append_assoc,
    List.singleton_append] at faults
  refine ⟨tokens, faults, ?_, ?_⟩
  · rw [tokens, List.map_append, List.map_append, List.map_map]
    rfl
  · rw [faults, List.map_append, List.map_append, List.map_map]
    rfl

/-- A slash at the end of a line and one at the start of the next are two tokens, and a
stray character on either line is reported on its own. -/
theorem lex_append_newline_slashes :
    let first : Text := "\"x\" @/".toList
    let second : Text := "/#".toList
    (∀ fault ∈ (lex first).faults, fault.cause ≠ .unterminated) ∧
      (lex (first ++ '\n' :: second)).tokens =
        (lex first).tokens.dropLast ++ (lex second).tokens.map (Token.shift · 7 1) ∧
      (lex (first ++ '\n' :: second)).faults =
        [⟨.unexpected '@', 1, ⟨4, 5⟩⟩, ⟨.unexpected '#', 2, ⟨8, 9⟩⟩] := by
  intro first second
  have closed : ∀ fault ∈ (lex first).faults, fault.cause ≠ .unterminated := by decide +kernel
  obtain ⟨tokens, faults, -⟩ := lex_append_newline first second closed
  refine ⟨closed, tokens, faults.trans ?_⟩
  decide +kernel

end LoxLexis
