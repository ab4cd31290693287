import LoxLexis.Proofs.Lexing.Joint

/-!
# What a source keeps when text is appended to it

All words of a text but at most the last are settled: they stay as they are whatever is
appended (`Word.exists_settledSplit`). A last word is unsettled when it is a comment or an
open string, which may go on, or a symbol that the next character may make part of a longer
word. So the tokens and stray characters of a text are the first ones of every longer text,
that symbol apart (`lex_append_stable`).
-/

namespace LoxLexis

namespace Symbol

/-- The symbols that a following character can make part of a longer word. -/
def extensible : List Symbol := [bang, equal, less, greater, slash]

/-- A symbol that cannot become longer takes no equals sign, and is not the slash. -/
theorem withEqual?_of_not_extensible {mark : Symbol} (settled : mark ∉ extensible) :
    mark.withEqual? = none ∧ mark ≠ slash := by
  cases mark <;> simp_all [extensible, withEqual?]

end Symbol

/-- Whether a fault is a character that starts no token. -/
def Fault.isUnexpected (fault : Fault) : Bool :=
  match fault.cause with
  | .unexpected _ => true
  | .unterminated => false

/-- Whether a token is a symbol that can become longer, and ends at a given offset. -/
def Token.isExtensibleAt (stop : Nat) (token : Token) : Bool :=
  Symbol.extensible.any (fun mark => token.kind = .symbol mark) && token.span.stop = stop

/-- The tokens of a source without its end, and without a last symbol that ends with the
source and can become longer. -/
def settledTokens (source : Text) : List Token :=
  let tokens := (lex source).tokens.dropLast
  if tokens.getLast?.any (Token.isExtensibleAt source.byteLength) then tokens.dropLast else tokens

namespace Word

variable {word : Word} {following : Text}

/-- Whether a word stays as it is whatever is appended to it. -/
def isSettled : Word → Bool
  | symbol mark => mark ∉ Symbol.extensible
  | string _ | blank _ | stray _ => true
  | openString _ | comment _ => false

/-- A settled word is whole before any text. -/
theorem Fits.of_isSettled (fits : word.Fits following) (settled : word.isSettled = true)
    (other : Text) : word.Fits other := by
  cases word with
  | symbol mark =>
      obtain ⟨ungrown, notSlash⟩ :=
        Symbol.withEqual?_of_not_extensible (of_decide_eq_true settled)
      exact fits_symbol_iff.mpr
        ⟨fun grows => absurd ungrown grows, fun slash => absurd slash notSlash⟩
  | string value | blank character | stray character => exact fits
  | openString value | comment content => cases settled

/-- A text split into words that are whole whatever is appended to it, and at most one last
word that is unsettled. -/
structure SettledSplit (text : Text) (kept tail : List Word) : Prop where
  words_eq : words text = kept ++ tail
  unsettled : tail = [] ∨ ∃ word : Word, tail = [word] ∧ word.isSettled = false
  whole : ∀ extra, WholeBefore kept (tail.flatMap spelling ++ extra)

/-- Every text has a settled part that only lacks an unsettled last word. -/
theorem exists_settledSplit (text : Text) : ∃ kept tail, SettledSplit text kept tail := by
  have whole := wholeBefore_words text
  rcases List.eq_nil_or_concat (words text) with nothing | ⟨others, last, found⟩
  · exact ⟨[], [], nothing, .inl rfl, fun _ => trivial⟩
  · by_cases settled : last.isSettled = true
    · refine ⟨words text, [], (List.append_nil _).symm, .inl rfl, fun extra => whole.change ?_⟩
      intro word isLast fits
      rw [found, List.concat_eq_append, List.getLast?_concat] at isLast
      exact fits.of_isSettled (Option.some.inj isLast ▸ settled) _
    · rw [List.concat_eq_append] at found
      refine ⟨others, [last], found, .inr ⟨last, rfl, Bool.eq_false_iff.mpr settled⟩, ?_⟩
      intro extra
      rw [found, wholeBefore_append] at whole
      -- Before the last word nothing but its own first character is seen.
      obtain ⟨character, rest, spelled⟩ := List.exists_cons_of_ne_nil last.spelling_ne_nil
      refine whole.1.change fun word _ fits => fits.congr_head ?_
      rw [List.flatMap_singleton, spelled]
      rfl

namespace SettledSplit

variable {text : Text} {kept tail : List Word}

/-- The words of both parts of a split spell the text. -/
theorem flatMap_spelling (split : SettledSplit text kept tail) :
    kept.flatMap spelling ++ tail.flatMap spelling = text := by
  rw [← List.flatMap_append, ← split.words_eq, flatMap_spelling_words]

/-- A string can only be open at the end, where it is not settled. -/
theorem ne_openString (split : SettledSplit text kept tail) {word : Word} (member : word ∈ kept)
    (value : Text) : word ≠ openString value := by
  -- Before anything at all no kept word can be an open string.
  have more : tail.flatMap spelling ++ ['\n'] ≠ [] :=
    List.append_ne_nil_of_right_ne_nil _ (List.cons_ne_nil _ _)
  exact (split.whole ['\n']).ne_openString more member value

end SettledSplit

/-- Without an open string, all faults are stray characters. -/
theorem isUnexpected_of_mem_faults {words : List Word}
    (closed : ∀ word ∈ words, ∀ value, word ≠ openString value) {fault : Fault}
    (member : fault ∈ faults words) : fault.isUnexpected = true := by
  obtain ⟨⟨before, word⟩, place, met⟩ := List.mem_filterMap.mp member
  have given := closed word (mem_of_mem_placed place)
  cases word <;> cases met
  case openString value => exact absurd rfl (given value)
  case stray => rfl

end Word

/-- The settled tokens of a source are the first of its tokens. -/
theorem settledTokens_prefix (source : Text) :
    settledTokens source <+: (lex source).tokens.dropLast := by
  simp only [settledTokens]
  split
  · exact List.dropLast_prefix _
  · exact List.prefix_rfl

/-- A last symbol that can become longer is not among the settled tokens. -/
theorem settledTokens_of_extensible {source : Text} {tokens : List Token} {last : Token}
    (found : (lex source).tokens.dropLast = tokens ++ [last])
    (extensible : last.isExtensibleAt source.byteLength = true) :
    settledTokens source = tokens := by
  simp only [settledTokens, found, List.getLast?_concat, Option.any_some, extensible, ↓reduceIte,
    List.dropLast_concat]

namespace Word.SettledSplit

variable {source : Text} {kept tail : List Word}

/-- What is settled of a source are tokens of its settled words. -/
theorem settledTokens_prefix (split : SettledSplit source kept tail) :
    settledTokens source <+: tokens kept := by
  have whole := LoxLexis.settledTokens_prefix source
  have listed : (lex source).tokens.dropLast =
      tokens kept ++ (tokens tail).map (Token.behind (kept.flatMap spelling)) := by
    rw [dropLast_tokens, split.words_eq, tokens_append]
  rcases split.unsettled with rfl | ⟨word, rfl, isOpen⟩
  · rwa [listed, show tokens [] = [] from rfl, List.map_nil, List.append_nil] at whole
  · cases word with
    | symbol mark =>
        have member : mark ∈ Symbol.extensible := by simpa [isSettled] using isOpen
        have spelled : kept.flatMap spelling ++ mark.spelling = source := by
          rw [← split.flatMap_spelling, List.flatMap_singleton]
          rfl
        -- The symbol ends with the source, so its token is the one that is not settled.
        have dropped : settledTokens source = tokens kept := by
          apply settledTokens_of_extensible listed
          simp [Token.isExtensibleAt, Token.behind, Token.shift, Span.shift, placedSpan, spelling,
            ← spelled, member, Nat.add_comm]
        exact ⟨[], (List.append_nil _).trans dropped⟩
    | openString value | comment content =>
        rwa [listed, show tokens [_] = [] from rfl, List.map_nil, List.append_nil] at whole
    | string value | blank character | stray character => cases isOpen

/-- The stray characters of a source are the faults of its settled words. -/
theorem filter_isUnexpected_faults (split : SettledSplit source kept tail) :
    (lex source).faults.filter Fault.isUnexpected = faults kept := by
  have before : (faults kept).filter Fault.isUnexpected = faults kept := by
    apply List.filter_eq_self.mpr
    intro fault member
    exact isUnexpected_of_mem_faults (fun word => split.ne_openString) member
  have behind : ((faults tail).map
      (Fault.behind (kept.flatMap spelling))).filter Fault.isUnexpected = [] := by
    rcases split.unsettled with rfl | ⟨word, rfl, isOpen⟩
    · rfl
    · cases word with
      | symbol mark | openString value | comment content => rfl
      | string value | blank character | stray character => cases isOpen
  rw [lex_faults_eq, split.words_eq, faults_append, List.filter_append, before, behind,
    List.append_nil]

end Word.SettledSplit

/-- **Appending keeps what is settled.** Whatever is appended to a source, its settled
tokens are the first tokens of the longer source, at the same places, and its stray
characters are the first faults. Of its words at most the last can change, and only when it
is a comment, an open string, or a symbol that can become longer. -/
theorem lex_append_stable (first second : Text) :
    settledTokens first <+: (lex (first ++ second)).tokens ∧
      (lex first).faults.filter Fault.isUnexpected <+: (lex (first ++ second)).faults ∧
      ∃ kept tail, Word.words first = kept ++ tail ∧ kept <+: Word.words (first ++ second) ∧
        (tail = [] ∨ ∃ word : Word, tail = [word] ∧ word.isSettled = false) := by
  obtain ⟨kept, tail, split⟩ := Word.exists_settledSplit first
  have joined : kept.flatMap Word.spelling ++ (tail.flatMap Word.spelling ++ second) =
      first ++ second := by
    rw [← List.append_assoc, split.flatMap_spelling]
  have words := (split.whole second).words_append
  have tokens := (split.whole second).lex_tokens
  have faults := (split.whole second).lex_faults
  rw [joined] at words tokens faults
  refine ⟨?_, ?_, kept, tail, split.words_eq, ⟨_, words.symm⟩, split.unsettled⟩
  · exact split.settledTokens_prefix.trans ⟨_, tokens.symm⟩
  · rw [split.filter_isUnexpected_faults]
    exact ⟨_, faults.symm⟩

end LoxLexis
