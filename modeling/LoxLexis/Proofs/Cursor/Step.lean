import LoxLexis.Proofs.Cursor.Basic
import LoxLexis.Proofs.Word.Cut

/-!
# What each step does

Where a cursor stands between the parts of a source, its offsets are the lengths of these
parts and its lines are counts of their newlines (`Cursor.standing`). From there a step is not
refused, as long as the length of the source is below the greatest number, and it leads to
where a cursor stands again; there is one equation for each stage.
-/

namespace LoxLexis

namespace Cursor

/-- The newlines that are counted at a stage of a word, given what has been read of it. -/
def Stage.counted (stage : Stage) (spelled : Text) : Nat :=
  match stage with
  | read _ => 0
  | breaking => spelled.newlines + 1
  | between | marked | opened | grown _ | comment | string | closed => spelled.newlines

/-- The point at a stage of a word, between the text before the word and what follows the
part of it that has been read. -/
def standing (stage : Stage) (before spelled : Text) : Point where
  stage := stage
  cursor :=
    { start := before.byteLength
      current := (before ++ spelled).byteLength
      line := 1 + before.newlines + stage.counted spelled
      startLine := 1 + before.newlines }

/-- The point behind a word where only the start of the next word is known. -/
def marking (before spelled : Text) : Point where
  stage := .marked
  cursor :=
    { start := (before ++ spelled).byteLength
      current := (before ++ spelled).byteLength
      line := 1 + (before ++ spelled).newlines
      startLine := 1 + before.newlines }

variable {source before spelled rest : Text} {limit : Nat} {stage : Stage} {cursor : Cursor}

/-! ### Looking at the source -/

/-- A source may be cut behind any part that it begins with. -/
theorem splitAt?_of_whole (whole : source = before ++ rest) :
    source.splitAt? before.byteLength = some (before, rest) := by
  rw [whole, Text.splitAt?_append]

/-- A cursor that stands between the parts of a source sees the first character of the rest. -/
theorem peek_standing (stage : Stage) (whole : source = before ++ spelled ++ rest) :
    (standing stage before spelled).cursor.peek source = .ok rest.head? := by
  simp only [peek, standing, splitAt?_of_whole whole]

/-- The bytes of the current word, as far as it has been read, are what has been read of it. -/
theorem part_of_whole (whole : source = before ++ spelled ++ rest) :
    part source before.byteLength (before ++ spelled).byteLength = .ok spelled := by
  rw [part, whole, Text.slice?_append]

theorem raise_of_le {count more : Nat} (fits : count + more ≤ limit) :
    raise limit count more = .ok (count + more) := if_pos fits

/-- Reading a character brings the cursor behind it, at any stage with as many newlines counted. -/
theorem advance_standing (stage next : Stage) {character : Char} (fits : source.byteLength < limit)
    (whole : source = before ++ spelled ++ character :: rest)
    (counts : next.counted (spelled ++ [character]) = stage.counted spelled) :
    (standing stage before spelled).cursor.advance source limit =
      .ok (some character, (standing next before (spelled ++ [character])).cursor) := by
  have length := congrArg Text.byteLength whole
  simp only [Text.byteLength_append, Text.byteLength_cons] at length
  have raised : raise limit (standing stage before spelled).cursor.current character.utf8Size =
      .ok (standing next before (spelled ++ [character])).cursor.current := by
    simp only [standing, Text.byteLength_append, Text.byteLength_cons, Text.byteLength_nil]
    rw [raise_of_le (by omega)]
    exact congrArg _ (by omega)
  simp only [advance, peek_standing stage whole, List.head?_cons, bind, Except.bind, raised]
  simp only [standing, counts, pure, Except.pure]

/-- A step that reads one more character has no event, and the character joins the word. -/
theorem proceed_standing (stage next : Stage) {character : Char} (fits : source.byteLength < limit)
    (whole : source = before ++ spelled ++ character :: rest)
    (counts : next.counted (spelled ++ [character]) = stage.counted spelled) :
    (standing stage before spelled).cursor.proceed source limit next =
      .ok (none, standing next before (spelled ++ [character])) := by
  rw [proceed, advance_standing stage next fits whole counts]
  rfl

/-- A newline of the current word may be counted while fewer are counted than the word has bytes. -/
theorem countLine_standing (stage next : Stage) (fits : source.byteLength < limit)
    (whole : source = before ++ spelled ++ rest)
    (bound : stage.counted spelled < spelled.byteLength)
    (counts : next.counted spelled = stage.counted spelled + 1) :
    (standing stage before spelled).cursor.countLine limit =
      .ok (standing next before spelled).cursor := by
  have length := congrArg Text.byteLength whole
  have newlines := before.newlines_le_byteLength
  simp only [Text.byteLength_append] at length
  simp only [countLine, standing, counts, raise_of_le (show 1 + before.newlines +
    stage.counted spelled + 1 ≤ limit by omega), bind, Except.bind, pure, Except.pure]
  rfl

/-- A word that is ended with a token is the lexeme of that token, and its bytes and the line that
it starts on are the span and the line of the token. -/
theorem finish_standing (stage : Stage) (whole : source = before ++ spelled ++ rest)
    (counts : stage.counted spelled = spelled.newlines) (kind : Kind) (literal : Option Text) :
    (standing stage before spelled).cursor.finish source kind literal =
      .ok (some (.token ⟨kind, spelled, literal, 1 + before.newlines,
          ⟨before.byteLength, (before ++ spelled).byteLength⟩⟩),
        standing .between before spelled) := by
  have same : (standing stage before spelled).cursor =
      (standing .between before spelled).cursor := by
    simp only [standing, counts]
    rfl
  rw [same]
  simp only [finish, token, standing, part_of_whole whole, bind, Except.bind, pure, Except.pure]
  rfl

/-- A word that is ended with a fault has its bytes as the span of the fault, which is reported on
the line that reading has come to. -/
theorem fail_standing (stage : Stage) (before : Text)
    (counts : stage.counted spelled = spelled.newlines) (cause : Cause) :
    (standing stage before spelled).cursor.fail cause =
      .ok (some (.fault ⟨cause, 1 + (before ++ spelled).newlines,
          ⟨before.byteLength, (before ++ spelled).byteLength⟩⟩),
        standing .between before spelled) := by
  simp only [fail, standing, counts, span, Text.newlines_append, Nat.add_assoc]
  rfl

/-! ### Between words -/

/-- At the end of the source every step yields the token of the end and stays there. -/
theorem step_between_end (whole : source = before ++ spelled) :
    step source limit (standing .between before spelled) =
      .ok (some (.token (.endOfFile (Position.origin.after source))),
        standing .between before spelled) := by
  have ended : source.byteLength ≤ (before ++ spelled).byteLength := whole ▸ Nat.le_refl _
  simp only [standing, step, if_pos ended]
  simp [whole, Position.origin, Position.after, Stage.counted, Nat.add_assoc]

/-- Before a character, the first step notes where the next word starts. -/
theorem step_between {character : Char} (whole : source = before ++ spelled ++ character :: rest) :
    step source limit (standing .between before spelled) = .ok (none, marking before spelled) := by
  have length := congrArg Text.byteLength whole
  have positive := character.utf8Size_pos
  rw [Text.byteLength_append, Text.byteLength_cons] at length
  have more : ¬ source.byteLength ≤ (before ++ spelled).byteLength := by omega
  simp only [standing, step, if_neg more]
  simp [marking, Stage.counted, Nat.add_assoc]

/-- The second step notes on which line the next word starts. -/
theorem step_marking :
    step source limit (marking before spelled) =
      .ok (none, standing .opened (before ++ spelled) []) := by
  simp [marking, step, standing, Stage.counted]

/-- The third step reads the first character of the word. -/
theorem step_opened {character : Char} (fits : source.byteLength < limit)
    (whole : source = before ++ character :: rest) :
    step source limit (standing .opened before []) =
      .ok (none, standing (.read character) before [character]) := by
  have apart : source = before ++ [] ++ character :: rest := by rw [List.append_nil, whole]
  have advanced := advance_standing .opened (.read character) fits apart rfl
  exact congrArg (fun outcome => outcome >>= _) advanced

/-! ### Behind the first character -/

theorem newlines_singleton {character : Char} (other : character ≠ '\n') :
    Text.newlines [character] = 0 := by
  simp [Text.newlines, other]

/-- A quote opens a string. -/
theorem step_read_quote :
    step source limit (standing (.read '"') before ['"']) =
      .ok (none, standing .string before ['"']) := by
  rfl

/-- A slash before another slash opens a comment, with both of them. -/
theorem step_read_comment (fits : source.byteLength < limit)
    (whole : source = before ++ ['/'] ++ '/' :: rest) :
    step source limit (standing (.read '/') before ['/']) =
      .ok (none, standing .comment before ['/', '/']) := by
  have proceeds := proceed_standing (.read '/') .comment fits whole rfl
  have peeked := peek_standing (.read '/') whole
  change dispatch source limit (standing (.read '/') before ['/']).cursor '/' = _
  simp only [dispatch, peeked, bind, Except.bind]
  exact proceeds

/-- A slash before anything else is a token. -/
theorem step_read_slash (whole : source = before ++ ['/'] ++ rest)
    (single : rest.head? ≠ some '/') :
    step source limit (standing (.read '/') before ['/']) =
      .ok (some (.token ⟨.symbol .slash, ['/'], none, 1 + before.newlines,
        ⟨before.byteLength, (before ++ ['/']).byteLength⟩⟩), standing .between before ['/']) := by
  have peeked := peek_standing (.read '/') whole
  change dispatch source limit (standing (.read '/') before ['/']).cursor '/' = _
  simp only [dispatch, peeked, bind, Except.bind, if_neg single]
  exact finish_standing _ whole rfl _ _

/-- A newline between words is counted, and is no event. -/
theorem step_read_newline (fits : source.byteLength < limit)
    (whole : source = before ++ ['\n'] ++ rest) :
    step source limit (standing (.read '\n') before ['\n']) =
      .ok (none, standing .between before ['\n']) := by
  have counted := countLine_standing (.read '\n') .between fits whole
    (by decide) rfl
  change dispatch source limit (standing (.read '\n') before ['\n']).cursor '\n' = _
  simp only [dispatch, counted, bind, Except.bind]
  rfl

variable {character : Char}

/-- Any other blank character is no event. -/
theorem step_read_blank (blank : Word.isBlank character = true) (other : character ≠ '\n') :
    step source limit (standing (.read character) before [character]) =
      .ok (none, standing .between before [character]) := by
  have notQuote : character ≠ '"' := by rintro rfl; cases blank
  have notSlash : character ≠ '/' := by rintro rfl; cases blank
  change dispatch source limit (standing (.read character) before [character]).cursor character = _
  rw [dispatch, if_neg notQuote, if_neg notSlash, if_neg other, if_pos blank]
  simp [standing, Stage.counted, newlines_singleton other]

/-- A character that starts no word is a fault on its own line. -/
theorem step_read_stray (stray : Word.IsStray character) :
    step source limit (standing (.read character) before [character]) =
      .ok (some (.fault ⟨.unexpected character, 1 + before.newlines,
        ⟨before.byteLength, (before ++ [character]).byteLength⟩⟩),
        standing .between before [character]) := by
  have notSlash := stray.ne_slash
  obtain ⟨notBlank, notQuote, unknown⟩ := Word.isStray_iff.mp stray
  have other : character ≠ '\n' := by
    rintro rfl
    exact notBlank rfl
  have failed := fail_standing (.read character) before
    (newlines_singleton other).symm (.unexpected character)
  rw [Text.newlines_append, newlines_singleton other] at failed
  change dispatch source limit (standing (.read character) before [character]).cursor character = _
  rw [dispatch, if_neg notQuote, if_neg notSlash, if_neg other, if_neg notBlank, unknown]
  exact failed

/-- No symbol is the newline. -/
theorem ne_newline_of_ofChar? {mark : Symbol} (found : Symbol.ofChar? character = some mark) :
    character ≠ '\n' := by
  rintro rfl
  cases found

/-- Behind a character that is a symbol other than the slash, it is only looked for an equals
sign. -/
theorem step_read_of_ofChar? {mark : Symbol} (notSlash : mark ≠ .slash)
    (found : Symbol.ofChar? character = some mark) :
    step source limit ⟨.read character, cursor⟩ = cursor.symbol source limit mark := by
  obtain ⟨notQuote, noSlash, notBlank⟩ := Word.apart_of_ofChar? found notSlash
  rw [step, dispatch, if_neg notQuote, if_neg noSlash, if_neg (ne_newline_of_ofChar? found),
    if_neg notBlank, found]

/-- A symbol that an equals sign does not make longer is a token. -/
theorem step_read_symbol {mark : Symbol} (notSlash : mark ≠ .slash)
    (found : Symbol.ofChar? character = some mark)
    (whole : source = before ++ [character] ++ rest)
    (ungrown : mark.withEqual? ≠ none → rest.head? ≠ some '=') :
    step source limit (standing (.read character) before [character]) =
      .ok (some (.token ⟨.symbol mark, [character], none, 1 + before.newlines,
        ⟨before.byteLength, (before ++ [character]).byteLength⟩⟩),
        standing .between before [character]) := by
  have finished := finish_standing (.read character) whole
    (newlines_singleton (ne_newline_of_ofChar? found)).symm (.symbol mark) none
  have peeked := peek_standing (.read character) whole
  rw [standing] at finished peeked ⊢
  rw [step_read_of_ofChar? notSlash found, symbol]
  split
  · exact finished
  · next long grows =>
      have single : rest.head? ≠ some '=' := ungrown (grows ▸ Option.some_ne_none long)
      simp only [peeked, bind, Except.bind, if_neg single]
      exact finished

/-- An equals sign is read together with a symbol that it makes longer. -/
theorem step_read_grown {short long : Symbol} (fits : source.byteLength < limit)
    (found : Symbol.ofChar? character = some short) (grown : short.withEqual? = some long)
    (whole : source = before ++ [character] ++ '=' :: rest) :
    step source limit (standing (.read character) before [character]) =
      .ok (none, standing (.grown long) before [character, '=']) := by
  have notSlash : short ≠ .slash := by rintro rfl; cases grown
  have counts : (Stage.grown long).counted ([character] ++ ['=']) =
      (Stage.read character).counted [character] := by
    change Text.newlines ([character] ++ ['=']) = 0
    rw [Text.newlines_append, newlines_singleton (ne_newline_of_ofChar? found)]
    rfl
  have proceeds := proceed_standing (.read character) (.grown long) fits whole counts
  have peeked := peek_standing (.read character) whole
  rw [standing] at proceeds peeked ⊢
  rw [step_read_of_ofChar? notSlash found, symbol, grown]
  simp only [peeked, bind, Except.bind]
  exact proceeds

/-- The longer symbol is a token. -/
theorem step_grown {long : Symbol} (whole : source = before ++ spelled ++ rest) :
    step source limit (standing (.grown long) before spelled) =
      .ok (some (.token ⟨.symbol long, spelled, none, 1 + before.newlines,
        ⟨before.byteLength, (before ++ spelled).byteLength⟩⟩),
        standing .between before spelled) :=
  finish_standing _ whole rfl _ _

/-! ### In a comment -/

/-- A comment goes on through every character but the newline. -/
theorem step_comment (fits : source.byteLength < limit)
    (whole : source = before ++ spelled ++ character :: rest) (inside : character ≠ '\n') :
    step source limit (standing .comment before spelled) =
      .ok (none, standing .comment before (spelled ++ [character])) := by
  have proceeds := proceed_standing .comment .comment fits whole
    (by simp [Stage.counted, newlines_singleton inside])
  have peeked := peek_standing .comment whole
  rw [standing] at proceeds peeked ⊢
  simp only [step, peeked, bind, Except.bind, List.head?_cons, Option.any_some, Word.isInComment,
    decide_eq_true inside, if_true]
  exact proceeds

/-- A comment ends before a newline or at the end of the source, and is no event. -/
theorem step_comment_end (whole : source = before ++ spelled ++ rest)
    (ends : rest = [] ∨ rest.head? = some '\n') :
    step source limit (standing .comment before spelled) =
      .ok (none, standing .between before spelled) := by
  have peeked := peek_standing .comment whole
  have stops : (rest.head?.any Word.isInComment) = false := by
    rcases ends with rfl | newline
    · rfl
    · rw [newline]
      rfl
  rw [standing] at peeked ⊢
  simp only [step, peeked, bind, Except.bind, stops]
  rfl

/-! ### In a string -/

/-- A string goes on through every character but the quote; a newline takes a step more. -/
theorem step_string (fits : source.byteLength < limit)
    (whole : source = before ++ spelled ++ character :: rest) (inside : character ≠ '"')
    (other : character ≠ '\n') :
    step source limit (standing .string before spelled) =
      .ok (none, standing .string before (spelled ++ [character])) := by
  have proceeds := proceed_standing .string .string fits whole
    (by simp [Stage.counted, newlines_singleton other])
  have peeked := peek_standing .string whole
  rw [standing] at proceeds peeked ⊢
  simp only [step, peeked, bind, Except.bind, List.head?_cons]
  exact proceeds

/-- A newline in a string is counted before it is read. -/
theorem step_string_newline (fits : source.byteLength < limit)
    (whole : source = before ++ spelled ++ '\n' :: rest)
    (bound : spelled.newlines < spelled.byteLength) :
    step source limit (standing .string before spelled) =
      .ok (none, standing .breaking before spelled) := by
  have counted := countLine_standing .string .breaking fits whole bound rfl
  have peeked := peek_standing .string whole
  rw [standing] at counted peeked ⊢
  simp only [step, peeked, bind, Except.bind, List.head?_cons, counted]
  rfl

/-- A newline in a string that has been counted is read. -/
theorem step_breaking (fits : source.byteLength < limit)
    (whole : source = before ++ spelled ++ '\n' :: rest) :
    step source limit (standing .breaking before spelled) =
      .ok (none, standing .string before (spelled ++ ['\n'])) :=
  proceed_standing _ _ fits whole (by simp [Stage.counted, Text.newlines])

/-- A quote ends the characters of a string. -/
theorem step_string_quote (fits : source.byteLength < limit)
    (whole : source = before ++ spelled ++ '"' :: rest) :
    step source limit (standing .string before spelled) =
      .ok (none, standing .closed before (spelled ++ ['"'])) := by
  have proceeds := proceed_standing .string .closed fits whole
    (by simp [Stage.counted, newlines_singleton (show '"' ≠ '\n' by decide)])
  have peeked := peek_standing .string whole
  have length := congrArg Text.byteLength whole
  have positive := Char.utf8Size_pos '"'
  rw [Text.byteLength_append, Text.byteLength_cons] at length
  have more : ¬ source.byteLength ≤ (before ++ spelled).byteLength := by omega
  rw [standing] at proceeds peeked ⊢
  simp only [step, peeked, bind, Except.bind, List.head?_cons, endString, if_neg more]
  exact proceeds

/-- A string that the source ends in is a fault on the last line. -/
theorem step_string_end (whole : source = before ++ spelled) :
    step source limit (standing .string before spelled) =
      .ok (some (.fault ⟨.unterminated, 1 + (before ++ spelled).newlines,
        ⟨before.byteLength, (before ++ spelled).byteLength⟩⟩),
        standing .between before spelled) := by
  have failed := fail_standing .string before (rfl : _ = spelled.newlines)
    .unterminated
  have peeked := peek_standing .string
    (whole.trans (List.append_nil _).symm)
  have ended : source.byteLength ≤ (before ++ spelled).byteLength := whole ▸ Nat.le_refl _
  rw [standing] at failed peeked ⊢
  simp only [step, peeked, bind, Except.bind, List.head?_nil, endString, if_pos ended]
  exact failed

/-- A closed string is a token, whose value is what stands between the quotes. -/
theorem step_closed {value : Text} (fits : source.byteLength < limit)
    (whole : source = before ++ ('"' :: value ++ ['"']) ++ rest) :
    step source limit (standing .closed before ('"' :: value ++ ['"'])) =
      .ok (some (.token ⟨.string, '"' :: value ++ ['"'], some value, 1 + before.newlines,
        ⟨before.byteLength, (before ++ ('"' :: value ++ ['"'])).byteLength⟩⟩),
        standing .between before ('"' :: value ++ ['"'])) := by
  have finished := finish_standing .closed whole rfl .string (some value)
  -- Both quotes take one byte, so the value lies between offsets next to those of the word.
  have quote : Char.utf8Size '"' = 1 := by decide
  have length := congrArg Text.byteLength whole
  simp only [Text.byteLength_append, Text.byteLength_cons, quote] at length
  have inner : source = (before ++ ['"']) ++ value ++ '"' :: rest := by simp [whole]
  have start : raise limit before.byteLength 1 = .ok (before ++ ['"']).byteLength := by
    rw [raise_of_le (by omega), Text.byteLength_append]
    rfl
  have stop : lower (before ++ ('"' :: value ++ ['"'])).byteLength 1 =
      .ok (before ++ ['"'] ++ value).byteLength := by
    simp only [Text.byteLength_append, Text.byteLength_cons, Text.byteLength_nil, quote]
    rw [lower, if_pos (by omega)]
    exact congrArg _ (by omega)
  rw [standing] at finished ⊢
  simp only [step, start, stop, part_of_whole inner, bind, Except.bind]
  exact finished

end Cursor

end LoxLexis
