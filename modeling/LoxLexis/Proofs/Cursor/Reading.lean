import LoxLexis.Proofs.Cursor.Step

/-!
# Reading in place is reading

From between two words, a cursor steps through the next word to between words again, with the
event of that word on the way (`Cursor.runs_word`). So a reader at the same place yields what
the cursor comes to first, and the faults that it meets are those on the way
(`Cursor.runs_next`).
-/

namespace LoxLexis

namespace Cursor

variable {source before front last spelled rest : Text} {limit : Nat} {character : Char}

/-- The steps of a comment take any text without a newline, and have no event. -/
theorem runs_comment (fits : source.byteLength < limit) {content following : Text}
    (whole : source = before ++ spelled ++ (content ++ following)) (oneLine : '\n' ∉ content) :
    Runs source limit (standing .comment before spelled) []
      (standing .comment before (spelled ++ content)) := by
  induction content generalizing spelled with
  | nil =>
      rw [List.append_nil]
      exact .nil _
  | cons first others ih =>
      have inside : first ≠ '\n' := (List.ne_of_not_mem_cons oneLine).symm
      have behind : source = before ++ (spelled ++ [first]) ++ (others ++ following) := by
        simpa using whole
      have onward := ih behind (List.not_mem_of_not_mem_cons oneLine)
      rw [List.append_assoc] at onward
      exact .quiet (step_comment fits whole inside) onward

/-- The steps of a string take any text without a quote, newlines counted, and have no event. -/
theorem runs_value (fits : source.byteLength < limit) {value following : Text}
    (whole : source = before ++ spelled ++ (value ++ following)) (noQuote : '"' ∉ value)
    (opened : spelled.newlines < spelled.byteLength) :
    Runs source limit (standing .string before spelled) []
      (standing .string before (spelled ++ value)) := by
  induction value generalizing spelled with
  | nil =>
      rw [List.append_nil]
      exact .nil _
  | cons first others ih =>
      have inside : first ≠ '"' := (List.ne_of_not_mem_cons noQuote).symm
      have behind : source = before ++ (spelled ++ [first]) ++ (others ++ following) := by
        simpa using whole
      have stillOpened : (spelled ++ [first]).newlines < (spelled ++ [first]).byteLength := by
        have bound := Text.newlines_le_byteLength [first]
        rw [Text.newlines_append, Text.byteLength_append]
        omega
      have onward := ih behind (List.not_mem_of_not_mem_cons noQuote) stillOpened
      rw [List.append_assoc] at onward
      by_cases newline : first = '\n'
      · subst newline
        exact .quiet (step_string_newline fits whole opened)
          (.quiet (step_breaking fits whole) onward)
      · exact .quiet (step_string fits whole inside newline) onward

/-! ### One word -/

/-- The event of a word, if it has one, when the word stands behind a text. -/
def eventsOf (before : Text) (word : Word) : List Event :=
  (word.event? (Position.origin.after before)).toList

theorem eventsOf_token {mark : Symbol} :
    eventsOf before (.symbol mark) = [.token ⟨.symbol mark, mark.spelling, none,
      1 + before.newlines, ⟨before.byteLength, (before ++ mark.spelling).byteLength⟩⟩] := by
  simp [eventsOf, Word.event?, Position.origin, Position.spanOf]

theorem eventsOf_stray :
    eventsOf before (.stray character) = [.fault ⟨.unexpected character, 1 + before.newlines,
      ⟨before.byteLength, (before ++ [character]).byteLength⟩⟩] := by
  simp [eventsOf, Word.event?, Position.origin, Position.spanOf]

theorem eventsOf_string {value : Text} :
    eventsOf before (.string value) = [.token ⟨.string, '"' :: value ++ ['"'], some value,
      1 + before.newlines,
      ⟨before.byteLength, (before ++ ('"' :: value ++ ['"'])).byteLength⟩⟩] := by
  simp [eventsOf, Word.event?, Position.origin, Position.spanOf, Word.spelling]

/-- The event of an open string is its fault, on the last line of the source. -/
theorem eventsOf_openString {value : Text} :
    eventsOf before (.openString value) = [.fault ⟨.unterminated,
      1 + (before ++ '"' :: value).newlines,
      ⟨before.byteLength, (before ++ '"' :: value).byteLength⟩⟩] := by
  simp [eventsOf, Word.event?, Position.origin, Position.spanOf, Word.spelling, Nat.add_assoc]

/-- From a quote, a cursor steps through the string, closed or open, that the grammar cuts off. -/
theorem runs_ofQuote (fits : source.byteLength < limit) (whole : source = before ++ '"' :: rest) :
    Runs source limit (standing (.read '"') before ['"']) (eventsOf before (Word.ofQuote rest).1)
      (standing .between before (Word.ofQuote rest).1.spelling) := by
  have stands := Word.ofQuote_spelling rest
  have fitting := Word.ofQuote_fits rest
  have opened : Text.newlines ['"'] < Text.byteLength ['"'] := by decide
  refine .quiet step_read_quote ?_
  unfold Word.ofQuote at stands fitting ⊢
  split at stands
  · next ended =>
      simp only [ended] at fitting ⊢
      have apart : source = before ++ ['"'] ++ (rest ++ []) := by simpa using whole
      rw [eventsOf_openString]
      exact (runs_value fits apart fitting.1 opened).trans
        (.single (step_string_end (by simpa using whole)))
  · next closing following found =>
      simp only [found] at fitting ⊢
      -- For the steps it only matters that the value has no quote, not how it was taken.
      generalize rest.takeWhile Word.isInString = value at stands fitting ⊢
      simp only [Word.spelling, List.cons_append, List.append_assoc, List.nil_append,
        List.cons.injEq, true_and] at stands
      subst stands
      have apart : source = before ++ ['"'] ++ (value ++ '"' :: following) := by simpa using whole
      have behind : source = before ++ (['"'] ++ value) ++ '"' :: following := by
        simpa using whole
      have around : source = before ++ ('"' :: value ++ ['"']) ++ following := by
        simpa using whole
      rw [eventsOf_string]
      exact (runs_value fits apart fitting opened).trans
        (.quiet (step_string_quote fits behind) (.single (step_closed fits around)))

/-- From a slash, a cursor steps through the slash or the comment that the grammar cuts off. -/
theorem runs_ofSlash (fits : source.byteLength < limit) (whole : source = before ++ '/' :: rest) :
    Runs source limit (standing (.read '/') before ['/']) (eventsOf before (Word.ofSlash rest).1)
      (standing .between before (Word.ofSlash rest).1.spelling) := by
  have fitting := Word.ofSlash_fits rest
  unfold Word.ofSlash at fitting ⊢
  split at fitting
  · next content =>
      have parts := List.takeWhile_append_dropWhile (p := Word.isInComment) (l := content)
      have second : source = before ++ ['/'] ++ '/' :: content := by simpa using whole
      have apart : source = before ++ ['/', '/'] ++
          (content.takeWhile Word.isInComment ++ content.dropWhile Word.isInComment) := by
        rw [parts]
        simpa using whole
      have behind : source = before ++ (['/', '/'] ++ content.takeWhile Word.isInComment) ++
          content.dropWhile Word.isInComment := by
        rw [apart]
        simp
      exact .quiet (step_read_comment fits second)
        ((runs_comment fits apart fitting.1).trans (.single (step_comment_end behind fitting.2)))
  · next single =>
      have alone : rest.head? ≠ some '/' := by
        intro slash
        obtain ⟨content, rfl⟩ := List.head?_eq_some_iff.mp slash
        exact single content rfl
      have apart : source = before ++ ['/'] ++ rest := by simpa using whole
      rw [eventsOf_token]
      exact .single (step_read_slash apart alone)

/-- From any other symbol, a cursor steps through the shorter or the longer one, whichever the
grammar cuts off. -/
theorem runs_ofSymbol (fits : source.byteLength < limit)
    (whole : source = before ++ character :: rest) {mark : Symbol}
    (found : Symbol.ofChar? character = some mark) (notSlash : mark ≠ .slash) :
    Runs source limit (standing (.read character) before [character])
      (eventsOf before (Word.ofSymbol mark rest).1)
      (standing .between before (Word.ofSymbol mark rest).1.spelling) := by
  have spelled := Symbol.spelling_of_ofChar? found
  unfold Word.ofSymbol
  split
  · next long following grown =>
      have longSpelled : long.spelling = [character, '='] := by
        rw [Symbol.spelling_of_withEqual? grown, spelled]
        rfl
      have second : source = before ++ [character] ++ '=' :: following := by simpa using whole
      have behind : source = before ++ [character, '='] ++ following := by simpa using whole
      rw [eventsOf_token, Word.spelling, longSpelled]
      exact .quiet (step_read_grown fits found grown second) (.single (step_grown behind))
  · next text _ _ ungrown =>
      have alone : mark.withEqual? ≠ none → text.head? ≠ some '=' := by
        intro grows equals
        obtain ⟨long, grown⟩ := Option.ne_none_iff_exists'.mp grows
        obtain ⟨following, rfl⟩ := List.head?_eq_some_iff.mp equals
        exact ungrown long following grown rfl
      have apart : source = before ++ [character] ++ text := by simpa using whole
      rw [eventsOf_token, Word.spelling, spelled]
      exact .single (step_read_symbol notSlash found apart alone)

/-- A blank character takes one step, which has no event. -/
theorem runs_blank (fits : source.byteLength < limit) (whole : source = before ++ character :: rest)
    (blank : Word.isBlank character = true) :
    Runs source limit (standing (.read character) before [character]) []
      (standing .between before [character]) := by
  have apart : source = before ++ [character] ++ rest := by simpa using whole
  by_cases newline : character = '\n'
  · subst newline
    exact .single (step_read_newline fits apart)
  · exact .single (step_read_blank blank newline)

/-- From its first character, a cursor steps through the word that the grammar cuts off. -/
theorem runs_first (fits : source.byteLength < limit)
    (whole : source = before ++ character :: rest) :
    Runs source limit (standing (.read character) before [character])
      (eventsOf before (Word.first character rest).1)
      (standing .between before (Word.first character rest).1.spelling) := by
  by_cases quote : character = '"'
  · subst quote
    exact runs_ofQuote fits whole
  by_cases slash : character = '/'
  · subst slash
    exact runs_ofSlash fits whole
  rw [Word.first, if_neg quote, if_neg slash]
  split
  · next blank => exact runs_blank fits whole blank
  · next notBlank =>
      split
      · next mark found =>
          exact runs_ofSymbol fits whole found (Word.ne_slash_of_ofChar? found slash)
      · next unknown =>
          rw [eventsOf_stray]
          exact .single (step_read_stray (Word.isStray_iff.mpr ⟨notBlank, quote, unknown⟩))

/-- **One word.** From between words a cursor comes to between words again, behind the first
word of what it has before it, with the event of that word on the way. -/
theorem runs_word (fits : source.byteLength < limit)
    (whole : source = front ++ last ++ character :: rest) :
    Runs source limit (standing .between front last)
      (eventsOf (front ++ last) (Word.first character rest).1)
      (standing .between (front ++ last) (Word.first character rest).1.spelling) :=
  .quiet (step_between whole)
    (.quiet step_marking (.quiet (step_opened fits whole) (runs_first fits whole)))

/-! ### One token -/

/-- A cursor is between words where a reader stands. -/
structure StandsAt (source : Text) (point : Point) (reader : Reader) : Prop where
  between : point.stage = .between
  current : point.cursor.current = reader.position.offset
  line : point.cursor.line = reader.position.line
  rest : ∃ before, source.splitAt? point.cursor.current = some (before, reader.rest)

/-- A cursor between words stands where a reader does that has read as much and has the same
rest. -/
theorem standsAt_standing {reader : Reader} (whole : source = front ++ last ++ reader.rest)
    (place : reader.position = Position.origin.after (front ++ last)) :
    StandsAt source (standing .between front last) reader where
  between := rfl
  current := by simp [place, standing, Position.origin]
  line := by simp [place, standing, Position.origin, Stage.counted, Nat.add_assoc]
  rest := ⟨front ++ last, splitAt?_of_whole whole⟩

variable {State : Type}

/-- Cutting a word off the rest of a source takes nothing away. -/
theorem whole_behind_first (whole : source = front ++ last ++ character :: rest) :
    source = front ++ last ++ (Word.first character rest).1.spelling ++
      (Word.first character rest).2 := by
  rw [List.append_assoc, Word.first_spelling, whole]

/-- A position behind a text and another one is the position behind both. -/
theorem after_of_place {position : Position} (place : position = Position.origin.after before)
    (text : Text) : position.after text = Position.origin.after (before ++ text) := by
  rw [place, Position.after_append]

/-- **One token.** What a reader yields is what a cursor at its place comes to first, and what
the receiver is given are the faults on the way. -/
theorem runs_next (fits : source.byteLength < limit) (receive : Receive State) (reader : Reader)
    (received : State) (whole : source = front ++ last ++ reader.rest)
    (place : reader.position = Position.origin.after (front ++ last)) :
    ∃ (faults : List Fault) (front' last' : Text),
      source = front' ++ last' ++ (reader.next receive received).reader.rest ∧
      (reader.next receive received).reader.position = Position.origin.after (front' ++ last') ∧
      Runs source limit (standing .between front last)
        (faults.map Event.fault ++ [.token (reader.next receive received).token])
        (standing .between front' last') ∧
      (reader.next receive received).received = faults.foldl receive received := by
  -- The reader goes on behind every word that is no token, hence any place is allowed for.
  fun_induction Reader.next receive reader received generalizing front last with
  | case1 position received =>
      have ended : source = front ++ last := by rw [whole, List.append_nil]
      refine ⟨[], front, last, whole, place, ?_, rfl⟩
      rw [show position = Position.origin.after source from ended ▸ place]
      exact .single (step_between_end ended)
  | case2 character rest position received found reached =>
      rename_i token read
      have word := runs_word fits whole
      rw [eventsOf, ← place, read] at word
      exact ⟨[], _, _, whole_behind_first whole, after_of_place place _, word, rfl⟩
  | case3 character rest position received found reached =>
      rename_i fault met ih
      have word := runs_word fits whole
      rw [eventsOf, ← place, met] at word
      obtain ⟨faults, front', last', whole', place', runs, heard⟩ :=
        ih (whole_behind_first whole) (after_of_place place _)
      exact ⟨fault :: faults, front', last', whole', place', word.trans runs, heard⟩
  | case4 character rest position received found reached =>
      rename_i silent ih
      have word := runs_word fits whole
      rw [eventsOf, ← place, silent] at word
      obtain ⟨faults, front', last', whole', place', runs, heard⟩ :=
        ih (whole_behind_first whole) (after_of_place place _)
      exact ⟨faults, front', last', whole', place', word.trans runs, heard⟩

end Cursor

end LoxLexis
