import LoxLexis.Proofs.Cursor.Reading
import LoxLexis.Proofs.Lexing.Order
import LoxLexis.Proofs.Report.Drawing
import Mathlib.Algebra.Group.Nat.Defs

/-!
# Nothing is refused

At every point that reading comes to, the offsets of the cursor lie in order within the source
and between its characters, and its lines are bounded by them (`Cursor.Within`). This follows
from what has been read at each stage (`Cursor.Sound`), which every step keeps
(`Cursor.Sound.steps`). So no step is ever refused, no event takes bytes that the source
does not have, and no report of a fault is refused either (`cursor_never_refused`).
-/

namespace LoxLexis

/-- An event takes bytes of a source: some, unless it is the end of the source. -/
structure Event.Within (source : Text) (event : Event) : Prop where
  start_le : event.span.start ≤ event.span.stop
  stop_le : event.span.stop ≤ source.byteLength
  nonempty : (∃ position, event = .token (.endOfFile position)) ∨ event.span.start < event.span.stop

namespace Cursor

/-- The offsets of a cursor lie in order within a source and between its characters, and its
lines are in order and no greater than the offsets allow. -/
structure Within (source : Text) (cursor : Cursor) : Prop where
  start_le : cursor.start ≤ cursor.current
  current_le : cursor.current ≤ source.byteLength
  start_cuts : (source.splitAt? cursor.start).isSome = true
  current_cuts : (source.splitAt? cursor.current).isSome = true
  startLine_le : cursor.startLine ≤ cursor.line
  line_le : cursor.line ≤ 1 + cursor.current

/-- What has been read at a point, stage by stage. -/
inductive Sound (source : Text) : Point → Prop
  | between {before spelled rest : Text} :
      source = before ++ spelled ++ rest → Sound source (standing .between before spelled)
  | marked {before spelled rest : Text} {character : Char} :
      source = before ++ spelled ++ character :: rest → Sound source (marking before spelled)
  | opened {before rest : Text} {character : Char} :
      source = before ++ character :: rest → Sound source (standing .opened before [])
  | read {before rest : Text} {character : Char} :
      source = before ++ character :: rest →
        Sound source (standing (.read character) before [character])
  | grown {before rest : Text} {character : Char} {long : Symbol} :
      source = before ++ [character, '='] ++ rest →
        Sound source (standing (.grown long) before [character, '='])
  | comment {before spelled rest : Text} :
      source = before ++ spelled ++ rest → Sound source (standing .comment before spelled)
  | string {before value rest : Text} :
      source = before ++ '"' :: value ++ rest →
        Sound source (standing .string before ('"' :: value))
  | breaking {before value rest : Text} :
      source = before ++ '"' :: value ++ '\n' :: rest →
        Sound source (standing .breaking before ('"' :: value))
  | closed {before value rest : Text} :
      source = before ++ ('"' :: value ++ ['"']) ++ rest →
        Sound source (standing .closed before ('"' :: value ++ ['"']))

variable {source before spelled rest : Text} {limit : Nat} {stage : Stage} {point : Point}

/-! ### Within the source -/

/-- Behind any part that a source begins with, its bytes may be cut. -/
theorem isSome_splitAt?_of_whole (whole : source = before ++ rest) :
    (source.splitAt? before.byteLength).isSome = true := by
  rw [splitAt?_of_whole whole]
  rfl

/-- A cursor between the parts of a source is within it, if no more newlines are counted of the
word than the word has bytes. -/
theorem within_standing (whole : source = before ++ spelled ++ rest)
    (counted : stage.counted spelled ≤ spelled.byteLength) :
    Within source (standing stage before spelled).cursor := by
  have length := congrArg Text.byteLength whole
  have newlines := before.newlines_le_byteLength
  have later : source = before ++ (spelled ++ rest) := by rw [whole, List.append_assoc]
  simp only [Text.byteLength_append] at length
  refine ⟨?_, ?_, isSome_splitAt?_of_whole later, isSome_splitAt?_of_whole whole,
    Nat.le_add_right _ _, ?_⟩
  all_goals
    simp only [standing, Text.byteLength_append]
    omega

/-- A cursor that has noted the start of a word, but not its line, is within the source. -/
theorem within_marking (whole : source = before ++ spelled ++ rest) :
    Within source (marking before spelled).cursor := by
  have stands : Within source (standing .between before spelled).cursor :=
    within_standing whole spelled.newlines_le_byteLength
  refine ⟨Nat.le_refl _, stands.current_le, stands.current_cuts, stands.current_cuts, ?_, ?_⟩
  · simp [marking]
  · have newlines := Text.newlines_le_byteLength (before ++ spelled)
    simp only [marking]
    omega

/-- An open string has more bytes than newlines, because of its quote. -/
theorem newlines_lt_byteLength_quote (value : Text) :
    Text.newlines ('"' :: value) < Text.byteLength ('"' :: value) := by
  have bound := value.newlines_le_byteLength
  have apart := Text.newlines_append ['"'] value
  rw [List.singleton_append, newlines_singleton (by decide)] at apart
  rw [apart, Text.byteLength_cons, show Char.utf8Size '"' = 1 by decide]
  omega

/-- Wherever reading is sound, the cursor is within the source. -/
theorem Sound.within (sound : Sound source point) : Within source point.cursor := by
  cases sound with
  | between whole | comment whole | string whole | closed whole | grown whole =>
      exact within_standing whole (Text.newlines_le_byteLength _)
  | marked whole => exact within_marking whole
  | @opened before rest character whole =>
      have apart : source = before ++ [] ++ character :: rest := by simpa using whole
      exact within_standing apart (Nat.le_refl 0)
  | @read before rest character whole =>
      have apart : source = before ++ [character] ++ rest := by simpa using whole
      exact within_standing apart (Nat.zero_le _)
  | @breaking before value rest whole =>
      exact within_standing whole (newlines_lt_byteLength_quote value)

/-! ### Every step -/

/-- An event whose bytes are those of a word that is not empty is within the source. -/
theorem event_within_of_spelled {event : Event} (whole : source = before ++ spelled ++ rest)
    (nonempty : spelled ≠ [])
    (span : event.span = ⟨before.byteLength, (before ++ spelled).byteLength⟩) :
    event.Within source := by
  have length := congrArg Text.byteLength whole
  have characters := spelled.length_le_byteLength
  have positive := List.length_pos_iff.mpr nonempty
  simp only [Text.byteLength_append] at length
  refine ⟨?_, ?_, .inr ?_⟩ <;> simp only [span, Text.byteLength_append] <;> omega

/-- A step that is not refused, leads to where reading is sound, goes back by no line, and has
an event within the source if it has one. -/
def Steps (source : Text) (limit : Nat) (point : Point) : Prop :=
  ∃ event? following, step source limit point = .ok (event?, following) ∧
    Sound source following ∧ point.cursor.line ≤ following.cursor.line ∧
    ∀ event ∈ event?, event.Within source

/-- A step without an event is as it should be when it leads to a sound point on no earlier line. -/
theorem Steps.quiet {following : Point} (stepped : step source limit point = .ok (none, following))
    (sound : Sound source following) (lines : point.cursor.line ≤ following.cursor.line) :
    Steps source limit point :=
  ⟨none, following, stepped, sound, lines, fun _ absent => nomatch absent⟩

/-- A step that ends a word with its event is as it should be when the word is not empty and no
newline is counted that the word does not have. -/
theorem Steps.ending {event : Event} (whole : source = before ++ spelled ++ rest)
    (nonempty : spelled ≠ [])
    (span : event.span = ⟨before.byteLength, (before ++ spelled).byteLength⟩)
    (stepped : step source limit (standing stage before spelled) =
      .ok (some event, standing .between before spelled))
    (counted : stage.counted spelled ≤ spelled.newlines) :
    Steps source limit (standing stage before spelled) := by
  refine ⟨some event, _, stepped, .between whole, Nat.add_le_add_left counted _, ?_⟩
  intro own same
  exact Option.some.inj same ▸ event_within_of_spelled whole nonempty span

/-- The step behind the first character of a word is as it should be, whatever the character is
and whatever follows. -/
theorem steps_read {character : Char} (fits : source.byteLength < limit)
    (whole : source = before ++ character :: rest) :
    Steps source limit (standing (.read character) before [character]) := by
  have apart : source = before ++ [character] ++ rest := by simpa using whole
  have nonempty : [character] ≠ [] := List.cons_ne_nil _ _
  -- The cases come in the order in which the step tries the character.
  by_cases quote : character = '"'
  · subst quote
    exact .quiet step_read_quote (.string apart) (Nat.le_refl _)
  by_cases slash : character = '/'
  · subst slash
    by_cases double : rest.head? = some '/'
    · obtain ⟨content, rfl⟩ := List.head?_eq_some_iff.mp double
      exact .quiet (step_read_comment fits apart) (.comment (by simpa using whole))
        (Nat.le_refl _)
    · exact .ending apart nonempty rfl (step_read_slash apart double) (Nat.zero_le _)
  by_cases newline : character = '\n'
  · subst newline
    exact .quiet (step_read_newline fits apart) (.between apart) (Nat.le_add_right _ _)
  by_cases blank : Word.isBlank character = true
  · exact .quiet (step_read_blank blank newline) (.between apart) (Nat.le_add_right _ _)
  cases found : Symbol.ofChar? character with
  | none =>
      have stray : Word.IsStray character := Word.isStray_iff.mpr ⟨blank, quote, found⟩
      exact .ending apart nonempty rfl (step_read_stray stray) (Nat.zero_le _)
  | some mark =>
      have notSlash := Word.ne_slash_of_ofChar? found slash
      by_cases equals : mark.withEqual? ≠ none ∧ rest.head? = some '='
      · obtain ⟨long, grown⟩ := Option.ne_none_iff_exists'.mp equals.1
        obtain ⟨following, rfl⟩ := List.head?_eq_some_iff.mp equals.2
        exact .quiet (step_read_grown fits found grown apart) (.grown (by simpa using whole))
          (Nat.le_add_right _ _)
      · have ungrown : mark.withEqual? ≠ none → rest.head? ≠ some '=' :=
          fun grows found => equals ⟨grows, found⟩
        exact .ending apart nonempty rfl (step_read_symbol notSlash found apart ungrown)
          (Nat.zero_le _)

/-- A step in a comment is as it should be. -/
theorem steps_comment (fits : source.byteLength < limit)
    (whole : source = before ++ spelled ++ rest) :
    Steps source limit (standing .comment before spelled) := by
  rcases rest with - | ⟨character, others⟩
  · exact .quiet (step_comment_end whole (.inl rfl)) (.between whole) (Nat.le_refl _)
  · by_cases newline : character = '\n'
    · subst newline
      exact .quiet (step_comment_end whole (.inr rfl)) (.between whole) (Nat.le_refl _)
    · have behind : source = before ++ (spelled ++ [character]) ++ others := by
        rw [whole]
        simp
      refine .quiet (step_comment fits whole newline) (.comment behind) ?_
      simp [standing, Stage.counted, newlines_singleton newline]

/-- A step in a string is as it should be. -/
theorem steps_string {value : Text} (fits : source.byteLength < limit)
    (whole : source = before ++ '"' :: value ++ rest) :
    Steps source limit (standing .string before ('"' :: value)) := by
  rcases rest with - | ⟨character, others⟩
  · rw [List.append_nil] at whole
    have ended : source = before ++ '"' :: value ++ [] := by rw [whole, List.append_nil]
    exact .ending ended (List.cons_ne_nil _ _) rfl (step_string_end whole) (Nat.le_refl _)
  · by_cases quote : character = '"'
    · subst quote
      have around : source = before ++ ('"' :: value ++ ['"']) ++ others := by
        rw [whole]
        simp
      refine .quiet (step_string_quote fits whole) (.closed around) ?_
      exact Nat.add_le_add_left (Text.newlines_le_of_prefix (List.prefix_append _ _)) _
    · by_cases newline : character = '\n'
      · subst newline
        exact .quiet (step_string_newline fits whole (newlines_lt_byteLength_quote value))
          (.breaking whole) (Nat.le_succ _)
      · have behind : source = before ++ '"' :: (value ++ [character]) ++ others := by
          rw [whole]
          simp
        refine .quiet (step_string fits whole quote newline) (.string behind) ?_
        exact Nat.add_le_add_left (Text.newlines_le_of_prefix (List.prefix_append _ _)) _

/-- **Every step.** Where reading is sound, the next step is not refused and keeps it sound. -/
theorem Sound.steps (sound : Sound source point) (fits : source.byteLength < limit) :
    Steps source limit point := by
  cases sound with
  | @between before spelled rest whole =>
      rcases rest with - | ⟨character, others⟩
      · have ended : source = before ++ spelled := by rw [whole, List.append_nil]
        refine ⟨_, _, step_between_end ended, .between whole, Nat.le_refl _, ?_⟩
        intro own same
        rw [← Option.some.inj same]
        exact ⟨Nat.le_refl _, by simp [Event.span, Token.endOfFile, Position.origin],
          .inl ⟨_, rfl⟩⟩
      · refine .quiet (step_between whole) (.marked whole) ?_
        simp [standing, marking, Stage.counted, Nat.add_assoc]
  | @marked before spelled rest character whole =>
      exact .quiet step_marking (.opened whole) (Nat.le_refl _)
  | opened whole => exact .quiet (step_opened fits whole) (.read whole) (Nat.le_refl _)
  | read whole => exact steps_read fits whole
  | grown whole =>
      exact .ending whole (List.cons_ne_nil _ _) rfl (step_grown whole) (Nat.le_refl _)
  | comment whole => exact steps_comment fits whole
  | string whole => exact steps_string fits whole
  | @breaking before value rest whole =>
      have behind : source = before ++ '"' :: (value ++ ['\n']) ++ rest := by
        rw [whole]
        simp
      refine .quiet (step_breaking fits whole) (.string behind) ?_
      exact Nat.add_le_add_left (Nat.le_of_eq (Text.newlines_append _ ['\n']).symm) _
  | closed whole =>
      exact .ending whole (List.cons_ne_nil _ _) rfl (step_closed fits whole) (Nat.le_refl _)

/-- Reading is sound at every point that it comes to. -/
theorem sound_of_reached (fits : source.byteLength < limit) (reached : Reached source limit point) :
    Sound source point := by
  induction reached with
  | origin => exact .between (show source = [] ++ [] ++ source from rfl)
  | step _ stepped ih =>
      obtain ⟨event?, following, own, sound, -⟩ := ih.steps fits
      have same := Except.ok.inj (own.symm.trans stepped)
      rw [← (Prod.mk.inj same).2]
      exact sound

end Cursor

/-! ### Readers -/

/-- Readers that any reading of a source leads to, whoever receives the faults: token by token,
from a feed, or until a feed has ended. -/
inductive Reader.Reached (source : Text) : Reader → Prop
  | start : Reached source (.ofSource source)
  | next {State : Type} {reader : Reader} (receive : Receive State) (received : State) :
      Reached source reader → Reached source (reader.next receive received).reader
  | pull {State : Type} {feed : Feed State} (receive : Receive State) :
      Reached source feed.reader → Reached source (feed.next receive).2.reader
  | collect {State : Type} {feed : Feed State} (receive : Receive State) :
      Reached source feed.reader → Reached source (feed.collect receive).2.reader

namespace Cursor

variable {source : Text} {limit : Nat} {reader : Reader}

/-- A reader stands where a cursor comes to between words. -/
def Followed (source : Text) (limit : Nat) (reader : Reader) : Prop :=
  ∃ front last : Text, source = front ++ last ++ reader.rest ∧
    reader.position = Position.origin.after (front ++ last) ∧
    Reached source limit (standing .between front last)

/-- Reading a token keeps a reader where a cursor comes to. -/
theorem Followed.next {State : Type} (followed : Followed source limit reader)
    (fits : source.byteLength < limit) (receive : Receive State) (received : State) :
    Followed source limit (reader.next receive received).reader := by
  obtain ⟨front, last, whole, place, reached⟩ := followed
  obtain ⟨faults, front', last', whole', place', runs, -⟩ :=
    runs_next fits receive reader received whole place
  exact ⟨front', last', whole', place', reached.of_runs runs⟩

/-- Taking a token from a feed keeps its reader where a cursor comes to, even when the feed has
ended. -/
theorem Followed.pull {State : Type} {feed : Feed State}
    (followed : Followed source limit feed.reader) (fits : source.byteLength < limit)
    (receive : Receive State) : Followed source limit (feed.next receive).2.reader := by
  unfold Feed.next
  split
  · exact followed
  · exact followed.next fits receive feed.received

/-- Taking every token that a feed has left keeps its reader where a cursor comes to. -/
theorem Followed.collect {State : Type} {feed : Feed State}
    (followed : Followed source limit feed.reader) (fits : source.byteLength < limit)
    (receive : Receive State) : Followed source limit (feed.collect receive).2.reader := by
  fun_induction Feed.collect receive feed with
  | case1 feed following yielded =>
      have onward := followed.pull fits receive
      rwa [yielded] at onward
  | case2 feed token following yielded others ih =>
      have onward := followed.pull fits receive
      rw [yielded] at onward
      exact ih onward

/-- Every reader of a source stands where a cursor comes to. -/
theorem followed_of_reached (fits : source.byteLength < limit)
    (reached : Reader.Reached source reader) : Followed source limit reader := by
  induction reached with
  | start => exact ⟨[], [], rfl, rfl, .origin⟩
  | next receive received _ ih => exact ih.next fits receive received
  | pull receive _ ih => exact ih.pull fits receive
  | collect receive _ ih => exact ih.collect fits receive

end Cursor

/-- Every event of a source takes bytes of the source. -/
theorem Event.within_of_mem {source : Text} {event : Event} (member : event ∈ ofSource source) :
    event.Within source := by
  rw [ofSource_eq_tape, List.mem_append] at member
  rcases member with inside | last
  · rw [Tape.ofSource, ofSource, dropLast_ofWords] at inside
    obtain ⟨place, placed, happens⟩ := List.mem_filterMap.mp inside
    obtain ⟨following, whole, -⟩ := (Word.cut_words source).fits_of_mem_placed placed
    rw [List.nil_append] at whole
    exact Cursor.event_within_of_spelled whole place.2.spelling_ne_nil
      (span_of_placedEvent? happens)
  · rw [List.mem_singleton.mp last]
    exact ⟨Nat.le_refl _, by simp [span, Tape.ofSource, Token.endOfFile, Position.origin],
      .inl ⟨_, rfl⟩⟩

/-- An event within its source has a length. -/
theorem Event.Within.exists_length {source : Text} {event : Event} (within : event.Within source) :
    ∃ count, event.span.length = .ok count :=
  ⟨event.span.stop - event.span.start, (Span.length_eq_ok_iff _ _).mpr (by
    have := within.start_le
    omega)⟩

/-- **Reading in place is never refused.** Let the greatest number be beyond the length of a
source. At every point that a cursor comes to, it is within the source and between characters,
its counts are in bounds, and the next step is not refused, does not go back by a line, and
has no event but one within the source. Whatever reading of the source a reader comes from, a
cursor comes to where the reader stands, and goes on from there as the reader does, whoever
receives the faults. The tokens and the faults of the source take bytes of the source, none
but its end takes no byte, and each fault has a report. -/
theorem cursor_never_refused {source : Text} {limit : Nat} (fits : source.byteLength < limit) :
    (∀ point, Cursor.Reached source limit point →
      point.cursor.Within source ∧ point.cursor.current ≤ limit ∧ point.cursor.line ≤ limit ∧
      ∃ event? following, Cursor.step source limit point = .ok (event?, following) ∧
        point.cursor.line ≤ following.cursor.line ∧
        ∀ event ∈ event?, event.Within source) ∧
    (∀ reader, Reader.Reached source reader →
      ∃ point, Cursor.Reached source limit point ∧ Cursor.StandsAt source point reader ∧
        ∀ {State : Type} (receive : Receive State) (received : State),
          ∃ (faults : List Fault) (following : Cursor.Point),
            Cursor.Runs source limit point
              (faults.map Event.fault ++ [.token (reader.next receive received).token])
              following ∧
            Cursor.StandsAt source following (reader.next receive received).reader ∧
            (reader.next receive received).received = faults.foldl receive received) ∧
    (∀ token ∈ (lex source).tokens,
      (Event.token token).Within source ∧ ∃ count, token.span.length = .ok count) ∧
    ∀ fault ∈ (lex source).faults,
      (Event.fault fault).Within source ∧ (∃ count, fault.span.length = .ok count) ∧
        ∀ (style : Style) (filename : Text),
          ∃ report, Report.draw style source filename fault = .ok report := by
  refine ⟨fun point reached => ?_, fun reader reached => ?_, fun token member => ?_,
    fun fault member => ?_⟩
  · have sound := Cursor.sound_of_reached fits reached
    obtain ⟨event?, following, stepped, -, lines, events⟩ := sound.steps fits
    have within := sound.within
    have current := within.current_le
    have line := within.line_le
    exact ⟨within, by omega, by omega, event?, following, stepped, lines, events⟩
  · obtain ⟨front, last, whole, place, comes⟩ := Cursor.followed_of_reached fits reached
    refine ⟨_, comes, Cursor.standsAt_standing whole place, ?_⟩
    intro State receive received
    obtain ⟨faults, front', last', whole', place', runs, heard⟩ :=
      Cursor.runs_next fits receive reader received whole place
    exact ⟨faults, _, runs, Cursor.standsAt_standing whole' place', heard⟩
  · obtain ⟨event, happens, read⟩ := List.mem_filterMap.mp member
    have within := Event.within_of_mem happens
    cases event with
    | token own => exact Option.some.inj read ▸ ⟨within, within.exists_length⟩
    | fault met => cases read
  · obtain ⟨event, happens, found⟩ := List.mem_filterMap.mp member
    have within := Event.within_of_mem happens
    cases event with
    | token own => cases found
    | fault met =>
        obtain rfl : met = fault := Option.some.inj found
        refine ⟨within, within.exists_length, fun style filename => ?_⟩
        obtain ⟨rest, drawn⟩ := Report.exists_draw within.start_le
        exact ⟨_, drawn⟩

/-- A string left open behind a character of two bytes and a newline. -/
theorem cursor_never_refused_open_string :
    let source : Text := ['"', '\u00e9', '\n']
    let unclosed : Fault := ⟨.unterminated, 2, ⟨0, 4⟩⟩
    source.byteLength < 2 ^ 64 - 1 ∧
      (∃ event? following,
        Cursor.step source (2 ^ 64 - 1) (Cursor.standing .string [] ['"', '\u00e9']) =
          .ok (event?, following)) ∧
      unclosed ∈ (lex source).faults ∧
      ∃ report, Report.draw .plain source ['f'] unclosed = .ok report := by
  intro source unclosed
  have fits : source.byteLength < 2 ^ 64 - 1 := by decide
  obtain ⟨points, -, -, faults⟩ := cursor_never_refused fits
  have met : unclosed ∈ (lex source).faults := by decide +kernel
  have within : Cursor.Reached source (2 ^ 64 - 1)
      (Cursor.standing .string [] ['"', '\u00e9']) := by
    exact Cursor.Reached.origin.step rfl |>.step rfl |>.step rfl |>.step rfl |>.step rfl
  obtain ⟨-, -, -, event?, following, stepped, -⟩ := points _ within
  exact ⟨fits, ⟨event?, following, stepped⟩, met, (faults _ met).2.2 .plain ['f']⟩

end LoxLexis
