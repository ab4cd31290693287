import LoxLexis.Proofs.Report.Place
import LoxLexis.Proofs.Text.Columns
import Mathlib.Data.Bool.AllAny

/-!
# The characters of a report

Of its own a report has printable ASCII characters and the marks of its frame
(`Report.IsDrawing`). All other characters in it come from the source lines that it quotes, from
the filename, or from the label of the fault (`Report.within_rows`).
-/

namespace LoxLexis

namespace Row

variable {kind : Char → Prop}

/-- Whether all characters of a row are of a kind. -/
def Within (kind : Char → Prop) (row : Row) : Prop :=
  ∀ run ∈ row, ∀ character ∈ run.text, kind character

@[simp] theorem within_nil : Within kind [] :=
  List.forall_mem_nil _

theorem within_cons {run : Run} {row : Row} :
    Within kind (run :: row) ↔ (∀ character ∈ run.text, kind character) ∧ Within kind row :=
  List.forall_mem_cons

@[simp] theorem within_bare_cons {text : Text} {row : Row} :
    Within kind (.bare text :: row) ↔ (∀ character ∈ text, kind character) ∧ Within kind row :=
  within_cons

@[simp] theorem within_inked_cons {ink : Ink} {text : Text} {row : Row} :
    Within kind (.inked ink text :: row) ↔
      (∀ character ∈ text, kind character) ∧ Within kind row :=
  within_cons

@[simp] theorem within_append {left right : Row} :
    Within kind (left ++ right) ↔ Within kind left ∧ Within kind right :=
  List.forall_mem_append

@[simp] theorem within_flatMap {α : Type} {list : List α} {part : α → Row} :
    Within kind (list.flatMap part) ↔ ∀ element ∈ list, Within kind (part element) :=
  List.forall_mem_flatMap

/-- Characters of a kind are of any wider kind. -/
theorem Within.mono {other : Char → Prop} {row : Row} (within : Within kind row)
    (weaker : ∀ character, kind character → other character) : Within other row :=
  fun run member character inside => weaker character (within run member character inside)

theorem within_replicate {run : Run} (ofRun : ∀ character ∈ run.text, kind character)
    (count : Nat) : Within kind (List.replicate count run) := by
  intro other member
  rw [List.eq_of_mem_replicate member]
  exact ofRun

/-- What is written for a row without colours has the characters of the row. -/
theorem Within.of_mem_render {row : Row} (within : Within kind row) {character : Char}
    (member : character ∈ render .plain row) : kind character := by
  induction row with
  | nil => cases member
  | cons run others ih =>
      rw [within_cons] at within
      rw [render_plain_cons, List.mem_append] at member
      exact member.elim (within.1 character) (ih within.2)

end Row

theorem SourceLine.mem_of_at? {lines : List SourceLine} {offset : Nat} {line : SourceLine}
    (found : at? lines offset = some line) : line ∈ lines :=
  (List.takeWhile_sublist _).mem (List.mem_of_getLast? found)

/-- What is shown of a line stands in the source. -/
theorem SourceLine.visible_subset {source : Text} {line : SourceLine}
    (listed : line ∈ ofSource source) : line.visible ⊆ source := by
  have shown : line.visible ⊆ line.text := Text.subset_of_trimEnd _ _
  rcases eq_or_ne source [] with rfl | nonempty
  · rwa [List.mem_singleton.mp listed] at shown ⊢
  · rw [ofSource_of_ne_nil nonempty] at listed
    have cut : line.text ∈ cut source := by
      rw [← map_text_enumerate 1 0 (cut source)]
      exact List.mem_map_of_mem listed
    rw [← flatten_cut source]
    exact fun character member => List.mem_flatten_of_mem cut (shown member)

/-- The lines that a span touches are lines of the source. -/
theorem Region.mem_of_of? {source : Text} {span : Span} {region : Region}
    (found : Region.of? source span = some region) :
    region.first ∈ SourceLine.ofSource source ∧ region.last ∈ SourceLine.ofSource source := by
  rw [Region.of?] at found
  split at found
  · simp only at found
    split at found
    · next first last atStart atStop =>
        obtain rfl := Option.some.inj found
        exact ⟨SourceLine.mem_of_at? atStart, SourceLine.mem_of_at? atStop⟩
    · cases found
  · cases found

namespace Report

/-- Whether a character is one that faults are marked with. -/
def IsMark (character : Char) : Prop := character ∈ " │─┬╰".toList

/-- Whether a character is printable ASCII or a mark of the frame. -/
def IsDrawing (character : Char) : Prop :=
  (' ' ≤ character ∧ character ≤ '~') ∨ character ∈ "│─┬╰╭╯├▶".toList

instance : DecidablePred IsMark := fun character =>
  inferInstanceAs (Decidable (character ∈ " │─┬╰".toList))

instance : DecidablePred IsDrawing := fun character =>
  inferInstanceAs (Decidable ((' ' ≤ character ∧ character ≤ '~') ∨ _))

/-- The characters of a text that is written out can be tried one by one. -/
theorem isDrawing_of_all {text : Text} (all : text.all fun character => IsDrawing character) :
    ∀ character ∈ text, IsDrawing character :=
  List.all_iff_forall_prop.mp all

/-- The marks of a fault belong to what a report draws. -/
theorem IsMark.isDrawing {character : Char} (mark : IsMark character) : IsDrawing character :=
  @isDrawing_of_all " │─┬╰".toList rfl character mark

theorem isDrawing_of_mem_spaces {count : Nat} {character : Char}
    (member : character ∈ Text.spaces count) : IsDrawing character := by
  rw [List.eq_of_mem_replicate member]
  decide

theorem isDrawing_of_mem_ofNat {number : Nat} {character : Char}
    (member : character ∈ Text.ofNat number) : IsDrawing character :=
  .inl (Text.printable_of_mem_ofNat member)

/-- A report draws every character of its advice. -/
theorem isDrawing_of_advice? {cause : Cause} {advice : Text} (given : cause.advice? = some advice) :
    ∀ character ∈ advice, IsDrawing character := by
  cases cause with
  | unexpected character => cases given
  | unterminated =>
      obtain rfl := Option.some.inj given
      exact isDrawing_of_all rfl

variable {kind : Char → Prop}

section Marks

variable {first other : Run}

/-- Places under a line are drawn with the characters that each of them is drawn with. -/
theorem within_places {drawPlace : Nat → Nat → Row}
    (each : ∀ place width, Row.Within kind (drawPlace place width)) (widths : List Nat) :
    Row.Within kind (widths.zipIdx.flatMap fun (width, place) => drawPlace place width) :=
  Row.within_flatMap.mpr fun pair _ => each pair.2 pair.1

/-- A place is drawn with the characters of its two runs. -/
theorem within_stretch (ofFirst : ∀ character ∈ first.text, kind character)
    (ofOther : ∀ character ∈ other.text, kind character) (count : Nat) :
    Row.Within kind (stretch first other count) := by
  cases count with
  | zero => exact Row.within_nil
  | succ extra => exact Row.within_cons.mpr ⟨ofFirst, Row.within_replicate ofOther extra⟩

/-- The row of marks holds marks alone. -/
theorem within_underlineAt (span : Span) (line : SourceLine) (place width : Nat) :
    Row.Within IsMark (underlineAt span line place width) := by
  simp only [underlineAt]
  split_ifs <;> exact within_stretch (List.all_iff_forall_prop.mp rfl)
    (List.all_iff_forall_prop.mp rfl) width

/-- The row of the label holds marks alone before the label. -/
theorem within_elbowAt (span : Span) (line : SourceLine) (place width : Nat) :
    Row.Within IsMark (elbowAt span line place width) := by
  simp only [elbowAt]
  split_ifs <;> exact within_stretch (List.all_iff_forall_prop.mp rfl)
    (List.all_iff_forall_prop.mp rfl) width

/-- Before the advice there are marks alone. -/
theorem within_adviceIndent (source : Text) (span : Span) (region : Region) :
    Row.Within IsMark (adviceIndent source span region) := by
  simp only [adviceIndent]
  split_ifs
  · exact Row.within_nil
  · simp only [Row.within_bare_cons, Row.within_inked_cons, Row.within_nil, and_true]
    exact ⟨List.all_iff_forall_prop.mp rfl, List.all_iff_forall_prop.mp rfl⟩
  · simp only [Row.within_bare_cons, Row.within_nil, and_true]
    exact List.all_iff_forall_prop.mp rfl

end Marks

section Frame

/-- The row under the place is drawn by the report itself. -/
theorem within_spacer (digits : Nat) : Row.Within IsDrawing (Frame.spacer digits) := by
  simp only [Frame.spacer, Row.within_bare_cons, Row.within_inked_cons, Row.within_nil, and_true]
  exact ⟨fun _ => isDrawing_of_mem_spaces, isDrawing_of_all rfl⟩

/-- The row that closes the frame is drawn by the report itself. -/
theorem within_closing (digits : Nat) : Row.Within IsDrawing (Frame.closing digits) := by
  simp only [Frame.closing, Row.within_inked_cons, Row.within_nil, and_true,
    List.forall_mem_append, List.forall_mem_replicate]
  exact ⟨.inr (by decide), isDrawing_of_all rfl⟩

/-- The margin with a number is drawn by the report itself. -/
theorem within_numbered (digits number : Nat) :
    Row.Within IsDrawing (Frame.numbered digits number) := by
  simp only [Frame.numbered, Row.within_bare_cons, Row.within_inked_cons, Row.within_nil,
    and_true, List.forall_mem_append]
  exact ⟨isDrawing_of_all rfl, ⟨⟨fun _ => isDrawing_of_mem_spaces,
    fun _ => isDrawing_of_mem_ofNat⟩, isDrawing_of_all rfl⟩, isDrawing_of_all rfl⟩

/-- The margin without a number adds to its mark what the report draws itself. -/
theorem within_unnumbered (own : ∀ character, IsDrawing character → kind character) (digits : Nat)
    {mark : Char} (drawn : kind mark) : Row.Within kind (Frame.unnumbered digits mark) := by
  have space : kind ' ' := own ' ' (by decide)
  simp only [Frame.unnumbered, Row.within_bare_cons, Row.within_inked_cons, Row.within_nil,
    and_true, List.forall_mem_append, List.forall_mem_singleton]
  exact ⟨space, ⟨fun _ member => own _ (isDrawing_of_mem_spaces member), drawn⟩, space⟩

end Frame

/-! ### All characters that a report can have -/

section Rows

variable (own : ∀ character, IsDrawing character → kind character)
include own

/-- What the report draws itself is of any kind that has all of those characters. -/
theorem of_forall_isDrawing {text : Text} (drawn : ∀ character ∈ text, IsDrawing character) :
    ∀ character ∈ text, kind character :=
  fun character member => own character (drawn character member)

/-- The headline is drawn by the report itself, whatever the fault is. -/
theorem within_headline (fault : Fault) : Row.Within kind (headline fault) := by
  have worded : ∀ character ∈ fault.message, IsDrawing character := by
    rw [Fault.message]
    cases fault.cause <;> exact isDrawing_of_all rfl
  have written : Row.Within IsDrawing (headline fault) := by
    simp only [headline, Row.within_bare_cons, Row.within_inked_cons, Row.within_nil, and_true,
      List.cons_append, List.forall_mem_cons, List.forall_mem_append]
    exact ⟨isDrawing_of_all rfl, by decide,
      ⟨⟨worded, isDrawing_of_all rfl⟩, fun _ => isDrawing_of_mem_ofNat⟩, by decide,
      List.forall_mem_nil _⟩
  exact written.mono own

/-- The row of the place adds the characters of the filename. -/
theorem within_opening {filename : Text} (named : ∀ character ∈ filename, kind character)
    (digits line column : Nat) : Row.Within kind (Frame.opening digits filename line column) := by
  have spaces := of_forall_isDrawing own fun _ => @isDrawing_of_mem_spaces (digits + 2) _
  have number (count : Nat) := of_forall_isDrawing own fun _ => @isDrawing_of_mem_ofNat count _
  simp only [Frame.opening, Row.within_bare_cons, Row.within_inked_cons, Row.within_nil,
    List.cons_append, List.append_assoc, List.forall_mem_cons, List.forall_mem_append,
    List.mem_nil_iff, false_implies, implies_true, and_true]
  exact ⟨spaces, own '╭' (by decide), own '─' (by decide), own '[' (by decide),
    ⟨own ' ' (by decide), named, own ':' (by decide), number line, own ':' (by decide),
      number column, own ' ' (by decide)⟩, own ']' (by decide)⟩

/-- A quoted line adds the characters that are shown of the line. -/
theorem within_quote {line : SourceLine} (shown : ∀ character ∈ line.visible, kind character)
    (span : Span) : Row.Within kind (quote span line) := by
  rw [quote, Row.within_flatMap]
  rintro ⟨character, column⟩ member
  have ofSource : kind character := shown character (List.fst_mem_of_mem_zipIdx member)
  intro run drawn
  obtain ⟨other, among, rfl⟩ := List.mem_map.mp drawn
  refine List.forall_mem_singleton.mpr ?_
  unfold Text.drawnAt at among
  split at among
  · exact own other (isDrawing_of_mem_spaces among)
  · exact List.mem_singleton.mp among ▸ ofSource

/-- The rows of a single line add the characters of the line and of the label. -/
theorem within_singleRows {fault : Fault} {line : SourceLine}
    (shown : ∀ character ∈ line.visible, kind character)
    (labelled : ∀ character ∈ fault.cause.label, kind character) (digits : Nat) :
    ∀ row ∈ singleRows digits fault line, Row.Within kind row := by
  have numbered := (within_numbered digits line.number).mono own
  have unnumbered := within_unnumbered own digits (own '│' (by decide))
  have drawn (character : Char) (mark : IsMark character) := own character mark.isDrawing
  rw [singleRows]
  split
  · simp only [List.forall_mem_cons, List.mem_nil_iff, false_implies, implies_true, and_true,
      Row.within_append, Row.within_bare_cons, Row.within_nil]
    exact ⟨⟨numbered, within_quote own shown _⟩,
      ⟨unnumbered, (within_places (within_underlineAt fault.span line) _).mono drawn⟩,
      ⟨unnumbered, (within_places (within_elbowAt fault.span line) _).mono drawn⟩,
      own ' ' (by decide), labelled⟩
  · exact List.forall_mem_singleton.mpr unnumbered

/-- An end of several lines adds the characters of its line, behind a corner of the frame. -/
theorem within_joinedRow {line : SourceLine} {corner : Char}
    (shown : ∀ character ∈ line.visible, kind character) (drawn : IsDrawing corner)
    (digits : Nat) (span : Span) : Row.Within kind (joinedRow digits span corner line) := by
  simp only [joinedRow, Row.within_append, Row.within_inked_cons, Row.within_nil, and_true,
    List.forall_mem_singleton]
  exact ⟨⟨(within_numbered digits line.number).mono own, own corner drawn, own '─' (by decide),
    own '▶' (by decide), own ' ' (by decide)⟩, within_quote own shown span⟩

/-- The gap adds its own dots. -/
theorem within_gapRow (gap : kind '┆') (digits : Nat) : Row.Within kind (gapRow digits) := by
  simp only [gapRow, Row.within_append, Row.within_bare_cons, Row.within_inked_cons,
    Row.within_nil, and_true, List.forall_mem_singleton]
  exact ⟨within_unnumbered own digits gap, gap,
    of_forall_isDrawing own fun _ => isDrawing_of_mem_spaces⟩

/-- The rows at the last line add the characters of the line and of the label. -/
theorem within_lastRows {fault : Fault} {line : SourceLine}
    (shown : ∀ character ∈ line.visible, kind character)
    (labelled : ∀ character ∈ fault.cause.label, kind character) (digits : Nat) :
    ∀ row ∈ lastRows digits fault line, Row.Within kind row := by
  have unnumbered := within_unnumbered own digits (own '│' (by decide))
  have spaces (count : Nat) := of_forall_isDrawing own fun _ => @isDrawing_of_mem_spaces count _
  have bar : ∀ character ∈ (Run.inked .fault ['─']).text, kind character :=
    List.forall_mem_singleton.mpr (own '─' (by decide))
  simp only [lastRows, List.forall_mem_cons, List.mem_nil_iff, false_implies, implies_true,
    and_true, Row.within_append, Row.within_bare_cons, Row.within_inked_cons, Row.within_nil,
    Row.within_flatMap]
  have blanks : Row.Within kind
      ((line.widths (line.text.length + 2)).map fun width => .bare (Text.spaces width)) := by
    intro run member
    obtain ⟨width, -, rfl⟩ := List.mem_map.mp member
    exact spaces width
  exact ⟨within_joinedRow own shown (by decide) digits _,
    ⟨⟨unnumbered, own '│' (by decide), spaces 3⟩, blanks⟩,
    ⟨⟨⟨unnumbered, own '╰' (by decide)⟩, Row.within_replicate bar 3⟩,
      fun width _ => Row.within_replicate bar width⟩, own ' ' (by decide), labelled⟩

/-- The rows of several lines add the characters of both ends, of the gap and of the label. -/
theorem within_joinedRows {fault : Fault} {region : Region}
    (shownFirst : ∀ character ∈ region.first.visible, kind character)
    (shownLast : ∀ character ∈ region.last.visible, kind character) (gap : kind '┆')
    (labelled : ∀ character ∈ fault.cause.label, kind character) (digits : Nat) :
    ∀ row ∈ joinedRows digits fault region, Row.Within kind row := by
  simp only [joinedRows, List.cons_append, List.forall_mem_cons, List.forall_mem_append]
  refine ⟨within_joinedRow own shownFirst (by decide) digits _, ?_, ?_⟩
  · split
    · exact List.forall_mem_singleton.mpr (within_gapRow own gap digits)
    · exact List.forall_mem_nil _
  · split
    · exact within_lastRows own shownLast labelled digits
    · exact List.forall_mem_nil _

/-- The rows of advice add what stands before the advice, and the advice. -/
theorem within_adviceRows {indent : Row} {advice : Text} (indented : Row.Within kind indent)
    (advised : ∀ character ∈ advice, kind character) (digits : Nat) :
    ∀ row ∈ adviceRows digits indent advice, Row.Within kind row := by
  have unnumbered := within_unnumbered own digits (own '│' (by decide))
  have help : ∀ character ∈ "Help".toList, kind character :=
    of_forall_isDrawing own (isDrawing_of_all rfl)
  simp only [adviceRows, List.forall_mem_cons, List.mem_nil_iff, false_implies, implies_true,
    and_true, Row.within_append, Row.within_bare_cons, Row.within_inked_cons, Row.within_nil,
    List.forall_mem_append]
  exact ⟨⟨unnumbered, indented⟩, ⟨unnumbered, indented⟩, help,
    of_forall_isDrawing own (isDrawing_of_all rfl), advised⟩

/-- **The characters of a report.** They are its own and those of the filename, of the label, and
of what is shown of the source lines. -/
theorem within_rows {source filename : Text} {fault : Fault} {drawn : List Row}
    (found : rows source filename fault = .ok drawn) (gap : kind '┆')
    (named : ∀ character ∈ filename, kind character)
    (shown : ∀ line ∈ SourceLine.ofSource source, ∀ character ∈ line.visible, kind character)
    (labelled : ∀ character ∈ fault.cause.label, kind character) :
    ∀ row ∈ drawn, Row.Within kind row := by
  rw [rows] at found
  split at found
  · cases found
  · split at found
    · obtain rfl := Except.ok.inj found
      exact List.forall_mem_singleton.mpr (within_headline own fault)
    · next region touched =>
        obtain rfl := Except.ok.inj found
        obtain ⟨isFirst, isLast⟩ := Region.mem_of_of? touched
        simp only [framedRows, List.forall_mem_cons, List.forall_mem_append,
          List.mem_nil_iff, false_implies, implies_true, and_true]
        refine ⟨within_headline own fault, ⟨⟨⟨within_opening own named _ _ _,
          (within_spacer _).mono own⟩, ?_⟩, ?_⟩, (within_closing _).mono own⟩
        · split
          · exact within_singleRows own (shown _ isFirst) labelled _
          · exact within_joinedRows own (shown _ isFirst) (shown _ isLast) gap labelled _
        · split
          · next advice given =>
              exact within_adviceRows own ((within_adviceIndent source fault.span region).mono
                fun character mark => own character mark.isDrawing)
                (of_forall_isDrawing own (isDrawing_of_advice? given)) _
          · exact List.forall_mem_nil _

end Rows

end Report

end LoxLexis
