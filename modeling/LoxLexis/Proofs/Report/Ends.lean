import LoxLexis.Proofs.Report.Characters
import LoxLexis.Proofs.Report.Picture

/-!
# The ends of a string in a picture

The report of an open string has rows above and below those that quote the lines of its ends
(`Report.openPicture`). A row that quotes a line has the number of the line in its margin, and no
other row has a number there (`Report.filterMap_marginNumber?_openPicture`). The label ends one row
below the quoted lines (`Report.countP_label_openFoot`), and the sign for a gap stands in a row of
its own or nowhere (`Report.gap_mem_openPicture_iff`).
-/

namespace LoxLexis

namespace Report

/-- The number in the margin of a row, if there is one. -/
def marginNumber? (row : Text) : Option Text :=
  let number := (row.dropWhile fun character => character = ' ').takeWhile Char.isDigit
  if number = [] then none else some number

/-- The rows behind the last one with a number in its margin. -/
def rowsBehind (rows : List Text) : List Text :=
  rows.rtakeWhile fun row => (marginNumber? row).isNone

/-- A line as it is quoted, with its tabulators expanded and without the white space at its end. -/
def quoted (line : Text) : Text :=
  Text.expandTabs 0 (Text.trimEnd Text.isWhite line)

/-- The rows above the ends of an open string: the headline, the place, and the frame. -/
def openHead (filename : Text) (number digits line column : Nat) : List Text :=
  ["Error: Unterminated string (line ".toList ++ Text.ofNat number ++ [')'],
    Text.spaces (digits + 2) ++ "╭─[ ".toList ++ location filename line column ++ " ]".toList,
    Text.spaces (digits + 2) ++ ['│']]

/-- The row that stands for the lines between the ends of an open string. -/
def gapText (digits : Nat) : Text :=
  Text.spaces (digits + 2) ++ "┆ ┆   ".toList

/-- The lines of both ends of an open string under their numbers, and a gap between them when
there are others. -/
def endRows (first last : Nat) (firstLine lastLine : Text) : List Text :=
  let digits := (Text.ofNat last).length
  if first = last then [numberMargin digits last ++ quoted lastLine]
  else
    (numberMargin digits first ++ "╭─▶ ".toList ++ quoted firstLine) ::
      (if first + 1 < last then [gapText digits] else []) ++
      [numberMargin digits last ++ "├─▶ ".toList ++ quoted lastLine]

/-- The rows below the ends of an open string: the marks, the label, the advice, and the end of
the frame. -/
def openFoot (last : Nat) (marks elbow indent : Text) : List Text :=
  [markMargin last ++ marks,
    markMargin last ++ elbow ++ ' ' :: Cause.unterminated.label,
    markMargin last ++ indent,
    markMargin last ++ indent ++ "Help: add a closing '\"'".toList,
    List.replicate ((Text.ofNat last).length + 2) '─' ++ ['╯']]

/-- The lines of the report of an open string. -/
def openPicture (filename : Text) (number column first last : Nat)
    (firstLine lastLine marks elbow indent : Text) : List Text :=
  openHead filename number (Text.ofNat last).length first column ++
    endRows first last firstLine lastLine ++ openFoot last marks elbow indent

section Numbers

/-- The number in a margin is read back, whatever the row goes on with. -/
theorem marginNumber?_numberMargin (digits number : Nat) (rest : Text) :
    marginNumber? (numberMargin digits number ++ rest) = some (Text.ofNat number) := by
  have spaces (count : Nat) : ∀ character ∈ Text.spaces count, decide (character = ' ') = true := by
    simp [Text.spaces]
  have allDigits : ∀ character ∈ Text.ofNat number, character.isDigit = true :=
    fun _ => Text.isDigit_of_mem_ofNat
  have nonempty : Text.ofNat number ≠ [] := Nat.toDigits_ne_nil
  have split : numberMargin digits number ++ rest =
      Text.spaces (digits - (Text.ofNat number).length + 1) ++
        (Text.ofNat number ++ ' ' :: '│' :: ' ' :: rest) := by
    simp [numberMargin, Text.spaces, List.replicate_succ]
  have stops : (Text.ofNat number ++ ' ' :: '│' :: ' ' :: rest).dropWhile
      (fun character => decide (character = ' ')) =
        Text.ofNat number ++ ' ' :: '│' :: ' ' :: rest := by
    obtain ⟨first, others, shown⟩ := List.exists_cons_of_ne_nil nonempty
    rw [shown, List.forall_mem_cons] at allDigits
    have notSpace : first ≠ ' ' := by
      rintro rfl
      cases allDigits.1
    rw [shown, List.cons_append, List.dropWhile_cons_of_neg (by simpa using notSpace)]
  have taken : (Text.ofNat number ++ ' ' :: '│' :: ' ' :: rest).takeWhile Char.isDigit =
      Text.ofNat number := by
    rw [List.takeWhile_append_of_pos allDigits, List.takeWhile_cons_of_neg (by decide),
      List.append_nil]
  rw [marginNumber?, split, List.dropWhile_append_of_pos (spaces _), stops, taken,
    if_neg nonempty]

/-- A row whose first mark is no digit has no number. -/
theorem marginNumber?_eq_none {mark : Char} (plain : mark ≠ ' ' ∧ ¬ mark.isDigit) (count : Nat)
    (rest : Text) : marginNumber? (Text.spaces count ++ mark :: rest) = none := by
  have spaces : ∀ character ∈ Text.spaces count, decide (character = ' ') = true := by
    simp [Text.spaces]
  rw [marginNumber?, List.dropWhile_append_of_pos spaces,
    List.dropWhile_cons_of_neg (by simpa using plain.1), List.takeWhile_cons_of_neg plain.2,
    if_pos rfl]

/-- A row under a source line has no number. -/
theorem marginNumber?_markMargin (last : Nat) (rest : Text) :
    marginNumber? (markMargin last ++ rest) = none := by
  have bar : '│' ≠ ' ' ∧ ¬ '│'.isDigit := by decide
  have split : markMargin last ++ rest =
      Text.spaces ((Text.ofNat last).length + 2) ++ '│' :: ' ' :: rest := by simp [markMargin]
  rw [split]
  exact marginNumber?_eq_none bar _ _

/-- No row above the ends of the string has a number. -/
theorem marginNumber?_openHead (filename : Text) (number digits line column : Nat) :
    ∀ row ∈ openHead filename number digits line column, marginNumber? row = none := by
  have letter : 'E' ≠ ' ' ∧ ¬ 'E'.isDigit := by decide
  have corner : '╭' ≠ ' ' ∧ ¬ '╭'.isDigit := by decide
  have bar : '│' ≠ ' ' ∧ ¬ '│'.isDigit := by decide
  have headline : marginNumber? ("Error: Unterminated string (line ".toList ++
      (Text.ofNat number ++ [')'])) = none :=
    marginNumber?_eq_none letter 0 _
  have place := marginNumber?_eq_none corner (digits + 2)
    ("─[ ".toList ++ location filename line column ++ " ]".toList)
  have frame := marginNumber?_eq_none bar (digits + 2) []
  simp only [openHead, List.forall_mem_cons, List.mem_nil_iff, false_implies, implies_true,
    and_true, List.append_assoc]
  exact ⟨headline, place, frame⟩

/-- No row below the ends of the string has a number. -/
theorem marginNumber?_openFoot (last : Nat) (marks elbow indent : Text) :
    ∀ row ∈ openFoot last marks elbow indent, marginNumber? row = none := by
  have unnumbered := marginNumber?_markMargin last
  have rule : '─' ≠ ' ' ∧ ¬ '─'.isDigit := by decide
  have closing :
      marginNumber? (List.replicate ((Text.ofNat last).length + 2) '─' ++ ['╯']) = none :=
    marginNumber?_eq_none rule 0 _
  simp only [openFoot, List.forall_mem_cons, List.mem_nil_iff, false_implies, implies_true,
    and_true, List.append_assoc]
  exact ⟨unnumbered _, unnumbered _, unnumbered _, unnumbered _, closing⟩

theorem marginNumber?_gapText (digits : Nat) : marginNumber? (gapText digits) = none := by
  have dots : '┆' ≠ ' ' ∧ ¬ '┆'.isDigit := by decide
  exact marginNumber?_eq_none dots (digits + 2) _

variable (first last : Nat) (firstLine lastLine : Text)

/-- The ends of the string have the numbers of their lines, one when they share a line. -/
theorem filterMap_marginNumber?_endRows :
    (endRows first last firstLine lastLine).filterMap marginNumber? =
      if first = last then [Text.ofNat last] else [Text.ofNat first, Text.ofNat last] := by
  have gap : (if first + 1 < last then [gapText (Text.ofNat last).length] else []).filterMap
      marginNumber? = [] := by
    split
    · rw [List.filterMap_cons_none (marginNumber?_gapText _), List.filterMap_nil]
    · rfl
  simp only [endRows, List.append_assoc]
  split
  · rw [List.filterMap_cons_some (marginNumber?_numberMargin ..), List.filterMap_nil]
  · rw [List.cons_append, List.filterMap_cons_some (marginNumber?_numberMargin ..),
      List.filterMap_append, gap, List.nil_append,
      List.filterMap_cons_some (marginNumber?_numberMargin ..), List.filterMap_nil]

/-- The rows with a number are those of the ends of the string. -/
theorem filterMap_marginNumber?_openPicture (filename : Text) (number column : Nat)
    (marks elbow indent : Text) :
    (openPicture filename number column first last firstLine lastLine marks elbow
        indent).filterMap marginNumber? =
      if first = last then [Text.ofNat last] else [Text.ofNat first, Text.ofNat last] := by
  have above := List.filterMap_eq_nil_iff.mpr
    (marginNumber?_openHead filename number (Text.ofNat last).length first column)
  have below := List.filterMap_eq_nil_iff.mpr (marginNumber?_openFoot last marks elbow indent)
  rw [openPicture, List.filterMap_append, List.filterMap_append, above, below,
    filterMap_marginNumber?_endRows, List.nil_append, List.append_nil]

/-- The last line is the last row of the ends. -/
theorem exists_endRows_concat : ∃ others rest,
    endRows first last firstLine lastLine =
      others ++ [numberMargin (Text.ofNat last).length last ++ rest] := by
  simp only [endRows]
  split
  · exact ⟨[], _, rfl⟩
  · rw [List.append_assoc (numberMargin _ last)]
    exact ⟨_, _, rfl⟩

/-- Behind the last row with a number stand the rows below the ends of the string. -/
theorem rowsBehind_openPicture (filename : Text) (number column : Nat)
    (marks elbow indent : Text) :
    rowsBehind (openPicture filename number column first last firstLine lastLine marks elbow
      indent) = openFoot last marks elbow indent := by
  obtain ⟨others, rest, ends⟩ := exists_endRows_concat first last firstLine lastLine
  have below : ∀ row ∈ (openFoot last marks elbow indent).reverse,
      (marginNumber? row).isNone = true := by
    intro row member
    rw [marginNumber?_openFoot last marks elbow indent row (List.mem_reverse.mp member)]
    rfl
  rw [rowsBehind, List.rtakeWhile, openPicture, ends, ← List.append_assoc, List.reverse_append,
    List.takeWhile_append_of_pos below, List.reverse_concat,
    List.takeWhile_cons_of_neg (by simp [marginNumber?_numberMargin]), List.append_nil,
    List.reverse_reverse]

end Numbers

section Drawn

variable {filename firstLine lastLine marks elbow indent : Text}

/-- The rows above the ends show what the report draws, if the filename is printable. -/
theorem isDrawing_openHead (named : ∀ character ∈ filename, ' ' ≤ character ∧ character ≤ '~')
    (number digits line column : Nat) :
    ∀ row ∈ openHead filename number digits line column,
      ∀ character ∈ row, IsDrawing character := by
  have spaces (count : Nat) (character : Char) (member : character ∈ Text.spaces count) :=
    isDrawing_of_mem_spaces member
  have digit (count : Nat) (character : Char) (member : character ∈ Text.ofNat count) :=
    isDrawing_of_mem_ofNat member
  have name (character : Char) (member : character ∈ filename) : IsDrawing character :=
    .inl (named character member)
  simp only [openHead, location, List.forall_mem_cons, List.forall_mem_append, List.mem_nil_iff,
    false_implies, implies_true, and_true]
  exact ⟨⟨⟨isDrawing_of_all rfl, digit number⟩, by decide⟩,
    ⟨⟨⟨spaces _, isDrawing_of_all rfl⟩, ⟨name, by decide, digit line⟩, by decide, digit column⟩,
      isDrawing_of_all rfl⟩, spaces _, by decide⟩

theorem isMark_markMargin (last : Nat) : ∀ character ∈ markMargin last, IsMark character := by
  rw [markMargin, List.forall_mem_append, Text.spaces, List.forall_mem_replicate]
  exact ⟨.inr (by decide), List.all_iff_forall_prop.mp rfl⟩

/-- The rows below the ends show what the report draws. -/
theorem isDrawing_openFoot (marked : ∀ character ∈ marks ++ elbow ++ indent, IsMark character)
    (last : Nat) :
    ∀ row ∈ openFoot last marks elbow indent, ∀ character ∈ row, IsDrawing character := by
  have drawn (character : Char) (member : character ∈ marks ++ elbow ++ indent) :=
    (marked character member).isDrawing
  have margin (character : Char) (member : character ∈ markMargin last) :=
    (isMark_markMargin last character member).isDrawing
  rw [List.forall_mem_append, List.forall_mem_append] at drawn
  have rule : ∀ character ∈ List.replicate ((Text.ofNat last).length + 2) '─',
      IsDrawing character :=
    List.forall_mem_replicate.mpr (.inr (by decide))
  simp only [openFoot, List.forall_mem_cons, List.forall_mem_append, List.mem_nil_iff,
    false_implies, implies_true, and_true]
  exact ⟨⟨margin, drawn.1.1⟩, ⟨⟨margin, drawn.1.2⟩, by decide, isDrawing_of_all rfl⟩,
    ⟨margin, drawn.2⟩, ⟨⟨margin, drawn.2⟩, isDrawing_of_all rfl⟩, rule, by decide⟩

/-- The margin with a number shows what the report draws. -/
theorem isDrawing_numberMargin (digits number : Nat) :
    ∀ character ∈ numberMargin digits number, IsDrawing character := by
  rw [← render_numbered]
  exact fun _ => (within_numbered digits number).of_mem_render

/-- A row of the ends of a string shows a line, or it is the gap between them. -/
theorem isDrawing_or_eq_gapText {first last : Nat}
    (firstDrawn : ∀ character ∈ quoted firstLine, IsDrawing character)
    (lastDrawn : ∀ character ∈ quoted lastLine, IsDrawing character) {row : Text}
    (member : row ∈ endRows first last firstLine lastLine) :
    (∀ character ∈ row, IsDrawing character) ∨
      first + 1 < last ∧ row = gapText (Text.ofNat last).length := by
  have margin := isDrawing_numberMargin (Text.ofNat last).length
  have firstCorner : ∀ character ∈ "╭─▶ ".toList, IsDrawing character := isDrawing_of_all rfl
  have lastCorner : ∀ character ∈ "├─▶ ".toList, IsDrawing character := isDrawing_of_all rfl
  simp only [endRows] at member
  split at member
  · rw [List.mem_singleton.mp member, List.forall_mem_append]
    exact .inl ⟨margin last, lastDrawn⟩
  · rw [List.cons_append, List.mem_cons, List.mem_append, List.mem_singleton] at member
    rcases member with rfl | between | rfl
    · rw [List.forall_mem_append, List.forall_mem_append]
      exact .inl ⟨⟨margin first, firstCorner⟩, firstDrawn⟩
    · split at between
      · next skips => exact .inr ⟨skips, List.mem_singleton.mp between⟩
      · cases between
    · rw [List.forall_mem_append, List.forall_mem_append]
      exact .inl ⟨⟨margin last, lastCorner⟩, lastDrawn⟩

/-- A row that ends with the label ends with its last letter. -/
theorem getLast?_of_label_suffix {row : Text} (labelled : Cause.unterminated.label <:+ row) :
    row.getLast? = some 'd' := by
  obtain ⟨front, rfl⟩ := labelled
  rw [List.getLast?_append]
  rfl

/-- A row of marks does not end with the label. -/
theorem not_label_suffix_of_marks {row : Text} (allMarks : ∀ character ∈ row, IsMark character) :
    ¬ Cause.unterminated.label <:+ row := by
  intro labelled
  have letter : ¬ IsMark 'd' := by decide
  exact letter (allMarks 'd' (List.mem_of_getLast? (getLast?_of_label_suffix labelled)))

/-- Of the rows below the ends of the string, one ends with the label. -/
theorem countP_label_openFoot (marked : ∀ character ∈ marks ++ elbow ++ indent, IsMark character)
    (last : Nat) :
    (openFoot last marks elbow indent).countP (fun row => Cause.unterminated.label <:+ row) =
      1 := by
  have margin := isMark_markMargin last
  rw [List.forall_mem_append, List.forall_mem_append] at marked
  -- Marks are no letters, and the rows of the advice and of the frame end with other characters.
  have marksRow : ¬ Cause.unterminated.label <:+ markMargin last ++ marks :=
    not_label_suffix_of_marks (List.forall_mem_append.mpr ⟨margin, marked.1.1⟩)
  have labelRow : Cause.unterminated.label <:+
      markMargin last ++ elbow ++ ' ' :: Cause.unterminated.label :=
    ⟨markMargin last ++ elbow ++ [' '], by simp⟩
  have indentRow : ¬ Cause.unterminated.label <:+ markMargin last ++ indent :=
    not_label_suffix_of_marks (List.forall_mem_append.mpr ⟨margin, marked.2⟩)
  have helpRow : ¬ Cause.unterminated.label <:+
      markMargin last ++ indent ++ "Help: add a closing '\"'".toList := by
    intro labelled
    have final : "Help: add a closing '\"'".toList.getLast? = some '\'' := by decide
    have other := getLast?_of_label_suffix labelled
    rw [List.getLast?_append, final] at other
    cases other
  have closingRow : ¬ Cause.unterminated.label <:+
      List.replicate ((Text.ofNat last).length + 2) '─' ++ ['╯'] := by
    intro labelled
    have other := getLast?_of_label_suffix labelled
    rw [List.getLast?_concat] at other
    cases other
  simp only [openFoot, List.countP_cons, List.countP_nil, marksRow, labelRow, indentRow, helpRow,
    closingRow, decide_true, decide_false, if_true, Bool.false_eq_true, if_false]

end Drawn

section Picture

variable {filename firstLine lastLine marks elbow indent : Text} {number column first last : Nat}

/-- The picture has nine rows for one line, ten for two that follow each other, and eleven
otherwise. -/
theorem length_openPicture (ordered : first ≤ last) :
    (openPicture filename number column first last firstLine lastLine marks elbow indent).length =
      if first = last then 9 else if first + 1 = last then 10 else 11 := by
  have above : (openHead filename number (Text.ofNat last).length first column).length = 3 := rfl
  have below : (openFoot last marks elbow indent).length = 5 := rfl
  rw [openPicture, List.length_append, List.length_append, above, below]
  simp only [endRows]
  split_ifs <;> simp <;> omega

/-- The advice stands before the end of the frame. -/
theorem help_suffix_openPicture :
    [markMargin last ++ indent ++ "Help: add a closing '\"'".toList,
      List.replicate ((Text.ofNat last).length + 2) '─' ++ ['╯']] <:+
      openPicture filename number column first last firstLine lastLine marks elbow indent := by
  have ofFoot : [markMargin last ++ indent ++ "Help: add a closing '\"'".toList,
      List.replicate ((Text.ofNat last).length + 2) '─' ++ ['╯']] <:+
      openFoot last marks elbow indent :=
    List.drop_suffix 3 (openFoot last marks elbow indent)
  exact ofFoot.trans (List.suffix_append _ _)

variable (named : ∀ character ∈ filename, ' ' ≤ character ∧ character ≤ '~')
  (firstDrawn : ∀ character ∈ quoted firstLine, IsDrawing character)
  (lastDrawn : ∀ character ∈ quoted lastLine, IsDrawing character)
  (marked : ∀ character ∈ marks ++ elbow ++ indent, IsMark character)
include named firstDrawn lastDrawn marked

/-- Every row of the picture shows what the report draws, or is the gap between the ends. -/
theorem isDrawing_or_eq_gapText_of_mem_openPicture {row : Text}
    (member : row ∈ openPicture filename number column first last firstLine lastLine marks elbow
      indent) :
    (∀ character ∈ row, IsDrawing character) ∨
      first + 1 < last ∧ row = gapText (Text.ofNat last).length := by
  rw [openPicture, List.mem_append, List.mem_append] at member
  rcases member with (above | ends) | below
  · exact .inl (isDrawing_openHead named _ _ _ _ row above)
  · exact isDrawing_or_eq_gapText firstDrawn lastDrawn ends
  · exact .inl (isDrawing_openFoot marked last row below)

/-- No row of the picture has a newline in it. -/
theorem newline_not_mem_openPicture :
    ∀ row ∈ openPicture filename number column first last firstLine lastLine marks elbow indent,
      '\n' ∉ row := by
  intro row member newline
  rcases isDrawing_or_eq_gapText_of_mem_openPicture named firstDrawn lastDrawn marked member with
    drawn | ⟨-, rfl⟩
  · exact absurd (drawn '\n' newline) (by decide)
  · simp [gapText, Text.spaces] at newline

/-- The picture has a gap when there are lines between the ends, and only then. -/
theorem gap_mem_openPicture_iff :
    (∃ row ∈ openPicture filename number column first last firstLine lastLine marks elbow indent,
      '┆' ∈ row) ↔ first + 1 < last := by
  constructor
  · rintro ⟨row, member, gap⟩
    rcases isDrawing_or_eq_gapText_of_mem_openPicture named firstDrawn lastDrawn marked member with
      drawn | ⟨skips, -⟩
    · exact absurd (drawn '┆' gap) (by decide)
    · exact skips
  · intro skips
    have apart : first ≠ last := by omega
    refine ⟨gapText (Text.ofNat last).length, ?_, by simp [gapText]⟩
    simp [openPicture, endRows, apart, skips]

end Picture

end Report

end LoxLexis
