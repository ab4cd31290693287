import LoxLexis.Proofs.Text.Line
import LoxLexis.Proofs.Text.Pieces
import LoxLexis.Text.Width
import Mathlib.Algebra.GroupWithZero.Nat
import Mathlib.Data.List.DropRight

/-!
# Columns of typed text

A typed text consists of printable ASCII characters, tabulators and newlines. Each of its
characters is one byte. Drawn on one line, each takes one column as well, apart from
tabulators, which are drawn as spaces (`Text.expandTabs`): a line takes as many columns as the
text that is drawn for it has characters (`Text.sum_widthAt`).
-/

namespace LoxLexis

namespace Text

/-- Whether a character is printable ASCII, a tabulator or a newline. -/
def IsTyped (character : Char) : Prop :=
  (' ' ≤ character ∧ character ≤ '~') ∨ character = '\t' ∨ character = '\n'

instance : DecidablePred IsTyped := fun character =>
  inferInstanceAs (Decidable ((' ' ≤ character ∧ character ≤ '~') ∨ _))

/-- A text with spaces for its tabulators, when it starts so many characters into a line. -/
def expandTabs (place : Nat) : Text → Text
  | [] => []
  | character :: rest =>
      (if character = '\t' then spaces (tabWidth - place % tabWidth) else [character]) ++
        expandTabs (place + 1) rest

/-- The columns that a text takes when no tabulator is in it. -/
def columns (text : Text) : Nat :=
  (text.map width).sum

@[simp] theorem columns_append (left right : Text) :
    columns (left ++ right) = columns left + columns right := by
  simp [columns]

section Typed

variable {character : Char} {text : Text}

theorem isTyped_iff_toNat :
    IsTyped character ↔
      (32 ≤ character.toNat ∧ character.toNat ≤ 126) ∨ character = '\t' ∨ character = '\n' :=
  Iff.rfl

/-- No typed character has a number above that of the tilde. -/
theorem IsTyped.toNat_le (typed : IsTyped character) : character.toNat ≤ 126 := by
  rcases isTyped_iff_toNat.mp typed with printable | rfl | rfl
  · exact printable.2
  · decide
  · decide

/-- A typed character is one byte. -/
theorem IsTyped.utf8Size (typed : IsTyped character) : character.utf8Size = 1 := by
  have small := typed.toNat_le
  have oneByte : character.val ≤ 127 := by
    rw [UInt32.le_iff_toNat_le]
    exact Nat.le_trans small (by decide)
  exact if_pos oneByte

/-- No typed character is wide or without width. -/
theorem IsTyped.width (typed : IsTyped character) : width character = 1 := by
  have small := typed.toNat_le
  have early : character < '\u0300' := Nat.lt_of_le_of_lt small (by decide)
  have notHyphen : character ≠ '\u00ad' := by
    rintro rfl
    exact absurd small (by decide)
  rw [Text.width, if_pos early, if_neg notHyphen]

/-- Of the typed characters, the space, the tabulator and the newline are white. -/
theorem IsTyped.isWhite_iff (typed : IsTyped character) :
    isWhite character = true ↔ character = ' ' ∨ character = '\t' ∨ character = '\n' := by
  rcases isTyped_iff_toNat.mp typed with printable | rfl | rfl
  · have notTab : character ≠ '\t' := by
      rintro rfl
      exact absurd printable.1 (by decide)
    have notNewline : character ≠ '\n' := by
      rintro rfl
      exact absurd printable.1 (by decide)
    have isSpace : character = ' ' ↔ character.toNat = 32 := Char.toNat_inj.symm
    simp only [isWhite, CharClass.contains, CharClass.whiteSpace, List.any_cons, List.any_nil,
      Bool.or_eq_true, Bool.and_eq_true, decide_eq_true_eq, Bool.false_eq_true, notTab,
      notNewline, or_false, isSpace]
    constructor <;> omega
  · decide
  · decide

/-- A typed text has as many bytes as characters. -/
theorem byteLength_of_typed (typed : ∀ character ∈ text, IsTyped character) :
    text.byteLength = text.length :=
  byteLength_eq_length fun character member => (typed character member).utf8Size

/-- A typed character is drawn as itself, a tabulator as spaces up to the next stop. -/
theorem IsTyped.drawnAt (typed : IsTyped character) (notNewline : character ≠ '\n')
    (column : Nat) :
    drawnAt column character =
      if character = '\t' then spaces (tabWidth - column % tabWidth) else [character] := by
  by_cases tab : character = '\t'
  · subst tab
    have stop : (column / tabWidth + 1) * tabWidth - column = tabWidth - column % tabWidth := by
      simp only [tabWidth]
      omega
    rw [Text.drawnAt, if_pos (by decide), widthAt, if_pos rfl, if_pos rfl, stop]
  · rw [if_neg tab, Text.drawnAt, widthAt, if_neg tab]
    split
    · next white =>
        rcases typed.isWhite_iff.mp white with rfl | isTab | isNewline
        · rfl
        · exact absurd isTab tab
        · exact absurd isNewline notNewline
    · rfl

/-- A typed character takes as many columns as characters are drawn for it. -/
theorem IsTyped.widthAt (typed : IsTyped character) (column : Nat) :
    widthAt column character = (Text.drawnAt column character).length := by
  rw [Text.drawnAt]
  split
  · rw [length_spaces]
  · next notWhite =>
      have notTab : character ≠ '\t' := by
        rintro rfl
        exact notWhite (by decide)
      rw [Text.widthAt, if_neg notTab, if_neg notWhite, typed.width]
      rfl

/-- What is drawn for a typed text on one line. -/
theorem flatMap_drawnAt (typed : ∀ character ∈ text, IsTyped character) (oneLine : '\n' ∉ text)
    (place : Nat) :
    ((text.zipIdx place).flatMap fun (character, column) => drawnAt column character) =
      expandTabs place text := by
  induction text generalizing place with
  | nil => rfl
  | cons first rest ih =>
      rw [List.forall_mem_cons] at typed
      rw [List.mem_cons, not_or] at oneLine
      rw [List.zipIdx_cons, List.flatMap_cons, ih typed.2 oneLine.2, expandTabs,
        ← typed.1.drawnAt (Ne.symm oneLine.1)]

/-- A typed text takes as many columns of a line as characters are drawn for it. -/
theorem sum_widthAt (typed : ∀ character ∈ text, IsTyped character) (oneLine : '\n' ∉ text)
    (place : Nat) :
    ((text.zipIdx place).map fun (character, column) => widthAt column character).sum =
      (expandTabs place text).length := by
  rw [← flatMap_drawnAt typed oneLine, List.length_flatMap]
  congr 1
  apply List.map_congr_left
  intro drawn member
  exact (typed _ (List.fst_mem_of_mem_zipIdx member)).widthAt _

/-- Tabulators are expanded part by part, the places of the second part counted on. -/
theorem expandTabs_append (place : Nat) (left right : Text) :
    expandTabs place (left ++ right) =
      expandTabs place left ++ expandTabs (place + left.length) right := by
  induction left generalizing place with
  | nil => rfl
  | cons first rest ih =>
      rw [List.cons_append, expandTabs, ih, expandTabs, List.append_assoc, List.length_cons,
        Nat.add_assoc, Nat.add_comm 1]

/-- Expanding tabulators replaces them by spaces, and keeps all other characters. -/
theorem mem_or_eq_space_of_mem_expandTabs {place : Nat}
    (member : character ∈ expandTabs place text) :
    (character ∈ text ∧ character ≠ '\t') ∨ character = ' ' := by
  induction text generalizing place with
  | nil => cases member
  | cons first rest ih =>
      rw [expandTabs, List.mem_append] at member
      rcases member with here | later
      · split at here
        · exact .inr (List.eq_of_mem_replicate here)
        · next notTab =>
            obtain rfl := List.mem_singleton.mp here
            exact .inl ⟨List.mem_cons_self, notTab⟩
      · exact (ih later).imp_left (And.imp_left (List.mem_cons_of_mem first))

/-- A typed text is still typed when its tabulators are expanded. -/
theorem isTyped_of_mem_expandTabs (typed : ∀ character ∈ text, IsTyped character) {place : Nat}
    (member : character ∈ expandTabs place text) : IsTyped character := by
  rcases mem_or_eq_space_of_mem_expandTabs member with ⟨inside, -⟩ | rfl
  · exact typed character inside
  · decide

/-- Expanding tabulators makes no newline. -/
theorem newline_not_mem_expandTabs (oneLine : '\n' ∉ text) (place : Nat) :
    '\n' ∉ expandTabs place text := by
  intro newline
  rcases mem_or_eq_space_of_mem_expandTabs newline with ⟨inside, -⟩ | isSpace
  · exact oneLine inside
  · exact absurd isSpace (by decide)

/-- Of a typed line, only printable characters are drawn. -/
theorem printable_of_mem_expandTabs (typed : ∀ character ∈ text, IsTyped character)
    (oneLine : '\n' ∉ text) {place : Nat} (member : character ∈ expandTabs place text) :
    ' ' ≤ character ∧ character ≤ '~' := by
  rcases mem_or_eq_space_of_mem_expandTabs member with ⟨inside, notTab⟩ | rfl
  · rcases typed character inside with printable | isTab | isNewline
    · exact printable
    · exact absurd isTab notTab
    · exact absurd (isNewline ▸ inside) oneLine
  · decide

/-- A text of narrow characters takes as many columns as it has characters. -/
theorem columns_eq_length (narrow : ∀ character ∈ text, width character = 1) :
    columns text = text.length := by
  rw [columns, List.map_congr_left narrow, List.map_const', List.sum_replicate_nat, Nat.mul_one]

/-- A number is written with digits. -/
theorem isDigit_of_mem_ofNat {number : Nat} (member : character ∈ ofNat number) :
    character.isDigit = true :=
  Nat.isDigit_of_mem_toDigits (Nat.succ_pos 9) (Nat.le_refl 10) member

/-- The digits of a number are printable ASCII characters. -/
theorem printable_of_mem_ofNat {number : Nat} (member : character ∈ ofNat number) :
    ' ' ≤ character ∧ character ≤ '~' := by
  have range : 48 ≤ character.toNat ∧ character.toNat ≤ 57 := by
    simpa [Char.isDigit, UInt32.le_iff_toNat_le] using isDigit_of_mem_ofNat member
  constructor
  · exact Nat.le_trans (by decide) range.1
  · exact Nat.le_trans range.2 (by decide)

/-- The digits of a number are typed, and none of them is a newline. -/
theorem isTyped_of_mem_ofNat {number : Nat} (member : character ∈ ofNat number) :
    IsTyped character ∧ character ≠ '\n' := by
  have printable := printable_of_mem_ofNat member
  refine ⟨.inl printable, ?_⟩
  rintro rfl
  exact absurd printable.1 (by decide)

/-- What stands before a character that is kept is kept. -/
theorem trimEnd_append {isTrimmed : Char → Bool} (left : Text)
    (kept : isTrimmed character = false) (right : Text) :
    trimEnd isTrimmed (left ++ character :: right) =
      left ++ character :: trimEnd isTrimmed right := by
  have stops : (character :: left.reverse).dropWhile isTrimmed = character :: left.reverse :=
    List.dropWhile_cons_of_neg (by simp [kept])
  rw [trimEnd, trimEnd, List.reverse_append, List.reverse_cons, List.append_assoc,
    List.singleton_append, List.dropWhile_append, stops]
  split
  · next nothing =>
      rw [List.isEmpty_iff.mp nothing]
      simp
  · simp

/-- Trimming the end of a text adds no character. -/
theorem subset_of_trimEnd (isTrimmed : Char → Bool) (text : Text) :
    trimEnd isTrimmed text ⊆ text := by
  have kept := (List.dropWhile_sublist (l := text.reverse) isTrimmed).reverse
  rw [List.reverse_reverse] at kept
  exact kept.subset

/-- A line without the white space at its end has no newline. -/
theorem newline_not_mem_trimEnd {line : Text} (member : line ∈ text.lines) :
    '\n' ∉ trimEnd isWhite line := by
  obtain ⟨body, last, rfl, inside⟩ := exists_concat_of_mem_cutAfter member
  have bodyLine : '\n' ∉ body := by
    intro newline
    cases inside '\n' newline
  by_cases isLast : last = '\n'
  · subst isLast
    have trimmed : trimEnd isWhite (body ++ ['\n']) = trimEnd isWhite body := by
      rw [trimEnd, List.reverse_concat, List.dropWhile_cons_of_pos (by decide), trimEnd]
    rw [trimmed]
    exact fun newline => bodyLine (subset_of_trimEnd _ _ newline)
  · intro newline
    rcases List.mem_append.mp (subset_of_trimEnd _ _ newline) with inBody | atEnd
    · exact bodyLine inBody
    · exact isLast (List.mem_singleton.mp atEnd).symm

/-- Where every line ends with a newline, there are as many lines as newlines. -/
theorem length_lines (ends : ∀ last ∈ text.getLast?, last = '\n') :
    text.lines.length = text.newlines := by
  induction text using lines_induction with
  | last text oneLine =>
      rcases text.eq_nil_or_concat with rfl | ⟨body, last, rfl⟩
      · rfl
      · exact absurd (by simp [ends last (by simp)]) oneLine
  | line body rest oneLine ih =>
      have single : body.newlines = 0 := List.count_eq_zero.mpr oneLine
      have restEnds : ∀ last ∈ rest.getLast?, last = '\n' := by
        intro last final
        refine ends last ?_
        rw [List.getLast?_append, List.getLast?_cons, Option.mem_def.mp final]
        rfl
      rw [lines_append_newline oneLine, List.length_cons, ih restEnds, newlines_append,
        newlines_cons, single]
      simp only [if_pos]
      omega

/-- Rows without newlines are the lines of the text that they make up. -/
theorem lines_ofLines {rows : List Text} (oneLine : ∀ row ∈ rows, '\n' ∉ row) :
    (ofLines rows).lines = rows.map (· ++ ['\n']) := by
  induction rows with
  | nil => rfl
  | cons first others ih =>
      rw [List.forall_mem_cons] at oneLine
      rw [ofLines_cons, lines_append_newline oneLine.1, ih oneLine.2, List.map_cons]

end Typed

end Text

end LoxLexis
