import LoxLexis.Report.SourceLine
import Mathlib.Data.List.DropRight
import Mathlib.Data.List.TakeWhile

/-!
# The lines that a report counts

Where the lines of a text are whole, what stands behind them is cut on its own
(`SourceLine.cut_append`). So the line of a character is known from the text before it: whole
lines, and then the part of its own line that stands before the character
(`SourceLine.at?_ofSource`). A line holds at most the newline that it ends with, and so there are
as many newlines in a text as lines that end with one (`SourceLine.newlines_eq_countP_cut`).
-/

namespace LoxLexis

namespace SourceLine

section Cutting

variable {text body front behind : Text}

/-- A character that is no break belongs to the first line. -/
theorem splitFirst_cons_of_inside {character : Char} (inside : isBreak character = false)
    (rest : Text) :
    splitFirst (character :: rest) = (character :: (splitFirst rest).1, (splitFirst rest).2) := by
  have notReturn : character ≠ '\r' := by
    rintro rfl
    cases inside
  rw [splitFirst, if_neg (Bool.eq_false_iff.mp inside)]
  exact fun _ same _ => notReturn same

/-- The first line of a text that is not empty has a character. -/
theorem length_splitFirst_pos (nonempty : text ≠ []) : 0 < (splitFirst text).1.length := by
  obtain ⟨character, rest, rfl⟩ := List.exists_cons_of_ne_nil nonempty
  exact List.length_pos_iff.mpr (splitFirst_cons_ne_nil character rest)

/-- A text without breaks stands in front of the first line of what follows. -/
theorem splitFirst_append_of_inside (inside : ∀ character ∈ body, isBreak character = false)
    (behind : Text) :
    splitFirst (body ++ behind) = (body ++ (splitFirst behind).1, (splitFirst behind).2) := by
  induction body with
  | nil => rfl
  | cons first rest ih =>
      rw [List.forall_mem_cons] at inside
      rw [List.cons_append, splitFirst_cons_of_inside inside.1, ih inside.2]
      rfl

/-- Whether every line of a text has its break. -/
def Closed (text : Text) : Prop :=
  ∀ last ∈ text.getLast?, isBreak last = true

/-- What a text of whole lines ends with is whole lines. -/
theorem Closed.of_append (closed : Closed (front ++ behind)) : Closed behind := by
  intro last ends
  refine closed last ?_
  rw [List.getLast?_append, Option.mem_def.mp ends]
  rfl

/-- Behind the first of whole lines there are whole lines. -/
theorem Closed.splitFirst_snd (closed : Closed text) : Closed (splitFirst text).2 := by
  rw [← append_splitFirst text] at closed
  exact closed.of_append

/-- A text is whole lines and a part of a line behind them. -/
theorem exists_closed_append (text : Text) :
    ∃ front tail, text = front ++ tail ∧ Closed front ∧
      ∀ character ∈ tail, isBreak character = false := by
  let isInside : Char → Bool := fun character => !isBreak character
  refine ⟨text.rdropWhile isInside, text.rtakeWhile isInside,
    (List.rdropWhile_append_rtakeWhile ..).symm, ?_, ?_⟩
  · intro last ends
    obtain ⟨nonempty, rfl⟩ := List.mem_getLast?_eq_getLast ends
    simpa [isInside] using List.rdropWhile_last_not isInside text nonempty
  · intro character member
    simpa [isInside] using List.mem_rtakeWhile_imp member

/-- The first of whole lines does not depend on what follows them, unless a newline would join
the break of the last one. -/
theorem splitFirst_append_of_closed (nonempty : front ≠ []) (closed : Closed front)
    (apart : behind.head? ≠ some '\n') :
    splitFirst (front ++ behind) = ((splitFirst front).1, (splitFirst front).2 ++ behind) := by
  fun_induction splitFirst front with
  | case1 => exact absurd rfl nonempty
  | case2 rest => rfl
  | case3 character rest unjoined ends =>
      rw [List.cons_append, splitFirst, if_pos ends]
      intro following isReturn joined
      rcases rest with - | ⟨second, others⟩
      · exact apart (by rw [← List.nil_append behind, joined]; rfl)
      · injection joined with newline
        exact unjoined others isReturn (by rw [newline])
  | case4 character rest unjoined inside ih =>
      have inside : isBreak character = false := Bool.eq_false_iff.mpr inside
      have more : rest ≠ [] := by
        rintro rfl
        rw [closed character rfl] at inside
        cases inside
      rw [List.cons_append, splitFirst_cons_of_inside inside,
        ih more (Closed.of_append (List.singleton_append ▸ closed))]

@[simp] theorem cut_nil : cut [] = [] := by
  rw [cut]

/-- A text that is not empty is its first line, and the lines of what follows it. -/
theorem cut_of_ne_nil (nonempty : text ≠ []) :
    cut text = (splitFirst text).1 :: cut (splitFirst text).2 := by
  obtain ⟨character, rest, rfl⟩ := List.exists_cons_of_ne_nil nonempty
  rw [cut]

/-- No line of a text is empty. -/
theorem ne_nil_of_mem_cut {line : Text} (member : line ∈ cut text) : line ≠ [] := by
  fun_induction cut text with
  | case1 => cases member
  | case2 character rest ih =>
      rcases List.mem_cons.mp member with rfl | later
      · exact splitFirst_cons_ne_nil character rest
      · exact ih later

/-- What stands behind whole lines is cut on its own. -/
theorem cut_append (closed : Closed front) (apart : behind.head? ≠ some '\n') :
    cut (front ++ behind) = cut front ++ cut behind := by
  fun_induction cut front with
  | case1 => rfl
  | case2 character rest ih =>
      have nonempty : character :: rest ≠ [] := List.cons_ne_nil _ _
      rw [cut_of_ne_nil (List.append_ne_nil_of_left_ne_nil nonempty behind),
        splitFirst_append_of_closed nonempty closed apart, ih closed.splitFirst_snd,
        List.cons_append]

/-- The first line of a text holds at most the newline that it ends with. -/
theorem newlines_splitFirst (text : Text) :
    (splitFirst text).1.newlines = if (splitFirst text).1.getLast? = some '\n' then 1 else 0 := by
  fun_induction splitFirst text with
  | case1 => rfl
  | case2 rest => rfl
  | case3 character rest _ ends => simp [Text.newlines, List.count_cons]
  | case4 character rest _ inside ih =>
      have notNewline : character ≠ '\n' := by
        rintro rfl
        exact inside rfl
      rw [Text.newlines, List.count_cons_of_ne notNewline, ← Text.newlines, ih]
      cases (splitFirst rest).1 with
      | nil => simp [notNewline]
      | cons second others => rw [List.getLast?_cons_cons]

/-- There are as many newlines in a text as lines that end with one. -/
theorem newlines_eq_countP_cut (text : Text) :
    text.newlines = (cut text).countP fun line => line.getLast? = some '\n' := by
  fun_induction cut text with
  | case1 => rfl
  | case2 character rest ih =>
      rw [List.countP_cons, ← ih]
      conv_lhs => rw [← append_splitFirst (character :: rest)]
      rw [Text.newlines_append, newlines_splitFirst, Nat.add_comm]
      simp only [decide_eq_true_eq]

end Cutting

section Enumerating

variable {number start : Nat} {texts : List Text} {line : SourceLine}

/-- Counting texts as lines goes on behind some of them from where those end. -/
theorem enumerate_append (number start : Nat) (left right : List Text) :
    enumerate number start (left ++ right) =
      enumerate number start left ++
        enumerate (number + left.length) (start + left.flatten.length) right := by
  induction left generalizing number start with
  | nil => rfl
  | cons first others ih =>
      rw [List.cons_append, enumerate, ih, enumerate, List.cons_append, List.length_cons,
        List.flatten_cons, List.length_append]
      simp only [Nat.add_assoc, Nat.add_comm 1]

theorem map_text_enumerate (number start : Nat) (texts : List Text) :
    (enumerate number start texts).map text = texts := by
  induction texts generalizing number start with
  | nil => rfl
  | cons first others ih => rw [enumerate, List.map_cons, ih]

/-- Lines that are counted on from a place stand at or behind it, and within their texts. -/
theorem bounds_of_mem_enumerate (member : line ∈ enumerate number start texts) :
    number ≤ line.number ∧ start ≤ line.start ∧ line.stop ≤ start + texts.flatten.length := by
  induction texts generalizing number start with
  | nil => cases member
  | cons first others ih =>
      rw [List.flatten_cons, List.length_append]
      rcases List.mem_cons.mp member with rfl | later
      · simp only [stop]
        omega
      · have bounds := ih later
        omega

/-- Lines are counted upwards. -/
theorem pairwise_enumerate (number start : Nat) (texts : List Text) :
    (enumerate number start texts).Pairwise fun earlier later => earlier.number < later.number := by
  induction texts generalizing number start with
  | nil => exact .nil
  | cons first others ih =>
      exact .cons (fun later member => (bounds_of_mem_enumerate member).1) (ih _ _)

/-- A character stands on the line whose text holds it. -/
theorem at?_enumerate {earlier later : List Text} {current : Text} {offset : Nat}
    (begun : start + earlier.flatten.length ≤ offset)
    (unended : offset < start + earlier.flatten.length + current.length) :
    at? (enumerate number start (earlier ++ current :: later)) offset =
      some ⟨number + earlier.length, start + earlier.flatten.length, current⟩ := by
  have allBegun : ∀ line ∈ enumerate number start earlier, decide (line.start ≤ offset) = true := by
    intro line member
    have bounds := bounds_of_mem_enumerate member
    exact decide_eq_true (by simp only [stop] at bounds; omega)
  have noneBegun : (enumerate (number + earlier.length + 1)
      (start + earlier.flatten.length + current.length) later).takeWhile
        (fun line => decide (line.start ≤ offset)) = [] := by
    cases later with
    | nil => rfl
    | cons next others => exact List.takeWhile_cons_of_neg (by simpa using unended)
  rw [at?, enumerate_append, List.takeWhile_append_of_pos allBegun, enumerate, List.takeWhile_cons,
    if_pos (decide_eq_true begun), noneBegun, List.getLast?_concat]

/-- A line on which a later character falls is the same or has a greater number. -/
theorem at?_mono {lines : List SourceLine} {earlier later : SourceLine} {offset further : Nat}
    (counted : lines.Pairwise fun earlier later => earlier.number < later.number)
    (le : offset ≤ further) (found : at? lines offset = some earlier)
    (foundFurther : at? lines further = some later) :
    earlier = later ∨ earlier.number < later.number := by
  have shorter : lines.takeWhile (fun line => decide (line.start ≤ offset)) =
      (lines.takeWhile fun line => decide (line.start ≤ further)).takeWhile
        fun line => decide (line.start ≤ offset) := by
    rw [List.takeWhile_takeWhile]
    congr 1
    funext line
    simp only [decide_eq_true_eq, decide_eq_decide]
    omega
  have begins : earlier ∈ lines.takeWhile fun line => decide (line.start ≤ further) := by
    have member := List.mem_of_getLast? found
    rw [shorter] at member
    exact (List.takeWhile_sublist _).mem member
  obtain ⟨others, split⟩ := List.getLast?_eq_some_iff.mp foundFurther
  have ordered := counted.sublist (List.takeWhile_sublist fun line => decide (line.start ≤ further))
  rw [split, List.pairwise_append] at ordered
  rw [split, List.mem_append, List.mem_singleton] at begins
  rcases begins with before | same
  · exact .inr (ordered.2.2 earlier before later (List.mem_singleton_self later))
  · exact .inl same

end Enumerating

section Places

variable {front tail behind : Text}

/-- The lines of a source that is not empty are counted from one, and their characters from zero. -/
theorem ofSource_of_ne_nil {source : Text} (nonempty : source ≠ []) :
    ofSource source = enumerate 1 0 (cut source) := by
  obtain ⟨character, rest, rfl⟩ := List.exists_cons_of_ne_nil nonempty
  rfl

/-- The numbers of the lines of a source grow. -/
theorem pairwise_ofSource (source : Text) :
    (ofSource source).Pairwise fun earlier later => earlier.number < later.number := by
  rcases eq_or_ne source [] with rfl | nonempty
  · exact List.pairwise_singleton _ _
  · rw [ofSource_of_ne_nil nonempty]
    exact pairwise_enumerate _ _ _

/-- Every offset falls on some line of a source, also one beyond its end. -/
theorem exists_at?_ofSource (source : Text) (offset : Nat) :
    ∃ line, at? (ofSource source) offset = some line := by
  have first : ∃ line others, ofSource source = line :: others ∧ line.start = 0 := by
    rcases eq_or_ne source [] with rfl | nonempty
    · exact ⟨_, _, rfl, rfl⟩
    · rw [ofSource_of_ne_nil nonempty, cut_of_ne_nil nonempty]
      exact ⟨_, _, rfl, rfl⟩
  obtain ⟨line, others, listed, origin⟩ := first
  have begun : decide (line.start ≤ offset) = true := decide_eq_true (by omega)
  rw [at?, listed, List.takeWhile_cons, if_pos begun]
  exact ⟨_, List.getLast?_eq_some_getLast (List.cons_ne_nil _ _)⟩

/-- A source is whole lines, the line of a character with the part of it before the character,
and the lines behind it. -/
theorem cut_place (closed : Closed front) (inside : ∀ character ∈ tail, isBreak character = false)
    (more : behind ≠ []) (apart : behind.head? ≠ some '\n') :
    cut (front ++ tail ++ behind) =
      cut front ++ (tail ++ (splitFirst behind).1) :: cut (splitFirst behind).2 := by
  have apartTail : (tail ++ behind).head? ≠ some '\n' := by
    cases tail with
    | nil => exact apart
    | cons first rest =>
        intro newline
        have isNewline : first = '\n' := Option.some.inj newline
        subst isNewline
        cases inside '\n' List.mem_cons_self
  rw [List.append_assoc, cut_append closed apartTail,
    cut_of_ne_nil (List.append_ne_nil_of_right_ne_nil tail more),
    splitFirst_append_of_inside inside]

/-- The line of a character in a source. -/
theorem at?_ofSource (closed : Closed front)
    (inside : ∀ character ∈ tail, isBreak character = false)
    (more : behind ≠ []) (apart : behind.head? ≠ some '\n') :
    at? (ofSource (front ++ tail ++ behind)) (front ++ tail).length =
      some ⟨1 + (cut front).length, front.length, tail ++ (splitFirst behind).1⟩ := by
  have taken := length_splitFirst_pos more
  have before : (cut front).flatten.length = front.length := by rw [flatten_cut]
  rw [ofSource_of_ne_nil (List.append_ne_nil_of_right_ne_nil _ more),
    cut_place closed inside more apart, at?_enumerate, before, Nat.zero_add]
  · rw [before, List.length_append]
    omega
  · rw [before, List.length_append, List.length_append]
    omega

/-- The last character of a source stands on its last line. -/
theorem exists_at?_last {source : Text} (nonempty : source ≠ []) :
    ∃ line, at? (ofSource source) (source.length - 1) = some line ∧
      line.number = (cut source).length ∧ line.stop = source.length ∧
      (cut source).getLast? = some line.text := by
  have whole := flatten_cut source
  rcases (cut source).eq_nil_or_concat with nothing | ⟨earlier, current, split⟩
  · exact absurd (by rw [← whole, nothing]; rfl) nonempty
  · rw [List.concat_eq_append] at split
    have lengths : earlier.flatten.length + current.length = source.length := by
      rw [← whole, split, List.flatten_append, List.flatten_singleton, List.length_append]
    have taken : 0 < current.length := by
      have member : current ∈ cut source := by simp [split]
      exact List.length_pos_iff.mpr (ne_nil_of_mem_cut member)
    rw [ofSource_of_ne_nil nonempty, split, at?_enumerate (by omega) (by omega),
      List.getLast?_concat, List.length_append]
    exact ⟨_, rfl, Nat.add_comm _ _, by simp only [stop]; omega, rfl⟩

/-- The lines of a source that end before a character are the whole lines before it. -/
theorem forall_ended_iff (closed : Closed front)
    (inside : ∀ character ∈ tail, isBreak character = false)
    (more : behind ≠ []) (apart : behind.head? ≠ some '\n') (holds : Text → Prop) :
    (∀ line ∈ ofSource (front ++ tail ++ behind), line.stop ≤ (front ++ tail).length →
      holds line.text) ↔ ∀ text ∈ cut front, holds text := by
  have taken := length_splitFirst_pos more
  have before : (cut front).flatten.length = front.length := by rw [flatten_cut]
  rw [ofSource_of_ne_nil (List.append_ne_nil_of_right_ne_nil _ more),
    cut_place closed inside more apart, enumerate_append, before, Nat.zero_add, List.length_append]
  constructor
  · intro ended text member
    rw [← map_text_enumerate 1 0 (cut front)] at member
    obtain ⟨line, listed, rfl⟩ := List.mem_map.mp member
    have bounds := bounds_of_mem_enumerate listed
    exact ended line (List.mem_append_left _ listed) (by omega)
  · intro whole line member ends
    rcases List.mem_append.mp member with earlier | current
    · apply whole
      rw [← map_text_enumerate 1 0 (cut front)]
      exact List.mem_map_of_mem earlier
    · -- The line of the character, and every line behind it, end behind the character.
      exfalso
      rcases List.mem_cons.mp current with rfl | later
      · simp only [stop, List.length_append] at ends
        omega
      · have bounds := bounds_of_mem_enumerate later
        simp only [stop, List.length_append] at bounds ends
        omega

end Places

end SourceLine

end LoxLexis
