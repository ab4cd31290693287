import LoxLexis.Text.Encoding
import Mathlib.Data.List.Basic

/-!
# Blanking out bytes

Bytes are blanked out by putting a space in place of each byte that is not to be kept, line
breaks apart (`Bytes.blankOut`). A newline is a byte of no other character
(`Text.newline_mem_utf8EncodeChar`), so blanking out all bytes of a text gives the bytes of
a text again, one of spaces and newlines alone (`Text.encode_blanks`).
-/

namespace LoxLexis

namespace Bytes

/-- A byte, or a space in its place unless it is a line break. -/
def blankByte (byte : UInt8) : UInt8 :=
  if byte = 10 then byte else 32

/-- Bytes with a space in place of each byte that is neither kept nor a line break. -/
def blankOut (isKept : Nat → Bool) (bytes : Bytes) : Bytes :=
  bytes.mapIdx fun offset byte => if isKept offset then byte else blankByte byte

/-- Bytes are blanked out part by part, the offsets of the second part counted on. -/
theorem blankOut_append (isKept : Nat → Bool) (left right : Bytes) :
    blankOut isKept (left ++ right) =
      blankOut isKept left ++ blankOut (fun offset => isKept (left.length + offset)) right := by
  simp only [blankOut, List.mapIdx_append, Nat.add_comm]

/-- Bytes that are all kept stay as they are. -/
theorem blankOut_of_kept {isKept : Nat → Bool} {bytes : Bytes}
    (kept : ∀ offset < bytes.length, isKept offset = true) : blankOut isKept bytes = bytes := by
  apply List.ext_getElem (by simp [blankOut])
  intro offset _ inside
  simp [blankOut, kept offset inside]

/-- When no byte is kept, line breaks are all that is left. -/
theorem blankOut_of_not_kept {isKept : Nat → Bool} {bytes : Bytes}
    (dropped : ∀ offset < bytes.length, isKept offset = false) :
    blankOut isKept bytes = bytes.map blankByte := by
  apply List.ext_getElem (by simp [blankOut])
  intro offset _ inside
  rw [List.length_map] at inside
  simp [blankOut, dropped offset inside]

end Bytes

namespace Text

/-- A number has the byte of a newline when it is that byte up to multiples of 256. -/
theorem newline_eq_ofNat_iff (number : Nat) :
    (10 : UInt8) = UInt8.ofNat number ↔ number % 256 = 10 := by
  rw [← UInt8.toNat_inj, UInt8.toNat_ofNat']
  exact eq_comm

/-- Only a newline has the byte of a newline in its UTF-8 form. -/
theorem newline_mem_utf8EncodeChar {character : Char}
    (member : 10 ∈ String.utf8EncodeChar character) : character = '\n' := by
  simp only [String.utf8EncodeChar] at member
  split_ifs at member with one two three
  · have value := (newline_eq_ofNat_iff _).mp (List.mem_singleton.mp member)
    apply Char.ext
    apply UInt32.toNat_inj.mp
    change character.val.toNat = 10
    omega
  -- The bytes of the longer forms are all at least 128.
  all_goals
    simp only [List.mem_cons, List.not_mem_nil, or_false, newline_eq_ofNat_iff] at member
    omega

theorem newlines_spaces (count : Nat) : (spaces count).newlines = 0 := by
  apply List.count_eq_zero.mpr
  intro member
  exact absurd (List.eq_of_mem_replicate member) (by decide)

/-- Spaces are single bytes. -/
theorem encode_spaces (count : Nat) : (spaces count).encode = List.replicate count 32 := by
  induction count with
  | zero => rfl
  | succ count ih =>
      rw [spaces, List.replicate_succ, List.replicate_succ, ← ih]
      rfl

/-- What is left of a character when its bytes are blanked out. -/
def blanksOf (character : Char) : Text :=
  if character = '\n' then ['\n'] else spaces character.utf8Size

/-- Blanking out a character keeps it when it is a newline, and makes no newline of any other. -/
theorem newlines_blanksOf (character : Char) :
    (blanksOf character).newlines = newlines [character] := by
  unfold blanksOf
  split_ifs with newline
  · rw [newline]
  · rw [newlines_spaces, newlines, List.count_singleton, if_neg (by simpa using newline)]

/-- The blanks of a character are its bytes, blanked out. -/
theorem encode_blanksOf (character : Char) :
    (blanksOf character).encode = (String.utf8EncodeChar character).map Bytes.blankByte := by
  unfold blanksOf
  split_ifs with newline
  · rw [newline]
    rfl
  · rw [encode_spaces, ← String.length_utf8EncodeChar]
    symm
    apply List.map_eq_replicate_iff.mpr
    intro byte member
    apply if_neg
    rintro rfl
    exact newline (newline_mem_utf8EncodeChar member)

/-- The text of spaces and newlines that is left when the bytes of a text are blanked out. -/
def blanks (text : Text) : Text :=
  text.flatMap blanksOf

/-- Blanks are spaces and newlines. -/
theorem mem_blanks {text : Text} {character : Char} (member : character ∈ blanks text) :
    character = ' ' ∨ character = '\n' := by
  obtain ⟨source, -, drawn⟩ := List.mem_flatMap.mp member
  unfold blanksOf at drawn
  split_ifs at drawn
  · exact .inr (List.mem_singleton.mp drawn)
  · exact .inl (List.eq_of_mem_replicate drawn)

/-- Blanking out all bytes of a text gives the bytes of its blanks. -/
theorem encode_blanks (text : Text) : (blanks text).encode = text.encode.map Bytes.blankByte := by
  rw [blanks, encode, List.flatMap_assoc, encode, List.map_flatMap]
  exact List.flatMap_congr fun character _ => encode_blanksOf character

/-- Blanking out a text keeps its length in bytes. -/
theorem byteLength_blanks (text : Text) : (blanks text).byteLength = text.byteLength := by
  rw [← length_encode, encode_blanks, List.length_map, length_encode]

/-- Blanking out a text leaves something of it. -/
theorem blanks_ne_nil {text : Text} (nonempty : text ≠ []) : blanks text ≠ [] := by
  intro nothing
  have bytes := byteLength_blanks text
  have characters := text.length_le_byteLength
  have positive := List.length_pos_iff.mpr nonempty
  rw [nothing, byteLength_nil] at bytes
  omega

/-- Blanking out a text keeps its newlines. -/
theorem newlines_blanks (text : Text) : (blanks text).newlines = text.newlines := by
  induction text with
  | nil => rfl
  | cons first rest ih =>
      have apart := newlines_append [first] rest
      rw [List.singleton_append] at apart
      rw [blanks, List.flatMap_cons, newlines_append, newlines_blanksOf, apart]
      exact congrArg (_ + ·) ih

end Text

end LoxLexis
