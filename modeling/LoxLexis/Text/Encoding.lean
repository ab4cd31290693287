import LoxLexis.Text.Basic

/-!
# Texts as bytes

A text is stored as the bytes of its UTF-8 form. Decoding accepts exactly the byte
strings that encoding produces (`Text.decode?_eq_some_iff`), so overlong forms,
surrogates and values past the last character are refused.
-/

namespace LoxLexis

/-- A string of bytes. -/
abbrev Bytes := List UInt8

namespace Text

/-- The UTF-8 form of a text. -/
def encode (text : Text) : Bytes :=
  text.flatMap String.utf8EncodeChar

/-- The text that bytes are the UTF-8 form of, if there is one. -/
def decode? (bytes : Bytes) : Option Text :=
  (String.fromUTF8? bytes.toByteArray).map String.toList

@[simp] theorem encode_nil : encode [] = [] := rfl

@[simp] theorem encode_append (left right : Text) :
    encode (left ++ right) = encode left ++ encode right := by
  simp [encode]

/-- Encoding gives as many bytes as the text is long. -/
@[simp] theorem length_encode (text : Text) : text.encode.length = text.byteLength := by
  induction text with
  | nil => rfl
  | cons first rest ih =>
      rw [byteLength_cons, ← ih, encode, List.flatMap_cons, List.length_append,
        String.length_utf8EncodeChar]
      rfl

/-- Bytes decode to a text exactly when they are the text's UTF-8 form. -/
theorem decode?_eq_some_iff (bytes : Bytes) (text : Text) :
    decode? bytes = some text ↔ text.encode = bytes := by
  have sameBytes : text.encode = bytes ↔ text.encode.toByteArray = bytes.toByteArray := by
    refine ⟨congrArg _, fun same => ?_⟩
    have sameList := congrArg (fun array : ByteArray => array.data.toList) same
    simpa using sameList
  rw [sameBytes, decode?, String.fromUTF8?]
  split
  · next valid =>
      simp only [Option.map_some, Option.some.injEq]
      constructor
      · rintro rfl
        have back := congrArg String.toByteArray
          (String.ofList_toList (s := String.fromUTF8 bytes.toByteArray valid))
        rw [String.toByteArray_ofList] at back
        exact back
      · intro same
        have asString : String.fromUTF8 bytes.toByteArray valid = String.ofList text := by
          rw [← String.toByteArray_inj, String.toByteArray_ofList]
          exact same.symm
        rw [asString, String.toList_ofList]
  · next invalid =>
      simp only [Option.map_none, reduceCtorEq, false_iff]
      intro same
      exact invalid ⟨text, same.symm⟩

/-- What was encoded is decoded again. -/
@[simp] theorem decode?_encode (text : Text) : decode? text.encode = some text :=
  (decode?_eq_some_iff _ _).mpr rfl

end Text

end LoxLexis
