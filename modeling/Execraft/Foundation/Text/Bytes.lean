import Mathlib.Data.List.Basic

/-!
# UTF-8 texts cut between bytes

Bytes in front of a text decode exactly when they decode on their own: a
character that is cut in two is never completed by what follows.
-/

namespace Foundation.Text

def encodeUtf8 (text : List Char) : ByteArray :=
  (String.ofList text).toByteArray

/-- The text of a file, when its bytes are UTF-8. -/
def decodeUtf8 (bytes : ByteArray) : Option (List Char) :=
  bytes.utf8Decode?.map Array.toList

theorem encodeUtf8_eq (text : List Char) : encodeUtf8 text = text.utf8Encode :=
  String.toByteArray_ofList

@[simp]
theorem encodeUtf8_nil : encodeUtf8 [] = ByteArray.empty := by
  rw [encodeUtf8_eq, List.utf8Encode_nil]

theorem encodeUtf8_append (front back : List Char) :
    encodeUtf8 (front ++ back) = encodeUtf8 front ++ encodeUtf8 back := by
  simp only [encodeUtf8_eq, List.utf8Encode_append]

@[simp]
theorem decodeUtf8_encodeUtf8 (text : List Char) :
    decodeUtf8 (encodeUtf8 text) = some text := by
  simp [decodeUtf8, encodeUtf8_eq]

theorem decodeUtf8_eq_some {bytes : ByteArray} {text : List Char}
    (decoded : decodeUtf8 bytes = some text) : bytes = encodeUtf8 text := by
  obtain ⟨characters, found, rfl⟩ := Option.map_eq_some_iff.mp decoded
  have valid : bytes.utf8Decode?.isSome := Option.isSome_of_eq_some found
  have encoded := ByteArray.utf8Encode_get_utf8Decode? (b := bytes) (h := valid)
  simp only [found, Option.get_some] at encoded
  rw [encodeUtf8_eq, encoded]

/-- Bytes in front of a text form a text if the whole does. -/
theorem isValidUTF8_of_append {front : ByteArray} {rest : List Char}
    (valid : (front ++ rest.utf8Encode).IsValidUTF8) : front.IsValidUTF8 := by
  by_cases empty : rest = []
  · simpa [empty] using valid
  · let whole := String.fromUTF8 _ valid
    have bytes : whole.toByteArray = front ++ rest.utf8Encode := rfl
    have positive : 0 < rest.utf8Encode.size := by
      have nonempty : rest.utf8Encode ≠ ByteArray.empty := by
        intro equality
        exact empty (List.utf8Encode_eq_empty.mp equality)
      rcases Nat.eq_zero_or_pos rest.utf8Encode.size with zero | positive
      · exact absurd (ByteArray.size_eq_zero_iff.mp zero) nonempty
      · exact positive
    -- The first byte of `rest` starts a character, so the cut is a position.
    have position : (String.Pos.Raw.mk front.size).IsValid whole := by
      refine String.Pos.Raw.isValid_iff_isUTF8FirstByte.mpr (Or.inr ⟨?_, ?_⟩)
      · rw [String.Pos.Raw.lt_iff, String.byteIdx_rawEndPos,
          ← String.size_toByteArray, bytes, ByteArray.size_append]
        simp only
        omega
      · have first := ByteArray.isValidUTF8_utf8Encode.isUTF8FirstByte_getElem_zero
          positive
        simp only [String.getUTF8Byte, bytes]
        rw [ByteArray.getElem_append_right (by simp)]
        simpa using first
    have cut := position.isValidUTF8_extract_zero
    rw [bytes, ByteArray.extract_append_eq_left rfl] at cut
    exact cut

theorem decodeUtf8_append (front : ByteArray) (rest : List Char) :
    decodeUtf8 (front ++ encodeUtf8 rest) =
      (decodeUtf8 front).map (· ++ rest) := by
  cases decoded : decodeUtf8 front with
  | some text =>
      rw [decodeUtf8_eq_some decoded, ← encodeUtf8_append,
        decodeUtf8_encodeUtf8]
      rfl
  | none =>
      cases whole : decodeUtf8 (front ++ encodeUtf8 rest) with
      | none => rfl
      | some text =>
          have valid : (front ++ rest.utf8Encode).IsValidUTF8 := by
            rw [← encodeUtf8_eq, decodeUtf8_eq_some whole, encodeUtf8_eq]
            exact ByteArray.isValidUTF8_utf8Encode
          obtain ⟨characters, encoded⟩ := isValidUTF8_of_append valid
          rw [encoded, ← encodeUtf8_eq, decodeUtf8_encodeUtf8] at decoded
          cases decoded

/-- A text in front cannot hide bytes that do not decode. -/
theorem decodeUtf8_encodeUtf8_append (front : List Char) (rest : ByteArray) :
    decodeUtf8 (encodeUtf8 front ++ rest) =
      (decodeUtf8 rest).map (front ++ ·) := by
  rw [encodeUtf8_eq]
  induction front with
  | nil =>
      simp
  | cons head tail inductionHypothesis =>
      have split : (head :: tail).utf8Encode ++ rest =
          [head].utf8Encode ++ (tail.utf8Encode ++ rest) := by
        rw [List.utf8Encode_cons, ByteArray.append_assoc]
      rw [split, decodeUtf8, ByteArray.utf8Decode?_utf8Encode_singleton_append]
      have inner := inductionHypothesis
      simp only [decodeUtf8] at inner ⊢
      cases bytes : (tail.utf8Encode ++ rest).utf8Decode? <;>
        cases restBytes : rest.utf8Decode? <;> simp_all

/-- The front of an encoded text is a text only as one of its prefixes. -/
theorem prefix_of_encodeUtf8_append {front whole : List Char} {rest : ByteArray}
    (joined : encodeUtf8 front ++ rest = encodeUtf8 whole) : front <+: whole := by
  rw [encodeUtf8_eq, encodeUtf8_eq] at joined
  exact List.isPrefix_of_utf8Encode_append_eq_utf8Encode rest joined

end Foundation.Text
