import Execraft.Foundation.Text.Bytes

/-!
# Texts from cut bytes

`bytes.decode("utf-8", errors="ignore")`: the characters that can be decoded, without the
bytes that belong to none.
-/

namespace Foundation.Text

/-- The characters from a position on, with fuel for every byte. -/
def decodeIgnoringFrom (bytes : ByteArray) : Nat → Nat → List Char
  | 0, _ => []
  | fuel + 1, position =>
      if position < bytes.size then
        match bytes.utf8DecodeChar? position with
        | some character =>
            character :: decodeIgnoringFrom bytes fuel (position + character.utf8Size)
        | none => decodeIgnoringFrom bytes fuel (position + 1)
      else
        []

def decodeIgnoring (bytes : ByteArray) : String :=
  String.ofList (decodeIgnoringFrom bytes bytes.size 0)

theorem size_encodeUtf8_cons (head : Char) (tail : List Char) :
    (encodeUtf8 (head :: tail)).size = head.utf8Size + (encodeUtf8 tail).size := by
  rw [encodeUtf8_eq, encodeUtf8_eq, List.utf8Encode_cons, ByteArray.size_append,
    List.utf8Encode_singleton, List.size_toByteArray, String.length_utf8EncodeChar]

theorem size_decodeIgnoringFrom (bytes : ByteArray) (fuel position : Nat) :
    position ≤ bytes.size →
      position + (encodeUtf8 (decodeIgnoringFrom bytes fuel position)).size ≤ bytes.size := by
  induction fuel generalizing position with
  | zero =>
      intro within
      rw [decodeIgnoringFrom, encodeUtf8_nil]
      exact within
  | succ fuel inductionHypothesis =>
      intro within
      rw [decodeIgnoringFrom]
      by_cases inside : position < bytes.size
      · rw [if_pos inside]
        cases decoded : bytes.utf8DecodeChar? position with
        | some character =>
            have fits := ByteArray.le_size_of_utf8DecodeChar?_eq_some decoded
            have rest := inductionHypothesis (position + character.utf8Size) fits
            dsimp only
            rw [size_encodeUtf8_cons]
            omega
        | none =>
            have rest := inductionHypothesis (position + 1) inside
            dsimp only
            omega
      · rw [if_neg inside, encodeUtf8_nil]
        exact within

/-- What is decoded is not longer than the bytes. -/
theorem utf8ByteSize_decodeIgnoring (bytes : ByteArray) :
    (decodeIgnoring bytes).utf8ByteSize ≤ bytes.size := by
  have bounded := size_decodeIgnoringFrom bytes bytes.size 0 (Nat.zero_le _)
  rw [Nat.zero_add] at bounded
  exact bounded

end Foundation.Text
