import TrapDispatch.Word

/-!
The bytes of a text. Consoles and devices take bytes, so a text reaches them as the UTF-8 bytes
of its characters in order. Main facts: `bytes_append` (the bytes of a concatenation are the
concatenated bytes, so text may be sent in any pieces) and `bytes_eq_toByteArray` (they are the bytes
that the text is stored as).
-/

namespace TrapDispatch.Utf8

/-- The UTF-8 bytes of a text, character by character. -/
def bytes (s : String) : List Byte := s.toList.flatMap String.utf8EncodeChar

@[simp] theorem bytes_empty : bytes "" = [] := rfl

/-- Text may be encoded in pieces. -/
@[simp] theorem bytes_append (s t : String) : bytes (s ++ t) = bytes s ++ bytes t := by
  simp [bytes]

/-- The bytes are the ones that the text is stored as. -/
theorem bytes_eq_toByteArray (s : String) : bytes s = s.toByteArray.data.toList := by
  have stored : s.toByteArray = s.toList.utf8Encode := by
    rw [← String.toByteArray_ofList, String.ofList_toList]
  simp [stored, bytes, List.utf8Encode]

end TrapDispatch.Utf8
