import Mathlib.Data.List.DropRight

/-!
# Text and the bytes that carry it

Programs move between text and its UTF-8 bytes in both directions: a signature
covers the bytes of a string, and a byte buffer becomes a string again only when
it is valid UTF-8.  This module fixes the two conversions on lists of bytes and
proves that they are inverse to each other, so a later proof never opens the
representation of a string.
-/

namespace Lib

/-- A byte buffer. -/
abbrev Bytes := List UInt8

namespace Text

/-- The UTF-8 bytes of a text. -/
def asBytes (text : String) : Bytes :=
  text.toByteArray.data.toList

/-- The text a byte buffer holds, or `none` when it is not valid UTF-8. -/
def fromUtf8 (bytes : Bytes) : Option String :=
  String.fromUTF8? ⟨bytes.toArray⟩

/-- Upper case of the ASCII letters; every other character is kept. -/
def toUppercase (text : String) : String :=
  String.ofList (text.toList.map Char.toUpper)

/-- The Unicode property `White_Space`. -/
def isWhitespace (c : Char) : Bool :=
  (0x09 ≤ c.toNat && c.toNat ≤ 0x0D) || c.toNat = 0x20 || c.toNat = 0x85 || c.toNat = 0xA0 ||
    c.toNat = 0x1680 || (0x2000 ≤ c.toNat && c.toNat ≤ 0x200A) || c.toNat = 0x2028 ||
    c.toNat = 0x2029 || c.toNat = 0x202F || c.toNat = 0x205F || c.toNat = 0x3000

/-- A text without the white space at its end. -/
def trimEnd (text : String) : String := String.ofList (text.toList.rdropWhile isWhitespace)

/-- A text without the white space around it. -/
def trim (text : String) : String :=
  String.ofList ((text.toList.dropWhile isWhitespace).rdropWhile isWhitespace)

@[simp]
theorem fromUtf8_asBytes (text : String) : fromUtf8 (asBytes text) = some text := by
  have hArray : (⟨(asBytes text).toArray⟩ : ByteArray) = text.toByteArray := by
    simp [asBytes]
  simp only [fromUtf8, String.fromUTF8?, hArray]
  rw [dif_pos text.isValidUTF8]
  rfl

/-- Decoded text has exactly the bytes it was decoded from. -/
theorem asBytes_of_fromUtf8 {bytes : Bytes} {text : String}
    (hDecoded : fromUtf8 bytes = some text) : asBytes text = bytes := by
  unfold fromUtf8 String.fromUTF8? at hDecoded
  split at hDecoded
  · cases hDecoded
    simp [asBytes, String.fromUTF8]
  · cases hDecoded

/-- Two texts with the same bytes are the same text. -/
theorem asBytes_injective : Function.Injective asBytes := by
  intro first second hBytes
  have hDecoded : fromUtf8 (asBytes first) = fromUtf8 (asBytes second) := by
    rw [hBytes]
  simpa using hDecoded

/-- A text of characters of one byte each has as many bytes as characters. -/
theorem utf8ByteSize_ofList {chars : List Char} (hOne : ∀ c ∈ chars, c.utf8Size = 1) :
    (String.ofList chars).utf8ByteSize = chars.length := by
  induction chars with
  | nil => rfl
  | cons c chars ih =>
      obtain ⟨hFirst, hRest⟩ := List.forall_mem_cons.mp hOne
      have hSplit : String.ofList (c :: chars) = String.singleton c ++ String.ofList chars := by
        refine String.toList_inj.mp ?_
        simp
      rw [hSplit, String.utf8ByteSize_append, String.utf8ByteSize_singleton, hFirst, ih hRest,
        List.length_cons, Nat.add_comm]

end Text
end Lib
