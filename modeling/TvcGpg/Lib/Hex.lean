import Mathlib.Tactic.IntervalCases
import TvcGpg.Lib.Text

/-!
# Hexadecimal text

Two digits a byte, most significant digit first.  The writer comes in lower and
in upper case; the reader accepts either case and refuses an odd number of
digits.  The reader gives back exactly the bytes a writer was given.
-/

namespace Lib
namespace Hex

/-- The lower case digit of a number below sixteen. -/
def lowerDigit (n : Nat) : Char :=
  n.digitChar

/-- The upper case digit of a number below sixteen. -/
def upperDigit (n : Nat) : Char :=
  n.digitChar.toUpper

/-- The number a hexadecimal digit of either case stands for. -/
def digitValue (c : Char) : Option Nat :=
  if '0' ≤ c ∧ c ≤ '9' then some (c.toNat - '0'.toNat)
  else if 'a' ≤ c ∧ c ≤ 'f' then some (c.toNat - 'a'.toNat + 10)
  else if 'A' ≤ c ∧ c ≤ 'F' then some (c.toNat - 'A'.toNat + 10)
  else none

/-- The two digits of a byte. -/
def byteDigits (digit : Nat → Char) (byte : UInt8) : List Char :=
  [digit (byte.toNat / 16), digit (byte.toNat % 16)]

/-- Lower case hexadecimal text of a byte buffer. -/
def encode (bytes : Bytes) : String :=
  String.ofList (bytes.flatMap (byteDigits lowerDigit))

/-- Upper case hexadecimal text of a byte buffer. -/
def encodeUpper (bytes : Bytes) : String :=
  String.ofList (bytes.flatMap (byteDigits upperDigit))

/-- Read pairs of digits; an odd digit or any other character is refused. -/
def decodeDigits : List Char → Option Bytes
  | [] => some []
  | [_] => none
  | high :: low :: rest =>
      match digitValue high, digitValue low, decodeDigits rest with
      | some h, some l, some bytes => some (UInt8.ofNat (16 * h + l) :: bytes)
      | _, _, _ => none

/-- The bytes a hexadecimal text stands for. -/
def decode (text : String) : Option Bytes :=
  decodeDigits text.toList

theorem encodeUpper_cons (byte : UInt8) (bytes : Bytes) :
    encodeUpper (byte :: bytes) = encodeUpper [byte] ++ encodeUpper bytes := by
  unfold encodeUpper
  rw [← String.ofList_append]
  simp

theorem digitValue_lowerDigit {n : Nat} (hn : n < 16) :
    digitValue (lowerDigit n) = some n := by
  interval_cases n <;> decide

theorem digitValue_upperDigit {n : Nat} (hn : n < 16) :
    digitValue (upperDigit n) = some n := by
  interval_cases n <;> decide

/-- Reading back a byte written with digits the reader knows. -/
theorem decodeDigits_byteDigits (digit : Nat → Char)
    (hDigit : ∀ n < 16, digitValue (digit n) = some n) (bytes : Bytes) :
    decodeDigits (bytes.flatMap (byteDigits digit)) = some bytes := by
  induction bytes with
  | nil => rfl
  | cons byte bytes ih =>
      have hByte : byte.toNat < 256 := byte.toNat_lt
      have hHigh := hDigit (byte.toNat / 16) (by omega)
      have hLow := hDigit (byte.toNat % 16) (by omega)
      have hSum : 16 * (byte.toNat / 16) + byte.toNat % 16 = byte.toNat := by
        omega
      simp [byteDigits, decodeDigits, hHigh, hLow, ih, hSum]

@[simp]
theorem decode_encode (bytes : Bytes) : decode (encode bytes) = some bytes := by
  simpa [decode, encode] using
    decodeDigits_byteDigits lowerDigit (fun _ hn => digitValue_lowerDigit hn) bytes

@[simp]
theorem decode_encodeUpper (bytes : Bytes) : decode (encodeUpper bytes) = some bytes := by
  simpa [decode, encodeUpper] using
    decodeDigits_byteDigits upperDigit (fun _ hn => digitValue_upperDigit hn) bytes

theorem encodeUpper_injective : Function.Injective encodeUpper := by
  intro first second hText
  have hDecoded : decode (encodeUpper first) = decode (encodeUpper second) := by rw [hText]
  simpa using hDecoded

/-- Raising lower case hexadecimal text to upper case is writing it in upper case. -/
theorem toUppercase_encode (bytes : Bytes) :
    Text.toUppercase (encode bytes) = encodeUpper bytes := by
  simp only [Text.toUppercase, encode, encodeUpper, String.toList_ofList, List.map_flatMap]
  rfl

theorem utf8Size_upperDigit {n : Nat} (hn : n < 16) : (upperDigit n).utf8Size = 1 := by
  interval_cases n <;> rfl

/-- Two bytes of text for each byte. -/
theorem utf8ByteSize_encodeUpper (bytes : Bytes) :
    (encodeUpper bytes).utf8ByteSize = 2 * bytes.length := by
  have hOne : ∀ c ∈ bytes.flatMap (byteDigits upperDigit), c.utf8Size = 1 := by
    intro c hc
    obtain ⟨byte, -, hDigit⟩ := List.mem_flatMap.mp hc
    have hByte : byte.toNat < 256 := byte.toNat_lt
    unfold byteDigits at hDigit
    rcases List.mem_cons.mp hDigit with rfl | hLow
    · exact utf8Size_upperDigit (by omega)
    · obtain rfl := List.mem_singleton.mp hLow
      exact utf8Size_upperDigit (by omega)
  unfold encodeUpper
  rw [Text.utf8ByteSize_ofList hOne, List.length_flatMap]
  simp [byteDigits, Nat.mul_comm]

end Hex
end Lib
