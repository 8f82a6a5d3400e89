import TvcGpg.EndToEnd.HonestRun
import TvcGpg.Model.Gpg

/-!
# The session key as text

`session_key_string` writes the algorithm octet in decimal, a colon, and the key in upper
case hexadecimal.  What gpg reads in such a text is exactly the plaintext it was made of
(`readSessionKey_text`).

The text is built in a buffer that is wiped in the end, and which reserves four bytes and
two for each byte of the key at the start.  The decimal octet and the colon need at most
four, and each byte of the key exactly two, so no write moves the text to another place
and leaves a part of the key behind (`size_sessionKeyWrites_le`).
-/

namespace TvcGpg
namespace Client

open Lib Lib.Text Lib.Buffers

/-! ## What gpg reads -/

/-- A session key as gpg reads it: a decimal number up to the first colon, and then pairs
of hexadecimal digits. -/
def readSessionKey (text : String) : Option Bytes :=
  let number := text.toList.takeWhile (· ≠ ':')
  let octet := Nat.ofDigitChars 10 number 0
  match text.toList.dropWhile (· ≠ ':') with
  | [] => none
  | _ :: digits =>
      if number ≠ [] ∧ number.all Char.isDigit ∧ octet < 256 then
        (Hex.decodeDigits digits).map (UInt8.ofNat octet :: ·)
      else none

theorem toList_octet (octet : UInt8) : (toString octet).toList = Nat.toDigits 10 octet.toNat :=
  Nat.toList_repr

theorem isDigit_of_mem_octet {octet : UInt8} {c : Char} (hc : c ∈ (toString octet).toList) :
    c.isDigit = true := by
  rw [toList_octet] at hc
  exact Nat.isDigit_of_mem_toDigits (by omega) (by omega) hc

theorem ne_colon_of_isDigit {c : Char} (hc : c.isDigit = true) : c ≠ ':' := by
  rintro rfl
  cases hc

/-- gpg reads back the octet and the key a text was made of. -/
theorem readSessionKey_text (algorithm : UInt8) (key : Bytes) :
    readSessionKey (toString algorithm ++ ":" ++ Hex.encodeUpper key) =
      some (algorithm :: key) := by
  have hText : (toString algorithm ++ ":" ++ Hex.encodeUpper key).toList =
      (toString algorithm).toList ++ ':' :: (Hex.encodeUpper key).toList := by
    rw [String.toList_append, String.toList_append, List.append_assoc]
    rfl
  have hNotColon : ∀ c ∈ (toString algorithm).toList, decide (c ≠ ':') = true := by
    intro c hc
    exact decide_eq_true (ne_colon_of_isDigit (isDigit_of_mem_octet hc))
  have hNumber : (toString algorithm ++ ":" ++ Hex.encodeUpper key).toList.takeWhile (· ≠ ':') =
      (toString algorithm).toList := by
    rw [hText, List.takeWhile_append_of_pos hNotColon, List.takeWhile_cons_of_neg (by decide),
      List.append_nil]
  have hRest : (toString algorithm ++ ":" ++ Hex.encodeUpper key).toList.dropWhile (· ≠ ':') =
      ':' :: (Hex.encodeUpper key).toList := by
    rw [hText, List.dropWhile_append_of_pos hNotColon, List.dropWhile_cons_of_neg (by decide)]
  have hOctet : Nat.ofDigitChars 10 (toString algorithm).toList 0 = algorithm.toNat := by
    rw [toList_octet, Nat.ofDigitChars_ten_toDigits]
  have hNonempty : (toString algorithm).toList ≠ [] := by
    rw [toList_octet]
    exact Nat.toDigits_ne_nil
  have hDigits : (toString algorithm).toList.all Char.isDigit = true :=
    List.all_eq_true.mpr fun c hc => isDigit_of_mem_octet hc
  have hKey : Hex.decodeDigits (Hex.encodeUpper key).toList = some key :=
    Hex.decode_encodeUpper key
  unfold readSessionKey
  rw [hNumber, hRest]
  dsimp only
  rw [hOctet, if_pos ⟨hNonempty, hDigits, algorithm.toNat_lt⟩, hKey, Option.map_some,
    UInt8.ofNat_toNat]

/-! ## The writes -/

/-- Everything that is written into the text, in its order. -/
def sessionKeyWrites : Bytes → List String
  | [] => []
  | algorithm :: key => toString algorithm :: ":" :: key.flatMap upperHex02

/-- Filled up to two digits, the hexadecimal digits of a byte are its two digits. -/
theorem join_upperHex02 (byte : UInt8) :
    String.join (upperHex02 byte) = Hex.encodeUpper [byte] := by
  have hByte : byte.toNat < 256 := byte.toNat_lt
  refine String.toList_inj.mp ?_
  unfold upperHex02 Hex.encodeUpper
  rcases Nat.lt_or_ge byte.toNat 16 with hSmall | hLarge
  · -- one digit, and a zero in front of it
    have hDigits : Nat.toDigits 16 byte.toNat = [byte.toNat.digitChar] :=
      Nat.toDigits_of_lt_base hSmall
    have hHigh : byte.toNat / 16 = 0 := by omega
    have hLow : byte.toNat % 16 = byte.toNat := by omega
    have hZero : (Nat.digitChar 0).toUpper = '0' := rfl
    rw [hDigits]
    simp [Hex.byteDigits, Hex.upperDigit, hHigh, hLow, hZero]
  · have hDigits : Nat.toDigits 16 byte.toNat =
        [(byte.toNat / 16).digitChar, (byte.toNat % 16).digitChar] := by
      rw [Nat.toDigits_of_base_le (by omega) hLarge, Nat.toDigits_of_lt_base (by omega)]
      rfl
    rw [hDigits]
    simp [Hex.byteDigits, Hex.upperDigit]

theorem join_flatMap_upperHex02 (key : Bytes) :
    String.join (key.flatMap upperHex02) = Hex.encodeUpper key := by
  induction key with
  | nil => rfl
  | cons byte key ih =>
      rw [List.flatMap_cons, String.join_append, join_upperHex02, ih, ← Hex.encodeUpper_cons]

theorem join_sessionKeyWrites (algorithm : UInt8) (key : Bytes) :
    String.join (sessionKeyWrites (algorithm :: key)) =
      toString algorithm ++ ":" ++ Hex.encodeUpper key := by
  rw [sessionKeyWrites, String.join_cons, String.join_cons, join_flatMap_upperHex02,
    String.append_assoc]

/-- The loop writes the digits of each byte of the key. -/
theorem foldlM_write (key : Bytes) (text : TextBuffer) :
    key.foldlM (fun text byte => write text (upperHex02 byte)) text =
      .ok (text.pushAll (key.flatMap upperHex02)) := by
  induction key generalizing text with
  | nil => rfl
  | cons byte key ih =>
      rw [List.foldlM_cons, List.flatMap_cons, TextBuffer.pushAll_append]
      exact ih _

/-- The text is built by its writes, in a buffer reserved at the start. -/
theorem sessionKeyBuffer_cons (algorithm : UInt8) (key : Bytes) :
    sessionKeyBuffer (algorithm :: key) =
      .ok ((TextBuffer.withCapacity (4 + key.length * 2)).pushAll
        (sessionKeyWrites (algorithm :: key))) := by
  show key.foldlM _ _ = _
  rw [foldlM_write, ← TextBuffer.pushAll_append]
  rfl

/-- The buffer holds the text the session key is written as. -/
theorem map_text_sessionKeyBuffer (plain : Bytes) :
    (sessionKeyBuffer plain).map TextBuffer.text = sessionKeyString plain := by
  cases plain with
  | nil => rfl
  | cons algorithm key =>
      rw [sessionKeyBuffer_cons, sessionKeyString_cons, Except.map, TextBuffer.text_pushAll,
        join_sessionKeyWrites]
      exact congrArg Except.ok String.empty_append

/-! ## The size of the text -/

theorem utf8Size_of_isDigit {c : Char} (hc : c.isDigit = true) : c.utf8Size = 1 := by
  have hNine : c.val ≤ 57 := of_decide_eq_true (Bool.and_eq_true_iff.mp hc).2
  exact Char.utf8Size_eq_one_iff.mpr (UInt32.le_trans hNine (by decide))

/-- The octet has at most three digits. -/
theorem size_octet_le (octet : UInt8) : (toString octet).utf8ByteSize ≤ 3 := by
  have hOne : ∀ c ∈ (toString octet).toList, c.utf8Size = 1 :=
    fun c hc => utf8Size_of_isDigit (isDigit_of_mem_octet hc)
  have hSize := utf8ByteSize_ofList hOne
  rw [String.ofList_toList, toList_octet] at hSize
  rw [hSize]
  have hByte : octet.toNat < 10 ^ 3 := Nat.lt_trans octet.toNat_lt (by omega)
  exact (Nat.length_toDigits_le_iff (by omega) (by omega)).mpr hByte

/-- All that is written has room in what is reserved. -/
theorem size_sessionKeyWrites_le (algorithm : UInt8) (key : Bytes) :
    (String.join (sessionKeyWrites (algorithm :: key))).utf8ByteSize ≤ 4 + key.length * 2 := by
  have hOctet := size_octet_le algorithm
  have hColon : ":".utf8ByteSize = 1 := rfl
  rw [join_sessionKeyWrites, String.utf8ByteSize_append, String.utf8ByteSize_append,
    Hex.utf8ByteSize_encodeUpper, hColon]
  omega

/-! ## The text and its buffer -/

/-- A text that is built by writes into the memory reserved for it at the start, and never
leaves it. -/
structure BuiltInPlace (plain : Bytes) (reserved : Nat) (text : String) : Prop where
  /-- The buffer is what the writes make of the reserved one, and holds the text. -/
  built : ∃ buffer, sessionKeyBuffer plain = .ok buffer ∧
    buffer = (TextBuffer.withCapacity reserved).pushAll (sessionKeyWrites plain) ∧
      buffer.text = text
  /-- After any number of its writes the text fits in what is reserved, nothing else has
  been reserved, and no copy of a part of the text is left anywhere. -/
  stays : ∀ written, written <+: sessionKeyWrites plain →
    ((TextBuffer.withCapacity reserved).pushAll written).text.utf8ByteSize ≤ reserved ∧
      ((TextBuffer.withCapacity reserved).pushAll written).capacity = reserved ∧
        ((TextBuffer.withCapacity reserved).pushAll written).copies = []

theorem builtInPlace (algorithm : UInt8) (key : Bytes) :
    BuiltInPlace (algorithm :: key) (4 + key.length * 2)
      (toString algorithm ++ ":" ++ Hex.encodeUpper key) where
  built := by
    refine ⟨_, sessionKeyBuffer_cons algorithm key, rfl, ?_⟩
    rw [TextBuffer.text_pushAll, join_sessionKeyWrites]
    exact String.empty_append
  stays written hWritten :=
    TextBuffer.pushAll_withCapacity (size_sessionKeyWrites_le algorithm key) hWritten

/-- A text is made of one plaintext only. -/
theorem eq_of_sessionKeyString {plain other : Bytes} {text : String}
    (hRead : readSessionKey text = some plain) (hOther : sessionKeyString other = .ok text) :
    other = plain := by
  cases other with
  | nil => cases hOther
  | cons algorithm key =>
      rw [sessionKeyString_cons] at hOther
      cases hOther
      rw [readSessionKey_text] at hRead
      exact Option.some.inj hRead

/-- What the client opens has a text that gpg reads back. -/
theorem readSessionKey_of_opened {crates : Crates} {transport : P256EncryptPair}
    {wrappedSessionKey : String} {plain : Bytes}
    (hOpened : openSessionKey crates transport wrappedSessionKey = .ok plain) :
    ∃ text, sessionKeyString plain = .ok text ∧ readSessionKey text = some plain := by
  obtain ⟨_, -, -, hLength⟩ := openSessionKey_eq_ok_iff.mp hOpened
  cases plain with
  | nil => cases hLength
  | cons algorithm key =>
      exact ⟨_, sessionKeyString_cons algorithm key, readSessionKey_text algorithm key⟩

/-- Every plaintext that is not empty has a session key text.  gpg reads exactly that
plaintext in it, so no other one has the same text; and the text is built without being
moved, so no part of the key is left behind. -/
theorem session_key_text_is_faithful (plain : Bytes) (hPlain : plain ≠ []) :
    ∃ text, sessionKeyString plain = .ok text ∧ readSessionKey text = some plain ∧
      (∀ other, sessionKeyString other = .ok text → other = plain) ∧
        BuiltInPlace plain (4 + 2 * (plain.length - 1)) text := by
  cases plain with
  | nil => exact absurd rfl hPlain
  | cons algorithm key =>
      have hRead := readSessionKey_text algorithm key
      refine ⟨_, sessionKeyString_cons algorithm key, hRead, ?_, ?_⟩
      · intro other hOther
        exact eq_of_sessionKeyString hRead hOther
      · rw [List.length_cons, Nat.add_sub_cancel, Nat.mul_comm]
        exact builtInPlace algorithm key

theorem session_key_text_is_faithful_example :
    sessionKeyString [9, 0x0B, 0xCD] = .ok "9:0BCD" ∧
      readSessionKey "9:0BCD" = some [9, 0x0B, 0xCD] ∧
        (∀ other, sessionKeyString other = .ok "9:0BCD" → other = [9, 0x0B, 0xCD]) ∧
          BuiltInPlace [9, 0x0B, 0xCD] 8 "9:0BCD" := by
  obtain ⟨text, hText, hRest⟩ :=
    session_key_text_is_faithful [9, 0x0B, 0xCD] (List.cons_ne_nil _ _)
  have hShown : sessionKeyString [9, 0x0B, 0xCD] = .ok "9:0BCD" := rfl
  obtain rfl : text = "9:0BCD" := Except.ok.inj (hText.symm.trans hShown)
  exact ⟨hText, hRest⟩

end Client
end TvcGpg
