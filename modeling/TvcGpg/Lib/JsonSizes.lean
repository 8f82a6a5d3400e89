import Mathlib.Algebra.BigOperators.Group.List.Basic
import Mathlib.Data.Nat.Digits.Lemmas
import TvcGpg.Lib.FlatJson

/-!
# How long a JSON text is

The bytes a flat JSON object takes, also where its text is itself a text inside another
object and is escaped there once more.  `sizeAt n text` is how many bytes a text takes that
is written inside `n` texts.  It adds up over the parts of an object (`sizeAt_writeObject`),
a field of an object being its name and its value written one level deeper, so the size of a
nested document is a sum.
-/

namespace Lib
namespace JsonSizes

open FlatJson

/-- The bytes of a text in UTF-8. -/
def size (text : List Char) : Nat := (text.map Char.utf8Size).sum

/-- A text escaped this many times. -/
def escaped : Nat → List Char → List Char
  | 0, text => text
  | n + 1, text => escaped n (text.flatMap escapeChar)

/-- The bytes of a text inside this many texts. -/
def sizeAt (n : Nat) (text : List Char) : Nat := size (escaped n text)

/-! ## Sizes add up -/

theorem size_append (first second : List Char) :
    size (first ++ second) = size first + size second := by
  unfold size
  rw [List.map_append, List.sum_append]

theorem escaped_append (n : Nat) (first second : List Char) :
    escaped n (first ++ second) = escaped n first ++ escaped n second := by
  induction n generalizing first second with
  | zero => rfl
  | succ n ih =>
      show escaped n ((first ++ second).flatMap escapeChar) = _
      rw [List.flatMap_append, ih]
      rfl

theorem sizeAt_append (n : Nat) (first second : List Char) :
    sizeAt n (first ++ second) = sizeAt n first + sizeAt n second := by
  unfold sizeAt
  rw [escaped_append, size_append]

theorem sizeAt_nil (n : Nat) : sizeAt n [] = 0 := by
  induction n with
  | zero => rfl
  | succ n ih => exact ih

theorem sizeAt_cons (n : Nat) (c : Char) (text : List Char) :
    sizeAt n (c :: text) = sizeAt n [c] + sizeAt n text := by
  rw [← List.singleton_append, sizeAt_append]

/-- A bound for every character is a bound for the text. -/
theorem sizeAt_le {n factor : Nat} (hEach : ∀ c, sizeAt n [c] ≤ factor * c.utf8Size)
    (text : List Char) : sizeAt n text ≤ factor * size text := by
  induction text with
  | nil =>
      rw [sizeAt_nil]
      exact Nat.zero_le _
  | cons c text ih =>
      have hSize : size (c :: text) = c.utf8Size + size text := rfl
      rw [sizeAt_cons, hSize, Nat.mul_add]
      exact Nat.add_le_add (hEach c) ih

/-! ## Characters that stand for themselves -/

/-- A character of one byte that is not escaped. -/
def Plain (c : Char) : Prop := escapeChar c = [c] ∧ c.utf8Size = 1

instance (c : Char) : Decidable (Plain c) :=
  inferInstanceAs (Decidable (escapeChar c = [c] ∧ c.utf8Size = 1))

theorem Plain.sizeAt {c : Char} (hPlain : Plain c) (n : Nat) : sizeAt n [c] = 1 := by
  induction n with
  | zero => exact hPlain.2
  | succ n ih =>
      have hSame : [c].flatMap escapeChar = [c] := by
        rw [List.flatMap_singleton, hPlain.1]
      show JsonSizes.sizeAt n ([c].flatMap escapeChar) = 1
      rw [hSame, ih]

/-- A text of plain characters is as long as it looks, however deep it stands. -/
theorem sizeAt_of_plain {text : List Char} (hPlain : ∀ c ∈ text, Plain c) (n : Nat) :
    sizeAt n text = text.length := by
  induction text with
  | nil => exact sizeAt_nil n
  | cons c text ih =>
      obtain ⟨hFirst, hRest⟩ := List.forall_mem_cons.mp hPlain
      rw [sizeAt_cons, hFirst.sizeAt, ih hRest, List.length_cons, Nat.add_comm]

/-! ## Any character -/

theorem letterEscape_of_find {c : Char} {escape : Char × Char}
    (hFind : letterEscapes.find? (fun escape => escape.1 = c) = some escape) :
    escape ∈ letterEscapes ∧ escape.1 = c :=
  ⟨List.mem_of_find?_eq_some hFind, by simpa using List.find?_some hFind⟩

/-- How a character is written inside a text: as itself, with a letter behind a backslash, or
with four digits. -/
theorem escapeChar_cases (c : Char) :
    (∃ letter, (c, letter) ∈ letterEscapes ∧ escapeChar c = [backslash, letter]) ∨
      (c.toNat < 0x20 ∧ escapeChar c = [backslash, 'u', '0', '0', Hex.lowerDigit (c.toNat / 16),
        Hex.lowerDigit (c.toNat % 16)]) ∨
      escapeChar c = [c] := by
  unfold escapeChar
  cases hFind : letterEscapes.find? fun escape => escape.1 = c with
  | some escape =>
      obtain ⟨hMem, rfl⟩ := letterEscape_of_find hFind
      exact .inl ⟨escape.2, hMem, rfl⟩
  | none =>
      dsimp only
      split
      · rename_i hControl
        exact .inr (.inl ⟨hControl, rfl⟩)
      · exact .inr (.inr rfl)

theorem size_control {n : Nat} (hn : n < 0x20) :
    sizeAt 0 [backslash, 'u', '0', '0', Hex.lowerDigit (n / 16), Hex.lowerDigit (n % 16)] = 6 ∧
      sizeAt 1 [backslash, 'u', '0', '0', Hex.lowerDigit (n / 16), Hex.lowerDigit (n % 16)] = 7 := by
  have hAll : ∀ m < 0x20,
      sizeAt 0 [backslash, 'u', '0', '0', Hex.lowerDigit (m / 16), Hex.lowerDigit (m % 16)] = 6 ∧
        sizeAt 1 [backslash, 'u', '0', '0', Hex.lowerDigit (m / 16), Hex.lowerDigit (m % 16)] = 7 := by
    decide +kernel
  exact hAll n hn

theorem size_letter {escape : Char × Char} (hEscape : escape ∈ letterEscapes) :
    sizeAt 0 [backslash, escape.2] = 2 ∧ sizeAt 1 [backslash, escape.2] ≤ 4 := by
  revert escape
  decide +kernel

/-- Inside one text a character takes up to six times its bytes. -/
theorem sizeAt_one_le (c : Char) : sizeAt 1 [c] ≤ 6 * c.utf8Size := by
  have hPos : 1 ≤ c.utf8Size := c.utf8Size_pos
  have hInside : sizeAt 1 [c] = sizeAt 0 (escapeChar c) := by
    show sizeAt 0 ([c].flatMap escapeChar) = _
    rw [List.flatMap_singleton]
  rw [hInside]
  rcases escapeChar_cases c with ⟨letter, hLetter, hEscape⟩ | ⟨hControl, hEscape⟩ | hEscape
  · rw [hEscape, (size_letter hLetter).1]
    omega
  · rw [hEscape, (size_control hControl).1]
    omega
  · rw [hEscape]
    show c.utf8Size + 0 ≤ _
    omega

/-- Inside two texts it takes up to seven times its bytes. -/
theorem sizeAt_two_le (c : Char) : sizeAt 2 [c] ≤ 7 * c.utf8Size := by
  have hPos : 1 ≤ c.utf8Size := c.utf8Size_pos
  have hInside : sizeAt 2 [c] = sizeAt 1 (escapeChar c) := by
    show sizeAt 1 ([c].flatMap escapeChar) = _
    rw [List.flatMap_singleton]
  rw [hInside]
  rcases escapeChar_cases c with ⟨letter, hLetter, hEscape⟩ | ⟨hControl, hEscape⟩ | hEscape
  · have hFour : sizeAt 1 [backslash, letter] ≤ 4 := (size_letter hLetter).2
    rw [hEscape]
    omega
  · rw [hEscape, (size_control hControl).2]
    omega
  · rw [hEscape]
    exact (sizeAt_one_le c).trans (Nat.mul_le_mul_right _ (by omega))

/-! ## Objects -/

theorem sizeAt_writeText (n : Nat) (text : List Char) :
    sizeAt n (writeText text) = sizeAt (n + 1) text + sizeAt n [quote] := by
  unfold writeText
  rw [sizeAt_append]
  rfl

/-- A field is its name and its value, one level deeper, between four quotes and a colon. -/
theorem sizeAt_text_field (n : Nat) (name text : List Char) :
    sizeAt n (writeField (name, .text text)) =
      sizeAt (n + 1) name + sizeAt (n + 1) text + 4 * sizeAt n [quote] + 1 := by
  have hColon : sizeAt n [':'] = 1 := Plain.sizeAt (by decide) n
  show sizeAt n (quote :: (writeText name ++ ':' :: quote :: writeText text)) = _
  rw [sizeAt_cons, sizeAt_append, sizeAt_cons n ':', sizeAt_cons n quote (writeText text),
    sizeAt_writeText, sizeAt_writeText, hColon]
  omega

theorem plain_of_isDigit {c : Char} (hDigit : c.isDigit = true) : Plain c := by
  have hAll : ∀ m < 10, Plain (Char.ofNat (48 + m)) := by decide
  have hRange : 48 ≤ c.toNat ∧ c.toNat ≤ 57 := by
    simp only [Char.isDigit, Bool.and_eq_true, decide_eq_true_eq] at hDigit
    exact ⟨hDigit.1, hDigit.2⟩
  have hPlain := hAll (c.toNat - 48) (by omega)
  rwa [Nat.add_sub_cancel' hRange.1, Char.ofNat_toNat] at hPlain

theorem sizeAt_natural_field (n : Nat) (name : List Char) (value : Nat) :
    sizeAt n (writeField (name, .natural value)) =
      sizeAt (n + 1) name + (writeNatural value).length + 2 * sizeAt n [quote] + 1 := by
  have hColon : sizeAt n [':'] = 1 := Plain.sizeAt (by decide) n
  have hDigits : sizeAt n (writeNatural value) = (writeNatural value).length :=
    sizeAt_of_plain (fun c hc => plain_of_isDigit (isDigit_of_mem_writeNatural hc)) n
  show sizeAt n (quote :: (writeText name ++ ':' :: writeNatural value)) = _
  rw [sizeAt_cons, sizeAt_append, sizeAt_cons n ':', sizeAt_writeText, hColon, hDigits]
  omega

theorem sizeAt_writeFields (n : Nat) (field : List Char × Value)
    (fields : List (List Char × Value)) :
    sizeAt n (writeFields (field :: fields)) + 1 =
      ((field :: fields).map fun field => sizeAt n (writeField field) + 1).sum := by
  have hComma : sizeAt n [','] = 1 := Plain.sizeAt (by decide) n
  induction fields generalizing field with
  | nil => rfl
  | cons next rest ih =>
      rw [writeFields, sizeAt_append, sizeAt_cons n ',', hComma, List.map_cons, List.sum_cons,
        ← ih next]
      omega

/-- An object is its fields with a comma or a brace behind each, and a brace in front. -/
theorem sizeAt_writeObject (n : Nat) {fields : List (List Char × Value)} (hSome : fields ≠ []) :
    sizeAt n (writeObject fields) =
      (fields.map fun field => sizeAt n (writeField field) + 1).sum + 1 := by
  have hOpen : sizeAt n [openBrace] = 1 := Plain.sizeAt (by decide) n
  have hClose : sizeAt n [closeBrace] = 1 := Plain.sizeAt (by decide) n
  cases fields with
  | nil => exact absurd rfl hSome
  | cons field fields =>
      have hFields := sizeAt_writeFields n field fields
      show sizeAt n (openBrace :: (writeFields (field :: fields) ++ [closeBrace])) = _
      rw [sizeAt_cons, sizeAt_append, hOpen, hClose]
      omega

/-! ## Texts and numbers -/

/-- The bytes of a text are those of its characters. -/
theorem length_asBytes (text : String) : (Text.asBytes text).length = size text.toList := by
  have hOfList : ∀ chars : List Char, (String.ofList chars).utf8ByteSize = size chars := by
    intro chars
    induction chars with
    | nil => rfl
    | cons c chars ih =>
        have hSplit : String.ofList (c :: chars) = String.singleton c ++ String.ofList chars :=
          String.toList_inj.mp (by simp)
        rw [hSplit, String.utf8ByteSize_append, String.utf8ByteSize_singleton, ih]
        rfl
  have hBytes : (Text.asBytes text).length = text.utf8ByteSize := by
    unfold Text.asBytes
    rw [Array.length_toList]
    rfl
  rw [hBytes, ← hOfList, String.ofList_toList]

/-- Bytes written with plain digits are two characters each. -/
theorem sizeAt_byteDigits {digit : Nat → Char} (hDigit : ∀ n < 16, Plain (digit n)) (n : Nat)
    (bytes : Bytes) : sizeAt n (bytes.flatMap (Hex.byteDigits digit)) = 2 * bytes.length := by
  have hPlain : ∀ c ∈ bytes.flatMap (Hex.byteDigits digit), Plain c := by
    intro c hc
    obtain ⟨byte, -, hChar⟩ := List.mem_flatMap.mp hc
    have hByte : byte.toNat < 256 := byte.toNat_lt
    unfold Hex.byteDigits at hChar
    rcases List.mem_cons.mp hChar with rfl | hLow
    · exact hDigit _ (by omega)
    · obtain rfl := List.mem_singleton.mp hLow
      exact hDigit _ (by omega)
  rw [sizeAt_of_plain hPlain, List.length_flatMap]
  simp [Hex.byteDigits, Nat.mul_comm]

theorem sizeAt_encode (n : Nat) (bytes : Bytes) :
    sizeAt n (Hex.encode bytes).toList = 2 * bytes.length := by
  have hDigit : ∀ m < 16, Plain (Hex.lowerDigit m) := by decide
  unfold Hex.encode
  rw [String.toList_ofList, sizeAt_byteDigits hDigit]

theorem sizeAt_encodeUpper (n : Nat) (bytes : Bytes) :
    sizeAt n (Hex.encodeUpper bytes).toList = 2 * bytes.length := by
  have hDigit : ∀ m < 16, Plain (Hex.upperDigit m) := by decide
  unfold Hex.encodeUpper
  rw [String.toList_ofList, sizeAt_byteDigits hDigit]

/-- A number of 64 bits has at most twenty digits. -/
theorem length_writeNatural_le {n : Nat} (hn : n < 2 ^ 64) : (writeNatural n).length ≤ 20 := by
  unfold writeNatural
  split
  · decide
  · rw [List.length_reverse, List.length_map]
    exact (Nat.digits_length_le_iff (by omega) n).mpr (by omega)

end JsonSizes
end Lib
