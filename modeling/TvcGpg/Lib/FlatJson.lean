import Mathlib.Data.List.TakeDrop
import Mathlib.Data.Nat.Digits.Defs
import TvcGpg.Lib.Hex

/-!
# JSON objects of texts and natural numbers

The compact writer of JSON for objects whose values are texts and natural
numbers, and a reader for what it writes.  Texts are escaped the usual way: quote,
backslash and the control characters are written as escapes, every other
character stands for itself.

`readObject_writeObject` says that the reader gives back every object that was
written, whatever characters its names and texts hold.  The reader is no judge of
JSON at large: nested values, signs, fractions and spaces are refused.
-/

namespace Lib
namespace FlatJson

open Hex

/-- The characters that delimit a text, named by their code points. -/
def quote : Char := Char.ofNat 0x22

/-- The character that starts an escape. -/
def backslash : Char := Char.ofNat 0x5C

/-- The character that opens an object. -/
def openBrace : Char := Char.ofNat 0x7B

/-- The character that closes an object. -/
def closeBrace : Char := Char.ofNat 0x7D

/-! ## Texts -/

/-- The escapes of one letter, the escaped character first. -/
def letterEscapes : List (Char × Char) :=
  [(quote, quote), (backslash, backslash), (Char.ofNat 0x08, 'b'), (Char.ofNat 0x0C, 'f'),
    (Char.ofNat 0x0A, 'n'), (Char.ofNat 0x0D, 'r'), (Char.ofNat 0x09, 't')]

/-- How a character is written inside a text. -/
def escapeChar (c : Char) : List Char :=
  match letterEscapes.find? fun escape => escape.1 = c with
  | some escape => [backslash, escape.2]
  | none =>
      if c.toNat < 0x20 then
        [backslash, 'u', '0', '0', lowerDigit (c.toNat / 16),
          lowerDigit (c.toNat % 16)]
      else [c]

/-- The character an escape of one letter stands for. -/
def unescapeLetter (letter : Char) : Option Char :=
  (letterEscapes.find? fun escape => escape.2 = letter).map Prod.fst

/-- The character four hexadecimal digits stand for. -/
def unescapeDigits (a b c d : Char) : Option Char := do
  let a ← digitValue a
  let b ← digitValue b
  let c ← digitValue c
  let d ← digitValue d
  return Char.ofNat (((a * 16 + b) * 16 + c) * 16 + d)

/-- Put a character before the text that was read. -/
def consText (c : Char) (read : List Char × List Char) : List Char × List Char :=
  (c :: read.1, read.2)

/-- Read a text up to its closing quote, and what follows it. -/
def readText : List Char → Option (List Char × List Char)
  | [] => none
  | c :: rest =>
      if c = quote then some ([], rest)
      else if c = backslash then
        match rest with
        | [] => none
        | letter :: rest =>
            if letter = 'u' then
              match rest with
              | a :: b :: c :: d :: rest =>
                  (unescapeDigits a b c d).bind fun c => (readText rest).map (consText c)
              | _ => none
            else (unescapeLetter letter).bind fun c => (readText rest).map (consText c)
      else if c.toNat < 0x20 then none
      else (readText rest).map (consText c)

/-- Write a text with its closing quote. -/
def writeText (text : List Char) : List Char :=
  text.flatMap escapeChar ++ [quote]

/-- One character of a text, whatever follows it. -/
theorem readText_cons (c : Char) (rest : List Char) :
    readText (c :: rest) =
      if c = quote then some ([], rest)
      else if c = backslash then
        match rest with
        | [] => none
        | letter :: rest =>
            if letter = 'u' then
              match rest with
              | a :: b :: c :: d :: rest =>
                  (unescapeDigits a b c d).bind fun c => (readText rest).map (consText c)
              | _ => none
            else (unescapeLetter letter).bind fun c => (readText rest).map (consText c)
      else if c.toNat < 0x20 then none
      else (readText rest).map (consText c) :=
  readText.eq_def (c :: rest)

theorem unescapeDigits_of_lt {n : Nat} (hn : n < 0x20) :
    unescapeDigits '0' '0' (lowerDigit (n / 16)) (lowerDigit (n % 16)) = some (Char.ofNat n) := by
  have hAll : ∀ m < 0x20, unescapeDigits '0' '0' (lowerDigit (m / 16)) (lowerDigit (m % 16)) =
      some (Char.ofNat m) := by decide
  exact hAll n hn

/-- Every letter escape is undone. -/
theorem unescapeLetter_of_mem {escape : Char × Char} (hEscape : escape ∈ letterEscapes) :
    unescapeLetter escape.2 = some escape.1 ∧ escape.2 ≠ 'u' := by
  revert escape
  decide

/-- Reading one escaped character gives the character back. -/
theorem readText_escapeChar (c : Char) (rest : List Char) :
    readText (escapeChar c ++ rest) = (readText rest).map (consText c) := by
  unfold escapeChar
  cases hFind : letterEscapes.find? fun escape => escape.1 = c with
  | some escape =>
      have hChar : escape.1 = c := by simpa using List.find?_some hFind
      obtain ⟨hLetter, hNotU⟩ := unescapeLetter_of_mem (List.mem_of_find?_eq_some hFind)
      have hNotQuote : ¬ backslash = quote := by decide
      show readText (backslash :: escape.2 :: rest) = _
      simp only [readText_cons, hNotQuote, if_false, if_true, hNotU, hLetter, hChar,
        Option.bind_some]
  | none =>
      have hOther : ∀ escape ∈ letterEscapes, ¬ escape.1 = c := by
        intro escape hMem
        simpa using List.find?_eq_none.mp hFind escape hMem
      have hNotQuote : ¬ c = quote := fun h => hOther (quote, quote) (by decide) h.symm
      have hNotBackslash : ¬ c = backslash :=
        fun h => hOther (backslash, backslash) (by decide) h.symm
      by_cases hControl : c.toNat < 0x20
      · have hQuote : ¬ backslash = quote := by decide
        simp only [hControl, if_true]
        show readText (backslash :: 'u' :: '0' :: '0' :: lowerDigit (c.toNat / 16) ::
          lowerDigit (c.toNat % 16) :: rest) = _
        simp only [readText_cons, hQuote, if_false, if_true, unescapeDigits_of_lt hControl,
          Option.bind_some, Char.ofNat_toNat]
      · simp only [hControl, if_false]
        show readText (c :: rest) = _
        simp only [readText_cons, hNotQuote, hNotBackslash, hControl, if_false]

/-- Reading a written text gives the text and what follows it. -/
theorem readText_writeText (text rest : List Char) :
    readText (writeText text ++ rest) = some (text, rest) := by
  unfold writeText
  induction text with
  | nil => simp [readText_cons]
  | cons c text ih =>
      rw [List.flatMap_cons, List.append_assoc, List.append_assoc, readText_escapeChar,
        ← List.append_assoc, ih]
      rfl

/-! ## Natural numbers -/

/-- The decimal digits of a number, most significant first. -/
def writeNatural (n : Nat) : List Char :=
  if n = 0 then ['0'] else ((Nat.digits 10 n).map Nat.digitChar).reverse

/-- The number decimal digits stand for. -/
def naturalOf (digits : List Char) : Nat :=
  digits.foldl (fun n c => 10 * n + (c.toNat - '0'.toNat)) 0

/-- Read the digits a text starts with, and what follows them. -/
def readNatural (text : List Char) : Option (Nat × List Char) :=
  match text.span Char.isDigit with
  | ([], _) => none
  | (digits, rest) => some (naturalOf digits, rest)

theorem digitChar_of_lt {n : Nat} (hn : n < 10) :
    n.digitChar.isDigit = true ∧ n.digitChar.toNat - '0'.toNat = n := by
  have hAll : ∀ m < 10, m.digitChar.isDigit = true ∧ m.digitChar.toNat - '0'.toNat = m := by
    decide
  exact hAll n hn

theorem isDigit_of_mem_writeNatural {n : Nat} {c : Char} (hc : c ∈ writeNatural n) :
    c.isDigit = true := by
  unfold writeNatural at hc
  split_ifs at hc
  · obtain rfl := List.mem_singleton.mp hc
    decide
  · obtain ⟨digit, hDigit, rfl⟩ := List.mem_map.mp (List.mem_reverse.mp hc)
    exact (digitChar_of_lt (Nat.digits_lt_base (by decide) hDigit)).1

theorem writeNatural_ne_nil (n : Nat) : writeNatural n ≠ [] := by
  unfold writeNatural
  split_ifs with hn
  · simp
  · simpa using Nat.digits_ne_nil_iff_ne_zero.mpr hn

theorem naturalOf_writeNatural (n : Nat) : naturalOf (writeNatural n) = n := by
  unfold writeNatural
  split_ifs with hn
  · subst hn
    decide
  · unfold naturalOf
    rw [List.foldl_reverse]
    have hDigits (digits : List Nat) (hAll : ∀ d ∈ digits, d < 10) :
        (digits.map Nat.digitChar).foldr (fun c n => 10 * n + (c.toNat - '0'.toNat)) 0 =
          Nat.ofDigits 10 digits := by
      induction digits with
      | nil => rfl
      | cons d digits ih =>
          rw [List.map_cons, List.foldr_cons, ih fun e he => hAll e (List.mem_cons_of_mem _ he),
            (digitChar_of_lt (hAll d List.mem_cons_self)).2, Nat.ofDigits_cons]
          exact Nat.add_comm _ _
    rw [hDigits _ fun d hd => Nat.digits_lt_base (by decide) hd, Nat.ofDigits_digits]

/-- Reading a written number gives the number and what follows it, unless that is
another digit. -/
theorem readNatural_writeNatural (n : Nat) {c : Char} (rest : List Char)
    (hc : c.isDigit = false) : readNatural (writeNatural n ++ c :: rest) = some (n, c :: rest) := by
  unfold readNatural
  have hSpan : (writeNatural n ++ c :: rest).span Char.isDigit = (writeNatural n, c :: rest) := by
    rw [List.span_eq_takeWhile_dropWhile,
      List.takeWhile_append_of_pos fun d hd => isDigit_of_mem_writeNatural hd,
      List.dropWhile_append_of_pos fun d hd => isDigit_of_mem_writeNatural hd,
      List.takeWhile_cons_of_neg (by simp [hc]), List.dropWhile_cons_of_neg (by simp [hc]),
      List.append_nil]
  rw [hSpan]
  split
  · rename_i hNil
    exact absurd (congrArg Prod.fst hNil) (writeNatural_ne_nil n)
  · rename_i digits found hOther hSame
    cases hSame
    rw [naturalOf_writeNatural]

/-! ## Objects -/

/-- A value of a field. -/
inductive Value
  | text (s : List Char)
  | natural (n : Nat)
  deriving DecidableEq, Repr

/-- Write a value. -/
def Value.write : Value → List Char
  | text s => quote :: writeText s
  | natural n => writeNatural n

/-- Read a value, and what follows it. -/
def readValue : List Char → Option (Value × List Char)
  | [] => none
  | c :: rest =>
      if c = quote then (readText rest).map fun read => (.text read.1, read.2)
      else (readNatural (c :: rest)).map fun read => (.natural read.1, read.2)

/-- Write a field: its name, a colon and its value. -/
def writeField (field : List Char × Value) : List Char :=
  quote :: writeText field.1 ++ ':' :: field.2.write

/-- Read a field, and what follows it. -/
def readField : List Char → Option ((List Char × Value) × List Char)
  | [] => none
  | c :: rest =>
      if c = quote then
        (readText rest).bind fun name =>
          match name.2 with
          | ':' :: rest => (readValue rest).map fun value => ((name.1, value.1), value.2)
          | _ => none
      else none

/-- Write fields with commas between them. -/
def writeFields : List (List Char × Value) → List Char
  | [] => []
  | [field] => writeField field
  | field :: next :: rest => writeField field ++ ',' :: writeFields (next :: rest)

/-- Read at most `fuel` fields, up to the closing brace. -/
def readFields : Nat → List Char → Option (List (List Char × Value))
  | 0, _ => none
  | fuel + 1, text =>
      (readField text).bind fun field =>
        match field.2 with
        | [] => none
        | c :: rest =>
            if c = ',' then (readFields fuel rest).map (field.1 :: ·)
            else if c = closeBrace ∧ rest = [] then some [field.1]
            else none

/-- Write an object. -/
def writeObject (fields : List (List Char × Value)) : List Char :=
  openBrace :: writeFields fields ++ [closeBrace]

/-- Read an object. -/
def readObject : List Char → Option (List (List Char × Value))
  | [] => none
  | c :: rest =>
      if c = openBrace then
        if rest = [closeBrace] then some [] else readFields rest.length rest
      else none

theorem readValue_write (value : Value) {c : Char} (rest : List Char) (hc : c.isDigit = false) :
    readValue (value.write ++ c :: rest) = some (value, c :: rest) := by
  cases value with
  | text s =>
      show readValue (quote :: (writeText s ++ c :: rest)) = _
      simp only [readValue, if_true, readText_writeText, Option.map_some]
  | natural n =>
      have hRead := readNatural_writeNatural n rest hc
      unfold Value.write
      cases hDigits : writeNatural n with
      | nil => exact absurd hDigits (writeNatural_ne_nil n)
      | cons d digits =>
          rw [hDigits] at hRead
          have hNotQuote : ¬ d = quote := by
            rintro rfl
            have hDigit := isDigit_of_mem_writeNatural (n := n) (c := quote) (by simp [hDigits])
            exact absurd hDigit (by decide)
          rw [List.cons_append] at hRead
          show readValue (writeNatural n ++ c :: rest) = _
          rw [hDigits, List.cons_append]
          simp only [readValue, hNotQuote, if_false, hRead, Option.map_some]

theorem readField_writeField (field : List Char × Value) {c : Char} (rest : List Char)
    (hc : c.isDigit = false) :
    readField (writeField field ++ c :: rest) = some (field, c :: rest) := by
  have hWrite : writeField field ++ c :: rest =
      quote :: (writeText field.1 ++ ':' :: (field.2.write ++ c :: rest)) := by
    simp [writeField]
  rw [hWrite]
  simp only [readField, if_true, readText_writeText, Option.bind_some, readValue_write _ rest hc,
    Option.map_some]

theorem length_le_length_writeFields (fields : List (List Char × Value)) :
    fields.length ≤ (writeFields fields).length := by
  induction fields with
  | nil => simp
  | cons field fields ih =>
      cases fields with
      | nil => simp [writeFields, writeField]
      | cons next rest =>
          simp only [writeFields, List.length_append, List.length_cons] at ih ⊢
          omega

theorem readFields_writeFields {fields : List (List Char × Value)} (hSome : fields ≠ [])
    {fuel : Nat} (hFuel : fields.length ≤ fuel) :
    readFields fuel (writeFields fields ++ [closeBrace]) = some fields := by
  induction fields generalizing fuel with
  | nil => exact absurd rfl hSome
  | cons field fields ih =>
      cases fuel with
      | zero => simp at hFuel
      | succ fuel =>
          cases fields with
          | nil =>
              have hBrace : ¬ closeBrace = ',' := by decide
              simp only [writeFields, readFields,
                readField_writeField field [] (c := closeBrace) (by decide), Option.bind_some,
                hBrace, if_false, true_and, if_true]
          | cons next rest =>
              have hRest : readFields fuel (writeFields (next :: rest) ++ [closeBrace]) =
                  some (next :: rest) := ih (by simp) (by simpa using hFuel)
              simp only [writeFields, List.append_assoc, List.cons_append, readFields,
                readField_writeField field _ (c := ',') (by decide), Option.bind_some, if_true,
                hRest, Option.map_some]

/-- Reading a written object gives the object back. -/
theorem readObject_writeObject (fields : List (List Char × Value)) :
    readObject (writeObject fields) = some fields := by
  unfold writeObject
  simp only [List.cons_append, readObject, if_true]
  cases fields with
  | nil => simp [writeFields]
  | cons field fields =>
      have hLength := length_le_length_writeFields (field :: fields)
      have hLong : ¬ writeFields (field :: fields) ++ [closeBrace] = [closeBrace] := by
        intro hShort
        have hNil : writeFields (field :: fields) = [] := by simpa using hShort
        rw [hNil] at hLength
        simp at hLength
      rw [if_neg hLong]
      refine readFields_writeFields (by simp) ?_
      rw [List.length_append]
      omega

end FlatJson
end Lib
