import TvcGpg.Lib.Separators
import TvcGpg.Model.Allowlist
import TvcGpg.Model.Build

/-!
# Key files

A `KeyText` is the text of a file of the allowlist directory, with the armored
blocks in it marked.  `splitOn_text` says where such a text is cut at the first
lines of its blocks: in front of each block and nowhere else.  `KeyText.join` is
what the build script does to two files: concatenation of their texts, with a
trimmed seam (`text_join`), and of their blocks (`blocks_join`).
-/

namespace TvcGpg

open Lib Lib.Text Lib.Scans Lib.Separators

/-! ## The text of a key file -/

/-- Last line of an armored public key block. -/
def armorEnd : String := "-----END PGP PUBLIC KEY BLOCK-----"

/-- What follows the last line of a block: nothing, or text that starts with white space. -/
def StartsBlank (text : List Char) : Prop :=
  text = [] ∨ ∃ c rest, text = c :: rest ∧ isWhitespace c = true

/-- Text that ends with a line terminator. -/
def EndsLine (text : List Char) : Prop := ∃ lines, text = lines ++ ['\n']

/-- An armored public key block, from its first line through its last. -/
structure ArmoredBlock where
  /-- What stands between the two markers. -/
  body : List Char
  endsLine : EndsLine body
  noBegin : Free armorBegin.toList (body ++ armorEnd.toList)
  /-- The last line is the first that carries the end marker. -/
  oneEnd : Free armorEnd.toList (armorBegin.toList ++ body)

/-- What the block says behind its begin marker. -/
def ArmoredBlock.rest (block : ArmoredBlock) : List Char := block.body ++ armorEnd.toList

/-- The block as it stands in the file. -/
def ArmoredBlock.text (block : ArmoredBlock) : List Char := armorBegin.toList ++ block.rest

/-- Text without a block, at the start of a file or, with `afterBlock`, behind a block. -/
structure Gap (afterBlock : Bool) where
  text : List Char
  noBegin : Free armorBegin.toList text
  /-- The last line of a block ends before more text comes. -/
  blank : afterBlock = true → StartsBlank text

/-- The next block starts a line. -/
def Gap.StartsLine {afterBlock : Bool} (gap : Gap afterBlock) : Prop :=
  (afterBlock = false ∧ gap.text = []) ∨ EndsLine gap.text

/-- The text of a file from its start or, with `afterBlock`, from behind a block. -/
inductive KeyText : Bool → Type
  | last {afterBlock : Bool} (gap : Gap afterBlock) : KeyText afterBlock
  | next {afterBlock : Bool} (gap : Gap afterBlock) (startsLine : gap.StartsLine)
      (block : ArmoredBlock) (more : KeyText true) : KeyText afterBlock

namespace KeyText

/-- The characters of the file. -/
def text {afterBlock : Bool} : KeyText afterBlock → List Char
  | last gap => gap.text
  | next gap _ block more => gap.text ++ (block.text ++ more.text)

/-- Its blocks. -/
def blocks {afterBlock : Bool} : KeyText afterBlock → List ArmoredBlock
  | last _ => []
  | next _ _ block more => block :: more.blocks

/-- What stands in front of the first block. -/
def first {afterBlock : Bool} : KeyText afterBlock → Gap afterBlock
  | last gap => gap
  | next gap _ _ _ => gap

/-- What stands behind each begin marker. -/
def rests {afterBlock : Bool} : KeyText afterBlock → List (List Char)
  | last _ => []
  | next _ _ block more => (block.rest ++ more.first.text) :: more.rests

/-- Each piece is one block and the gap behind it. -/
theorem rests_forall₂_blocks {afterBlock : Bool} (keyText : KeyText afterBlock) :
    List.Forall₂ (fun rest block => ∃ gap : Gap true, rest = ArmoredBlock.rest block ++ gap.text)
      keyText.rests keyText.blocks := by
  induction keyText with
  | last gap => exact .nil
  | next gap startsLine block more ih => exact .cons ⟨more.first, rfl⟩ ih

end KeyText

/-! ## Where the text is cut -/

/-- The begin marker has no white space behind a dash. -/
theorem armorBegin_no_dash_blank {c : Char} (hBlank : isWhitespace c = true) :
    Free ['-', c] armorBegin.toList := by
  intro hOccurs
  have hPairs : ∀ pair ∈ armorBegin.toList.zip armorBegin.toList.tail,
      pair.1 = '-' → isWhitespace pair.2 = false := by
    decide +kernel
  have hNot := hPairs _ (mem_zip_tail_of_isInfix hOccurs) rfl
  rw [hBlank] at hNot
  cases hNot

theorem lineEnd_not_mem_armorBegin : '\n' ∉ armorBegin.toList := by
  decide

/-- A block ends with a dash. -/
theorem ArmoredBlock.rest_eq_concat (block : ArmoredBlock) :
    ∃ front, block.rest = front ++ ['-'] := by
  refine ⟨block.body ++ armorEnd.toList.dropLast, ?_⟩
  rw [List.append_assoc]
  rfl

/-- What may stand in front of a gap when the text is scanned: nothing at the start of a
file, and otherwise a block without its begin marker. -/
def ScannedBefore (afterBlock : Bool) (scanned : List Char) : Prop :=
  (afterBlock = false ∧ scanned = []) ∨
    (afterBlock = true ∧ ∃ block : ArmoredBlock, scanned = block.rest)

/-- No marker arises where a block meets the text behind it. -/
theorem ScannedBefore.free {afterBlock : Bool} {scanned : List Char}
    (hScanned : ScannedBefore afterBlock scanned) (gap : Gap afterBlock) :
    Free armorBegin.toList (scanned ++ gap.text) := by
  rcases hScanned with ⟨-, rfl⟩ | ⟨rfl, block, rfl⟩
  · exact gap.noBegin
  · rcases gap.blank rfl with hNil | ⟨c, rest, hText, hBlank⟩
    · rw [hNil, List.append_nil]
      exact block.noBegin
    · obtain ⟨front, hRest⟩ := block.rest_eq_concat
      have hBlock : Free armorBegin.toList (front ++ ['-']) := by
        rw [← hRest]
        exact block.noBegin
      rw [hText, hRest]
      exact hBlock.append (hText ▸ gap.noBegin) (armorBegin_no_dash_blank hBlank)

/-- The text in front of a block is empty or ends a line. -/
theorem ScannedBefore.endsLine {afterBlock : Bool} {scanned : List Char}
    (hScanned : ScannedBefore afterBlock scanned) {gap : Gap afterBlock}
    (hStarts : gap.StartsLine) :
    scanned ++ gap.text = [] ∨
      ∃ front c, scanned ++ gap.text = front ++ [c] ∧ c ∉ armorBegin.toList := by
  rcases hStarts with ⟨rfl, hNil⟩ | ⟨lines, hLines⟩
  · rcases hScanned with ⟨-, rfl⟩ | ⟨hNot, -⟩
    · exact Or.inl hNil
    · cases hNot
  · refine Or.inr ⟨scanned ++ lines, '\n', ?_, lineEnd_not_mem_armorBegin⟩
    rw [hLines, List.append_assoc]

/-- The text is cut in front of each block and nowhere else. -/
theorem KeyText.splitOn_text {afterBlock : Bool} (keyText : KeyText afterBlock)
    {scanned : List Char} (hScanned : ScannedBefore afterBlock scanned) :
    splitOn armorBegin.toList (scanned ++ keyText.text) =
      (scanned ++ keyText.first.text) :: keyText.rests := by
  induction keyText generalizing scanned with
  | last gap => exact splitOn_of_free (hScanned.free gap)
  | next gap startsLine block more ih =>
      have hNone : NoneStarts armorBegin.toList (scanned ++ gap.text)
          (armorBegin.toList ++ (block.rest ++ more.text)) :=
        noneStarts_of_lineEnd (hScanned.free gap) (hScanned.endsLine startsLine)
      have hCut := splitOn_append_separator (by decide) hNone
      rw [ih (Or.inr ⟨rfl, block, rfl⟩)] at hCut
      show splitOn _ (scanned ++ (gap.text ++ (armorBegin.toList ++ block.rest ++ more.text))) = _
      rw [List.append_assoc armorBegin.toList, ← List.append_assoc scanned]
      exact hCut

/-! ## Joining two files -/

/-- Trimming keeps the start of what it keeps. -/
theorem StartsBlank.trim {text : List Char} (hBlank : StartsBlank text) :
    StartsBlank (text.rdropWhile isWhitespace) := by
  obtain ⟨back, hBack⟩ := List.rdropWhile_prefix isWhitespace text
  rcases hTrimmed : text.rdropWhile isWhitespace with _ | ⟨c, rest⟩
  · exact Or.inl rfl
  · rw [hTrimmed] at hBack
    rcases hBlank with hNil | ⟨c', rest', hText, hc⟩
    · rw [hNil] at hBack
      cases hBack
    · rw [hText] at hBack
      obtain ⟨rfl, -⟩ := List.cons.inj hBack
      exact Or.inr ⟨c, rest, rfl, hc⟩

/-- A line terminator is white space. -/
theorem StartsBlank.append_lineEnd {text : List Char} (hBlank : StartsBlank text)
    (more : List Char) : StartsBlank (text ++ '\n' :: more) := by
  rcases hBlank with rfl | ⟨c, rest, rfl, hc⟩
  · exact Or.inr ⟨'\n', more, rfl, rfl⟩
  · exact Or.inr ⟨c, rest ++ '\n' :: more, rfl, hc⟩

/-- The end of one file and the start of the next, as the script joins them. -/
def Gap.join {afterBlock : Bool} (gap : Gap afterBlock) (more : Gap false) : Gap afterBlock where
  text := gap.text.rdropWhile isWhitespace ++ '\n' :: more.text
  noBegin := by
    have hTrimmed : Free armorBegin.toList (gap.text.rdropWhile isWhitespace) := by
      obtain ⟨back, hBack⟩ := List.rdropWhile_prefix isWhitespace gap.text
      exact Free.left (hBack ▸ gap.noBegin)
    exact hTrimmed.append_cons more.noBegin lineEnd_not_mem_armorBegin
  blank := fun hAfter => (gap.blank hAfter).trim.append_lineEnd more.text

theorem Gap.join_startsLine {afterBlock : Bool} (gap : Gap afterBlock) {more : Gap false}
    (hStarts : more.StartsLine) : (gap.join more).StartsLine := by
  rcases hStarts with ⟨-, hNil⟩ | ⟨lines, hLines⟩
  · refine Or.inr ⟨gap.text.rdropWhile isWhitespace, ?_⟩
    show _ ++ '\n' :: more.text = _
    rw [hNil]
  · refine Or.inr ⟨gap.text.rdropWhile isWhitespace ++ '\n' :: lines, ?_⟩
    show _ ++ '\n' :: more.text = _
    rw [hLines]
    simp

namespace KeyText

/-- A file, trimmed at its end, with a line terminator and the next file behind it. -/
def join {afterBlock : Bool} : KeyText afterBlock → KeyText false → KeyText afterBlock
  | last gap, last gap' => last (gap.join gap')
  | last gap, next gap' startsLine block more =>
      next (gap.join gap') (gap.join_startsLine startsLine) block more
  | next gap startsLine block more, keyText => next gap startsLine block (more.join keyText)

theorem blocks_join {afterBlock : Bool} (keyText : KeyText afterBlock) (keyText' : KeyText false) :
    (keyText.join keyText').blocks = keyText.blocks ++ keyText'.blocks := by
  induction keyText with
  | last gap =>
      cases keyText' with
      | last gap' => rfl
      | next gap' startsLine' block' more' => rfl
  | next gap startsLine block more ih =>
      show block :: (more.join keyText').blocks = block :: (more.blocks ++ keyText'.blocks)
      rw [ih]

/-- A block ends with a dash, so trimming a file does not reach into its last block. -/
theorem trim_text_next {afterBlock : Bool} (gap : Gap afterBlock) (startsLine : gap.StartsLine)
    (block : ArmoredBlock) (more : KeyText true) :
    (next gap startsLine block more).text.rdropWhile isWhitespace =
      gap.text ++ (block.text ++ more.text.rdropWhile isWhitespace) := by
  obtain ⟨front, hRest⟩ := block.rest_eq_concat
  have hTrim := rdropWhile_append isWhitespace
    (gap.text ++ (armorBegin.toList ++ front)) more.text (show isWhitespace '-' = false from rfl)
  show (gap.text ++ (armorBegin.toList ++ block.rest ++ more.text)).rdropWhile isWhitespace =
    gap.text ++ (armorBegin.toList ++ block.rest ++ more.text.rdropWhile isWhitespace)
  rw [hRest]
  simpa using hTrim

/-- Joining is what the script does to the text of two files. -/
theorem text_join {afterBlock : Bool} (keyText : KeyText afterBlock) (keyText' : KeyText false) :
    (keyText.join keyText').text =
      keyText.text.rdropWhile isWhitespace ++ '\n' :: keyText'.text := by
  induction keyText with
  | last gap =>
      cases keyText' with
      | last gap' => rfl
      | next gap' startsLine' block' more' =>
          show gap.text.rdropWhile isWhitespace ++ '\n' :: gap'.text ++ _ = _
          simp [text]
  | next gap startsLine block more ih =>
      rw [trim_text_next]
      show gap.text ++ (block.text ++ (more.join keyText').text) = _
      rw [ih]
      simp

end KeyText

/-! ## The directory and the reader -/

/-- What each entry the script takes holds, as text with its blocks marked. -/
def HoldsText (keyText : DirEntry → KeyText false) (entry : DirEntry) : Prop :=
  entry.contents = some (asBytes (String.ofList (keyText entry).text))

/-- rPGP reads no further than the last line of a block. -/
def ReadsToEndLine (rpgp : Rpgp) : Prop :=
  ∀ (block : ArmoredBlock) (gap : Gap true),
    rpgp.fromArmorMany (String.ofList (block.text ++ gap.text)) =
      rpgp.fromArmorMany (String.ofList block.text)

end TvcGpg
