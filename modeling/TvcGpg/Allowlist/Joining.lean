import TvcGpg.Allowlist.Classify
import TvcGpg.Allowlist.KeyText
import TvcGpg.Allowlist.Read

/-!
# The joined file has the blocks of its files

The build script joins the files of the allowlist directory, and
`readCertificates` cuts the joined text at the first line of each block.  Both
are followed on `KeyText`: the script builds `joinAll` of the files, whose
blocks are theirs in order, and the reader gets each of these blocks with the
gap behind it.  What is left is that rPGP reads no further than the last line of
a block (`ReadsToEndLine`).
-/

namespace TvcGpg

open Lib Lib.Text Lib.Fallible Lib.Scans Lib.Separators

/-! ## The file the script writes -/

/-- The files of the directory, joined in order. -/
def joinAll : List (KeyText false) → KeyText false
  | [] => .last ⟨[], by decide, fun hAfter => by cases hAfter⟩
  | keyText :: rest => keyText.join (joinAll rest)

theorem blocks_joinAll (keyTexts : List (KeyText false)) :
    (joinAll keyTexts).blocks = keyTexts.flatMap KeyText.blocks := by
  induction keyTexts with
  | nil => rfl
  | cons keyText rest ih =>
      show (keyText.join (joinAll rest)).blocks = keyText.blocks ++ rest.flatMap KeyText.blocks
      rw [KeyText.blocks_join, ih]

theorem joinFile_of_holdsText {keyText : DirEntry → KeyText false} {entry : DirEntry}
    (hHolds : HoldsText keyText entry) (joined : String) :
    joinFile joined entry =
      .ok (joined ++ trimEnd (String.ofList (keyText entry).text) ++ "\n") := by
  unfold joinFile
  rw [hHolds, Option.bind_some, fromUtf8_asBytes]
  rfl

/-- The loop of the script writes the joined text. -/
theorem foldlM_joinFile {keyText : DirEntry → KeyText false} {files : List DirEntry}
    (hHold : ∀ file ∈ files, HoldsText keyText file) (joined : String) :
    files.foldlM joinFile joined =
      .ok (joined ++ String.ofList (joinAll (files.map keyText)).text) := by
  induction files generalizing joined with
  | nil =>
      show Except.ok joined = .ok (joined ++ "")
      rw [String.append_empty]
  | cons file files ih =>
      obtain ⟨hFile, hFiles⟩ := List.forall_mem_cons.mp hHold
      rw [List.foldlM_cons, joinFile_of_holdsText hFile, ok_bind, ih hFiles, List.map_cons]
      refine congrArg Except.ok (String.toList_inj.mp ?_)
      show _ = (joined ++ String.ofList ((keyText file).join _).text).toList
      rw [KeyText.text_join]
      simp [trimEnd]

/-- The entries the script goes through when it can read them all. -/
theorem mapM_okOr_map_some (entries : List DirEntry) (message : String) :
    (entries.map some).mapM (fun entry => okOr entry message) = .ok entries := by
  induction entries with
  | nil => rfl
  | cons entry entries ih => rw [List.map_cons, List.mapM_cons, ih]; rfl

/-- The script joins the files it takes, in the order of their names, and stops where
there are none. -/
theorem joinAllowlist_eq_ok_iff {keyText : DirEntry → KeyText false} {entries : List DirEntry}
    (hHold : ∀ entry ∈ entries, entry.isAsc = true → HoldsText keyText entry) {joined : String} :
    joinAllowlist (some (entries.map some)) = .ok joined ↔
      ascFiles entries ≠ [] ∧
        joined = String.ofList (joinAll ((ascFiles entries).map keyText)).text := by
  have hFiles : ∀ file ∈ ascFiles entries, HoldsText keyText file := by
    intro file hFile
    have hMem := List.mem_filter.mp ((List.mem_insertionSort _).mp hFile)
    exact hHold file hMem.1 hMem.2
  unfold joinAllowlist
  rw [okOr_some, ok_bind, mapM_okOr_map_some, ok_bind]
  simp only [bind_eq_ok_iff, require_eq_ok_iff, List.isEmpty_iff, foldlM_joinFile hFiles]
  constructor
  · intro hOk
    rcases hOk with ⟨-, hSome, hJoined⟩
    refine ⟨hSome, ?_⟩
    rw [← Except.ok.inj hJoined, String.empty_append]
  · intro hOk
    rcases hOk with ⟨hSome, rfl⟩
    exact ⟨(), hSome, by rw [String.empty_append]⟩

/-- The script writes the joined text or nothing. -/
theorem buildMain_eq_ok_iff {env : BuildEnv} {joined : String} :
    buildMain env = .ok joined ↔
      joinAllowlist env.listing = .ok joined ∧ env.outDir.isSome ∧ env.canWrite = true := by
  unfold buildMain
  simp only [bind_eq_ok_iff, okOr_eq_ok_iff, require_eq_ok_iff, Option.isSome_iff_exists]
  constructor
  · intro hOk
    rcases hOk with ⟨text, hText, outDir, hDir, -, hWrite, hJoined⟩
    obtain rfl := Except.ok.inj hJoined
    exact ⟨hText, ⟨outDir, hDir⟩, hWrite⟩
  · intro hOk
    rcases hOk with ⟨hText, ⟨outDir, hDir⟩, hWrite⟩
    exact ⟨joined, hText, outDir, hDir, (), hWrite, rfl⟩

/-- The files are taken in the order of their names, -/
theorem ascFiles_sorted (entries : List DirEntry) :
    (ascFiles entries).Pairwise fun a b => a.name ≤ b.name :=
  List.pairwise_insertionSort _ _

/-- each of them once. -/
theorem ascFiles_perm (entries : List DirEntry) :
    (ascFiles entries).Perm (entries.filter DirEntry.isAsc) :=
  List.perm_insertionSort _ _

/-! ## Reading the joined file -/

/-- rPGP reads these certificates in the text of the block alone. -/
def ReadsAlone (rpgp : Rpgp) (block : ArmoredBlock) (certificates : List SignedPublicKey) :
    Prop :=
  rpgp.fromArmorMany (String.ofList block.text) = some (certificates.map some)

/-- A joined file reads as its blocks do on their own. -/
structure ReadsEachBlock (rpgp : Rpgp) (blocks : List ArmoredBlock) (joined : String) : Prop where
  /-- The text is cut into exactly these blocks, each with the gap behind it. -/
  pieces : List.Forall₂
    (fun rest block => ∃ gap : Gap true, rest = ArmoredBlock.rest block ++ gap.text)
    ((splitOn armorBegin.toList joined.toList).drop 1) blocks
  ok_iff : ∀ certificates, readCertificates rpgp (asBytes joined) = .ok certificates ↔
    blocks ≠ [] ∧ ∃ parsed, List.Forall₂ (ReadsAlone rpgp) blocks parsed ∧
      certificates = firstsBy SignedPublicKey.primaryFingerprint parsed.flatten
  /-- The block reported is the first that cannot be read, counted from one. -/
  badKeyBlock_iff : ∀ n, readCertificates rpgp (asBytes joined) = .error (.badKeyBlock n) ↔
    ∃ front block back, blocks = front ++ block :: back ∧
      (∀ before ∈ front, ∃ certificates, ReadsAlone rpgp before certificates) ∧
      (¬ ∃ certificates, ReadsAlone rpgp block certificates) ∧ n = front.length + 1
  noKeyBlock_iff : readCertificates rpgp (asBytes joined) = .error .noKeyBlock ↔ blocks = []

/-- The text behind a block makes no difference. -/
theorem readBlock_rest_append_gap {rpgp : Rpgp} (hLaw : ReadsToEndLine rpgp)
    (state : ReadState) (block : ArmoredBlock) (gap : Gap true) :
    readBlock rpgp state (block.rest ++ gap.text) = readBlock rpgp state block.rest := by
  have hText : ∀ text, armorBegin ++ String.ofList (block.rest ++ text) =
      String.ofList (block.text ++ text) := by
    intro text
    apply String.toList_inj.mp
    simp [ArmoredBlock.text]
  have hAlone := hText []
  rw [List.append_nil, List.append_nil] at hAlone
  unfold readBlock
  dsimp only
  rw [hText, hAlone, hLaw block gap]

/-- The pieces read as the blocks alone do. -/
theorem readRests_of_pieces {rpgp : Rpgp} (hLaw : ReadsToEndLine rpgp)
    {rests : List (List Char)} {blocks : List ArmoredBlock}
    (hPieces : List.Forall₂
      (fun rest block => ∃ gap : Gap true, rest = ArmoredBlock.rest block ++ gap.text)
      rests blocks) :
    readRests rpgp rests = readRests rpgp (blocks.map ArmoredBlock.rest) := by
  have hLoop : ∀ state, rests.foldlM (readBlock rpgp) state =
      (blocks.map ArmoredBlock.rest).foldlM (readBlock rpgp) state := by
    induction hPieces with
    | nil => exact fun state => rfl
    | @cons rest block rests blocks hPiece _ ih =>
        obtain ⟨gap, rfl⟩ := hPiece
        intro state
        rw [List.map_cons, List.foldlM_cons, List.foldlM_cons, readBlock_rest_append_gap hLaw]
        exact bind_congr ih
  unfold readRests
  rw [hLoop]

theorem blockReads_rest_iff {rpgp : Rpgp} {block : ArmoredBlock}
    {certificates : List SignedPublicKey} :
    BlockReads rpgp block.rest certificates ↔ ReadsAlone rpgp block certificates := by
  have hText : armorBegin ++ String.ofList block.rest = String.ofList block.text := by
    apply String.toList_inj.mp
    simp [ArmoredBlock.text]
  unfold BlockReads ReadsAlone
  rw [hText]

/-- A text cut into blocks reads as the blocks do. -/
theorem readsEachBlock_of_pieces {rpgp : Rpgp} (hLaw : ReadsToEndLine rpgp)
    {blocks : List ArmoredBlock} {joined : String}
    (hPieces : List.Forall₂
      (fun rest block => ∃ gap : Gap true, rest = ArmoredBlock.rest block ++ gap.text)
      ((splitOn armorBegin.toList joined.toList).drop 1) blocks) :
    ReadsEachBlock rpgp blocks joined := by
  have hRead : readCertificates rpgp (asBytes joined) =
      readRests rpgp (blocks.map ArmoredBlock.rest) := by
    rw [readCertificates_asBytes, readRests_of_pieces hLaw hPieces]
  refine { pieces := hPieces, ok_iff := ?_, badKeyBlock_iff := ?_, noKeyBlock_iff := ?_ }
  · intro certificates
    rw [hRead, readRests_eq_ok_iff]
    simp only [List.forall₂_map_left_iff, blockReads_rest_iff, ne_eq, List.map_eq_nil_iff]
  · intro n
    rw [hRead, readRests_eq_badKeyBlock_iff]
    constructor
    · intro hError
      rcases hError with ⟨front, rest, back, hBlocks, hFront, hBad, rfl⟩
      obtain ⟨front, blocks, rfl, rfl, hRest⟩ := List.map_eq_append_iff.mp hBlocks
      obtain ⟨block, back, rfl, rfl, rfl⟩ := List.map_eq_cons_iff.mp hRest
      rw [List.forall_mem_map] at hFront
      simp only [blockReads_rest_iff] at hFront hBad
      exact ⟨front, block, back, rfl, hFront, hBad, by rw [List.length_map]⟩
    · intro hError
      rcases hError with ⟨front, block, back, rfl, hFront, hBad, rfl⟩
      refine ⟨front.map ArmoredBlock.rest, block.rest, back.map ArmoredBlock.rest, ?_, ?_, ?_, ?_⟩
      · rw [List.map_append, List.map_cons]
      · rw [List.forall_mem_map]
        simp only [blockReads_rest_iff]
        exact hFront
      · simp only [blockReads_rest_iff]
        exact hBad
      · rw [List.length_map]
  · rw [hRead, readRests_eq_noKeyBlock_iff, List.map_eq_nil_iff]

/-! ## The build and the reader together -/

/-- The blocks of the directory, in the order of the files. -/
def directoryBlocks (keyText : DirEntry → KeyText false) (entries : List DirEntry) :
    List ArmoredBlock :=
  (ascFiles entries).flatMap fun file => (keyText file).blocks

/-- A joined file reads as the blocks of its directory do. -/
theorem readsEachBlock_of_joined {rpgp : Rpgp} (hLaw : ReadsToEndLine rpgp)
    {keyText : DirEntry → KeyText false} {entries : List DirEntry}
    (hHold : ∀ entry ∈ entries, entry.isAsc = true → HoldsText keyText entry) {joined : String}
    (hJoined : joinAllowlist (some (entries.map some)) = .ok joined) :
    ReadsEachBlock rpgp (directoryBlocks keyText entries) joined := by
  obtain ⟨-, rfl⟩ := (joinAllowlist_eq_ok_iff hHold).mp hJoined
  apply readsEachBlock_of_pieces hLaw
  have hScanned : ScannedBefore false [] := Or.inl ⟨rfl, rfl⟩
  have hCut := (joinAll ((ascFiles entries).map keyText)).splitOn_text hScanned
  have hBlocks := KeyText.rests_forall₂_blocks (joinAll ((ascFiles entries).map keyText))
  rw [blocks_joinAll, List.flatMap_map] at hBlocks
  rw [String.toList_ofList, ← List.nil_append (KeyText.text _), hCut]
  exact hBlocks

/-- Every armored key of the directory is read, in the order of the names of the files, as if
its block stood alone, and the file has no other block.  The script writes no file only where
the directory has no armored key. -/
theorem joining_loses_no_key {rpgp : Rpgp} (hLaw : ReadsToEndLine rpgp)
    {keyText : DirEntry → KeyText false} {entries : List DirEntry}
    (hHold : ∀ entry ∈ entries, entry.isAsc = true → HoldsText keyText entry) :
    ((ascFiles entries).Pairwise fun a b => a.name ≤ b.name) ∧
      (ascFiles entries).Perm (entries.filter DirEntry.isAsc) ∧
      ((∃ joined, joinAllowlist (some (entries.map some)) = .ok joined) ↔ ascFiles entries ≠ []) ∧
      ∀ joined, joinAllowlist (some (entries.map some)) = .ok joined →
        ReadsEachBlock rpgp ((ascFiles entries).flatMap fun file => (keyText file).blocks)
          joined := by
  refine ⟨ascFiles_sorted entries, ascFiles_perm entries, ?_, ?_⟩
  · simp only [joinAllowlist_eq_ok_iff hHold, exists_and_left, exists_eq, and_true]
  · intro joined hJoined
    exact readsEachBlock_of_joined hLaw hHold hJoined

/-! ## A directory of key files -/

namespace Reference

/-- The text of an armored block from its first line through its last. -/
def throughEndLine (armored : String) : String :=
  String.ofList ((splitOn armorEnd.toList armored.toList).headD [] ++ armorEnd.toList)

/-- rPGP functions that read an armored block through its last line. -/
def stopAtEndLine (rpgp : Rpgp) : Rpgp :=
  { rpgp with fromArmorMany := fun armored => rpgp.fromArmorMany (throughEndLine armored) }

theorem throughEndLine_block (block : ArmoredBlock) (text : List Char) :
    throughEndLine (String.ofList (block.text ++ text)) = String.ofList block.text := by
  obtain ⟨lines, hLines⟩ := block.endsLine
  have hEnd : '\n' ∉ armorEnd.toList := by
    decide
  have hNone : NoneStarts armorEnd.toList (armorBegin.toList ++ block.body)
      (armorEnd.toList ++ text) := by
    refine noneStarts_of_lineEnd block.oneEnd (Or.inr ⟨armorBegin.toList ++ lines, '\n', ?_, hEnd⟩)
    rw [hLines, List.append_assoc]
  have hCut := splitOn_append_separator (by decide) hNone
  have hText : block.text ++ text =
      armorBegin.toList ++ block.body ++ (armorEnd.toList ++ text) := by
    simp [ArmoredBlock.text, ArmoredBlock.rest]
  unfold throughEndLine
  rw [String.toList_ofList, hText, hCut]
  simp [ArmoredBlock.text, ArmoredBlock.rest]

theorem readsToEndLine_stopAtEndLine (rpgp : Rpgp) : ReadsToEndLine (stopAtEndLine rpgp) := by
  intro block gap
  have hAlone := throughEndLine_block block []
  rw [List.append_nil] at hAlone
  show rpgp.fromArmorMany (throughEndLine _) = rpgp.fromArmorMany (throughEndLine _)
  rw [throughEndLine_block, hAlone]

/-- The block of the engineer. -/
def engineerBlock : ArmoredBlock where
  body := ['\n', 'A', '\n']
  endsLine := ⟨['\n', 'A'], rfl⟩
  noBegin := by decide
  oneEnd := by decide

/-- The block of the colleague. -/
def colleagueBlock : ArmoredBlock where
  body := ['\n', 'B', '\n']
  endsLine := ⟨['\n', 'B'], rfl⟩
  noBegin := by decide
  oneEnd := by decide

/-- The certificates of the two blocks. -/
def publishedInFiles (block : String) : Option (List SignedPublicKey) :=
  if block = String.ofList engineerBlock.text then some [certificate none []]
  else if block = String.ofList colleagueBlock.text then some [colleague]
  else none

/-- A file with the engineer's block and blank lines behind it. -/
def engineerText : KeyText false :=
  .next ⟨[], by decide, fun hAfter => by cases hAfter⟩ (Or.inl ⟨rfl, rfl⟩) engineerBlock
    (.last ⟨['\n', ' ', '\n'], by decide, fun _ => Or.inr ⟨'\n', [' ', '\n'], rfl, rfl⟩⟩)

/-- A file with a remark and the blocks of both. -/
def bothText : KeyText false :=
  .next ⟨['#', '\n'], by decide, fun hAfter => by cases hAfter⟩ (Or.inr ⟨['#'], rfl⟩)
    colleagueBlock
    (.next ⟨['\n'], by decide, fun _ => Or.inr ⟨'\n', [], rfl, rfl⟩⟩ (Or.inr ⟨[], rfl⟩)
      engineerBlock (.last ⟨[], by decide, fun _ => Or.inl rfl⟩))

/-- A file the script passes over. -/
def readme : DirEntry := { name := asBytes "README.md", shown := "README.md", contents := some [] }

theorem readme_not_isAsc : readme.isAsc = false := by
  decide +kernel

/-- A directory with two armored keys and a readme. -/
def directory : List DirEntry :=
  [{ name := asBytes "b.asc", shown := "b.asc"
     contents := some (asBytes (String.ofList bothText.text)) },
   readme,
   { name := asBytes "a.asc", shown := "a.asc"
     contents := some (asBytes (String.ofList engineerText.text)) }]

/-- The text of a file of the directory. -/
def keyText (entry : DirEntry) : KeyText false :=
  if entry.shown = "b.asc" then bothText else engineerText

theorem directory_holdsText :
    ∀ entry ∈ directory, entry.isAsc = true → HoldsText keyText entry := by
  intro entry hEntry hAsc
  simp only [directory, List.mem_cons, List.not_mem_nil, or_false] at hEntry
  rcases hEntry with rfl | rfl | rfl
  · rfl
  · rw [readme_not_isAsc] at hAsc
    cases hAsc
  · rfl

theorem directoryBlocks_directory :
    directoryBlocks keyText directory = [engineerBlock, colleagueBlock, engineerBlock] := by
  have hFiles : ascFiles directory =
      [{ name := asBytes "a.asc", shown := "a.asc"
         contents := some (asBytes (String.ofList engineerText.text)) },
       { name := asBytes "b.asc", shown := "b.asc"
         contents := some (asBytes (String.ofList bothText.text)) }] := by
    decide +kernel
  rw [directoryBlocks, hFiles]
  rfl

theorem directory_hasFiles : ascFiles directory ≠ [] := by
  intro hNone
  have hBlocks := directoryBlocks_directory
  rw [directoryBlocks, hNone] at hBlocks
  cases hBlocks

end Reference

open Reference in
/-- Three files, of which two are armored keys: the script writes a file, and it reads as the
engineer's block, the colleague's and the engineer's again. -/
theorem joining_loses_no_key_directory : ∃ joined,
    joinAllowlist (some (directory.map some)) = .ok joined ∧
      ReadsEachBlock (stopAtEndLine (rpgp publishedInFiles))
        [engineerBlock, colleagueBlock, engineerBlock] joined := by
  obtain ⟨-, -, hJoins, hReads⟩ := joining_loses_no_key
    (readsToEndLine_stopAtEndLine (rpgp publishedInFiles)) directory_holdsText
  obtain ⟨joined, hJoined⟩ := hJoins.mpr directory_hasFiles
  have hEach := hReads joined hJoined
  exact ⟨joined, hJoined, directoryBlocks_directory ▸ hEach⟩

end TvcGpg
