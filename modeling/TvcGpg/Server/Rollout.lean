import Mathlib.Data.List.ReduceOption
import TvcGpg.Server.Supply

/-!
# From one build to the next

A file system lists a directory in any order, and a directory of key files holds other files
too.  The build sorts the key files by name, so two builds of one directory embed the same
text or fail with the same message (`build_is_reproducible`).

When key files are added to the directory, those that were there keep their order but get
others between them.  A certificate that was read before is still the first of its
fingerprint unless one of the added files has a certificate of that fingerprint, and then it
may be hidden by it.  Beyond that a server built from more files differs from the one before
by the keys in the added files only (`added_files_lock_nobody_out`).
-/

namespace TvcGpg

open Lib Lib.Text Lib.Fallible Lib.Scans Router Boot

/-! ## The key files of a directory -/

/-- The names of the files in a directory differ, so the key files stand in one order. -/
theorem eq_ascFiles_of_perm {files entries : List DirEntry}
    (hSorted : files.Pairwise fun a b => a.name ≤ b.name)
    (hPerm : files.Perm (entries.filter DirEntry.isAsc))
    (hNames : ((entries.filter DirEntry.isAsc).map DirEntry.name).Nodup) :
    files = ascFiles entries := by
  refine eq_insertionSort_of_perm hSorted hPerm fun a ha b hb hab hba => ?_
  exact List.inj_on_of_nodup_map hNames ha hb (List.le_antisymm hab hba)

/-- The loop over the listing stops at an entry that cannot be read. -/
theorem mapM_okOr_eq_ite (listing : List (Option DirEntry)) (message : String) :
    listing.mapM (fun entry => okOr entry message) =
      if none ∈ listing then .error message else .ok listing.reduceOption := by
  induction listing with
  | nil => rfl
  | cons entry listing ih =>
      rw [List.mapM_cons, ih]
      cases entry with
      | none => rfl
      | some entry =>
          by_cases hNone : none ∈ listing
          · rw [if_pos hNone, if_pos (List.mem_cons_of_mem _ hNone)]
            rfl
          · rw [if_neg hNone, if_neg (by simpa using hNone), List.reduceOption_cons_of_some]
            rfl

theorem reduceOption_map_some {α : Type*} (list : List α) :
    (list.map some).reduceOption = list := by
  rw [List.reduceOption, List.filterMap_map]
  exact List.filterMap_some

/-- Two listings of the key files of one directory. -/
structure SameKeyFiles (listing listing' : List (Option DirEntry)) : Prop where
  unreadable : none ∈ listing ↔ none ∈ listing'
  keyFiles : (listing.reduceOption.filter DirEntry.isAsc).Perm
    (listing'.reduceOption.filter DirEntry.isAsc)
  named : ((listing.reduceOption.filter DirEntry.isAsc).map DirEntry.name).Nodup

theorem SameKeyFiles.ascFiles_eq {listing listing' : List (Option DirEntry)}
    (hSame : SameKeyFiles listing listing') :
    ascFiles listing.reduceOption = ascFiles listing'.reduceOption :=
  eq_ascFiles_of_perm (ascFiles_sorted _) ((ascFiles_perm _).trans hSame.keyFiles)
    ((hSame.keyFiles.map DirEntry.name).nodup_iff.mp hSame.named)

/-- The key files of the reference directory. -/
def Reference.keyFiles : List DirEntry := directory.filter DirEntry.isAsc

/-- A build depends on the key files of the directory and on nothing else in it, and not on
the order they are listed in: it writes the same text, or fails with the same message. -/
theorem build_is_reproducible {env : BuildEnv} {listing listing' : List (Option DirEntry)}
    (hListing : env.listing = some listing) (hSame : SameKeyFiles listing listing') :
    buildMain { env with listing := some listing' } = buildMain env := by
  have hJoined : joinAllowlist (some listing') = joinAllowlist (some listing) := by
    unfold joinAllowlist
    simp only [okOr_some, ok_bind, mapM_okOr_eq_ite]
    by_cases hNone : none ∈ listing
    · rw [if_pos hNone, if_pos (hSame.unreadable.mp hNone)]
    · rw [if_neg hNone, if_neg (hSame.unreadable.not.mp hNone)]
      simp only [ok_bind, hSame.ascFiles_eq]
  unfold buildMain
  rw [hJoined, hListing]

open Reference in
/-- The reference directory, listed the other way round and without its readme. -/
theorem build_is_reproducible_directory :
    buildMain { directoryEnv with listing := some (keyFiles.reverse.map some) } =
      buildMain directoryEnv := by
  have hNames : ((directory.filter DirEntry.isAsc).map DirEntry.name).Nodup := by
    decide +kernel
  have hKept : keyFiles.reverse.filter DirEntry.isAsc = keyFiles.reverse := by
    decide +kernel
  have hListing : directoryEnv.listing = some (directory.map some) := rfl
  refine build_is_reproducible hListing ⟨?_, ?_, ?_⟩
  · simp
  · rw [reduceOption_map_some, reduceOption_map_some, hKept]
    exact (List.reverse_perm keyFiles).symm
  · rw [reduceOption_map_some]
    exact hNames

/-! ## What the key files hold -/

section Files

variable (rpgp : Rpgp) (keyText : DirEntry → KeyText false)

/-- The certificates rPGP reads in a block. -/
def certificatesIn (block : ArmoredBlock) : List SignedPublicKey :=
  ((rpgp.fromArmorMany (String.ofList block.text)).getD []).reduceOption

/-- The certificates of a file. -/
def certificatesOf (file : DirEntry) : List SignedPublicKey :=
  (keyText file).blocks.flatMap (certificatesIn rpgp)

variable {rpgp keyText} {entries added entries' : List DirEntry}

theorem ReadsAlone.certificatesIn_eq {block : ArmoredBlock} {certificates : List SignedPublicKey}
    (hReads : ReadsAlone rpgp block certificates) : certificatesIn rpgp block = certificates := by
  unfold certificatesIn
  rw [hReads, Option.getD_some, reduceOption_map_some]

theorem flatten_eq_flatMap_certificatesOf {parsed : List (List SignedPublicKey)}
    (hParsed : List.Forall₂ (ReadsAlone rpgp) (directoryBlocks keyText entries) parsed) :
    parsed.flatten = (ascFiles entries).flatMap (certificatesOf rpgp keyText) := by
  have hFlat : ∀ {blocks : List ArmoredBlock} {parsed : List (List SignedPublicKey)},
      List.Forall₂ (ReadsAlone rpgp) blocks parsed →
        parsed.flatten = blocks.flatMap (certificatesIn rpgp) := by
    intro blocks parsed hParsed
    induction hParsed with
    | nil => rfl
    | cons hReads _ ih => rw [List.flatten_cons, List.flatMap_cons, ih, hReads.certificatesIn_eq]
  rw [hFlat hParsed, directoryBlocks, List.flatMap_assoc]
  rfl

/-- The files that are added do not stand in the directory yet, -/
theorem mem_added_iff (hAdded : entries'.Perm (entries ++ added))
    (hNames : (entries'.map DirEntry.name).Nodup) {file : DirEntry} (hFile : file ∈ entries') :
    file ∈ added ↔ file ∉ entries := by
  have hApart := List.disjoint_of_nodup_append (hAdded.nodup_iff.mp hNames.of_map)
  constructor
  · exact fun hNew hOld => hApart hOld hNew
  · intro hOld
    exact (List.mem_append.mp (hAdded.mem_iff.mp hFile)).resolve_left hOld

/-- and the key files that were there keep their order. -/
theorem ascFiles_eq_filter (hAdded : entries'.Perm (entries ++ added))
    (hNames : (entries'.map DirEntry.name).Nodup) :
    ascFiles entries = (ascFiles entries').filter fun file => file ∈ entries := by
  have hOld : ((entries ++ added).filter DirEntry.isAsc).filter (fun file => file ∈ entries) =
      entries.filter DirEntry.isAsc := by
    have hNone : (added.filter DirEntry.isAsc).filter (fun file => file ∈ entries) = [] := by
      refine List.filter_eq_nil_iff.mpr fun file hFile => ?_
      have hMem := (List.mem_filter.mp hFile).1
      have hNew := (mem_added_iff hAdded hNames
        (hAdded.mem_iff.mpr (List.mem_append_right _ hMem))).mp hMem
      rw [decide_eq_true_iff]
      exact hNew
    rw [List.filter_append, List.filter_append, hNone, List.append_nil]
    refine List.filter_eq_self.mpr fun file hFile => ?_
    exact decide_eq_true (List.mem_filter.mp hFile).1
  have hPerm : ((ascFiles entries').filter fun file => file ∈ entries).Perm
      (entries.filter DirEntry.isAsc) := by
    have hFiles := (ascFiles_perm entries').trans (hAdded.filter DirEntry.isAsc)
    exact hOld ▸ hFiles.filter _
  have hNamed : ((entries.filter DirEntry.isAsc).map DirEntry.name).Nodup := by
    have hAll := (hAdded.map DirEntry.name).nodup_iff.mp hNames
    rw [List.map_append] at hAll
    exact hAll.of_append_left.sublist (List.filter_sublist.map _)
  exact (eq_ascFiles_of_perm ((ascFiles_sorted entries').filter _) hPerm hNamed).symm

end Files

/-! ## Two servers -/

section Rollout

variable {crates : Crates} {keys : Team.KeyCrates} {exports : Team.ExportCrates}
  {keyText : DirEntry → KeyText false} {entries added entries' : List DirEntry}
  {boot boot' : UInt32} {serving serving' : Serving}

/-- A process, started at a time, serves what a build of the directory has embedded. -/
def ServesDirectory (crates : Crates) (keys : Team.KeyCrates) (exports : Team.ExportCrates)
    (entries : List DirEntry) (boot : UInt32) (serving : Serving) : Prop :=
  ∃ (env : BuildEnv) (joined : String) (expected : Option String) (cli : Cli) (machine : Machine),
    env.listing = some (entries.map some) ∧ buildMain env = .ok joined ∧
      machine.embedded = asBytes joined ∧ machine.clock = boot ∧
        mainPinning crates keys exports expected cli machine = .ok serving

/-- Its allowlist is made of the certificates of the key files. -/
structure MadeOf (crates : Crates) (keyText : DirEntry → KeyText false) (entries : List DirEntry)
    (boot : UInt32) (allowlist : Allowlist) : Prop where
  readable : ∀ file ∈ ascFiles entries, ∀ block ∈ (keyText file).blocks,
    ∃ certificates, ReadsAlone crates.rpgp block certificates
  mem_iff : ∀ certificate, certificate ∈ allowlist.certificates ↔
    FirstOfKey SignedPublicKey.primaryFingerprint
      ((ascFiles entries).flatMap (certificatesOf crates.rpgp keyText)) certificate
  indexed : Indexed crates.rpgp boot allowlist

theorem ServesDirectory.madeOf (hLaw : ReadsToEndLine crates.rpgp)
    (hHold : ∀ entry ∈ entries, entry.isAsc = true → HoldsText keyText entry)
    (hServes : ServesDirectory crates keys exports entries boot serving) :
    MadeOf crates keyText entries boot serving.state.allowlist := by
  obtain ⟨env, joined, expected, cli, machine, hListing, hBuild, hEmbedded, rfl, hServes⟩ := hServes
  obtain ⟨hRead, hIndexed⟩ := parseAt_spec (mainPinning_eq_ok_iff.mp hServes).allowlist
  rw [hEmbedded] at hRead
  obtain ⟨-, parsed, hParsed, hKept⟩ :=
    ((readsEachBlock_of_build hLaw hHold hListing hBuild).ok_iff _).mp hRead
  refine { readable := ?_, mem_iff := ?_, indexed := hIndexed }
  · intro file hFile block hBlock
    have hMem : block ∈ directoryBlocks keyText entries :=
      List.mem_flatMap.mpr ⟨file, hFile, hBlock⟩
    obtain ⟨n, hn, rfl⟩ := List.getElem_of_mem hMem
    exact ⟨_, hParsed.get hn (hParsed.length_eq ▸ hn)⟩
  · intro certificate
    rw [hKept, mem_firstsBy_iff, flatten_eq_flatMap_certificatesOf hParsed]

/-- The certificates of a file of the directory stand in it. -/
theorem MadeOf.inFiles {allowlist : Allowlist}
    (hMade : MadeOf crates keyText entries' boot allowlist) {file : DirEntry}
    (hFile : file ∈ ascFiles entries') (hNew : file ∈ added) {certificate : SignedPublicKey}
    (hMem : certificate ∈ certificatesOf crates.rpgp keyText file) :
    InFiles crates.rpgp keyText added certificate := by
  obtain ⟨block, hBlock, hIn⟩ := List.mem_flatMap.mp hMem
  obtain ⟨certificates, hReads⟩ := hMade.readable file hFile block hBlock
  have hAsc := (List.mem_filter.mp ((ascFiles_perm entries').mem_iff.mp hFile)).2
  refine ⟨file, ?_, block, hBlock, certificates, hReads, hReads.certificatesIn_eq ▸ hIn⟩
  exact (ascFiles_perm added).mem_iff.mpr (List.mem_filter.mpr ⟨hNew, hAsc⟩)

/-- A key of the allowlist is found by its fingerprint. -/
def FindsKey (allowlist : Allowlist) (fingerprint : Fingerprint) : Prop :=
  ∃ entry, allowlist.lookup (some fingerprint) none = some entry ∧
    entry.verifyingKey.fingerprint = fingerprint

/-- A key that can verify is found, if its certificate is the first of its fingerprint. -/
theorem MadeOf.findsKey {allowlist : Allowlist}
    (hMade : MadeOf crates keyText entries boot allowlist) {certificate : SignedPublicKey}
    (hFirst : FirstOfKey SignedPublicKey.primaryFingerprint
      ((ascFiles entries).flatMap (certificatesOf crates.rpgp keyText)) certificate)
    {key : SigningKey} (hKey : key ∈ (classify crates.rpgp certificate boot).1) :
    FindsKey allowlist key.fingerprint := by
  obtain ⟨entry, hLookup⟩ := (hMade.indexed.exact.fingerprint_found key.fingerprint).mpr
    ⟨certificate, key, ⟨(hMade.mem_iff _).mpr hFirst, hKey⟩, rfl⟩
  exact ⟨entry, hLookup, (hMade.indexed.exact.fingerprint_entry _ _ hLookup).1⟩

/-- Adding key files locks out nobody whose certificate is not in one of them: a key that the
server found, and that can still verify when the next server starts, is found by that one.
And it lets in nobody else: what the next server finds, and could verify before, is in an
added file or was found before. -/
theorem added_files_lock_nobody_out (hLaw : ReadsToEndLine crates.rpgp)
    (hAdded : entries'.Perm (entries ++ added)) (hNames : (entries'.map DirEntry.name).Nodup)
    (hHold : ∀ entry ∈ entries', entry.isAsc = true → HoldsText keyText entry)
    (hBefore : ServesDirectory crates keys exports entries boot serving)
    (hNext : ServesDirectory crates keys exports entries' boot' serving') :
    (∀ fingerprint entry, serving.state.allowlist.lookup (some fingerprint) none = some entry →
      entry.key ∈ (classify crates.rpgp entry.certificate boot').1 →
        (∀ certificate, InFiles crates.rpgp keyText added certificate →
          certificate.primaryFingerprint ≠ entry.certificate.primaryFingerprint) →
          FindsKey serving'.state.allowlist fingerprint) ∧
    ∀ fingerprint found, serving'.state.allowlist.lookup (some fingerprint) none = some found →
      found.key ∈ (classify crates.rpgp found.certificate boot).1 →
        InFiles crates.rpgp keyText added found.certificate ∨
          FindsKey serving.state.allowlist fingerprint := by
  have hHoldBefore : ∀ entry ∈ entries, entry.isAsc = true → HoldsText keyText entry := by
    intro entry hEntry
    exact hHold entry (hAdded.mem_iff.mpr (List.mem_append_left _ hEntry))
  have hMade := hBefore.madeOf hLaw hHoldBefore
  have hMade' := hNext.madeOf hLaw hHold
  -- a file of the next directory that was not there is an added one
  have hNew : ∀ file ∈ ascFiles entries', decide (file ∈ entries) = false →
      ∀ certificate ∈ certificatesOf crates.rpgp keyText file,
        InFiles crates.rpgp keyText added certificate := by
    intro file hFile hOld certificate hMem
    have hEntry := (List.mem_filter.mp ((ascFiles_perm entries').mem_iff.mp hFile)).1
    have hFresh := (mem_added_iff hAdded hNames hEntry).mpr (of_decide_eq_false hOld)
    exact hMade'.inFiles hFile hFresh hMem
  constructor
  · intro fingerprint entry hLookup hUsable hOthers
    obtain ⟨hSame, ⟨hMem, -⟩, -⟩ :=
      hMade.indexed.exact.fingerprint_entry fingerprint entry hLookup
    have hFirst := (hMade.mem_iff _).mp hMem
    rw [ascFiles_eq_filter hAdded hNames] at hFirst
    have hFirst' := hFirst.flatMap_of_filter fun file hFile hOld certificate hIn =>
      hOthers certificate (hNew file hFile hOld certificate hIn)
    exact hSame ▸ hMade'.findsKey hFirst' hUsable
  · intro fingerprint found hLookup hUsable
    obtain ⟨hSame, ⟨hMem, -⟩, -⟩ :=
      hMade'.indexed.exact.fingerprint_entry fingerprint found hLookup
    by_cases hIn : InFiles crates.rpgp keyText added found.certificate
    · exact .inl hIn
    · have hFirst := ((hMade'.mem_iff _).mp hMem).filter_of_flatMap
        fun file hFile hOld hMemFile => hIn (hNew file hFile hOld _ hMemFile)
      rw [← ascFiles_eq_filter hAdded hNames] at hFirst
      exact .inr (hSame ▸ hMade.findsKey hFirst hUsable)

end Rollout

namespace Reference

/-- The directory before the engineer's own file was added to it. -/
def firstFiles : List DirEntry := directory.take 1

/-- What is added to it. -/
def addedFiles : List DirEntry := directory.drop 1

theorem directory_perm : directory.Perm (firstFiles ++ addedFiles) :=
  List.Perm.of_eq (List.take_append_drop 1 directory).symm

theorem directory_names : (directory.map DirEntry.name).Nodup := by
  decide +kernel

theorem firstFiles_holdsText :
    ∀ entry ∈ firstFiles, entry.isAsc = true → HoldsText keyText entry :=
  fun entry hEntry => directory_holdsText entry (List.mem_of_mem_take hEntry)

theorem directoryBlocks_firstFiles :
    directoryBlocks keyText firstFiles = [colleagueBlock, engineerBlock] := by
  have hFiles : ascFiles firstFiles = firstFiles := by
    decide +kernel
  rw [directoryBlocks, hFiles]
  rfl

/-- The server before, -/
theorem serves_firstFiles : ∃ serving,
    ServesDirectory directoryCrates keyCrates exportCrates firstFiles 1000 serving := by
  have hParsed : List.Forall₂ (ReadsAlone directoryCrates.rpgp)
      (directoryBlocks keyText firstFiles) [[colleague], [certificate none []]] := by
    rw [directoryBlocks_firstFiles]
    exact .cons (readsAlone_of_published publishedInFiles_colleague)
      (.cons (readsAlone_of_published publishedInFiles_engineer) .nil)
  have hFirst : FirstOfKey SignedPublicKey.primaryFingerprint
      [[colleague], [certificate none []]].flatten (certificate none []) :=
    ⟨[colleague], [], rfl, by decide⟩
  have hFiles : ascFiles firstFiles ≠ [] := by
    intro hNone
    have hBlocks := directoryBlocks_firstFiles
    rw [directoryBlocks, hNone] at hBlocks
    cases hBlocks
  obtain ⟨joined, hBuild⟩ :
      ∃ joined, buildMain { directoryEnv with listing := some (firstFiles.map some) } = .ok joined :=
    ⟨_, buildMain_eq_ok_iff.mpr
      ⟨(joinAllowlist_eq_ok_iff firstFiles_holdsText).mpr ⟨hFiles, rfl⟩, rfl, rfl⟩⟩
  obtain ⟨serving, hServes⟩ := serves_of_parsed firstFiles_holdsText rfl hBuild hParsed hFirst
  exact ⟨serving, { directoryEnv with listing := some (firstFiles.map some) }, joined, none, cli,
    { machine with embedded := asBytes joined }, rfl, hBuild, rfl, rfl, hServes⟩

/-- and the server after. -/
theorem serves_directory : ∃ serving,
    ServesDirectory directoryCrates keyCrates exportCrates directory 1000 serving := by
  obtain ⟨joined, hBuild⟩ := buildMain_directoryEnv
  obtain ⟨serving, hServes⟩ :=
    serves_of_parsed directory_holdsText rfl hBuild readsAlone_directory firstOfKey_directory
  exact ⟨serving, directoryEnv, joined, none, cli, { machine with embedded := asBytes joined }, rfl,
    hBuild, rfl, rfl, hServes⟩

end Reference

open Reference in
/-- The engineer's own file is added to a directory that holds the keys of both. -/
theorem added_files_lock_nobody_out_directory : ∃ serving serving',
    ServesDirectory directoryCrates keyCrates exportCrates firstFiles 1000 serving ∧
      ServesDirectory directoryCrates keyCrates exportCrates directory 1000 serving' ∧
        (∀ fingerprint entry,
          serving.state.allowlist.lookup (some fingerprint) none = some entry →
            entry.key ∈ (classify directoryCrates.rpgp entry.certificate 1000).1 →
              (∀ certificate, InFiles directoryCrates.rpgp keyText addedFiles certificate →
                certificate.primaryFingerprint ≠ entry.certificate.primaryFingerprint) →
                FindsKey serving'.state.allowlist fingerprint) ∧
        ∀ fingerprint found,
          serving'.state.allowlist.lookup (some fingerprint) none = some found →
            found.key ∈ (classify directoryCrates.rpgp found.certificate 1000).1 →
              InFiles directoryCrates.rpgp keyText addedFiles found.certificate ∨
                FindsKey serving.state.allowlist fingerprint := by
  obtain ⟨serving, hBefore⟩ := serves_firstFiles
  obtain ⟨serving', hNext⟩ := serves_directory
  exact ⟨serving, serving', hBefore, hNext, added_files_lock_nobody_out readsToEndLine_directory
    directory_perm directory_names directory_holdsText hBefore hNext⟩

end TvcGpg
