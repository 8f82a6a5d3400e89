import TvcGpg.Allowlist.Joining
import TvcGpg.Release.Requester
import TvcGpg.Server.Boot
import TvcGpg.Server.Replies

/-!
# From the key files to the session key

The directory of key files, the build script, the start of a process and a release, one
after the other.  Whoever is sent a session key is named by a certificate that stands in an
armored key of the directory, and every key of such a certificate that can verify when the
process starts is found by it: the allowlist of a server is its directory, no more and no
less.
-/

namespace TvcGpg

open Lib Lib.Text Lib.Fallible Lib.Scans Router Boot

/-- The certificate stands in a block of an armored key of the directory. -/
def InFiles (rpgp : Rpgp) (keyText : DirEntry → KeyText false) (entries : List DirEntry)
    (certificate : SignedPublicKey) : Prop :=
  ∃ file ∈ ascFiles entries, ∃ block ∈ (keyText file).blocks, ∃ certificates,
    ReadsAlone rpgp block certificates ∧ certificate ∈ certificates

section Supply

variable {rpgp : Rpgp} {keyText : DirEntry → KeyText false} {entries : List DirEntry}

/-- What is read block by block was read in one of the blocks. -/
theorem exists_block_of_mem_flatten {blocks : List ArmoredBlock}
    {parsed : List (List SignedPublicKey)} (hParsed : List.Forall₂ (ReadsAlone rpgp) blocks parsed)
    {certificate : SignedPublicKey} (hMem : certificate ∈ parsed.flatten) :
    ∃ block ∈ blocks, ∃ certificates, ReadsAlone rpgp block certificates ∧
      certificate ∈ certificates := by
  induction hParsed with
  | nil => cases hMem
  | @cons block certificates blocks parsed hBlock _ ih =>
      rw [List.flatten_cons] at hMem
      rcases List.mem_append.mp hMem with hHere | hLater
      · exact ⟨block, List.mem_cons_self, certificates, hBlock, hHere⟩
      · obtain ⟨found, hFound, hReads⟩ := ih hLater
        exact ⟨found, List.mem_cons_of_mem _ hFound, hReads⟩

theorem inFiles_of_mem_flatten {parsed : List (List SignedPublicKey)}
    (hParsed : List.Forall₂ (ReadsAlone rpgp) (directoryBlocks keyText entries) parsed)
    {certificate : SignedPublicKey} (hMem : certificate ∈ parsed.flatten) :
    InFiles rpgp keyText entries certificate := by
  obtain ⟨block, hBlock, hReads⟩ := exists_block_of_mem_flatten hParsed hMem
  obtain ⟨file, hFile, hText⟩ := List.mem_flatMap.mp hBlock
  exact ⟨file, hFile, block, hText, hReads⟩

/-- The file the build writes reads as the blocks of the directory do. -/
theorem readsEachBlock_of_build (hLaw : ReadsToEndLine rpgp)
    (hHold : ∀ entry ∈ entries, entry.isAsc = true → HoldsText keyText entry) {env : BuildEnv}
    (hListing : env.listing = some (entries.map some)) {joined : String}
    (hBuild : buildMain env = .ok joined) :
    ReadsEachBlock rpgp (directoryBlocks keyText entries) joined := by
  obtain ⟨hJoined, -, -⟩ := buildMain_eq_ok_iff.mp hBuild
  rw [hListing] at hJoined
  exact readsEachBlock_of_joined hLaw hHold hJoined

end Supply

section Chain

variable {crates : Crates} {keys : Team.KeyCrates} {exports : Team.ExportCrates}
  {expected : Option String} {cli : Cli} {machine : Machine} {serving : Serving}

/-- What a session key is sent for: a signature by a key of `entry`, which could verify when
the process started, and a receipt that names the certificate of that key. -/
structure NamedBy (crates : Crates) (state : ServerState) (boot : UInt32) (request : Request)
    (response : SessionKeyResponse) (entry : SignerEntry) : Prop where
  signed : ∃ read signature, Authenticated crates state.forRelease request.body read signature entry
  usable : entry.key ∈ (classify crates.rpgp entry.certificate boot).1
  unrevoked : entry.certificate.details.revocationSignatures = []
  named : ∃ receipt, CarriesReceipt crates response receipt ∧
    receipt.requester = toUppercase (toString entry.certificate.primaryFingerprint)

/-- Whoever is sent a session key has a certificate in the allowlist. -/
theorem namedBy_of_granted (hStarts : Starts crates keys expected cli machine serving)
    {clock : Option UInt64} {entropy : Bytes} {request : Request} {response : SessionKeyResponse}
    (hGranted : Granted crates serving.state clock entropy request response) :
    ∃ entry, NamedBy crates serving.state machine.clock request response entry ∧
      entry.certificate ∈ serving.state.allowlist.certificates := by
  obtain ⟨now, -, hRelease⟩ := hGranted.outcome
  obtain ⟨read, signature, entry, payload, transport, opening, hAuthenticated, -, hReleased, rfl⟩ :=
    (release_eq_ok_iff crates).mp hRelease
  obtain ⟨-, hIndexed⟩ := parseAt_spec hStarts.allowlist
  obtain ⟨⟨hMem, hKey⟩, hOwn⟩ :=
    mem_acceptedEntries_iff.mp (mem_acceptedEntries_of_lookup hIndexed hAuthenticated.listed)
  obtain ⟨userId, selfSignature, hAccepted, -⟩ := mem_classify_iff.mp hKey
  exact ⟨entry, {
    signed := ⟨read, signature, hAuthenticated⟩
    usable := hKey
    unrevoked := hAccepted.unrevoked
    named := ⟨_, hReleased.encoded, hOwn⟩ }, hMem⟩

/-- A server built from a directory of key files sends session keys to the holders of keys in
these files and to nobody else: the receipt of a session key names an unrevoked certificate
of an armored key, and every key of a certificate that is the first of its fingerprint, if it
can verify when the process starts, is found. -/
theorem served_are_those_in_the_files (hLaw : ReadsToEndLine crates.rpgp)
    {keyText : DirEntry → KeyText false} {entries : List DirEntry}
    (hHold : ∀ entry ∈ entries, entry.isAsc = true → HoldsText keyText entry) {env : BuildEnv}
    (hListing : env.listing = some (entries.map some)) {joined : String}
    (hBuild : buildMain env = .ok joined) (hEmbedded : machine.embedded = asBytes joined)
    (hServes : mainPinning crates keys exports expected cli machine = .ok serving) :
    (∀ clock entropy request response,
      Granted crates serving.state clock entropy request response →
        ∃ entry, NamedBy crates serving.state machine.clock request response entry ∧
          InFiles crates.rpgp keyText entries entry.certificate) ∧
    ∃ parsed, List.Forall₂ (ReadsAlone crates.rpgp) (directoryBlocks keyText entries) parsed ∧
      ∀ certificate, FirstOfKey SignedPublicKey.primaryFingerprint parsed.flatten certificate →
        ∀ key ∈ (classify crates.rpgp certificate machine.clock).1, ∃ entry,
          serving.state.allowlist.lookup (some key.fingerprint) none = some entry ∧
            entry.verifyingKey.fingerprint = key.fingerprint := by
  have hStarts := mainPinning_eq_ok_iff.mp hServes
  obtain ⟨hRead, hIndexed⟩ := parseAt_spec hStarts.allowlist
  rw [hEmbedded] at hRead
  obtain ⟨-, parsed, hParsed, hKept⟩ :=
    ((readsEachBlock_of_build hLaw hHold hListing hBuild).ok_iff _).mp hRead
  refine ⟨?_, parsed, hParsed, ?_⟩
  · intro clock entropy request response hGranted
    obtain ⟨entry, hNamed, hMem⟩ := namedBy_of_granted hStarts hGranted
    rw [hKept, mem_firstsBy_iff] at hMem
    obtain ⟨before, after, hOccurs, -⟩ := hMem
    have hFlat : entry.certificate ∈ parsed.flatten := by
      rw [hOccurs]
      exact List.mem_append_right _ List.mem_cons_self
    exact ⟨entry, hNamed, inFiles_of_mem_flatten hParsed hFlat⟩
  · intro certificate hFirst key hKey
    have hMem : certificate ∈ serving.state.allowlist.certificates := by
      rw [hKept]
      exact (mem_firstsBy_iff _).mpr hFirst
    obtain ⟨entry, hLookup⟩ :=
      (hIndexed.exact.fingerprint_found key.fingerprint).mpr ⟨certificate, key, ⟨hMem, hKey⟩, rfl⟩
    exact ⟨entry, hLookup, (hIndexed.exact.fingerprint_entry _ _ hLookup).1⟩

end Chain

/-! ## The reference directory -/

namespace Reference

/-- The crates of a server that is built from the reference directory. -/
def directoryCrates : Crates :=
  { deployedCrates with rpgp := stopAtEndLine (rpgp publishedInFiles) }

/-- What the build script finds. -/
def directoryEnv : BuildEnv where
  listing := some (directory.map some)
  outDir := some "target"
  canWrite := true

theorem directoryCrates_rpgp : directoryCrates.rpgp = stopAtEndLine (rpgp publishedInFiles) := rfl

/-- A block alone ends with its last line. -/
theorem readsAlone_stopAtEndLine {rpgp : Rpgp} {block : ArmoredBlock}
    {certificates : List SignedPublicKey} (hReads : ReadsAlone rpgp block certificates) :
    ReadsAlone (stopAtEndLine rpgp) block certificates := by
  have hText := throughEndLine_block block []
  rw [List.append_nil] at hText
  unfold ReadsAlone stopAtEndLine
  dsimp only
  rw [hText]
  exact hReads

/-- A block of the directory, read alone. -/
theorem readsAlone_of_published {block : ArmoredBlock} {certificates : List SignedPublicKey}
    (hPublished : publishedInFiles (String.ofList block.text) = some certificates) :
    ReadsAlone directoryCrates.rpgp block certificates := by
  rw [directoryCrates_rpgp]
  apply readsAlone_stopAtEndLine
  unfold ReadsAlone rpgp
  dsimp only
  rw [hPublished]
  rfl

theorem publishedInFiles_engineer :
    publishedInFiles (String.ofList engineerBlock.text) = some [certificate none []] := if_pos rfl

theorem publishedInFiles_colleague :
    publishedInFiles (String.ofList colleagueBlock.text) = some [colleague] := by
  have hNot : String.ofList colleagueBlock.text ≠ String.ofList engineerBlock.text := by decide
  rw [publishedInFiles, if_neg hNot, if_pos rfl]

theorem readsAlone_directory : List.Forall₂ (ReadsAlone directoryCrates.rpgp)
    (directoryBlocks keyText directory)
    [[certificate none []], [colleague], [certificate none []]] := by
  have hEngineer := readsAlone_of_published publishedInFiles_engineer
  have hColleague := readsAlone_of_published publishedInFiles_colleague
  rw [directoryBlocks_directory]
  exact List.Forall₂.cons hEngineer (List.Forall₂.cons hColleague (List.Forall₂.cons hEngineer
    List.Forall₂.nil))

theorem readsToEndLine_directory : ReadsToEndLine directoryCrates.rpgp :=
  directoryCrates_rpgp ▸ readsToEndLine_stopAtEndLine _

/-- The build writes a file, -/
theorem buildMain_directoryEnv : ∃ joined, buildMain directoryEnv = .ok joined :=
  ⟨_, buildMain_eq_ok_iff.mpr ⟨(joinAllowlist_eq_ok_iff directory_holdsText).mpr
    ⟨directory_hasFiles, rfl⟩, rfl, rfl⟩⟩

/-- and a process that has the file of a directory with the engineer's key embedded serves. -/
theorem serves_of_parsed {entries : List DirEntry}
    (hHold : ∀ entry ∈ entries, entry.isAsc = true → HoldsText keyText entry) {env : BuildEnv}
    (hListing : env.listing = some (entries.map some)) {joined : String}
    (hBuild : buildMain env = .ok joined) {parsed : List (List SignedPublicKey)}
    (hParsed : List.Forall₂ (ReadsAlone directoryCrates.rpgp) (directoryBlocks keyText entries)
      parsed)
    (hFirst : FirstOfKey SignedPublicKey.primaryFingerprint parsed.flatten
      (certificate none [])) :
    ∃ serving, mainPinning directoryCrates keyCrates exportCrates none cli
      { machine with embedded := asBytes joined } = .ok serving := by
  have hEach := readsEachBlock_of_build (readsToEndLine_stopAtEndLine (rpgp publishedInFiles))
    hHold hListing hBuild
  have hSome : directoryBlocks keyText entries ≠ [] := by
    intro hNone
    rw [hNone] at hParsed
    cases hParsed
    cases hFirst.mem
  have hRead := (hEach.ok_iff _).mpr ⟨hSome, parsed, hParsed, rfl⟩
  have hKey : SigningKey.primary primaryKey ∈
      (classify (rpgp publishedInFiles) (certificate none []) machine.clock).1 := by
    rw [certificate, classify_certificateOf _ rfl (unlimited_fresh machine.clock)]
    exact List.mem_singleton.mpr rfl
  obtain ⟨allowlist, hParse, -⟩ :=
    exists_parseAt hRead ⟨(mem_firstsBy_iff _).mpr hFirst, hKey⟩
  exact ⟨⟨"127.0.0.1:44020", { serverState with allowlist }⟩, mainPinning_eq_ok_iff.mpr {
    quorum := rfl
    derived := deriveTeamKey_keyCrates
    pinned := by
      intro pinned hPinned
      cases hPinned
    serves := rfl
    metrics := rfl
    allowlist := hParse
    appId := rfl
    addr := by
      show "127.0.0.1:44020" = _
      decide
    binds := rfl }⟩

/-- The engineer's certificate is read in the first file of the directory. -/
theorem firstOfKey_directory : FirstOfKey SignedPublicKey.primaryFingerprint
    [[certificate none []], [colleague], [certificate none []]].flatten (certificate none []) :=
  ⟨[], [colleague, certificate none []], rfl, by simp⟩

end Reference

open Reference in
/-- The directory of the engineer and the colleague, built in, and the server that starts
with it. -/
theorem served_are_those_in_the_files_directory : ∃ joined serving,
    buildMain directoryEnv = .ok joined ∧
      mainPinning directoryCrates keyCrates exportCrates none cli
          { machine with embedded := asBytes joined } = .ok serving ∧
        (∀ clock entropy request response,
          Granted directoryCrates serving.state clock entropy request response →
            ∃ entry, NamedBy directoryCrates serving.state 1000 request response entry ∧
              InFiles directoryCrates.rpgp keyText directory entry.certificate) ∧
        ∃ parsed, List.Forall₂ (ReadsAlone directoryCrates.rpgp)
            (directoryBlocks keyText directory) parsed ∧
          ∀ certificate, FirstOfKey SignedPublicKey.primaryFingerprint parsed.flatten certificate →
            ∀ key ∈ (classify directoryCrates.rpgp certificate 1000).1, ∃ entry,
              serving.state.allowlist.lookup (some key.fingerprint) none = some entry ∧
                entry.verifyingKey.fingerprint = key.fingerprint := by
  obtain ⟨joined, hBuild⟩ := buildMain_directoryEnv
  obtain ⟨serving, hServes⟩ :=
    serves_of_parsed directory_holdsText rfl hBuild readsAlone_directory firstOfKey_directory
  have hServed := served_are_those_in_the_files readsToEndLine_directory directory_holdsText
    rfl hBuild rfl hServes
  exact ⟨joined, serving, hBuild, hServes, hServed⟩

end TvcGpg
