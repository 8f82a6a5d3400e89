import TvcGpg.Allowlist.Classify
import TvcGpg.Allowlist.Read
import TvcGpg.Lib.NameIndex

/-!
# The index of an allowlist is exact

`parseAt` fills two maps with overwriting inserts and erases a list of key ids
at the end.  Its loop is the loop of `Lib.NameIndex` over the entries of every
key that can verify, in the order they are met: the name of an entry is the
fingerprint of its key, its short name is the key id.

From there `Indexed` says what a built allowlist is, and every lookup in it is
settled by the keys the allowlist was built from, in whatever order and however
often they occur: `parseAt_index_exact`.
-/

namespace TvcGpg

open Lib Lib.Text Lib.Fallible Lib.NameIndex

/-! ## The entries an index is built from -/

/-- The entry of one key of a certificate. -/
def SignerEntry.of (certificate : SignedPublicKey) (key : SigningKey) : SignerEntry :=
  { primaryFingerprint := toUppercase (toString certificate.primaryFingerprint)
    certificate
    key }

/-- Fingerprint of the key of an entry. -/
def SignerEntry.fingerprint (entry : SignerEntry) : Fingerprint := entry.key.fingerprint

/-- Key id of the key of an entry. -/
def SignerEntry.keyId (entry : SignerEntry) : KeyId := entry.key.keyId

/-- The entries of every key that can verify, in the order they are met. -/
def acceptedEntries (rpgp : Rpgp) (certificates : List SignedPublicKey) (now : UInt32) :
    List SignerEntry :=
  certificates.flatMap fun certificate =>
    (classify rpgp certificate now).1.map (SignerEntry.of certificate)

/-- `key` of `certificate` can verify at `now`, and `certificate` was read. -/
def Usable (rpgp : Rpgp) (certificates : List SignedPublicKey) (now : UInt32)
    (certificate : SignedPublicKey) (key : SigningKey) : Prop :=
  certificate ∈ certificates ∧ key ∈ (classify rpgp certificate now).1

theorem mem_acceptedEntries_iff {rpgp : Rpgp} {certificates : List SignedPublicKey} {now : UInt32}
    {entry : SignerEntry} :
    entry ∈ acceptedEntries rpgp certificates now ↔
      Usable rpgp certificates now entry.certificate entry.key ∧
        entry.primaryFingerprint =
          toUppercase (toString entry.certificate.primaryFingerprint) := by
  unfold acceptedEntries Usable
  simp only [List.mem_flatMap, List.mem_map]
  constructor
  · intro hFound
    rcases hFound with ⟨certificate, hCertificate, key, hKey, rfl⟩
    exact ⟨⟨hCertificate, hKey⟩, rfl⟩
  · intro hMem
    rcases hMem with ⟨⟨hCertificate, hKey⟩, hPrimary⟩
    refine ⟨entry.certificate, hCertificate, entry.key, hKey, ?_⟩
    unfold SignerEntry.of
    rw [← hPrimary]

/-- A key that can verify has an entry. -/
theorem Usable.mem_acceptedEntries {rpgp : Rpgp} {certificates : List SignedPublicKey}
    {now : UInt32} {certificate : SignedPublicKey} {key : SigningKey}
    (hUsable : Usable rpgp certificates now certificate key) :
    SignerEntry.of certificate key ∈ acceptedEntries rpgp certificates now :=
  mem_acceptedEntries_iff.mpr ⟨hUsable, rfl⟩

/-! ## The loop of `parseAt` -/

/-- The loop state of `parseAt`, as an index by name and by short name. -/
def IndexState.toIndex (state : IndexState) : Index SignerEntry Fingerprint KeyId :=
  { byName := state.byFingerprint
    byShort := state.byKeyId
    ambiguous := state.ambiguousKeyIds }

theorem indexKey_toIndex (certificate : SignedPublicKey) (state : IndexState) (key : SigningKey) :
    (indexKey certificate (toUppercase (toString certificate.primaryFingerprint)) state
        key).toIndex =
      enter SignerEntry.fingerprint SignerEntry.keyId state.toIndex
        (SignerEntry.of certificate key) := by
  unfold indexKey enter IndexState.toIndex
  cases hOther : state.byKeyId.lookup key.keyId with
  | none => simp [hOther, SignerEntry.of, SignerEntry.keyId, SignerEntry.fingerprint]
  | some other =>
      by_cases hSame : other = key.fingerprint
      · simp [hOther, hSame, SignerEntry.of, SignerEntry.keyId, SignerEntry.fingerprint]
      · simp [hOther, hSame, SignerEntry.of, SignerEntry.keyId, SignerEntry.fingerprint]

theorem indexCertificate_toIndex (rpgp : Rpgp) (now : UInt32) (state : IndexState)
    (certificate : SignedPublicKey) :
    (indexCertificate rpgp now state certificate).toIndex =
      ((classify rpgp certificate now).1.map (SignerEntry.of certificate)).foldl
        (enter SignerEntry.fingerprint SignerEntry.keyId) state.toIndex := by
  unfold indexCertificate
  rw [List.foldl_map]
  exact (List.foldl_hom IndexState.toIndex
    fun state key => (indexKey_toIndex certificate state key).symm).symm

/-- The loop of `parseAt` enters the accepted entries one by one. -/
theorem foldl_indexCertificate_toIndex (rpgp : Rpgp) (certificates : List SignedPublicKey)
    (now : UInt32) (state : IndexState) :
    (certificates.foldl (indexCertificate rpgp now) state).toIndex =
      (acceptedEntries rpgp certificates now).foldl
        (enter SignerEntry.fingerprint SignerEntry.keyId) state.toIndex := by
  unfold acceptedEntries
  induction certificates generalizing state with
  | nil => rfl
  | cons certificate certificates ih =>
      rw [List.foldl_cons, ih, List.flatMap_cons, List.foldl_append,
        indexCertificate_toIndex]

/-- The loop state `parseAt` ends with covers the accepted entries. -/
theorem covers_foldl_indexCertificate (rpgp : Rpgp) (certificates : List SignedPublicKey)
    (now : UInt32) :
    Covers SignerEntry.fingerprint SignerEntry.keyId (acceptedEntries rpgp certificates now)
      (certificates.foldl (indexCertificate rpgp now)
        { byFingerprint := ∅, byKeyId := ∅, ambiguousKeyIds := [] }).toIndex := by
  rw [foldl_indexCertificate_toIndex]
  exact covers_foldl _

/-- What `parseAt` makes of the certificates of an allowlist. -/
def Indexed (rpgp : Rpgp) (now : UInt32) (allowlist : Allowlist) : Prop :=
  ∃ index : Index SignerEntry Fingerprint KeyId,
    Covers SignerEntry.fingerprint SignerEntry.keyId
        (acceptedEntries rpgp allowlist.certificates now) index ∧
      allowlist.byFingerprint = index.byName ∧
        allowlist.byKeyId = eraseAll index.ambiguous index.byShort

/-- A built allowlist holds the certificates that were read, and is their index. -/
theorem parseAt_spec {rpgp : Rpgp} {armored : Bytes} {now : UInt32} {allowlist : Allowlist}
    (hParse : Allowlist.parseAt rpgp armored now = .ok allowlist) :
    readCertificates rpgp armored = .ok allowlist.certificates ∧ Indexed rpgp now allowlist := by
  unfold Allowlist.parseAt at hParse
  obtain ⟨certificates, hRead, hRest⟩ := bind_eq_ok_iff.mp hParse
  obtain ⟨-, -, hAllowlist⟩ := bind_eq_ok_iff.mp hRest
  cases hAllowlist
  exact ⟨hRead, _, covers_foldl_indexCertificate rpgp certificates now, rfl, rfl⟩

/-- An allowlist is built as soon as one key can verify. -/
theorem exists_parseAt {rpgp : Rpgp} {armored : Bytes} {now : UInt32}
    {certificates : List SignedPublicKey} (hRead : readCertificates rpgp armored = .ok certificates)
    {certificate : SignedPublicKey} {key : SigningKey}
    (hUsable : Usable rpgp certificates now certificate key) :
    ∃ allowlist, Allowlist.parseAt rpgp armored now = .ok allowlist ∧
      allowlist.certificates = certificates := by
  have hCovers := covers_foldl_indexCertificate rpgp certificates now
  unfold Allowlist.parseAt
  rw [hRead, ok_bind]
  generalize certificates.foldl (indexCertificate rpgp now)
    { byFingerprint := ∅, byKeyId := ∅, ambiguousKeyIds := [] } = state at hCovers
  -- the entry of the usable key is in the map the last check asks about
  have hRequired : ¬ state.byFingerprint.entries.isEmpty = true := by
    intro hEmpty
    have hSome := hCovers.byName_of_mem hUsable.mem_acceptedEntries
    have hNone : state.toIndex.byName = ∅ := AList.ext (List.isEmpty_iff.mp hEmpty)
    rw [hNone, AList.lookup_empty] at hSome
    cases hSome
  simp only [require_of _ hRequired, ok_bind]
  exact ⟨_, rfl, rfl⟩

/-! ## Looking up -/

section Lookup

variable {rpgp : Rpgp} {now : UInt32} {allowlist : Allowlist}

theorem lookup_some_none (allowlist : Allowlist) (fingerprint : Fingerprint) :
    allowlist.lookup (some fingerprint) none = allowlist.byFingerprint.lookup fingerprint := by
  unfold Allowlist.lookup
  rw [Option.bind_some]
  cases allowlist.byFingerprint.lookup fingerprint <;> rfl

theorem lookup_none_some (allowlist : Allowlist) (keyId : KeyId) :
    allowlist.lookup none (some keyId) =
      (allowlist.byKeyId.lookup keyId).bind allowlist.byFingerprint.lookup := rfl

/-- The key id counts only when the fingerprint finds nothing. -/
theorem lookup_eq_orElse (allowlist : Allowlist) (fingerprint : Option Fingerprint)
    (keyId : Option KeyId) :
    allowlist.lookup fingerprint keyId =
      (fingerprint.bind allowlist.byFingerprint.lookup).or (allowlist.lookup none keyId) := by
  unfold Allowlist.lookup
  rw [Option.bind_none]
  cases fingerprint.bind allowlist.byFingerprint.lookup <;> rfl

/-- Whatever a lookup finds, it finds by the fingerprint of its key. -/
theorem byFingerprint_of_lookup (hIndexed : Indexed rpgp now allowlist)
    {fingerprint : Option Fingerprint} {keyId : Option KeyId} {entry : SignerEntry}
    (hLookup : allowlist.lookup fingerprint keyId = some entry) :
    allowlist.byFingerprint.lookup entry.fingerprint = some entry := by
  obtain ⟨index, hCovers, hByFingerprint, -⟩ := hIndexed
  have hOwn {f : Fingerprint} (hf : allowlist.byFingerprint.lookup f = some entry) :
      allowlist.byFingerprint.lookup entry.fingerprint = some entry := by
    rw [(hCovers.mem_of_byName (hByFingerprint ▸ hf)).2]
    exact hf
  -- both issuers end in the map by fingerprint
  rw [lookup_eq_orElse, Option.or_eq_some_iff] at hLookup
  rcases hLookup with hFound | ⟨-, hFound⟩
  · obtain ⟨f, -, hf⟩ := Option.bind_eq_some_iff.mp hFound
    exact hOwn hf
  · cases keyId with
    | none => cases hFound
    | some k =>
        rw [lookup_none_some] at hFound
        obtain ⟨f, -, hf⟩ := Option.bind_eq_some_iff.mp hFound
        exact hOwn hf

/-- Whatever a lookup finds is an accepted entry. -/
theorem mem_acceptedEntries_of_lookup (hIndexed : Indexed rpgp now allowlist)
    {fingerprint : Option Fingerprint} {keyId : Option KeyId} {entry : SignerEntry}
    (hLookup : allowlist.lookup fingerprint keyId = some entry) :
    entry ∈ acceptedEntries rpgp allowlist.certificates now := by
  have hOwn := byFingerprint_of_lookup hIndexed hLookup
  obtain ⟨index, hCovers, hByFingerprint, -⟩ := hIndexed
  exact (hCovers.mem_of_byName (hByFingerprint ▸ hOwn)).1

/-- Lookups that end at the same key end at the same entry. -/
theorem lookup_unique (hIndexed : Indexed rpgp now allowlist)
    {fingerprint fingerprint' : Option Fingerprint} {keyId keyId' : Option KeyId}
    {entry entry' : SignerEntry} (hLookup : allowlist.lookup fingerprint keyId = some entry)
    (hLookup' : allowlist.lookup fingerprint' keyId' = some entry')
    (hSame : entry.fingerprint = entry'.fingerprint) : entry = entry' := by
  have hOwn := byFingerprint_of_lookup hIndexed hLookup
  have hOwn' := byFingerprint_of_lookup hIndexed hLookup'
  rw [hSame, hOwn'] at hOwn
  exact (Option.some.inj hOwn).symm

/-- A fingerprint is known exactly when some accepted key has it. -/
theorem byFingerprint_isSome_iff (hIndexed : Indexed rpgp now allowlist)
    {fingerprint : Fingerprint} :
    (allowlist.byFingerprint.lookup fingerprint).isSome ↔
      ∃ certificate key, Usable rpgp allowlist.certificates now certificate key ∧
        key.fingerprint = fingerprint := by
  obtain ⟨index, hCovers, hByFingerprint, -⟩ := hIndexed
  rw [hByFingerprint, hCovers.byName_isSome_iff]
  constructor
  · intro hKnown
    rcases hKnown with ⟨entry, hEntry, hName⟩
    exact ⟨entry.certificate, entry.key, (mem_acceptedEntries_iff.mp hEntry).1, hName⟩
  · intro hUsable
    rcases hUsable with ⟨certificate, key, hUsable, hName⟩
    exact ⟨_, hUsable.mem_acceptedEntries, hName⟩

/-- `fingerprint` is the fingerprint of an accepted key that has the key id. -/
def KeyIdOf (rpgp : Rpgp) (certificates : List SignedPublicKey) (now : UInt32) (keyId : KeyId)
    (fingerprint : Fingerprint) : Prop :=
  ∃ certificate key, Usable rpgp certificates now certificate key ∧ key.keyId = keyId ∧
    key.fingerprint = fingerprint

theorem keyIdOf_iff_carries {certificates : List SignedPublicKey} {keyId : KeyId}
    {fingerprint : Fingerprint} :
    KeyIdOf rpgp certificates now keyId fingerprint ↔
      Carries SignerEntry.fingerprint SignerEntry.keyId
        (acceptedEntries rpgp certificates now) keyId fingerprint := by
  constructor
  · intro hKeyIdOf
    rcases hKeyIdOf with ⟨certificate, key, hUsable, hKeyId, hFingerprint⟩
    exact ⟨_, hUsable.mem_acceptedEntries, hKeyId, hFingerprint⟩
  · intro hCarries
    rcases hCarries with ⟨entry, hEntry, hKeyId, hFingerprint⟩
    exact ⟨entry.certificate, entry.key, (mem_acceptedEntries_iff.mp hEntry).1, hKeyId,
      hFingerprint⟩

/-- A key id leads to a fingerprint exactly when no other accepted key has it. -/
theorem byKeyId_eq_some_iff (hIndexed : Indexed rpgp now allowlist) {keyId : KeyId}
    {fingerprint : Fingerprint} :
    allowlist.byKeyId.lookup keyId = some fingerprint ↔
      KeyIdOf rpgp allowlist.certificates now keyId fingerprint ∧
        ∀ other, KeyIdOf rpgp allowlist.certificates now keyId other → other = fingerprint := by
  obtain ⟨index, hCovers, -, hByKeyId⟩ := hIndexed
  simp only [keyIdOf_iff_carries]
  rw [hByKeyId]
  exact hCovers.lookup_eraseAll_iff

end Lookup

/-! ## The law -/

/-- What every lookup in an allowlist returns, in terms of the keys that are
usable at `now` and nothing else. -/
structure ExactIndex (rpgp : Rpgp) (now : UInt32) (allowlist : Allowlist) : Prop where
  /-- A fingerprint is found exactly when a usable key has it. -/
  fingerprint_found : ∀ fingerprint,
    (∃ entry, allowlist.lookup (some fingerprint) none = some entry) ↔
      ∃ certificate key, Usable rpgp allowlist.certificates now certificate key ∧
        key.fingerprint = fingerprint
  /-- What is found has the fingerprint, is a usable key of its certificate, and
  names that certificate. -/
  fingerprint_entry : ∀ fingerprint entry,
    allowlist.lookup (some fingerprint) none = some entry →
      entry.verifyingKey.fingerprint = fingerprint ∧
        Usable rpgp allowlist.certificates now entry.certificate entry.key ∧
          entry.primaryFingerprint =
            toUppercase (toString entry.certificate.primaryFingerprint)
  /-- A key id is found exactly when one fingerprint among the usable keys has
  it, however often. -/
  keyId_found : ∀ keyId,
    (∃ entry, allowlist.lookup none (some keyId) = some entry) ↔
      ∃! fingerprint, KeyIdOf rpgp allowlist.certificates now keyId fingerprint
  /-- What is found is the entry of that fingerprint. -/
  keyId_entry : ∀ keyId entry fingerprint,
    allowlist.lookup none (some keyId) = some entry →
      KeyIdOf rpgp allowlist.certificates now keyId fingerprint →
        allowlist.lookup (some fingerprint) none = some entry
  /-- A known fingerprint decides, whatever the key id is. -/
  known_fingerprint : ∀ fingerprint keyId entry,
    allowlist.lookup (some fingerprint) none = some entry →
      allowlist.lookup (some fingerprint) keyId = some entry
  /-- An unknown fingerprint leaves the decision to the key id. -/
  unknown_fingerprint : ∀ fingerprint keyId,
    allowlist.lookup (some fingerprint) none = none →
      allowlist.lookup (some fingerprint) keyId = allowlist.lookup none keyId
  /-- No issuer finds nobody. -/
  no_issuer : allowlist.lookup none none = none

/-- The index of a built allowlist is exact. -/
theorem Indexed.exact {rpgp : Rpgp} {now : UInt32} {allowlist : Allowlist}
    (hIndexed : Indexed rpgp now allowlist) : ExactIndex rpgp now allowlist where
  fingerprint_found fingerprint := by
    rw [lookup_some_none, ← Option.isSome_iff_exists]
    exact byFingerprint_isSome_iff hIndexed
  fingerprint_entry fingerprint entry hLookup := by
    have hMem := mem_acceptedEntries_iff.mp (mem_acceptedEntries_of_lookup hIndexed hLookup)
    obtain ⟨index, hCovers, hByFingerprint, -⟩ := hIndexed
    rw [lookup_some_none, hByFingerprint] at hLookup
    exact ⟨(hCovers.mem_of_byName hLookup).2, hMem⟩
  keyId_found keyId := by
    rw [lookup_none_some]
    constructor
    · intro hFound
      rcases hFound with ⟨entry, hEntry⟩
      obtain ⟨fingerprint, hKeyId, -⟩ := Option.bind_eq_some_iff.mp hEntry
      exact ⟨fingerprint, (byKeyId_eq_some_iff hIndexed).mp hKeyId⟩
    · intro hUnique
      rcases hUnique with ⟨fingerprint, hKeyIdOf, hOnly⟩
      obtain ⟨certificate, key, hUsable, -, hFingerprint⟩ := id hKeyIdOf
      obtain ⟨entry, hEntry⟩ := Option.isSome_iff_exists.mp
        ((byFingerprint_isSome_iff hIndexed).mpr ⟨certificate, key, hUsable, hFingerprint⟩)
      refine ⟨entry, ?_⟩
      rw [(byKeyId_eq_some_iff hIndexed).mpr ⟨hKeyIdOf, hOnly⟩, Option.bind_some, hEntry]
  keyId_entry keyId entry fingerprint hLookup hKeyIdOf := by
    rw [lookup_none_some] at hLookup
    obtain ⟨found, hKeyId, hEntry⟩ := Option.bind_eq_some_iff.mp hLookup
    rw [lookup_some_none, ((byKeyId_eq_some_iff hIndexed).mp hKeyId).2 fingerprint hKeyIdOf]
    exact hEntry
  known_fingerprint fingerprint keyId entry hLookup := by
    rw [lookup_some_none] at hLookup
    rw [lookup_eq_orElse, Option.bind_some, hLookup, Option.some_or]
  unknown_fingerprint fingerprint keyId hLookup := by
    rw [lookup_some_none] at hLookup
    rw [lookup_eq_orElse, Option.bind_some, hLookup, Option.none_or]
  no_issuer := rfl

/-- Every allowlist that is built holds the certificates that were read, and
looks signers up exactly by the keys of these that are usable. -/
theorem parseAt_index_exact {rpgp : Rpgp} {armored : Bytes} {now : UInt32} {allowlist : Allowlist}
    (hParse : Allowlist.parseAt rpgp armored now = .ok allowlist) :
    readCertificates rpgp armored = .ok allowlist.certificates ∧
      ExactIndex rpgp now allowlist := by
  obtain ⟨hRead, hIndexed⟩ := parseAt_spec hParse
  exact ⟨hRead, hIndexed.exact⟩

/-! ## One engineer -/

namespace Reference

/-- The entry of the primary key. -/
def entry (lifetime : Option UInt32) : SignerEntry where
  primaryFingerprint := toUppercase (toString primaryKey.fingerprint)
  certificate := certificate lifetime []
  key := .primary primaryKey

/-- The allowlist of this one certificate. -/
def allowlist (lifetime : Option UInt32) : Allowlist where
  certificates := [certificate lifetime []]
  byFingerprint := AList.singleton primaryKey.fingerprint (entry lifetime)
  byKeyId := AList.singleton primaryKey.legacyKeyId primaryKey.fingerprint

/-- Any input that reads as the one unrevoked certificate makes its allowlist, as
long as the primary key has not expired. -/
theorem parseAt_engineer {published : String → Option (List SignedPublicKey)} {armored : Bytes}
    {lifetime : Option UInt32} {now : UInt32}
    (hRead : readCertificates (rpgp published) armored = .ok [certificate lifetime []])
    (hFresh : expiredAt primaryKey.createdAt (selfSignature lifetime) now = none) :
    Allowlist.parseAt (rpgp published) armored now = .ok (allowlist lifetime) := by
  have hIndex : [certificate lifetime []].foldl (indexCertificate (rpgp published) now)
      { byFingerprint := ∅, byKeyId := ∅, ambiguousKeyIds := [] } =
        { byFingerprint := AList.singleton primaryKey.fingerprint (entry lifetime)
          byKeyId := AList.singleton primaryKey.legacyKeyId primaryKey.fingerprint
          ambiguousKeyIds := [] } := by
    unfold List.foldl indexCertificate
    rw [certificate, classify_certificateOf published rfl hFresh]
    rfl
  -- one entry is in the map, and no key id is shared
  unfold Allowlist.parseAt
  rw [hRead, ok_bind, hIndex]
  rfl

/-- The reference crates, with the engineer's certificate in the first block and a
revoked copy of it in the second. -/
def engineerCrates (lifetime : Option UInt32) : Crates :=
  crates (published (certificate lifetime []) (certificate lifetime [revocation]))

theorem engineerCrates_rpgp (lifetime : Option UInt32) : (engineerCrates lifetime).rpgp =
    rpgp (published (certificate lifetime []) (certificate lifetime [revocation])) := rfl

/-- The allowlist made from the first block. -/
theorem parseAt_firstBlock {lifetime : Option UInt32} {now : UInt32}
    (hFresh : expiredAt primaryKey.createdAt (selfSignature lifetime) now = none) :
    Allowlist.parseAt (engineerCrates lifetime).rpgp (asBytes firstBlock) now =
      .ok (allowlist lifetime) :=
  parseAt_engineer (readCertificates_firstBlock _ _) hFresh

/-- The allowlist made from both blocks is the same one. -/
theorem parseAt_bothBlocks {lifetime : Option UInt32} {now : UInt32}
    (hFresh : expiredAt primaryKey.createdAt (selfSignature lifetime) now = none) :
    Allowlist.parseAt (engineerCrates lifetime).rpgp (asBytes (firstBlock ++ secondBlock)) now =
      .ok (allowlist lifetime) :=
  parseAt_engineer (readCertificates_bothBlocks rfl) hFresh

/-- A key that has the key id of the engineer's primary key and a fingerprint of its own. -/
def twinKey : PublicKey where
  fingerprint := ⟨.v4, List.replicate 12 0xE5 ++ List.replicate 8 0xA1⟩
  legacyKeyId := primaryKey.legacyKeyId
  createdAt := 1000
  algorithm := .eddsaLegacy
  body := [0x17, 0x18]
  fingerprint_octets := by decide

/-- Its certificate. -/
def twin : SignedPublicKey := certificateOf twinKey none []

end Reference

open Reference in
/-- Two certificates whose keys share their key id: each key is found by its fingerprint, and
the key id finds nobody. -/
theorem parseAt_index_exact_twins : ∃ allowlist,
    Allowlist.parseAt (rpgp (published (certificate none []) twin))
        (asBytes (firstBlock ++ secondBlock)) 1500 = .ok allowlist ∧
      ExactIndex (rpgp (published (certificate none []) twin)) 1500 allowlist ∧
        (∃ entry, allowlist.lookup (some primaryKey.fingerprint) none = some entry) ∧
          (∃ entry, allowlist.lookup (some twinKey.fingerprint) none = some entry) ∧
            allowlist.lookup none (some primaryKey.legacyKeyId) = none := by
  have hDistinct : primaryKey.fingerprint ≠ twinKey.fingerprint := by decide
  have hEngineer : Usable (rpgp (published (certificate none []) twin))
      [certificate none [], twin] 1500 (certificate none []) (.primary primaryKey) := by
    refine ⟨by simp, ?_⟩
    rw [certificate, classify_certificateOf _ rfl (unlimited_fresh 1500)]
    exact List.mem_singleton.mpr rfl
  have hTwin : Usable (rpgp (published (certificate none []) twin))
      [certificate none [], twin] 1500 twin (.primary twinKey) := by
    refine ⟨by simp, ?_⟩
    rw [twin, classify_certificateOf _ rfl rfl]
    exact List.mem_singleton.mpr rfl
  have hRead : readCertificates (rpgp (published (certificate none []) twin))
      (asBytes (firstBlock ++ secondBlock)) = .ok [certificate none [], twin] :=
    readCertificates_distinct (show (certificate none []).primaryFingerprint ≠ _ from hDistinct)
  obtain ⟨allowlist, hParse, hCertificates⟩ := exists_parseAt hRead hEngineer
  obtain ⟨-, hExact⟩ := parseAt_index_exact hParse
  rw [← hCertificates] at hEngineer hTwin
  refine ⟨allowlist, hParse, hExact,
    (hExact.fingerprint_found _).mpr ⟨_, _, hEngineer, rfl⟩,
    (hExact.fingerprint_found _).mpr ⟨_, _, hTwin, rfl⟩, ?_⟩
  refine Option.eq_none_iff_forall_ne_some.mpr fun entry hLookup => ?_
  -- two fingerprints have the key id, so it cannot lead to one of them
  have hOne := (hExact.keyId_found primaryKey.legacyKeyId).mp ⟨entry, hLookup⟩
  exact hDistinct (hOne.unique ⟨_, _, hEngineer, rfl, rfl⟩ ⟨_, _, hTwin, rfl, rfl⟩)

end TvcGpg
