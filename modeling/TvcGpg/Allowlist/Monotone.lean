import TvcGpg.Allowlist.Index

/-!
# Time only takes keys away

An expiry that has been reached stays reached, and time enters `classify` nowhere
else.  So the keys of a certificate at a later instant are a sublist of those at
an earlier one, and an allowlist that can be built later can be built earlier and
then knows every fingerprint it will know later.

For key ids this fails: a key that expires may have been the one that made a key
id ambiguous.
-/

namespace TvcGpg

open Lib Lib.Text Lib.Fallible Lib.Scans

/-! ## The time a key expires -/

theorem expiresAt_eq_none {created : UInt32} {signature : Signature}
    (hUnlimited : signature.keyExpirationTime = none ∨ signature.keyExpirationTime = some 0) :
    expiresAt created signature = none := by
  unfold expiresAt
  rcases hUnlimited with hNone | hZero
  · rw [hNone]
  · rw [hZero]
    rfl

/-- The sum of two 32 bit numbers of seconds fits in 64 bits. -/
theorem expiresAt_eq_some {created seconds : UInt32} {signature : Signature}
    (hSeconds : signature.keyExpirationTime = some seconds) (hLimited : seconds ≠ 0) :
    ∃ expiry, expiresAt created signature = some expiry ∧
      expiry.toNat = created.toNat + seconds.toNat := by
  refine ⟨created.toUInt64 + seconds.toUInt64, ?_, ?_⟩
  · unfold expiresAt
    rw [hSeconds]
    exact if_neg hLimited
  · have hCreated := created.toNat_lt
    have hLifetime := seconds.toNat_lt
    rw [UInt64.toNat_add, UInt32.toNat_toUInt64, UInt32.toNat_toUInt64]
    apply Nat.mod_eq_of_lt
    omega

/-! ## The keys of a certificate -/

/-- The subkey loop finds no key that it did not find before. -/
theorem acceptedSubkeys_sublist (rpgp : Rpgp) (primary : PublicKey) {now later : UInt32}
    (hLater : now ≤ later) (subkeys : List SignedPublicSubKey) :
    (acceptedSubkeys rpgp primary later subkeys).Sublist
      (acceptedSubkeys rpgp primary now subkeys) := by
  unfold acceptedSubkeys
  apply filterMap_sublist_filterMap
  intro subkey _ key hKey
  split at hKey
  · rename_i found hVerdict
    obtain ⟨hFound, hAccepted, hFresh⟩ := subkeyVerdict_eq_accepted_iff.mp hVerdict
    have hFreshNow : ¬ Reached (bindingExpiry subkey) now := by
      intro hReached
      exact hFresh (hReached.mono hLater)
    rw [subkeyVerdict_eq_accepted_iff.mpr ⟨hFound, hAccepted, hFreshNow⟩]
    exact hKey
  · cases hKey

/-- The keys of a certificate at a later instant are a sublist of those before. -/
theorem classify_sublist (rpgp : Rpgp) (certificate : SignedPublicKey) {now later : UInt32}
    (hLater : now ≤ later) :
    (classify rpgp certificate later).1.Sublist (classify rpgp certificate now).1 := by
  cases hKeys : (classify rpgp certificate later).1 with
  | nil => exact List.nil_sublist _
  | cons key keys =>
      have hKey : key ∈ (classify rpgp certificate later).1 := by
        rw [hKeys]
        exact List.mem_cons_self
      obtain ⟨userId, selfSignature, hAccepted, hFresh⟩ := accepted_of_mem_classify hKey
      have hFreshNow :
          expiredAt certificate.primaryKey.createdAt selfSignature now = none := by
        rw [expiredAt_eq_none_iff] at hFresh ⊢
        intro hReached
        exact hFresh (hReached.mono hLater)
      rw [← hKeys, classify_of_accepted hAccepted hFresh, classify_of_accepted hAccepted hFreshNow]
      apply List.Sublist.append_left
      exact acceptedSubkeys_sublist rpgp certificate.primaryKey hLater certificate.publicSubkeys

/-- A key that can verify later can verify now. -/
theorem Usable.of_later {rpgp : Rpgp} {certificates : List SignedPublicKey} {now later : UInt32}
    {certificate : SignedPublicKey} {key : SigningKey} (hLater : now ≤ later)
    (hUsable : Usable rpgp certificates later certificate key) :
    Usable rpgp certificates now certificate key := by
  refine ⟨hUsable.1, ?_⟩
  exact (classify_sublist rpgp certificate hLater).subset hUsable.2

/-! ## The allowlist -/

/-- Some key can verify at the instant an allowlist was built at. -/
theorem exists_usable_of_parseAt {rpgp : Rpgp} {armored : Bytes} {now : UInt32}
    {allowlist : Allowlist} (hParse : Allowlist.parseAt rpgp armored now = .ok allowlist) :
    ∃ certificate key, Usable rpgp allowlist.certificates now certificate key := by
  have hIndexed := (parseAt_spec hParse).2
  -- the last check of `parseAt` has found an entry
  have hSome : ¬ allowlist.byFingerprint.entries.isEmpty = true := by
    unfold Allowlist.parseAt at hParse
    obtain ⟨certificates, -, hRest⟩ := bind_eq_ok_iff.mp hParse
    obtain ⟨u, hRequired, hAllowlist⟩ := bind_eq_ok_iff.mp hRest
    cases hAllowlist
    exact require_eq_ok_iff.mp hRequired
  cases hEntries : allowlist.byFingerprint.entries with
  | nil => exact absurd (by rw [hEntries]; rfl) hSome
  | cons first rest =>
      have hKnown : (allowlist.byFingerprint.lookup first.1).isSome := by
        rw [AList.lookup_isSome, AList.mem_keys]
        unfold AList.keys
        rw [hEntries]
        exact List.mem_cons_self
      obtain ⟨certificate, key, hUsable, -⟩ := (byFingerprint_isSome_iff hIndexed).mp hKnown
      exact ⟨certificate, key, hUsable⟩

/-- An allowlist built later can be built now, from the same certificates. -/
theorem exists_parseAt_of_later {rpgp : Rpgp} {armored : Bytes} {now later : UInt32}
    {allowlist : Allowlist} (hLater : now ≤ later)
    (hParse : Allowlist.parseAt rpgp armored later = .ok allowlist) :
    ∃ earlier, Allowlist.parseAt rpgp armored now = .ok earlier ∧
      earlier.certificates = allowlist.certificates := by
  obtain ⟨certificate, key, hUsable⟩ := exists_usable_of_parseAt hParse
  exact exists_parseAt (parseAt_spec hParse).1 (hUsable.of_later hLater)

/-- A key that can verify later is found by its fingerprint in the index built now. -/
theorem lookup_of_usable_later {rpgp : Rpgp} {now later : UInt32} {allowlist : Allowlist}
    (hIndexed : Indexed rpgp now allowlist) (hLater : now ≤ later) {certificate : SignedPublicKey}
    {key : SigningKey} (hUsable : Usable rpgp allowlist.certificates later certificate key) :
    ∃ entry, allowlist.lookup (some key.fingerprint) none = some entry ∧
      entry.verifyingKey.fingerprint = key.fingerprint := by
  obtain ⟨entry, hLookup⟩ := (hIndexed.exact.fingerprint_found key.fingerprint).mpr
    ⟨certificate, key, hUsable.of_later hLater, rfl⟩
  exact ⟨entry, hLookup, (hIndexed.exact.fingerprint_entry _ _ hLookup).1⟩

/-- Between two instants no key becomes acceptable: the keys of every certificate
later are a sublist of those now, an input that makes an allowlist later makes one
now, and every fingerprint known later is known now.  A key expires at the sum of
its creation time and its lifetime, which never overflows, and a lifetime of zero
is none. -/
theorem expiry_monotone (rpgp : Rpgp) {now later : UInt32} (hLater : now ≤ later) :
    (∀ certificate,
      (classify rpgp certificate later).1.Sublist (classify rpgp certificate now).1) ∧
      (∀ armored allowlist, Allowlist.parseAt rpgp armored later = .ok allowlist →
        ∃ earlier, Allowlist.parseAt rpgp armored now = .ok earlier ∧
          ∀ fingerprint, (∃ entry, allowlist.lookup (some fingerprint) none = some entry) →
            ∃ entry, earlier.lookup (some fingerprint) none = some entry) ∧
        (∀ created signature,
          (signature.keyExpirationTime = none ∨ signature.keyExpirationTime = some 0 →
            expiresAt created signature = none) ∧
          ∀ seconds, signature.keyExpirationTime = some seconds → seconds ≠ 0 →
            ∃ expiry, expiresAt created signature = some expiry ∧
              expiry.toNat = created.toNat + seconds.toNat) := by
  refine ⟨fun certificate => classify_sublist rpgp certificate hLater, ?_, ?_⟩
  · intro armored allowlist hParse
    obtain ⟨earlier, hEarlier, hCertificates⟩ := exists_parseAt_of_later hLater hParse
    refine ⟨earlier, hEarlier, ?_⟩
    intro fingerprint hFound
    obtain ⟨certificate, key, hUsable, rfl⟩ :=
      ((parseAt_spec hParse).2.exact.fingerprint_found fingerprint).mp hFound
    rw [← hCertificates] at hUsable
    obtain ⟨entry, hLookup, -⟩ := lookup_of_usable_later (parseAt_spec hEarlier).2 hLater hUsable
    exact ⟨entry, hLookup⟩
  · intro created signature
    refine ⟨fun hUnlimited => expiresAt_eq_none hUnlimited, ?_⟩
    intro seconds hSeconds hLimited
    exact expiresAt_eq_some hSeconds hLimited

open Reference in
/-- The engineer's key, which expires at second 1600, is known at 1500 because it is
known at 1550. -/
theorem expiry_monotone_firstBlock :
    ∃ earlier, Allowlist.parseAt (engineerCrates (some 600)).rpgp (asBytes firstBlock) 1500 =
        .ok earlier ∧
      ∃ entry, earlier.lookup (some primaryKey.fingerprint) none = some entry := by
  have hFresh : expiredAt primaryKey.createdAt (selfSignature (some 600)) 1550 = none := by decide
  obtain ⟨earlier, hEarlier, hKnown⟩ :=
    (expiry_monotone (engineerCrates (some 600)).rpgp (show (1500 : UInt32) ≤ 1550 by decide)).2.1
      (asBytes firstBlock) _ (parseAt_firstBlock hFresh)
  exact ⟨earlier, hEarlier, hKnown primaryKey.fingerprint ⟨entry (some 600), rfl⟩⟩

end TvcGpg
