import TvcGpg.Reference.Crates

/-!
# Which keys of a certificate can verify

`classify` is characterized by two conditions that do not mention how it goes
about them: `CertificateAccepted` is what the whole certificate has to meet, and
`BindingAccepted` what a signing subkey has to meet on top of it.

Time enters both in one place only, the expiry of the newest self signature and
of the newest binding.  So between two instants a key is lost exactly when one of
these expiries has been reached: `mem_classify_later_iff`.
-/

namespace TvcGpg

open Lib Lib.Text Lib.Scans

/-! ## Expiry -/

/-- An expiry that has been reached at `now`. -/
def Reached (expiry : Option UInt64) (now : UInt32) : Prop :=
  ∃ time ∈ expiry, time ≤ now.toUInt64

theorem expiredAt_eq_none_iff {created : UInt32} {signature : Signature} {now : UInt32} :
    expiredAt created signature now = none ↔ ¬ Reached (expiresAt created signature) now := by
  unfold expiredAt Reached
  cases expiresAt created signature with
  | none => simp
  | some time =>
      by_cases hTime : time ≤ now.toUInt64
      · simp [hTime]
      · simp [hTime]

/-- What has been reached stays reached. -/
theorem Reached.mono {expiry : Option UInt64} {now later : UInt32} (hReached : Reached expiry now)
    (hLater : now ≤ later) : Reached expiry later := by
  obtain ⟨time, hTime, hLe⟩ := hReached
  refine ⟨time, hTime, UInt64.le_iff_toNat_le.mpr ?_⟩
  have hNat := UInt64.le_iff_toNat_le.mp hLe
  have hNow := UInt32.le_iff_toNat_le.mp hLater
  rw [UInt32.toNat_toUInt64] at hNat ⊢
  omega

/-! ## One subkey -/

/-- When the newest binding of a subkey makes it expire. -/
def bindingExpiry (subkey : SignedPublicSubKey) : Option UInt64 :=
  (newestBinding subkey.signatures).bind (expiresAt subkey.key.createdAt)

/-- A subkey the app takes signatures from, expiry apart. -/
structure BindingAccepted (rpgp : Rpgp) (primary : PublicKey) (subkey : SignedPublicSubKey) :
    Prop where
  signs : ∃ binding, newestBinding subkey.signatures = some binding ∧ binding.keyFlags.sign = true
  unrevoked : ∀ signature ∈ subkey.signatures, signature.typ ≠ some .subkeyRevocation
  verifies : rpgp.verifyBindings subkey primary = true

/-- A round passes all of its checks for such a subkey, as long as it is not expired. -/
theorem subkeyVerdict_of_accepted {rpgp : Rpgp} {primary : PublicKey} {now : UInt32}
    {subkey : SignedPublicSubKey} (hAccepted : BindingAccepted rpgp primary subkey)
    (hFresh : ¬ Reached (bindingExpiry subkey) now) :
    subkeyVerdict rpgp primary now subkey = .accepted subkey.key := by
  obtain ⟨binding, hBinding, hSign⟩ := hAccepted.signs
  have hUnrevoked : (subkey.signatures.any fun signature =>
      signature.typ = some .subkeyRevocation) = false := by
    rw [List.any_eq_false]
    intro signature hMem hTyp
    exact hAccepted.unrevoked signature hMem (by simpa using hTyp)
  have hUnexpired : expiredAt subkey.key.createdAt binding now = none := by
    rw [expiredAt_eq_none_iff]
    rwa [bindingExpiry, hBinding, Option.bind_some] at hFresh
  unfold subkeyVerdict
  simp only [hBinding, hSign, hUnrevoked, hUnexpired, hAccepted.verifies, Bool.not_true,
    Bool.false_eq_true, if_false]

/-- A round that finds a key has checked all of it: binding, flag, revocation, expiry and
proof, in this order. -/
theorem accepted_of_subkeyVerdict {rpgp : Rpgp} {primary : PublicKey} {now : UInt32}
    {subkey : SignedPublicSubKey} {key : PublicSubkey}
    (hVerdict : subkeyVerdict rpgp primary now subkey = .accepted key) :
    key = subkey.key ∧ BindingAccepted rpgp primary subkey ∧
      ¬ Reached (bindingExpiry subkey) now := by
  unfold subkeyVerdict at hVerdict
  cases hBinding : newestBinding subkey.signatures with
  | none =>
      rw [hBinding] at hVerdict
      cases hVerdict
  | some binding =>
      rw [hBinding] at hVerdict
      dsimp only at hVerdict
      split at hVerdict
      · cases hVerdict
      rename_i hSign
      split at hVerdict
      · cases hVerdict
      rename_i hUnrevoked
      split at hVerdict
      · cases hVerdict
      rename_i hUnexpired
      split at hVerdict
      · cases hVerdict
      rename_i hVerifies
      cases hVerdict
      refine ⟨rfl, ⟨⟨binding, hBinding, by simpa using hSign⟩, ?_, by simpa using hVerifies⟩, ?_⟩
      · intro signature hMem hTyp
        exact hUnrevoked (List.any_eq_true.mpr ⟨signature, hMem, by simpa using hTyp⟩)
      · rwa [bindingExpiry, hBinding, Option.bind_some, ← expiredAt_eq_none_iff]

/-- The rounds of the subkey loop that find a key. -/
theorem subkeyVerdict_eq_accepted_iff {rpgp : Rpgp} {primary : PublicKey} {now : UInt32}
    {subkey : SignedPublicSubKey} {key : PublicSubkey} :
    subkeyVerdict rpgp primary now subkey = .accepted key ↔
      key = subkey.key ∧ BindingAccepted rpgp primary subkey ∧
        ¬ Reached (bindingExpiry subkey) now := by
  constructor
  · exact accepted_of_subkeyVerdict
  · rintro ⟨rfl, hAccepted, hFresh⟩
    exact subkeyVerdict_of_accepted hAccepted hFresh

/-- The keys the subkey loop finds. -/
def acceptedSubkeys (rpgp : Rpgp) (primary : PublicKey) (now : UInt32)
    (subkeys : List SignedPublicSubKey) : List SigningKey :=
  subkeys.filterMap fun subkey =>
    match subkeyVerdict rpgp primary now subkey with
    | .accepted key => some (.subkey key)
    | _ => none

/-- The subkey loop appends the keys it finds to those found before. -/
theorem foldl_pushVerdict_fst (rpgp : Rpgp) (primary : PublicKey) (now : UInt32)
    (subkeys : List SignedPublicSubKey) (found : List SigningKey × List String) :
    (subkeys.foldl (pushVerdict rpgp primary now) found).1 =
      found.1 ++ acceptedSubkeys rpgp primary now subkeys := by
  unfold acceptedSubkeys
  induction subkeys generalizing found with
  | nil => simp
  | cons subkey subkeys ih =>
      rw [List.foldl_cons, ih, List.filterMap_cons]
      unfold pushVerdict
      cases subkeyVerdict rpgp primary now subkey with
      | passedOver => rfl
      | defect message => rfl
      | accepted key => simp

theorem mem_acceptedSubkeys_iff {rpgp : Rpgp} {primary : PublicKey} {now : UInt32}
    {subkeys : List SignedPublicSubKey} {key : SigningKey} :
    key ∈ acceptedSubkeys rpgp primary now subkeys ↔
      ∃ subkey ∈ subkeys, key = .subkey subkey.key ∧ BindingAccepted rpgp primary subkey ∧
        ¬ Reached (bindingExpiry subkey) now := by
  unfold acceptedSubkeys
  rw [List.mem_filterMap]
  constructor
  · intro hAccepted
    rcases hAccepted with ⟨subkey, hMem, hKey⟩
    split at hKey
    · rename_i found hVerdict
      obtain ⟨rfl, hAccepted, hFresh⟩ := subkeyVerdict_eq_accepted_iff.mp hVerdict
      exact ⟨subkey, hMem, (Option.some.inj hKey).symm, hAccepted, hFresh⟩
    · cases hKey
  · intro hAccepted
    rcases hAccepted with ⟨subkey, hMem, rfl, hAccepted, hFresh⟩
    refine ⟨subkey, hMem, ?_⟩
    rw [subkeyVerdict_of_accepted hAccepted hFresh]

/-! ## The certificate -/

/-- When the newest self signature of a certificate makes its primary key expire. -/
def primaryExpiry (certificate : SignedPublicKey) : Option UInt64 :=
  (newestSelfSignature certificate).bind fun newest =>
    expiresAt certificate.primaryKey.createdAt newest.2

/-- A certificate whose keys the app takes signatures from, expiry apart. -/
structure CertificateAccepted (rpgp : Rpgp) (certificate : SignedPublicKey) (userId : UserId)
    (selfSignature : Signature) : Prop where
  version : certificate.primaryKey.version = .v4
  unrevoked : certificate.details.revocationSignatures = []
  newest : newestSelfSignature certificate = some (userId, selfSignature)
  verifies : rpgp.verifyCertification selfSignature certificate.primaryKey userId = true

/-- What `classify` answers for a certificate it does not turn down as a whole. -/
theorem classify_of_accepted {rpgp : Rpgp} {certificate : SignedPublicKey} {now : UInt32}
    {userId : UserId} {selfSignature : Signature}
    (hAccepted : CertificateAccepted rpgp certificate userId selfSignature)
    (hFresh : expiredAt certificate.primaryKey.createdAt selfSignature now = none) :
    (classify rpgp certificate now).1 =
      (if selfSignature.keyFlags.sign then [.primary certificate.primaryKey] else []) ++
        acceptedSubkeys rpgp certificate.primaryKey now certificate.publicSubkeys := by
  rw [← foldl_pushVerdict_fst rpgp certificate.primaryKey now certificate.publicSubkeys (_, [])]
  unfold classify
  simp only [hAccepted.version, hAccepted.unrevoked, hAccepted.newest, hAccepted.verifies, hFresh,
    ne_eq, not_true_eq_false, if_false, List.isEmpty_nil, Bool.not_true, Bool.false_eq_true]
  split_ifs <;> rfl

/-- A certificate with a key `classify` returns was not turned down as a whole. -/
theorem accepted_of_mem_classify {rpgp : Rpgp} {certificate : SignedPublicKey} {now : UInt32}
    {key : SigningKey} (hKey : key ∈ (classify rpgp certificate now).1) :
    ∃ userId selfSignature, CertificateAccepted rpgp certificate userId selfSignature ∧
      expiredAt certificate.primaryKey.createdAt selfSignature now = none := by
  unfold classify at hKey
  -- wherever the certificate is turned down as a whole, no key is returned
  by_cases hVersion : certificate.primaryKey.version = .v4
  swap
  · simp [hVersion] at hKey
  by_cases hRevoked : certificate.details.revocationSignatures = []
  swap
  · simp [hVersion, hRevoked] at hKey
  simp only [hVersion, hRevoked, ne_eq, not_true_eq_false, if_false, List.isEmpty_nil,
    Bool.not_true, Bool.false_eq_true] at hKey
  cases hNewest : newestSelfSignature certificate with
  | none => simp [hNewest] at hKey
  | some newest =>
      obtain ⟨userId, selfSignature⟩ := newest
      simp only [hNewest] at hKey
      by_cases hVerifies :
          rpgp.verifyCertification selfSignature certificate.primaryKey userId = true
      swap
      · simp [hVerifies] at hKey
      cases hFresh : expiredAt certificate.primaryKey.createdAt selfSignature now with
      | some time => simp [hVerifies, hFresh] at hKey
      | none => exact ⟨userId, selfSignature, ⟨hVersion, hRevoked, hNewest, hVerifies⟩, hFresh⟩

theorem primaryExpiry_of_accepted {rpgp : Rpgp} {certificate : SignedPublicKey} {userId : UserId}
    {selfSignature : Signature}
    (hAccepted : CertificateAccepted rpgp certificate userId selfSignature) :
    primaryExpiry certificate = expiresAt certificate.primaryKey.createdAt selfSignature := by
  unfold primaryExpiry
  rw [hAccepted.newest, Option.bind_some]

/-- The keys `classify` returns. -/
theorem mem_classify_iff {rpgp : Rpgp} {certificate : SignedPublicKey} {now : UInt32}
    {key : SigningKey} :
    key ∈ (classify rpgp certificate now).1 ↔
      ∃ userId selfSignature, CertificateAccepted rpgp certificate userId selfSignature ∧
        ¬ Reached (primaryExpiry certificate) now ∧
          ((key = .primary certificate.primaryKey ∧ selfSignature.keyFlags.sign = true) ∨
            ∃ subkey ∈ certificate.publicSubkeys, key = .subkey subkey.key ∧
              BindingAccepted rpgp certificate.primaryKey subkey ∧
                ¬ Reached (bindingExpiry subkey) now) := by
  have hKeys {selfSignature : Signature} :
      key ∈ (if selfSignature.keyFlags.sign then [.primary certificate.primaryKey] else []) ++
          acceptedSubkeys rpgp certificate.primaryKey now certificate.publicSubkeys ↔
        (key = .primary certificate.primaryKey ∧ selfSignature.keyFlags.sign = true) ∨
          ∃ subkey ∈ certificate.publicSubkeys, key = .subkey subkey.key ∧
            BindingAccepted rpgp certificate.primaryKey subkey ∧
              ¬ Reached (bindingExpiry subkey) now := by
    rw [List.mem_append, mem_acceptedSubkeys_iff]
    refine or_congr_left ?_
    split_ifs with hSign
    · simp [hSign]
    · simp [hSign]
  constructor
  · intro hKey
    obtain ⟨userId, selfSignature, hAccepted, hFresh⟩ := accepted_of_mem_classify hKey
    rw [classify_of_accepted hAccepted hFresh] at hKey
    refine ⟨userId, selfSignature, hAccepted, ?_, hKeys.mp hKey⟩
    rw [primaryExpiry_of_accepted hAccepted]
    exact expiredAt_eq_none_iff.mp hFresh
  · intro hAccepted
    rcases hAccepted with ⟨userId, selfSignature, hAccepted, hFresh, hKey⟩
    rw [primaryExpiry_of_accepted hAccepted] at hFresh
    rw [classify_of_accepted hAccepted (expiredAt_eq_none_iff.mpr hFresh)]
    exact hKeys.mpr hKey

/-! ## Between two instants -/

/-- Since `boot`, the expiry of every binding that made `key` usable has been reached.
A primary key has no binding. -/
def BindingsLapsed (rpgp : Rpgp) (certificate : SignedPublicKey) (key : SigningKey)
    (boot now : UInt32) : Prop :=
  (∃ subkey, key = .subkey subkey) ∧
    ∀ subkey ∈ certificate.publicSubkeys, key = .subkey subkey.key →
      BindingAccepted rpgp certificate.primaryKey subkey → ¬ Reached (bindingExpiry subkey) boot →
        Reached (bindingExpiry subkey) now

/-- Of the keys usable at `boot`, those still usable at a later time are the ones
whose primary key has not expired since, nor the bindings of the key itself. -/
theorem mem_classify_later_iff {rpgp : Rpgp} {certificate : SignedPublicKey} {boot now : UInt32}
    {key : SigningKey} (hLater : boot ≤ now) (hBoot : key ∈ (classify rpgp certificate boot).1) :
    key ∈ (classify rpgp certificate now).1 ↔
      ¬ Reached (primaryExpiry certificate) now ∧
        ¬ BindingsLapsed rpgp certificate key boot now := by
  obtain ⟨userId, selfSignature, hAccepted, -, hKey⟩ := mem_classify_iff.mp hBoot
  constructor
  · intro hNow
    obtain ⟨-, found, hFound, hFresh, hKeyNow⟩ := mem_classify_iff.mp hNow
    refine ⟨hFresh, ?_⟩
    intro hLapsed
    rcases hLapsed with ⟨⟨subkey, rfl⟩, hLapsed⟩
    rcases hKeyNow with ⟨hPrimary, -⟩ | ⟨bound, hMem, hSame, hBinding, hFreshNow⟩
    · cases hPrimary
    · refine hFreshNow (hLapsed bound hMem hSame hBinding fun hReached => ?_)
      exact hFreshNow (hReached.mono hLater)
  · intro hUsable
    rcases hUsable with ⟨hFresh, hLapsed⟩
    refine mem_classify_iff.mpr ⟨userId, selfSignature, hAccepted, hFresh, ?_⟩
    rcases hKey with hPrimary | ⟨bound, hMem, hSame, hBinding, hFreshBoot⟩
    · exact Or.inl hPrimary
    · -- some binding of the key has not lapsed, though maybe not the one found at boot
      unfold BindingsLapsed at hLapsed
      push Not at hLapsed
      obtain ⟨other, hOther, hKey, hAcceptedOther, -, hFreshNow⟩ := hLapsed ⟨bound.key, hSame⟩
      exact Or.inr ⟨other, hOther, hKey, hAcceptedOther, hFreshNow⟩

/-! ## Certificates with one key -/

namespace Reference

open Lib Lib.Text Lib.Scans

/-- The engineer's primary key, created at second 1000. -/
def primaryKey : PublicKey where
  fingerprint := ⟨.v4, List.replicate 20 0xA1⟩
  legacyKeyId := ⟨Vector.replicate 8 0xA1⟩
  createdAt := 1000
  algorithm := .eddsaLegacy
  body := [0x11, 0x12]
  fingerprint_octets := by decide

/-- The engineer's user id. -/
def userId : UserId := ⟨[0x45, 0x6E, 0x67]⟩

/-- A self signature of a key that gives it a lifetime, or none. -/
def selfSignatureOf (key : PublicKey) (lifetime : Option UInt32) : Signature where
  config := some { pubAlg := .eddsaLegacy, hashedSubpackets := [], unhashedSubpackets := [] }
  version := .v4
  typ := some .certPositive
  hashAlg := some .sha256
  issuerFingerprint := [key.fingerprint]
  issuerKeyId := []
  created := some 1000
  keyExpirationTime := lifetime
  keyFlags := { sign := true }
  body := signatureValues key.toKeyDetails userId.id

/-- The certificate of a key. -/
def certificateOf (key : PublicKey) (lifetime : Option UInt32) (revocations : List Signature) :
    SignedPublicKey where
  primaryKey := key
  details :=
    { revocationSignatures := revocations
      users := [{ id := userId, signatures := [selfSignatureOf key lifetime] }] }
  publicSubkeys := []

theorem newestSelfSignature_certificateOf (key : PublicKey) (lifetime : Option UInt32)
    (revocations : List Signature) :
    newestSelfSignature (certificateOf key lifetime revocations) =
      some (userId, selfSignatureOf key lifetime) := by
  have hIssued : issuedBy key (selfSignatureOf key lifetime) = true := by
    simp [issuedBy, selfSignatureOf]
  unfold newestSelfSignature certificateOf
  simp only [List.flatMap_singleton, List.map_singleton, List.filter_singleton, hIssued]
  rfl

/-- Unrevoked and not expired, a certificate has its primary key to verify with. -/
theorem classify_certificateOf (published : String → Option (List SignedPublicKey))
    {key : PublicKey} {lifetime : Option UInt32} {now : UInt32} (hVersion : key.version = .v4)
    (hFresh : expiredAt key.createdAt (selfSignatureOf key lifetime) now = none) :
    classify (rpgp published) (certificateOf key lifetime []) now = ([.primary key], []) := by
  have hFreshHere : expiredAt (certificateOf key lifetime []).primaryKey.createdAt
      (selfSignatureOf key lifetime) now = none := hFresh
  have hVersionHere : (certificateOf key lifetime []).primaryKey.version = .v4 := hVersion
  have hVerifies : (rpgp published).verifyCertification (selfSignatureOf key lifetime)
      (certificateOf key lifetime []).primaryKey userId = true := by
    simp [rpgp, selfSignatureOf, certificateOf]
  unfold classify
  simp only [hVersionHere, newestSelfSignature_certificateOf, hVerifies, hFreshHere]
  rfl

/-- The self signature of the engineer. -/
def selfSignature (lifetime : Option UInt32) : Signature := selfSignatureOf primaryKey lifetime

/-- A key revocation of the primary key. -/
def revocation : Signature where
  config := some { pubAlg := .eddsaLegacy, hashedSubpackets := [], unhashedSubpackets := [] }
  version := .v4
  typ := some .keyRevocation
  hashAlg := some .sha256
  issuerFingerprint := [primaryKey.fingerprint]
  issuerKeyId := []
  created := some 1200
  keyExpirationTime := none
  keyFlags := { sign := false }
  body := signatureValues primaryKey.toKeyDetails []

/-- The engineer's certificate. -/
def certificate (lifetime : Option UInt32) (revocations : List Signature) : SignedPublicKey :=
  certificateOf primaryKey lifetime revocations

/-- The primary key of a colleague. -/
def colleagueKey : PublicKey where
  fingerprint := ⟨.v4, List.replicate 20 0xC3⟩
  legacyKeyId := ⟨Vector.replicate 8 0xC3⟩
  createdAt := 1000
  algorithm := .eddsaLegacy
  body := [0x13, 0x14]
  fingerprint_octets := by decide

/-- The colleague's certificate. -/
def colleague : SignedPublicKey := certificateOf colleagueKey none []

/-- Without a lifetime the primary key never expires. -/
theorem unlimited_fresh (now : UInt32) :
    expiredAt primaryKey.createdAt (selfSignature none) now = none := rfl

end Reference
end TvcGpg
