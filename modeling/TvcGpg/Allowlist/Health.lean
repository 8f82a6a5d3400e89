import TvcGpg.Allowlist.Monotone

/-!
# What an empty health check promises

`check` classifies every certificate again, at a time of its own.  A certificate
that leaves no message has a key at that time: every way out of `classify` that
returns no key leaves one.  Time only takes keys away, so that key is in the index
that was built before.

The second half is the accounting behind it.  A certificate is turned down as a
whole, with one message and no key, or each of its signing subkeys is served or
has a message of its own: `classify_accounted`.
-/

namespace TvcGpg

open Lib Lib.Text

/-! ## One subkey -/

/-- Whether the newest binding of a subkey has the sign flag. -/
def signs (subkey : SignedPublicSubKey) : Bool :=
  match newestBinding subkey.signatures with
  | none => false
  | some binding => binding.keyFlags.sign

/-- A message about one subkey of a key names both. -/
def Names (primary : PublicKey) (subkey : SignedPublicSubKey) (message : String) : Prop :=
  ∃ reason : String, message =
    s!"signing subkey {subkey.key.fingerprint} of key {primary.fingerprint}{reason}"

/-- What a round of the subkey loop can do: pass over a subkey that does not sign,
and accept a subkey that does or leave a message that names it. -/
theorem subkeyVerdict_cases (rpgp : Rpgp) (primary : PublicKey) (now : UInt32)
    (subkey : SignedPublicSubKey) :
    (signs subkey = false ∧ subkeyVerdict rpgp primary now subkey = .passedOver) ∨
      (signs subkey = true ∧ subkeyVerdict rpgp primary now subkey = .accepted subkey.key) ∨
        (signs subkey = true ∧ ∃ message,
          subkeyVerdict rpgp primary now subkey = .defect message ∧
            Names primary subkey message) := by
  unfold signs subkeyVerdict
  cases newestBinding subkey.signatures with
  | none => exact Or.inl ⟨rfl, rfl⟩
  | some binding =>
      cases hSign : binding.keyFlags.sign with
      | false =>
          refine Or.inl ⟨hSign, ?_⟩
          simp only [hSign, Bool.not_false, if_true]
      | true =>
          simp only [hSign, Bool.not_true, Bool.false_eq_true, if_false]
          -- each of the three ways to be left out has a text of its own
          split
          · exact Or.inr (Or.inr ⟨trivial, _, rfl, " is revoked", rfl⟩)
          · split
            · rename_i expiry _
              refine Or.inr (Or.inr ⟨trivial, _, rfl, s!" expired at {expiry}", ?_⟩)
              simp only [String.append_assoc]
              rfl
            · split
              · exact Or.inr (Or.inr ⟨trivial, _, rfl, " failed binding verification", rfl⟩)
              · exact Or.inr (Or.inl ⟨trivial, rfl⟩)

/-! ## The subkey loop -/

/-- The signing subkeys of a certificate. -/
def signingSubkeys (certificate : SignedPublicKey) : List SignedPublicSubKey :=
  certificate.publicSubkeys.filter signs

/-- Whether the subkey loop accepts a subkey. -/
def served (rpgp : Rpgp) (primary : PublicKey) (now : UInt32) (subkey : SignedPublicSubKey) :
    Bool :=
  subkeyVerdict rpgp primary now subkey = .accepted subkey.key

/-- The message the subkey loop leaves about a subkey. -/
def defectOf (rpgp : Rpgp) (primary : PublicKey) (now : UInt32) (subkey : SignedPublicSubKey) :
    String :=
  match subkeyVerdict rpgp primary now subkey with
  | .defect message => message
  | _ => ""

/-- The subkey loop cuts the signing subkeys into those it serves and those it leaves
a message about. -/
theorem foldl_pushVerdict (rpgp : Rpgp) (primary : PublicKey) (now : UInt32)
    (subkeys : List SignedPublicSubKey) (found : List SigningKey × List String) :
    subkeys.foldl (pushVerdict rpgp primary now) found =
      (found.1 ++ ((subkeys.filter signs).filter (served rpgp primary now)).map
          (fun subkey => SigningKey.subkey subkey.key),
        found.2 ++ ((subkeys.filter signs).filter fun subkey =>
          !served rpgp primary now subkey).map (defectOf rpgp primary now)) := by
  induction subkeys generalizing found with
  | nil => simp
  | cons subkey subkeys ih =>
      rw [List.foldl_cons, ih]
      unfold pushVerdict
      rcases subkeyVerdict_cases rpgp primary now subkey with
        ⟨hSigns, hVerdict⟩ | ⟨hSigns, hVerdict⟩ | ⟨hSigns, message, hVerdict, -⟩
      · simp [hSigns, hVerdict]
      · have hServed : served rpgp primary now subkey = true := by simp [served, hVerdict]
        simp [hSigns, hVerdict, hServed]
      · have hServed : served rpgp primary now subkey = false := by simp [served, hVerdict]
        have hDefect : defectOf rpgp primary now subkey = message := by simp [defectOf, hVerdict]
        simp [hSigns, hVerdict, hServed, hDefect]

/-- The message about a signing subkey that is not served names it. -/
theorem names_defectOf {rpgp : Rpgp} {primary : PublicKey} {now : UInt32}
    {subkey : SignedPublicSubKey} (hSigns : signs subkey = true)
    (hUnserved : served rpgp primary now subkey = false) :
    Names primary subkey (defectOf rpgp primary now subkey) := by
  rcases subkeyVerdict_cases rpgp primary now subkey with
    ⟨hSilent, -⟩ | ⟨-, hVerdict⟩ | ⟨-, message, hVerdict, hNames⟩
  · rw [hSigns] at hSilent
    cases hSilent
  · simp [served, hVerdict] at hUnserved
  · unfold defectOf
    rw [hVerdict]
    exact hNames

/-! ## The certificate -/

/-- A certificate `classify` turns down as a whole. -/
def TurnedDown (rpgp : Rpgp) (certificate : SignedPublicKey) (now : UInt32) : Prop :=
  ¬ ∃ userId selfSignature, CertificateAccepted rpgp certificate userId selfSignature ∧
    ¬ Reached (primaryExpiry certificate) now

/-- Every way to turn a certificate down leaves one message and no key. -/
theorem classify_of_turnedDown {rpgp : Rpgp} {certificate : SignedPublicKey} {now : UInt32}
    (hDown : TurnedDown rpgp certificate now) :
    ∃ message, classify rpgp certificate now = ([], [message]) := by
  unfold classify
  by_cases hVersion : certificate.primaryKey.version = .v4
  swap
  · exact ⟨_, if_pos hVersion⟩
  by_cases hRevoked : certificate.details.revocationSignatures = []
  swap
  · simp [hVersion, hRevoked]
  simp only [hVersion, hRevoked, ne_eq, not_true_eq_false, if_false, List.isEmpty_nil,
    Bool.not_true, Bool.false_eq_true]
  cases hNewest : newestSelfSignature certificate with
  | none => exact ⟨_, rfl⟩
  | some newest =>
      obtain ⟨userId, selfSignature⟩ := newest
      by_cases hVerifies :
          rpgp.verifyCertification selfSignature certificate.primaryKey userId = true
      swap
      · simp [hVerifies]
      have hAccepted : CertificateAccepted rpgp certificate userId selfSignature :=
        ⟨hVersion, hRevoked, hNewest, hVerifies⟩
      cases hExpired : expiredAt certificate.primaryKey.createdAt selfSignature now with
      | some expiry => simp [hVerifies, hExpired]
      | none =>
          -- nothing is left to turn the certificate down for
          refine absurd ⟨userId, selfSignature, hAccepted, ?_⟩ hDown
          rw [primaryExpiry_of_accepted hAccepted]
          exact expiredAt_eq_none_iff.mp hExpired

/-- The primary key, when the self signature lets it sign. -/
def ownKeys (certificate : SignedPublicKey) (selfSignature : Signature) : List SigningKey :=
  if selfSignature.keyFlags.sign then [.primary certificate.primaryKey] else []

/-- The keys found in a certificate that is not turned down. -/
def keysFound (rpgp : Rpgp) (certificate : SignedPublicKey) (selfSignature : Signature)
    (now : UInt32) : List SigningKey :=
  ownKeys certificate selfSignature ++
    ((signingSubkeys certificate).filter (served rpgp certificate.primaryKey now)).map
      fun subkey => SigningKey.subkey subkey.key

/-- The messages about its signing subkeys. -/
def defectsFound (rpgp : Rpgp) (certificate : SignedPublicKey) (now : UInt32) : List String :=
  ((signingSubkeys certificate).filter fun subkey =>
    !served rpgp certificate.primaryKey now subkey).map (defectOf rpgp certificate.primaryKey now)

/-- What `classify` returns for a certificate it does not turn down: what was found, or
one message when that is nothing at all. -/
theorem classify_of_fresh {rpgp : Rpgp} {certificate : SignedPublicKey} {now : UInt32}
    {userId : UserId} {selfSignature : Signature}
    (hAccepted : CertificateAccepted rpgp certificate userId selfSignature)
    (hFresh : ¬ Reached (primaryExpiry certificate) now) :
    (keysFound rpgp certificate selfSignature now = [] ∧ defectsFound rpgp certificate now = [] ∧
        classify rpgp certificate now =
          ([], [s!"key {certificate.primaryKey.fingerprint} has no signing capable key"])) ∨
      ((keysFound rpgp certificate selfSignature now ≠ [] ∨
          defectsFound rpgp certificate now ≠ []) ∧
        classify rpgp certificate now =
          (keysFound rpgp certificate selfSignature now, defectsFound rpgp certificate now)) := by
  rw [primaryExpiry_of_accepted hAccepted, ← expiredAt_eq_none_iff] at hFresh
  have hLoop : certificate.publicSubkeys.foldl (pushVerdict rpgp certificate.primaryKey now)
      (ownKeys certificate selfSignature, []) =
        (keysFound rpgp certificate selfSignature now, defectsFound rpgp certificate now) := by
    rw [foldl_pushVerdict, List.nil_append]
    rfl
  have hClassify : classify rpgp certificate now =
      if (keysFound rpgp certificate selfSignature now).isEmpty &&
          (defectsFound rpgp certificate now).isEmpty then
        (keysFound rpgp certificate selfSignature now, defectsFound rpgp certificate now ++
          [s!"key {certificate.primaryKey.fingerprint} has no signing capable key"])
      else (keysFound rpgp certificate selfSignature now, defectsFound rpgp certificate now) := by
    unfold ownKeys at hLoop
    unfold classify
    simp only [hAccepted.version, hAccepted.unrevoked, hAccepted.newest, hAccepted.verifies,
      hFresh, ne_eq, not_true_eq_false, if_false, List.isEmpty_nil, Bool.not_true,
      Bool.false_eq_true, hLoop]
  rw [hClassify]
  cases hKeys : keysFound rpgp certificate selfSignature now with
  | nil =>
      cases hDefects : defectsFound rpgp certificate now with
      | nil => exact Or.inl ⟨rfl, rfl, rfl⟩
      | cons message messages => exact Or.inr ⟨Or.inr (List.cons_ne_nil _ _), rfl⟩
  | cons key keys => exact Or.inr ⟨Or.inl (List.cons_ne_nil _ _), rfl⟩

/-- Where neither a key nor a message is found, no subkey signs. -/
theorem signingSubkeys_eq_nil {rpgp : Rpgp} {certificate : SignedPublicKey}
    {selfSignature : Signature} {now : UInt32}
    (hKeys : keysFound rpgp certificate selfSignature now = [])
    (hDefects : defectsFound rpgp certificate now = []) : signingSubkeys certificate = [] := by
  unfold keysFound at hKeys
  unfold defectsFound at hDefects
  rw [List.append_eq_nil_iff, List.map_eq_nil_iff, List.filter_eq_nil_iff] at hKeys
  rw [List.map_eq_nil_iff, List.filter_eq_nil_iff] at hDefects
  apply List.eq_nil_iff_forall_not_mem.mpr
  intro subkey hMem
  have hServed := hDefects subkey hMem
  exact hKeys.2 subkey hMem (by simpa using hServed)

/-- `served` cuts the signing subkeys of a certificate in two: the keys returned are
the primary key, when it can sign, and the served subkeys; the messages are one for
each of the others, which names it.  A certificate with nothing that signs has one
message. -/
structure Accounted (rpgp : Rpgp) (certificate : SignedPublicKey) (now : UInt32)
    (served : SignedPublicSubKey → Bool) (message : SignedPublicSubKey → String) : Prop where
  keys : ∃ own, (classify rpgp certificate now).1 =
      own ++ ((signingSubkeys certificate).filter served).map
        (fun subkey => SigningKey.subkey subkey.key) ∧
    ∀ key ∈ own, key = .primary certificate.primaryKey
  defects : (classify rpgp certificate now).2 =
      ((signingSubkeys certificate).filter fun subkey => !served subkey).map message ∨
    (signingSubkeys certificate = [] ∧ ∃ only, classify rpgp certificate now = ([], [only]))
  named : ∀ subkey ∈ signingSubkeys certificate, served subkey = false →
    Names certificate.primaryKey subkey (message subkey)

/-- Every signing subkey of a certificate that is not turned down is accounted for. -/
theorem classify_accounted {rpgp : Rpgp} {certificate : SignedPublicKey} {now : UInt32}
    (hKept : ¬ TurnedDown rpgp certificate now) :
    Accounted rpgp certificate now (served rpgp certificate.primaryKey now)
      (defectOf rpgp certificate.primaryKey now) := by
  obtain ⟨userId, selfSignature, hAccepted, hFresh⟩ := not_not.mp hKept
  have hOwn : ∀ key ∈ ownKeys certificate selfSignature, key = .primary certificate.primaryKey := by
    intro key hKey
    unfold ownKeys at hKey
    split at hKey
    · exact List.mem_singleton.mp hKey
    · cases hKey
  have hKeys :
      (classify rpgp certificate now).1 = keysFound rpgp certificate selfSignature now := by
    rcases classify_of_fresh hAccepted hFresh with ⟨hNone, -, hClassify⟩ | ⟨-, hClassify⟩
    · rw [hClassify, hNone]
    · rw [hClassify]
  refine ⟨⟨ownKeys certificate selfSignature, hKeys, hOwn⟩, ?_, ?_⟩
  · rcases classify_of_fresh hAccepted hFresh with ⟨hNone, hSilent, hOnly⟩ | ⟨-, hClassify⟩
    · exact Or.inr ⟨signingSubkeys_eq_nil hNone hSilent, _, hOnly⟩
    · rw [hClassify]
      exact Or.inl rfl
  · intro subkey hMem hUnserved
    exact names_defectOf (List.mem_filter.mp hMem).2 hUnserved

/-- A certificate that leaves no message has a key. -/
theorem classify_keys_of_no_defect {rpgp : Rpgp} {certificate : SignedPublicKey} {now : UInt32}
    (hSilent : (classify rpgp certificate now).2 = []) :
    (classify rpgp certificate now).1 ≠ [] := by
  by_cases hDown : TurnedDown rpgp certificate now
  · obtain ⟨message, hClassify⟩ := classify_of_turnedDown hDown
    rw [hClassify] at hSilent
    cases hSilent
  · obtain ⟨userId, selfSignature, hAccepted, hFresh⟩ := not_not.mp hDown
    rcases classify_of_fresh hAccepted hFresh with ⟨-, -, hClassify⟩ | ⟨hSome, hClassify⟩
    · rw [hClassify] at hSilent
      cases hSilent
    · rw [hClassify] at hSilent ⊢
      exact hSome.resolve_right (absurd hSilent)

/-! ## The check -/

/-- When the check at some later time is empty, every certificate of the allowlist
has a key that can verify then, and the index finds it by its fingerprint.  And for
any certificate at any time, either it is turned down with one message and no key, or
each of its signing subkeys is among the keys or named by one message of its own. -/
theorem clean_check_serves_everyone (rpgp : Rpgp) :
    (∀ armored boot allowlist, Allowlist.parseAt rpgp armored boot = .ok allowlist →
      ∀ now, boot ≤ now → allowlist.check rpgp now = [] →
        ∀ certificate ∈ allowlist.certificates, ∃ key ∈ (classify rpgp certificate now).1,
          ∃ entry, allowlist.lookup (some key.fingerprint) none = some entry ∧
            entry.verifyingKey.fingerprint = key.fingerprint) ∧
      ∀ certificate now,
        (TurnedDown rpgp certificate now →
          ∃ message, classify rpgp certificate now = ([], [message])) ∧
        (¬ TurnedDown rpgp certificate now →
          ∃ served message, Accounted rpgp certificate now served message) := by
  refine ⟨?_, ?_⟩
  · intro armored boot allowlist hParse now hLater hCheck certificate hMem
    have hSilent : (classify rpgp certificate now).2 = [] :=
      List.flatMap_eq_nil_iff.mp hCheck certificate hMem
    obtain ⟨key, hKey⟩ := List.exists_mem_of_ne_nil _ (classify_keys_of_no_defect hSilent)
    exact ⟨key, hKey, lookup_of_usable_later (parseAt_spec hParse).2 hLater ⟨hMem, hKey⟩⟩
  · intro certificate now
    refine ⟨classify_of_turnedDown, ?_⟩
    intro hKept
    exact ⟨_, _, classify_accounted hKept⟩

namespace Reference

/-- A signing subkey of the engineer. -/
def signingKey : PublicSubkey where
  fingerprint := ⟨.v4, List.replicate 20 0xD4⟩
  legacyKeyId := ⟨Vector.replicate 8 0xD4⟩
  createdAt := 1000
  algorithm := .eddsaLegacy
  body := [0x15, 0x16]
  fingerprint_octets := by decide

/-- The signing subkey with its binding. -/
def signingSubkey : SignedPublicSubKey where
  key := signingKey
  signatures :=
    [{ selfSignature none with
        typ := some .subkeyBinding
        body := signatureValues primaryKey.toKeyDetails signingKey.body }]

/-- The engineer's certificate with the signing subkey. -/
def signingCertificate : SignedPublicKey :=
  { certificate none [] with publicSubkeys := [signingSubkey] }

theorem classify_signingCertificate {published : String → Option (List SignedPublicKey)} :
    classify (rpgp published) signingCertificate 9000 =
      ([.primary primaryKey, .subkey signingKey], []) := by
  have hSame : classify (rpgp published) signingCertificate 9000 =
      classify (rpgp fun _ => none) signingCertificate 9000 := rfl
  rw [hSame]
  decide +kernel

end Reference

open Reference in
/-- The engineer with a signing subkey and the colleague: the allowlist built at second 1500
passes its check at second 9000 and finds a key of each, and the subkey is accounted for. -/
theorem clean_check_serves_everyone_bothBlocks :
    let linked := rpgp (published signingCertificate colleague)
    (∃ allowlist, Allowlist.parseAt linked (asBytes (firstBlock ++ secondBlock)) 1500 =
        .ok allowlist ∧ allowlist.certificates = [signingCertificate, colleague] ∧
      allowlist.check linked 9000 = [] ∧
        ∀ certificate ∈ allowlist.certificates, ∃ key ∈ (classify linked certificate 9000).1,
          ∃ entry, allowlist.lookup (some key.fingerprint) none = some entry ∧
            entry.verifyingKey.fingerprint = key.fingerprint) ∧
    signingSubkeys signingCertificate = [signingSubkey] ∧
      ∃ served message, Accounted linked signingCertificate 9000 served message := by
  intro linked
  have hServes := clean_check_serves_everyone linked
  have hSigning : classify linked signingCertificate 9000 =
      ([.primary primaryKey, .subkey signingKey], []) := classify_signingCertificate
  have hColleague (now : UInt32) : classify linked colleague now = ([.primary colleagueKey], []) :=
    classify_certificateOf _ rfl rfl
  refine ⟨?_, by decide +kernel, (hServes.2 signingCertificate 9000).2 ?_⟩
  · have hDistinct : signingCertificate.primaryFingerprint ≠ colleague.primaryFingerprint := by
      show primaryKey.fingerprint ≠ colleagueKey.fingerprint
      decide
    have hUsable : Usable linked [signingCertificate, colleague] 1500 colleague
        (.primary colleagueKey) := by
      refine ⟨by simp, ?_⟩
      rw [hColleague]
      exact List.mem_singleton.mpr rfl
    obtain ⟨allowlist, hParse, hCertificates⟩ :=
      exists_parseAt (readCertificates_distinct hDistinct) hUsable
    have hCheck : allowlist.check linked 9000 = [] := by
      unfold Allowlist.check
      rw [hCertificates, List.flatMap_cons, List.flatMap_cons, hSigning, hColleague]
      rfl
    exact ⟨allowlist, hParse, hCertificates, hCheck,
      hServes.1 _ 1500 allowlist hParse 9000 (by decide) hCheck⟩
  · intro hDown
    obtain ⟨message, hNone⟩ := classify_of_turnedDown hDown
    rw [hSigning] at hNone
    cases hNone

end TvcGpg
