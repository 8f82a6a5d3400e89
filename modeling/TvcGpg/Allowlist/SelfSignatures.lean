import TvcGpg.Allowlist.Health

/-!
# Which self signature decides

`classify` hangs the expiry of a certificate, the sign flag of its primary key and
the whole subkey loop on one signature: the newest one that names the primary key as
its issuer.  Neither its type nor its maker is looked at before it is chosen.

Two kinds of signatures can therefore take the place of the newest certification:
a revocation of a user id, which the primary key makes, and a certification by
somebody else who writes the primary key into the issuer subpacket.  For both the
exact condition is proved under which the verdict is still the one of the
certification, `classify_follows_certification_iff` and
`others_change_nothing_iff`.
-/

namespace TvcGpg

open Lib Lib.Scans

/-! ## The signatures to choose from -/

/-- The signatures over user ids that name the primary key as their issuer. -/
def selfSignatures (certificate : SignedPublicKey) : List (UserId × Signature) :=
  (certificate.details.users.flatMap fun user =>
    user.signatures.map fun signature => (user.id, signature)).filter
      fun pair => issuedBy certificate.primaryKey pair.2

/-- The second a signature over a user id was made in. -/
def madeAt (pair : UserId × Signature) : Nat := (createdAt pair.2).toNat

theorem newestSelfSignature_eq_some_iff {certificate : SignedPublicKey}
    {newest : UserId × Signature} :
    newestSelfSignature certificate = some newest ↔
      LastGreatest madeAt (selfSignatures certificate) newest :=
  maxByKey_eq_some_iff

/-- A signature of one of the four certification types. -/
def Signature.isCertification (signature : Signature) : Bool :=
  signature.typ = some .certGeneric || signature.typ = some .certPersona ||
    signature.typ = some .certCasual || signature.typ = some .certPositive

/-- The certifications over user ids that name the primary key as their issuer. -/
def selfCertifications (certificate : SignedPublicKey) : List (UserId × Signature) :=
  (selfSignatures certificate).filter fun pair => pair.2.isCertification

/-! ## What is returned, by the signature chosen -/

section Verdicts

variable {rpgp : Rpgp} {certificate : SignedPublicKey} {now : UInt32} {userId : UserId}
  {newest : Signature}

/-- A subkey of `certificate` is accepted and has not expired. -/
def ServesSubkey (rpgp : Rpgp) (certificate : SignedPublicKey) (now : UInt32) : Prop :=
  ∃ subkey ∈ certificate.publicSubkeys,
    BindingAccepted rpgp certificate.primaryKey subkey ∧ ¬ Reached (bindingExpiry subkey) now

/-- A signature over a user id verifies, and the expiry it sets has not been reached. -/
def Holds (rpgp : Rpgp) (primary : PublicKey) (userId : UserId) (signature : Signature)
    (now : UInt32) : Prop :=
  rpgp.verifyCertification signature primary userId = true ∧
    ¬ Reached (expiresAt primary.createdAt signature) now

/-- The primary key is returned when the chosen signature holds and has the sign flag. -/
theorem primary_mem_classify_iff (hVersion : certificate.primaryKey.version = .v4)
    (hUnrevoked : certificate.details.revocationSignatures = [])
    (hNewest : newestSelfSignature certificate = some (userId, newest)) :
    .primary certificate.primaryKey ∈ (classify rpgp certificate now).1 ↔
      Holds rpgp certificate.primaryKey userId newest now ∧ newest.keyFlags.sign = true := by
  rw [mem_classify_iff]
  constructor
  · intro hKey
    rcases hKey with ⟨id, signature, hAccepted, hFresh, hOwn | ⟨subkey, -, hSubkey, -⟩⟩
    · obtain ⟨rfl, rfl⟩ := Prod.mk.inj (Option.some.inj (hNewest.symm.trans hAccepted.newest))
      rw [primaryExpiry_of_accepted hAccepted] at hFresh
      exact ⟨⟨hAccepted.verifies, hFresh⟩, hOwn.2⟩
    · cases hSubkey
  · intro hHolds
    rcases hHolds with ⟨⟨hVerifies, hFresh⟩, hSign⟩
    have hAccepted : CertificateAccepted rpgp certificate userId newest :=
      ⟨hVersion, hUnrevoked, hNewest, hVerifies⟩
    rw [← primaryExpiry_of_accepted hAccepted] at hFresh
    exact ⟨userId, newest, hAccepted, hFresh, Or.inl ⟨rfl, hSign⟩⟩

/-- Some key is returned when the chosen signature holds, and has the sign flag or
leaves a subkey to serve. -/
theorem classify_ne_nil_iff (hVersion : certificate.primaryKey.version = .v4)
    (hUnrevoked : certificate.details.revocationSignatures = [])
    (hNewest : newestSelfSignature certificate = some (userId, newest)) :
    (classify rpgp certificate now).1 ≠ [] ↔
      Holds rpgp certificate.primaryKey userId newest now ∧
        (newest.keyFlags.sign = true ∨ ServesSubkey rpgp certificate now) := by
  constructor
  · intro hSome
    obtain ⟨key, hKey⟩ := List.exists_mem_of_ne_nil _ hSome
    obtain ⟨id, signature, hAccepted, hFresh, hCases⟩ := mem_classify_iff.mp hKey
    obtain ⟨rfl, rfl⟩ := Prod.mk.inj (Option.some.inj (hNewest.symm.trans hAccepted.newest))
    rw [primaryExpiry_of_accepted hAccepted] at hFresh
    refine ⟨⟨hAccepted.verifies, hFresh⟩, ?_⟩
    rcases hCases with ⟨-, hSign⟩ | ⟨subkey, hMem, -, hBinding, hUnexpired⟩
    · exact Or.inl hSign
    · exact Or.inr ⟨subkey, hMem, hBinding, hUnexpired⟩
  · intro hHolds
    rcases hHolds with ⟨hHolds, hSign | ⟨subkey, hMem, hBinding, hUnexpired⟩⟩
    · exact List.ne_nil_of_mem
        ((primary_mem_classify_iff hVersion hUnrevoked hNewest).mpr ⟨hHolds, hSign⟩)
    · have hAccepted : CertificateAccepted rpgp certificate userId newest :=
        ⟨hVersion, hUnrevoked, hNewest, hHolds.1⟩
      have hFresh := hHolds.2
      rw [← primaryExpiry_of_accepted hAccepted] at hFresh
      exact List.ne_nil_of_mem (mem_classify_iff.mpr
        ⟨userId, newest, hAccepted, hFresh, Or.inr ⟨subkey, hMem, rfl, hBinding, hUnexpired⟩⟩)

end Verdicts

/-! ## The message of a failed verification -/

/-- A message about a whole certificate. -/
def keyMessage (primary : PublicKey) (reason : String) : String :=
  s!"key {primary.fingerprint}{reason}"

/-- The reason given when the chosen self signature does not verify. -/
def failedReason : String := " failed self signature verification"

theorem keyMessage_injective (primary : PublicKey) : Function.Injective (keyMessage primary) := by
  intro reason reason' hSame
  exact (String.append_right_inj _).mp hSame

/-- Texts that differ in one place differ. -/
theorem text_ne_of_getElem? {text other : String} (index : Nat)
    (hDiffer : text.toList[index]? ≠ other.toList[index]?) : text ≠ other := by
  intro hSame
  exact hDiffer (by rw [hSame])

/-- A message about a subkey is not a message about the whole certificate. -/
theorem Names.ne_keyMessage {primary : PublicKey} {subkey : SignedPublicSubKey} {message : String}
    (hNames : Names primary subkey message) (reason : String) :
    message ≠ keyMessage primary reason := by
  obtain ⟨rest, rfl⟩ := hNames
  apply text_ne_of_getElem? 0
  unfold keyMessage
  simp only [String.toList_append, List.append_assoc]
  show some 's' ≠ some 'k'
  decide

theorem expiredReason_ne_failedReason (expiry : UInt64) :
    s!" expired at {expiry}" ≠ failedReason := by
  apply text_ne_of_getElem? 1
  rw [String.toList_append]
  show some 'e' ≠ some 'f'
  decide

section FailedVerification

variable {rpgp : Rpgp} {certificate : SignedPublicKey} {now : UInt32} {userId : UserId}
  {newest : Signature}

/-- What `classify` returns when the chosen signature has expired. -/
theorem classify_of_expired (hAccepted : CertificateAccepted rpgp certificate userId newest)
    (hExpired : Reached (primaryExpiry certificate) now) :
    ∃ expiry : UInt64, classify rpgp certificate now =
      ([], [keyMessage certificate.primaryKey s!" expired at {expiry}"]) := by
  rw [primaryExpiry_of_accepted hAccepted] at hExpired
  cases hTime : expiredAt certificate.primaryKey.createdAt newest now with
  | none => exact absurd hExpired (expiredAt_eq_none_iff.mp hTime)
  | some expiry =>
      refine ⟨expiry, ?_⟩
      unfold classify
      simp only [hAccepted.version, hAccepted.unrevoked, hAccepted.newest, hAccepted.verifies,
        hTime, ne_eq, not_true_eq_false, if_false, List.isEmpty_nil, Bool.not_true,
        Bool.false_eq_true, keyMessage, String.append_assoc]
      rfl

/-- A certificate whose chosen signature verifies leaves other messages. -/
theorem classify_ne_failed (hAccepted : CertificateAccepted rpgp certificate userId newest) :
    classify rpgp certificate now ≠ ([], [keyMessage certificate.primaryKey failedReason]) := by
  intro hFailed
  have hDefects : (classify rpgp certificate now).2 =
      [keyMessage certificate.primaryKey failedReason] := congrArg Prod.snd hFailed
  by_cases hExpired : Reached (primaryExpiry certificate) now
  · obtain ⟨expiry, hClassify⟩ := classify_of_expired hAccepted hExpired
    rw [hClassify] at hDefects
    exact expiredReason_ne_failedReason expiry
      (keyMessage_injective _ (List.cons.inj hDefects).1)
  · rcases classify_of_fresh hAccepted hExpired with ⟨-, -, hClassify⟩ | ⟨-, hClassify⟩
    · rw [hClassify] at hDefects
      have hReason : " has no signing capable key" = failedReason :=
        keyMessage_injective certificate.primaryKey (List.cons.inj hDefects).1
      exact absurd hReason (by decide)
    · rw [hClassify] at hDefects
      have hMem : keyMessage certificate.primaryKey failedReason ∈
          defectsFound rpgp certificate now := by
        show _ ∈ (keysFound rpgp certificate newest now, defectsFound rpgp certificate now).2
        rw [hDefects]
        exact List.mem_cons_self
      -- the messages of the subkey loop are about subkeys
      obtain ⟨subkey, hSubkey, hMessage⟩ := List.mem_map.mp hMem
      obtain ⟨hSigning, hUnserved⟩ := List.mem_filter.mp hSubkey
      have hNames := names_defectOf (List.mem_filter.mp hSigning).2 (by simpa using hUnserved)
      exact hNames.ne_keyMessage failedReason hMessage

/-- The message of a failed verification is left for that reason only. -/
theorem classify_eq_failed_iff (hVersion : certificate.primaryKey.version = .v4)
    (hUnrevoked : certificate.details.revocationSignatures = []) :
    classify rpgp certificate now =
        ([], [keyMessage certificate.primaryKey failedReason]) ↔
      ∃ newest, newestSelfSignature certificate = some newest ∧
        rpgp.verifyCertification newest.2 certificate.primaryKey newest.1 = false := by
  constructor
  · intro hFailed
    cases hNewest : newestSelfSignature certificate with
    | none =>
        have hClassify : classify rpgp certificate now =
            ([], [keyMessage certificate.primaryKey " has no self signature"]) := by
          unfold classify
          simp only [hVersion, hUnrevoked, hNewest, ne_eq, not_true_eq_false, if_false,
            List.isEmpty_nil, Bool.not_true, Bool.false_eq_true]
          rfl
        have hReason : " has no self signature" = failedReason :=
          keyMessage_injective certificate.primaryKey
            (List.cons.inj (congrArg Prod.snd (hClassify.symm.trans hFailed))).1
        exact absurd hReason (by decide)
    | some newest =>
        cases hVerifies :
            rpgp.verifyCertification newest.2 certificate.primaryKey newest.1 with
        | false => exact ⟨newest, rfl, hVerifies⟩
        | true =>
            exact absurd hFailed (classify_ne_failed ⟨hVersion, hUnrevoked, hNewest, hVerifies⟩)
  · intro hFails
    rcases hFails with ⟨newest, hNewest, hFails⟩
    unfold classify
    simp only [hVersion, hUnrevoked, hNewest, hFails, ne_eq, not_true_eq_false, if_false,
      List.isEmpty_nil, Bool.not_true, Bool.false_eq_true, Bool.not_false, if_true]
    rfl

end FailedVerification

/-! ## Adding signatures -/

/-- Whether a certificate had a signature, or it was added. -/
inductive Mark
  | had
  | added
  deriving DecidableEq, Repr

/-- A certificate with signatures added to its user ids, anywhere among those it had. -/
structure Grown where
  primaryKey : PublicKey
  revocationSignatures : List Signature
  users : List (UserId × List (Mark × Signature))
  publicSubkeys : List SignedPublicSubKey

namespace Grown

/-- The certificate with the signatures of a user id that `keep` picks. -/
def restrict (grown : Grown) (keep : Mark → Bool) : SignedPublicKey where
  primaryKey := grown.primaryKey
  details :=
    { revocationSignatures := grown.revocationSignatures
      users := grown.users.map fun user =>
        { id := user.1, signatures := (user.2.filter fun signature => keep signature.1).map
            Prod.snd } }
  publicSubkeys := grown.publicSubkeys

/-- The certificate before the signatures were added. -/
def before (grown : Grown) : SignedPublicKey := grown.restrict fun mark => mark = .had

/-- The certificate with the signatures added. -/
def after (grown : Grown) : SignedPublicKey := grown.restrict fun _ => true

/-- The signatures over user ids, with their marks. -/
def marked (grown : Grown) : List (Mark × UserId × Signature) :=
  grown.users.flatMap fun user => user.2.map fun signature => (signature.1, user.1, signature.2)

/-- Those of them that name the primary key as their issuer. -/
def issued (grown : Grown) : List (Mark × UserId × Signature) :=
  grown.marked.filter fun signature => issuedBy grown.primaryKey signature.2.2

/-- The signatures to choose from are the issued ones that are picked. -/
theorem selfSignatures_restrict (grown : Grown) (keep : Mark → Bool) :
    selfSignatures (grown.restrict keep) =
      (grown.issued.filter fun signature => keep signature.1).map Prod.snd := by
  have hUsers : ((grown.restrict keep).details.users.flatMap fun user =>
      user.signatures.map fun signature => (user.id, signature)) =
        (grown.marked.filter fun signature => keep signature.1).map Prod.snd := by
    unfold restrict marked
    induction grown.users with
    | nil => rfl
    | cons user users ih =>
        simp only [List.map_cons, List.flatMap_cons, List.filter_append, List.map_append] at ih ⊢
        rw [ih]
        congr 1
        simp only [List.filter_map, List.map_map]
        rfl
  unfold selfSignatures issued
  rw [hUsers, List.filter_map, List.filter_filter, List.filter_filter]
  congr 1
  apply List.filter_congr
  intro signature _
  exact Bool.and_comm _ _

theorem selfSignatures_after (grown : Grown) :
    selfSignatures grown.after = grown.issued.map Prod.snd := by
  unfold after
  rw [selfSignatures_restrict, List.filter_true]

theorem selfSignatures_before (grown : Grown) :
    selfSignatures grown.before =
      (grown.issued.filter fun signature => signature.1 = .had).map Prod.snd :=
  selfSignatures_restrict grown _

end Grown

/-! ## Certifications and revocations of a user id -/

/-- The two conclusions a certification is judged by: a certificate it has expired has
no key, and when it holds and has the sign flag the primary key can verify. -/
structure FollowsCertification (rpgp : Rpgp) (certificate : SignedPublicKey) (now : UInt32)
    (userId : UserId) (certification : Signature) : Prop where
  expired : Reached (expiresAt certificate.primaryKey.createdAt certification) now →
    (classify rpgp certificate now).1 = []
  signs : Holds rpgp certificate.primaryKey userId certification now →
    certification.keyFlags.sign = true →
      .primary certificate.primaryKey ∈ (classify rpgp certificate now).1

/-- The newest signature that names the primary key as its issuer is no certification,
and either the certification has expired while that signature holds and leaves something
to sign with, or the certification holds and has the sign flag while that signature does
not. -/
def Overruled (rpgp : Rpgp) (certificate : SignedPublicKey) (now : UInt32) (userId : UserId)
    (certification : Signature) : Prop :=
  ∃ id newest, LastGreatest madeAt (selfSignatures certificate) (id, newest) ∧
    newest.isCertification = false ∧
      ((Reached (expiresAt certificate.primaryKey.createdAt certification) now ∧
          Holds rpgp certificate.primaryKey id newest now ∧
            (newest.keyFlags.sign = true ∨ ServesSubkey rpgp certificate now)) ∨
        (Holds rpgp certificate.primaryKey userId certification now ∧
          certification.keyFlags.sign = true ∧
            ¬ (Holds rpgp certificate.primaryKey id newest now ∧ newest.keyFlags.sign = true)))

/-- Adding no certifications leaves the certifications as they were. -/
theorem Grown.selfCertifications_after {grown : Grown}
    (hAdded : ∀ signature ∈ grown.marked, signature.1 = .added →
      signature.2.2.isCertification = false) :
    selfCertifications grown.after = selfCertifications grown.before := by
  unfold selfCertifications
  rw [selfSignatures_after, selfSignatures_before, List.filter_map, List.filter_map,
    List.filter_filter]
  congr 1
  apply List.filter_congr
  intro signature hIssued
  have hMarked : signature ∈ grown.marked := (List.mem_filter.mp hIssued).1
  obtain ⟨mark, pair⟩ := signature
  cases mark with
  | had => simp
  | added =>
      have hNone := hAdded _ hMarked rfl
      simpa using hNone

theorem isCertification_of_certRevocation {signature : Signature}
    (hTyp : signature.typ = some .certRevocation) : signature.isCertification = false := by
  unfold Signature.isCertification
  rw [hTyp]
  rfl

/-- A certificate follows its newest certification exactly when that certification is not
overruled. -/
theorem followsCertification_iff {rpgp : Rpgp} {certificate : SignedPublicKey} {now : UInt32}
    {userId : UserId} {certification : Signature}
    (hVersion : certificate.primaryKey.version = .v4)
    (hUnrevoked : certificate.details.revocationSignatures = [])
    (hNewest : LastGreatest madeAt (selfCertifications certificate) (userId, certification)) :
    FollowsCertification rpgp certificate now userId certification ↔
      ¬ Overruled rpgp certificate now userId certification := by
  -- some signature is chosen, since the certification is one to choose from
  obtain ⟨⟨id, newest⟩, hChosen⟩ : ∃ pair, newestSelfSignature certificate = some pair := by
    apply Option.ne_none_iff_exists'.mp
    intro hNone
    have hNil : selfSignatures certificate = [] := maxByKey_eq_none_iff.mp hNone
    have hMem := (List.mem_filter.mp hNewest.mem).1
    rw [hNil] at hMem
    cases hMem
  have hLast := newestSelfSignature_eq_some_iff.mp hChosen
  constructor
  · intro hFollows hOverruled
    rcases hOverruled with ⟨id', newest', hLast', -, hCases⟩
    obtain ⟨rfl, rfl⟩ := Prod.mk.inj (hLast.unique hLast')
    rcases hCases with ⟨hReached, hHolds⟩ | ⟨hHolds, hSign, hNot⟩
    · exact (classify_ne_nil_iff hVersion hUnrevoked hChosen).mpr hHolds (hFollows.expired hReached)
    · exact hNot ((primary_mem_classify_iff hVersion hUnrevoked hChosen).mp
        (hFollows.signs hHolds hSign))
  · intro hKept
    cases hType : newest.isCertification with
    | true =>
        -- the signature chosen is the newest certification itself
        have hSame := (hLast.filter hType).unique hNewest
        obtain ⟨rfl, rfl⟩ := Prod.mk.inj hSame
        refine ⟨?_, ?_⟩
        · intro hReached
          by_contra hSome
          exact ((classify_ne_nil_iff hVersion hUnrevoked hChosen).mp hSome).1.2 hReached
        · intro hHolds hSign
          exact (primary_mem_classify_iff hVersion hUnrevoked hChosen).mpr ⟨hHolds, hSign⟩
    | false =>
        refine ⟨?_, ?_⟩
        · intro hReached
          by_contra hSome
          exact hKept ⟨id, newest, hLast, hType,
            Or.inl ⟨hReached, (classify_ne_nil_iff hVersion hUnrevoked hChosen).mp hSome⟩⟩
        · intro hHolds hSign
          by_contra hMissing
          refine hKept ⟨id, newest, hLast, hType, Or.inr ⟨hHolds, hSign, ?_⟩⟩
          intro hNewestHolds
          exact hMissing ((primary_mem_classify_iff hVersion hUnrevoked hChosen).mpr hNewestHolds)

namespace Reference

/-- A revocation of the engineer's user id, made with the primary key at second 1200. -/
def userIdRevocation : Signature :=
  { revocation with
    typ := some .certRevocation
    body := signatureValues primaryKey.toKeyDetails userId.id }

/-- A certification at second 1300 that names the primary key as its issuer and was
not made with it. -/
def forgedCertification : Signature :=
  { selfSignature none with
    created := some 1300
    body := [] }

end Reference

/-- The engineer's certificate with a signing subkey, and one signature added to its user
id. -/
def Reference.grown (lifetime : Option UInt32) (added : Signature) : Grown where
  primaryKey := primaryKey
  revocationSignatures := []
  users := [(userId, [(.had, selfSignature lifetime), (.added, added)])]
  publicSubkeys := [signingSubkey]

open Reference in
/-- A revocation of the user id brings the signing subkey of an expired certificate back,
and takes the sign flag from a primary key that has not expired. -/
theorem revocation_overrules_certification :
    (LastGreatest madeAt (selfCertifications (grown (some 100) userIdRevocation).before)
        (userId, selfSignature (some 100)) ∧
      ¬ FollowsCertification (rpgp fun _ => none) (grown (some 100) userIdRevocation).after 1500
        userId (selfSignature (some 100))) ∧
    (LastGreatest madeAt (selfCertifications (grown none userIdRevocation).before)
        (userId, selfSignature none) ∧
      ¬ FollowsCertification (rpgp fun _ => none) (grown none userIdRevocation).after 1500
        userId (selfSignature none)) := by
  have hNewest (lifetime : Option UInt32) :
      LastGreatest madeAt (selfCertifications (grown lifetime userIdRevocation).before)
        (userId, selfSignature lifetime) :=
    ⟨[], [], rfl, by simp, by simp⟩
  refine ⟨⟨hNewest _, ?_⟩, hNewest _, ?_⟩
  · intro hFollows
    have hNone := hFollows.expired ⟨1100, rfl, by decide⟩
    exact absurd hNone (by decide +kernel)
  · intro hFollows
    have hUnlimited : ¬ Reached (expiresAt primaryKey.createdAt (selfSignature none)) 1500 := by
      intro hReached
      obtain ⟨time, hTime, -⟩ := hReached
      cases hTime
    have hKey := hFollows.signs ⟨by decide +kernel, hUnlimited⟩ rfl
    exact absurd hKey (by decide +kernel)

/-- Whatever revocations of user ids are added, a certificate past its version and key
revocation checks follows the newest certification it had exactly when that certification
is not overruled. -/
theorem classify_follows_certification_iff (rpgp : Rpgp) {grown : Grown} {now : UInt32}
    {userId : UserId} {certification : Signature} (hVersion : grown.primaryKey.version = .v4)
    (hUnrevoked : grown.revocationSignatures = [])
    (hAdded : ∀ signature ∈ grown.marked, signature.1 = .added →
      signature.2.2.typ = some .certRevocation)
    (hNewest : LastGreatest madeAt (selfCertifications grown.before) (userId, certification)) :
    FollowsCertification rpgp grown.after now userId certification ↔
      ¬ Overruled rpgp grown.after now userId certification := by
  have hNone : ∀ signature ∈ grown.marked, signature.1 = .added →
      signature.2.2.isCertification = false := by
    intro signature hMarked hMark
    exact isCertification_of_certRevocation (hAdded signature hMarked hMark)
  rw [← Grown.selfCertifications_after hNone] at hNewest
  exact followsCertification_iff hVersion hUnrevoked hNewest

open Reference in
/-- A revocation from before the self signature changes nothing. -/
theorem classify_follows_certification_older :
    FollowsCertification (rpgp fun _ => none)
      (grown none { userIdRevocation with created := some 900 }).after 1500 userId
      (selfSignature none) := by
  refine (classify_follows_certification_iff (rpgp fun _ => none) rfl rfl ?_ ?_).mpr ?_
  · intro signature hMarked hMark
    obtain rfl | rfl : signature = (.had, userId, selfSignature none) ∨
        signature = (.added, userId, { userIdRevocation with created := some 900 }) := by
      simpa [Grown.marked, grown] using hMarked
    · cases hMark
    · rfl
  · exact ⟨[], [], rfl, by simp, by simp⟩
  · intro hOverruled
    rcases hOverruled with ⟨id, newest, hLast, hType, -⟩
    -- the self signature stands before the revocation and is newer
    have hChosen : LastGreatest madeAt (selfSignatures
        (grown none { userIdRevocation with created := some 900 }).after)
          (userId, selfSignature none) :=
      ⟨[], [(userId, { userIdRevocation with created := some 900 })], by decide +kernel, by simp,
        by decide +kernel⟩
    obtain ⟨-, rfl⟩ := Prod.mk.inj (hLast.unique hChosen)
    cases hType

/-! ## Signatures by other people -/

/-- An added signature names the primary key as its issuer and is at least as new as every
such signature the certificate had, newer than those behind it. -/
def Displaced (grown : Grown) : Prop :=
  ∃ front signature back, grown.issued = front ++ signature :: back ∧ signature.1 = .added ∧
    (∀ other ∈ front, other.1 = .had → madeAt other.2 ≤ madeAt signature.2) ∧
      ∀ other ∈ back, other.1 = .had → madeAt other.2 < madeAt signature.2

/-- A certificate is displaced exactly when the newest of all the signatures to choose from
is an added one. -/
theorem displaced_iff {grown : Grown} {newest : Mark × UserId × Signature}
    (hNewest : LastGreatest (fun signature => madeAt signature.2) grown.issued newest) :
    Displaced grown ↔ newest.1 = .added := by
  have hLe : ∀ signature ∈ grown.issued, madeAt signature.2 ≤ madeAt newest.2 :=
    fun _ hMem => hNewest.le hMem
  obtain ⟨front', back', hIssued', hFront', hBack'⟩ := hNewest
  constructor
  · intro hDisplaced
    rcases hDisplaced with ⟨front, signature, back, hIssued, hAdded, hFront, hBack⟩
    by_contra hHad
    have hMark : newest.1 = .had := by
      cases hCase : newest.1 with
      | had => rfl
      | added => exact absurd hCase hHad
    have hNe : signature ≠ newest := by
      rintro rfl
      exact hHad hAdded
    have hMem : signature ∈ grown.issued := by
      rw [hIssued]
      simp
    -- wherever the newest one stands, the added one is newer
    rcases mem_of_splits (hIssued.symm.trans hIssued') hNe with ⟨hBehind, -⟩ | ⟨hBefore, hAfter⟩
    · exact absurd (hLe signature hMem) (not_le_of_gt (hBack newest hBehind hMark))
    · exact absurd (hFront newest hBefore hMark) (not_le_of_gt (hBack' signature hAfter))
  · intro hAdded
    exact ⟨front', newest, back', hIssued', hAdded, fun other hOther _ => hFront' other hOther,
      fun other hOther _ => hBack' other hOther⟩

/-- Nothing is displaced when the newest signature was there before. -/
theorem newestSelfSignature_of_not_displaced {grown : Grown} (hKept : ¬ Displaced grown) :
    newestSelfSignature grown.after = newestSelfSignature grown.before := by
  cases hMax : maxByKey (fun signature => madeAt signature.2) grown.issued with
  | none =>
      have hNil := maxByKey_eq_none_iff.mp hMax
      have hAfter : selfSignatures grown.after = [] := by
        rw [grown.selfSignatures_after, hNil, List.map_nil]
      have hBefore : selfSignatures grown.before = [] := by
        rw [grown.selfSignatures_before, hNil, List.filter_nil, List.map_nil]
      show maxByKey madeAt (selfSignatures grown.after) =
        maxByKey madeAt (selfSignatures grown.before)
      rw [hAfter, hBefore]
  | some newest =>
      have hNewest := maxByKey_eq_some_iff.mp hMax
      have hHad : newest.1 = .had := by
        cases hMark : newest.1 with
        | had => rfl
        | added => exact absurd ((displaced_iff hNewest).mpr hMark) hKept
      have hAfter : newestSelfSignature grown.after = some newest.2 := by
        rw [newestSelfSignature_eq_some_iff, grown.selfSignatures_after]
        exact hNewest.map Prod.snd
      have hBefore : newestSelfSignature grown.before = some newest.2 := by
        rw [newestSelfSignature_eq_some_iff, grown.selfSignatures_before]
        exact (hNewest.filter (by simpa using hHad)).map Prod.snd
      rw [hAfter, hBefore]

/-- A displaced certificate has an added signature chosen. -/
theorem newestSelfSignature_of_displaced {grown : Grown} (hDisplaced : Displaced grown) :
    ∃ signature ∈ grown.marked, signature.1 = .added ∧
      newestSelfSignature grown.after = some signature.2 := by
  obtain ⟨newest, hMax⟩ : ∃ newest,
      maxByKey (fun signature => madeAt signature.2) grown.issued = some newest := by
    apply Option.ne_none_iff_exists'.mp
    intro hNone
    obtain ⟨front, signature, back, hIssued, -⟩ := hDisplaced
    rw [maxByKey_eq_none_iff.mp hNone] at hIssued
    simp at hIssued
  have hNewest := maxByKey_eq_some_iff.mp hMax
  refine ⟨newest, (List.mem_filter.mp hNewest.mem).1, (displaced_iff hNewest).mp hDisplaced, ?_⟩
  rw [newestSelfSignature_eq_some_iff, grown.selfSignatures_after]
  exact hNewest.map Prod.snd

/-- Where the same signature is chosen, the verdict is the same. -/
theorem classify_congr {rpgp : Rpgp} {grown : Grown} {now : UInt32}
    (hNewest : newestSelfSignature grown.after = newestSelfSignature grown.before) :
    classify rpgp grown.after now = classify rpgp grown.before now := by
  unfold classify
  rw [hNewest]
  rfl

open Reference in
/-- A certification by somebody else that names the engineer's key as its issuer, newer
than the self signature, takes the key off the allowlist. -/
theorem forged_certification_displaces :
    (∀ signature ∈ (grown none forgedCertification).marked, signature.1 = .added →
      (rpgp fun _ => none).verifyCertification signature.2.2 primaryKey signature.2.1 = false) ∧
    classify (rpgp fun _ => none) (grown none forgedCertification).before 1500 =
      ([.primary primaryKey, .subkey signingKey], []) ∧
    classify (rpgp fun _ => none) (grown none forgedCertification).after 1500 ≠
      classify (rpgp fun _ => none) (grown none forgedCertification).before 1500 := by
  have hBefore : classify (rpgp fun _ => none) (grown none forgedCertification).before 1500 =
      ([.primary primaryKey, .subkey signingKey], []) := by
    decide +kernel
  refine ⟨by decide +kernel, hBefore, ?_⟩
  rw [hBefore]
  intro hSame
  exact absurd (congrArg Prod.fst hSame) (by decide +kernel)

/-- Signatures that do not verify as self certifications change nothing exactly when the
certificate is turned down for its version or a key revocation, when none of them displaces
the signatures it had, or when the newest one of those does not verify either. -/
theorem others_change_nothing_iff (rpgp : Rpgp) {grown : Grown} {now : UInt32}
    (hOthers : ∀ signature ∈ grown.marked, signature.1 = .added →
      rpgp.verifyCertification signature.2.2 grown.primaryKey signature.2.1 = false) :
    classify rpgp grown.after now = classify rpgp grown.before now ↔
      grown.primaryKey.version ≠ .v4 ∨ grown.revocationSignatures ≠ [] ∨ ¬ Displaced grown ∨
        ∃ newest, LastGreatest madeAt (selfSignatures grown.before) newest ∧
          rpgp.verifyCertification newest.2 grown.primaryKey newest.1 = false := by
  by_cases hVersion : grown.primaryKey.version = .v4
  swap
  · refine iff_of_true ?_ (Or.inl hVersion)
    have hAfter : grown.after.primaryKey.version ≠ .v4 := hVersion
    have hBefore : grown.before.primaryKey.version ≠ .v4 := hVersion
    unfold classify
    rw [if_pos hAfter, if_pos hBefore]
    rfl
  by_cases hUnrevoked : grown.revocationSignatures = []
  swap
  · refine iff_of_true ?_ (Or.inr (Or.inl hUnrevoked))
    have hAfter : grown.after.details.revocationSignatures ≠ [] := hUnrevoked
    have hBefore : grown.before.details.revocationSignatures ≠ [] := hUnrevoked
    have hVersionAfter : grown.after.primaryKey.version = .v4 := hVersion
    have hVersionBefore : grown.before.primaryKey.version = .v4 := hVersion
    unfold classify
    simp only [hVersionAfter, hVersionBefore, ne_eq, not_true_eq_false, if_false,
      List.isEmpty_eq_false_iff.mpr hAfter, List.isEmpty_eq_false_iff.mpr hBefore, Bool.not_false,
      if_true]
    rfl
  by_cases hDisplaced : Displaced grown
  swap
  · refine iff_of_true ?_ (Or.inr (Or.inr (Or.inl hDisplaced)))
    exact classify_congr (newestSelfSignature_of_not_displaced hDisplaced)
  -- an added signature is chosen, and it does not verify
  obtain ⟨signature, hMarked, hAdded, hNewest⟩ := newestSelfSignature_of_displaced hDisplaced
  have hFailed : classify rpgp grown.after now =
      ([], [keyMessage grown.primaryKey failedReason]) :=
    (classify_eq_failed_iff hVersion hUnrevoked).mpr
      ⟨signature.2, hNewest, hOthers signature hMarked hAdded⟩
  rw [hFailed, eq_comm]
  have hBefore : classify rpgp grown.before now =
      ([], [keyMessage grown.primaryKey failedReason]) ↔ _ :=
    classify_eq_failed_iff hVersion hUnrevoked
  rw [hBefore]
  simp only [newestSelfSignature_eq_some_iff, hVersion, hUnrevoked, hDisplaced, ne_eq,
    not_true_eq_false, false_or]
  rfl

open Reference in
/-- A forged certification from before the self signature changes nothing. -/
theorem others_change_nothing_older :
    classify (rpgp fun _ => none)
        (grown none { forgedCertification with created := some 900 }).after 1500 =
      classify (rpgp fun _ => none)
        (grown none { forgedCertification with created := some 900 }).before 1500 := by
  have hNewest : LastGreatest (fun signature => madeAt signature.2)
      (grown none { forgedCertification with created := some 900 }).issued
        (.had, userId, selfSignature none) :=
    ⟨[], [(.added, userId, { forgedCertification with created := some 900 })], by decide +kernel,
      by simp, by decide +kernel⟩
  refine (others_change_nothing_iff (rpgp fun _ => none) ?_).mpr (Or.inr (Or.inr (Or.inl ?_)))
  · decide +kernel
  · rw [displaced_iff hNewest]
    decide

end TvcGpg
