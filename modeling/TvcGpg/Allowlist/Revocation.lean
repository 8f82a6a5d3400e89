import TvcGpg.Allowlist.Index

/-!
# Copies of one certificate

The first copy of a fingerprint is kept, whatever its state is, and the others are
left out before anybody looks at their revocations.  So it is the first copy that
decides whether a revocation counts.
-/

namespace TvcGpg

open Lib Lib.Text Lib.Scans

/-- The text an entry names its certificate by determines the fingerprint, for a
certificate of version 4. -/
theorem primaryFingerprint_eq_of_text {certificate certificate' : SignedPublicKey}
    (hVersion : certificate.primaryKey.version = .v4)
    (hText : toUppercase (toString certificate.primaryFingerprint) =
      toUppercase (toString certificate'.primaryFingerprint)) :
    certificate.primaryFingerprint = certificate'.primaryFingerprint := by
  have hOctets : certificate.primaryFingerprint.octets =
      certificate'.primaryFingerprint.octets := by
    apply Hex.encodeUpper_injective
    rw [← Hex.toUppercase_encode, ← Hex.toUppercase_encode]
    exact hText
  have hLength := certificate.primaryKey.fingerprint_octets.mpr hVersion
  have hVersion' : certificate'.primaryFingerprint.version = .v4 := by
    apply certificate'.primaryKey.fingerprint_octets.mp
    show certificate'.primaryFingerprint.octets.length = 20
    rw [← hOctets]
    exact hLength
  have hSame : certificate.primaryFingerprint.version = certificate'.primaryFingerprint.version :=
    Eq.trans hVersion hVersion'.symm
  calc certificate.primaryFingerprint
      = ⟨certificate.primaryFingerprint.version, certificate.primaryFingerprint.octets⟩ := rfl
    _ = certificate'.primaryFingerprint := by rw [hSame, hOctets]

open Reference in
/-- A revoked copy of the engineer's certificate that stands after an unrevoked one
revokes nothing. -/
theorem revoked_later_copy_ignored :
    Allowlist.parseAt (engineerCrates none).rpgp (asBytes (firstBlock ++ secondBlock)) 1500 =
        .ok (allowlist none) ∧
      ∃ parsed, ParsedBlocks (engineerCrates none).rpgp (asBytes (firstBlock ++ secondBlock))
          parsed ∧
        ∃ copy ∈ parsed.flatten, copy.details.revocationSignatures ≠ [] ∧
          ∃ entry, (allowlist none).lookup (some primaryKey.fingerprint) none = some entry ∧
            entry.primaryFingerprint = toUppercase (toString copy.primaryFingerprint) := by
  refine ⟨parseAt_bothBlocks (unlimited_fresh 1500), _, parsedBlocks_bothBlocks _ _,
    certificate none [revocation], ?_, ?_, entry none, rfl, rfl⟩
  · simp
  · exact List.cons_ne_nil _ _

/-- When the first copy of a certificate carries a key revocation, no lookup returns
an entry that names its fingerprint, whatever the later copies are. -/
theorem revoked_first_copy_admits_nobody {rpgp : Rpgp} {armored : Bytes} {now : UInt32}
    {allowlist : Allowlist} (hParse : Allowlist.parseAt rpgp armored now = .ok allowlist)
    {parsed : List (List SignedPublicKey)} (hParsed : ParsedBlocks rpgp armored parsed)
    {certificate : SignedPublicKey}
    (hFirst : FirstOfKey SignedPublicKey.primaryFingerprint parsed.flatten certificate)
    (hRevoked : certificate.details.revocationSignatures ≠ [])
    {fingerprint : Option Fingerprint} {keyId : Option KeyId} {entry : SignerEntry}
    (hLookup : allowlist.lookup fingerprint keyId = some entry) :
    entry.primaryFingerprint ≠ toUppercase (toString certificate.primaryFingerprint) := by
  intro hNames
  obtain ⟨hRead, hIndexed⟩ := parseAt_spec hParse
  obtain ⟨read, hReads, -, hKept⟩ := readCertificates_eq_ok_iff.mp hRead
  obtain rfl := hParsed.unique hReads
  obtain ⟨⟨hMem, hKey⟩, hOwn⟩ :=
    mem_acceptedEntries_iff.mp (mem_acceptedEntries_of_lookup hIndexed hLookup)
  obtain ⟨userId, selfSignature, hAccepted, -⟩ := mem_classify_iff.mp hKey
  have hSame : entry.certificate.primaryFingerprint = certificate.primaryFingerprint :=
    primaryFingerprint_eq_of_text hAccepted.version (hOwn.symm.trans hNames)
  -- the entry's certificate is the kept copy of this fingerprint, which is the first one
  rw [hKept] at hMem
  have hCopy : entry.certificate = certificate :=
    eq_of_mem_firstsBy _ hMem ((mem_firstsBy_iff _).mpr hFirst) hSame
  exact hRevoked (hCopy ▸ hAccepted.unrevoked)

/-- The second certificate is the first one with other key revocations, or with none. -/
def OtherRevocations (certificate certificate' : SignedPublicKey) : Prop :=
  ∃ revocations, certificate' =
    { certificate with
      details := { certificate.details with revocationSignatures := revocations } }

/-- Inputs that differ in the revocations of later copies make the same allowlist. -/
theorem parseAt_of_laterRevocations {rpgp : Rpgp} {armored armored' : Bytes} {now : UInt32}
    {allowlist : Allowlist} (hParse : Allowlist.parseAt rpgp armored now = .ok allowlist)
    {parsed parsed' : List (List SignedPublicKey)} (hParsed : ParsedBlocks rpgp armored parsed)
    (hParsed' : ParsedBlocks rpgp armored' parsed')
    (hReplaced : LaterReplaced SignedPublicKey.primaryFingerprint OtherRevocations parsed.flatten
      parsed'.flatten) :
    Allowlist.parseAt rpgp armored' now = .ok allowlist := by
  obtain ⟨hRead, -⟩ := parseAt_spec hParse
  obtain ⟨read, hReads, -, hKept⟩ := readCertificates_eq_ok_iff.mp hRead
  obtain rfl := hParsed.unique hReads
  have hSame : firstsBy SignedPublicKey.primaryFingerprint parsed'.flatten =
      firstsBy SignedPublicKey.primaryFingerprint parsed.flatten := by
    refine hReplaced.firstsBy_eq ?_
    rintro certificate _ ⟨revocations, rfl⟩
    rfl
  have hSome : parsed' ≠ [] := by
    rintro rfl
    -- an input without certificates makes no allowlist
    have hNone : parsed.flatten = [] := List.length_eq_zero_iff.mp hReplaced.length_eq.symm
    rw [hKept, hNone] at hRead
    unfold Allowlist.parseAt at hParse
    rw [hRead] at hParse
    cases hParse
  have hRead' : readCertificates rpgp armored' = .ok allowlist.certificates :=
    readCertificates_eq_ok_iff.mpr ⟨parsed', hParsed', hSome, hKept.trans hSame.symm⟩
  unfold Allowlist.parseAt at hParse ⊢
  rwa [hRead', ← hRead]

/-- The first copy of a certificate decides whether it is revoked: when it carries a key
revocation, no lookup returns an entry that names its fingerprint, and whatever revocations
the later copies carry, the allowlist is the same. -/
theorem first_copies_decide_revocations {rpgp : Rpgp} {armored : Bytes} {now : UInt32}
    {allowlist : Allowlist} (hParse : Allowlist.parseAt rpgp armored now = .ok allowlist)
    {parsed : List (List SignedPublicKey)} (hParsed : ParsedBlocks rpgp armored parsed) :
    (∀ certificate, FirstOfKey SignedPublicKey.primaryFingerprint parsed.flatten certificate →
      certificate.details.revocationSignatures ≠ [] →
        ∀ fingerprint keyId entry, allowlist.lookup fingerprint keyId = some entry →
          entry.primaryFingerprint ≠ toUppercase (toString certificate.primaryFingerprint)) ∧
    ∀ armored' parsed', ParsedBlocks rpgp armored' parsed' →
      LaterReplaced SignedPublicKey.primaryFingerprint OtherRevocations parsed.flatten
          parsed'.flatten →
        Allowlist.parseAt rpgp armored' now = .ok allowlist := by
  constructor
  · intro certificate hFirst hRevoked fingerprint keyId entry hLookup
    exact revoked_first_copy_admits_nobody hParse hParsed hFirst hRevoked hLookup
  · intro armored' parsed' hParsed' hReplaced
    exact parseAt_of_laterRevocations hParse hParsed hParsed' hReplaced

open Reference in
/-- The engineer's certificate is revoked, and the colleague is admitted; and where a second
copy of the engineer's certificate follows, it does not matter that it is revoked. -/
theorem first_copies_decide_revocations_copies :
    (∃ allowlist entry,
      Allowlist.parseAt (rpgp (published (certificate none [revocation]) colleague))
          (asBytes (firstBlock ++ secondBlock)) 1500 = .ok allowlist ∧
        allowlist.lookup (some colleagueKey.fingerprint) none = some entry ∧
          entry.primaryFingerprint ≠ toUppercase (toString primaryKey.fingerprint)) ∧
    ∃ allowlist,
      Allowlist.parseAt (engineerCrates none).rpgp (asBytes (firstBlock ++ firstBlock)) 1500 =
          .ok allowlist ∧
        Allowlist.parseAt (engineerCrates none).rpgp (asBytes (firstBlock ++ secondBlock)) 1500 =
          .ok allowlist := by
  constructor
  · have hDistinct : (certificate none [revocation]).primaryFingerprint ≠
        colleague.primaryFingerprint := by
      show primaryKey.fingerprint ≠ colleagueKey.fingerprint
      decide
    have hUsable : Usable (rpgp (published (certificate none [revocation]) colleague))
        [certificate none [revocation], colleague] 1500 colleague (.primary colleagueKey) := by
      refine ⟨by simp, ?_⟩
      rw [colleague, classify_certificateOf _ rfl rfl]
      exact List.mem_singleton.mpr rfl
    obtain ⟨allowlist, hParse, hCertificates⟩ :=
      exists_parseAt (readCertificates_distinct hDistinct) hUsable
    obtain ⟨-, hIndexed⟩ := parseAt_spec hParse
    rw [← hCertificates] at hUsable
    obtain ⟨entry, hLookup⟩ := hIndexed.exact.fingerprint_found colleagueKey.fingerprint |>.mpr
      ⟨colleague, .primary colleagueKey, hUsable, rfl⟩
    have hFirst : FirstOfKey SignedPublicKey.primaryFingerprint
        [[certificate none [revocation]], [colleague]].flatten (certificate none [revocation]) :=
      ⟨[], [colleague], rfl, by simp⟩
    have hDecide := first_copies_decide_revocations hParse (parsedBlocks_bothBlocks _ _)
    exact ⟨allowlist, entry, hParse, hLookup,
      hDecide.1 _ hFirst (List.cons_ne_nil _ _) _ _ _ hLookup⟩
  · have hTwice : ParsedBlocks (engineerCrates none).rpgp (asBytes (firstBlock ++ firstBlock))
        [[certificate none []], [certificate none []]] := by
      refine ⟨firstBlock ++ firstBlock, fromUtf8_asBytes _, ?_⟩
      have hSplit : (splitOn armorBegin.toList (firstBlock ++ firstBlock).toList).drop 1 =
          [firstRest, firstRest] := by
        decide
      rw [hSplit]
      exact .cons (blockReads_first _ _) (.cons (blockReads_first _ _) .nil)
    have hParse : Allowlist.parseAt (engineerCrates none).rpgp
        (asBytes (firstBlock ++ firstBlock)) 1500 = .ok (allowlist none) :=
      parseAt_engineer (readCertificates_eq_ok_iff.mpr ⟨_, hTwice, by simp, rfl⟩)
        (unlimited_fresh 1500)
    have hReplaced : LaterReplaced SignedPublicKey.primaryFingerprint OtherRevocations
        [[certificate none []], [certificate none []]].flatten
          [[certificate none []], [certificate none [revocation]]].flatten :=
      .later (.same .nil (certificate none [])) ⟨_, List.mem_singleton_self _, rfl⟩
        ⟨[revocation], rfl⟩
    have hDecide := first_copies_decide_revocations hParse hTwice
    exact ⟨_, hParse, hDecide.2 _ _ (parsedBlocks_bothBlocks _ _) hReplaced⟩

end TvcGpg
