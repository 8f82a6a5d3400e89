import Mathlib.Order.Fin.Basic
import TvcGpg.Lib.OrderedChecks
import TvcGpg.Release.Stages

/-!
# A release, sound and complete

What a released session key requires, as a list of checks that says nothing of
how `release` goes about them.  Each check is a statement about what the request
body says: the first part of this module reads the values out of the body, one
function a value, and `Check.Holds` states the thirty two conditions on them in
the order the source makes them.

`release_follows_checks` then says that the code is this list: it answers with
a session key exactly when every check holds, it names the reason of the first
check that fails otherwise, and the answer it gives is the one made from the
very values the checks were about.
-/

namespace TvcGpg

open Lib Lib.Text Lib.Fallible Lib.OrderedChecks

/-! ## What a request body says -/

section Reading

variable (crates : Crates) (state : AppState) (body : Bytes)

def requestOf : Option SessionKeyRequest :=
  (crates.json.read body).bind SessionKeyRequest.ofJson

def signatureBytesOf : Option Bytes :=
  (requestOf crates body).bind fun request => crates.hexDecode request.signature

/-- The signature, when its bytes are one signature packet and nothing after it. -/
def signatureOf : Option Signature :=
  (signatureBytesOf crates body).bind fun bytes =>
    match crates.rpgp.nextPacket bytes with
    | some (some (.signature signature), []) => some signature
    | _ => none

def entryOf : Option SignerEntry :=
  (signatureOf crates body).bind fun signature =>
    state.allowlist.lookup signature.issuerFingerprint.head? signature.issuerKeyId.head?

/-- The payload, read from the text the signature covers. -/
def payloadOf : Option SessionKeyPayload :=
  (requestOf crates body).bind fun request =>
    (crates.json.read (asBytes request.payload)).bind SessionKeyPayload.ofJson

def transportBytesOf : Option Bytes :=
  (payloadOf crates body).bind fun payload => crates.hexDecode payload.transportPublicKey

def transportOf : Option P256EncryptPublic :=
  (transportBytesOf crates body).bind crates.p256.encryptPublicFromBytes

def pkeskBytesOf : Option Bytes :=
  (payloadOf crates body).bind fun payload => crates.hexDecode payload.pkesk

/-- The PKESK, when its bytes are one PKESK packet and nothing after it. -/
def pkeskOf : Option PublicKeyEncryptedSessionKey :=
  (pkeskBytesOf crates body).bind fun bytes =>
    match crates.rpgp.nextPacket bytes with
    | some (some (.publicKeyEncryptedSessionKey pkesk), []) => some pkesk
    | _ => none

def pkeskValuesOf : Option PkeskBytes :=
  (pkeskOf crates body).bind PublicKeyEncryptedSessionKey.values

def plainOf : Option PlainSessionKey :=
  (pkeskValuesOf crates body).bind fun values =>
    (crates.rpgp.decrypt state.teamKey.encryptionSubkey values).join

/-- The algorithm octet followed by the session key. -/
def sessionKeyOf : Option Bytes :=
  match plainOf crates state body with
  | some (.v3_4 symAlg key) => some (symAlg :: key)
  | _ => none

def envelopeOf (entropy : Bytes) : Option Bytes :=
  (transportOf crates body).bind fun transport =>
    (sessionKeyOf crates state body).bind fun plain => crates.p256.encrypt transport plain entropy

def receiptBytesOf : Option Bytes :=
  (entryOf crates state body).bind fun entry =>
    (payloadOf crates body).bind fun payload =>
      (pkeskBytesOf crates body).bind fun pkeskBytes =>
        crates.json.canonical (receiptFor crates state entry payload pkeskBytes).toJson

def receiptSignatureOf : Option Bytes :=
  (receiptBytesOf crates state body).bind (crates.p256.sign state.quorumKey)

def receiptTextOf : Option String :=
  (receiptBytesOf crates state body).bind fromUtf8

/-- The answer made from the values of a request. -/
def answerOf (entropy : Bytes) : Option SessionKeyResponse :=
  (envelopeOf crates state body entropy).bind fun envelope =>
    (receiptTextOf crates state body).bind fun receiptJson =>
      (receiptSignatureOf crates state body).map fun receiptSignature =>
        { wrappedSessionKey := crates.hexEncode envelope
          receiptJson
          receiptSignature := crates.hexEncode receiptSignature
          quorumPublicKey :=
            crates.hexEncode (crates.p256.publicToBytes (crates.p256.publicKey state.quorumKey)) }

end Reading

/-! ## The checks, in order -/

/-- The checks of a release, in the order they are made. -/
inductive Check
  | bodyIsRequest
  | signatureIsHex
  | signatureIsOnePacket
  | signatureHasConfig
  | signatureIsVersion4
  | signatureIsBinary
  | signatureKeyAlgorithm
  | signatureHash
  | signatureCriticalSubpackets
  | signerIsListed
  | signatureVerifies
  | payloadIsPayload
  | payloadDomain
  | payloadAppId
  | payloadTime
  | transportIsHex
  | transportIsPoint
  | transportIsAccepted
  | pkeskIsHex
  | pkeskIsOnePacket
  | pkeskIsVersion3
  | pkeskIsEcdh
  | pkeskNamesSubkey
  | pkeskHasEcdhValues
  | pkeskPoint
  | pkeskWrappedLength
  | pkeskDecrypts
  | sessionKeyKind
  | envelopeEncrypts
  | receiptEncodes
  | receiptSigns
  | receiptIsText
  deriving DecidableEq, Repr

namespace Check

theorem ctorIdx_injective : Function.Injective Check.ctorIdx := by
  intro c d hIdx
  have hBack := congrArg Check.ofNat hIdx
  simpa only [Check.ofNat_ctorIdx] using hBack

instance : LinearOrder Check :=
  LinearOrder.lift' Check.ctorIdx ctorIdx_injective

instance : WellFoundedLT Check :=
  ⟨InvImage.wf Check.ctorIdx wellFounded_lt⟩

/-- The reason given when a check is the first to fail. -/
def reason : Check → RejectReason
  | bodyIsRequest => .bodyNotRequest
  | signatureIsHex => .signatureNotHex
  | signatureIsOnePacket => .signatureNotOnePacket
  | signatureHasConfig => .signatureVersion
  | signatureIsVersion4 => .signatureVersion
  | signatureIsBinary => .signatureType
  | signatureKeyAlgorithm => .signatureKeyAlgorithm
  | signatureHash => .signatureHash
  | signatureCriticalSubpackets => .signatureCriticalSubpacket
  | signerIsListed => .notOnAllowlist
  | signatureVerifies => .signatureInvalid
  | payloadIsPayload => .payloadNotPayload
  | payloadDomain => .payloadDomain
  | payloadAppId => .payloadAppId
  | payloadTime => .payloadTime
  | transportIsHex => .transportKey
  | transportIsPoint => .transportKey
  | transportIsAccepted => .transportKey
  | pkeskIsHex => .rejected
  | pkeskIsOnePacket => .rejected
  | pkeskIsVersion3 => .rejected
  | pkeskIsEcdh => .rejected
  | pkeskNamesSubkey => .rejected
  | pkeskHasEcdhValues => .rejected
  | pkeskPoint => .rejected
  | pkeskWrappedLength => .rejected
  | pkeskDecrypts => .rejected
  | sessionKeyKind => .rejected
  | envelopeEncrypts => .rejected
  | receiptEncodes => .rejected
  | receiptSigns => .rejected
  | receiptIsText => .rejected

section Holds

variable (crates : Crates) (state : AppState) (body : Bytes) (now : UInt64) (entropy : Bytes)

/-- What a check asks of a request, given the enclave time and the randomness of
the envelope. -/
def Holds : Check → Prop
  | bodyIsRequest => (requestOf crates body).isSome
  | signatureIsHex => (signatureBytesOf crates body).isSome
  | signatureIsOnePacket => (signatureOf crates body).isSome
  | signatureHasConfig => ∃ s ∈ signatureOf crates body, s.config.isSome
  | signatureIsVersion4 => ∃ s ∈ signatureOf crates body, s.version = .v4
  | signatureIsBinary => ∃ s ∈ signatureOf crates body, s.typ = some .binary
  | signatureKeyAlgorithm =>
      ∃ s ∈ signatureOf crates body, ∃ config ∈ s.config,
        config.pubAlg = .rsa ∨ config.pubAlg = .eddsaLegacy
  | signatureHash =>
      ∃ s ∈ signatureOf crates body,
        s.hashAlg = some .sha256 ∨ s.hashAlg = some .sha384 ∨ s.hashAlg = some .sha512
  | signatureCriticalSubpackets =>
      ∃ s ∈ signatureOf crates body, ∃ config ∈ s.config,
        ∀ subpacket ∈ config.hashedSubpackets ++ config.unhashedSubpackets,
          subpacket.isCritical = true →
            (∃ t, subpacket.data = .signatureCreationTime t) ∨
              (∃ f, subpacket.data = .issuerFingerprint f) ∨
                ∃ k, subpacket.data = .issuerKeyId k
  | signerIsListed => (entryOf crates state body).isSome
  | signatureVerifies =>
      ∃ request ∈ requestOf crates body, ∃ s ∈ signatureOf crates body,
        ∃ entry ∈ entryOf crates state body,
          crates.rpgp.verify s entry.key.details (asBytes request.payload) = true
  | payloadIsPayload => (payloadOf crates body).isSome
  | payloadDomain => ∃ p ∈ payloadOf crates body, p.domain = requestDomain
  | payloadAppId => ∃ p ∈ payloadOf crates body, p.appId = state.appId
  | payloadTime =>
      ∃ p ∈ payloadOf crates body, ((now.toNat : Int) - (p.time.toNat : Int)).natAbs ≤ 300
  | transportIsHex => (transportBytesOf crates body).isSome
  | transportIsPoint =>
      ∃ bytes ∈ transportBytesOf crates body, bytes.length = 65 ∧ bytes.head? = some 0x04
  | transportIsAccepted => (transportOf crates body).isSome
  | pkeskIsHex => (pkeskBytesOf crates body).isSome
  | pkeskIsOnePacket => (pkeskOf crates body).isSome
  | pkeskIsVersion3 => ∃ pkesk ∈ pkeskOf crates body, pkesk.version = .v3
  | pkeskIsEcdh => ∃ pkesk ∈ pkeskOf crates body, pkesk.algorithm = some .ecdh
  | pkeskNamesSubkey => ∃ pkesk ∈ pkeskOf crates body, pkesk.id = some state.teamKey.subkeyKeyId
  | pkeskHasEcdhValues => ∃ point wrapped, pkeskValuesOf crates body = some (.ecdh point wrapped)
  | pkeskPoint =>
      ∃ point wrapped, pkeskValuesOf crates body = some (.ecdh point wrapped) ∧
        point.length = 65 ∧ point.head? = some 0x04
  | pkeskWrappedLength =>
      ∃ point wrapped, pkeskValuesOf crates body = some (.ecdh point wrapped) ∧
        16 ≤ wrapped.length ∧ wrapped.length ≤ 64 ∧ wrapped.length % 8 = 0
  | pkeskDecrypts => (plainOf crates state body).isSome
  | sessionKeyKind => (sessionKeyOf crates state body).isSome
  | envelopeEncrypts => (envelopeOf crates state body entropy).isSome
  | receiptEncodes => (receiptBytesOf crates state body).isSome
  | receiptSigns => (receiptSignatureOf crates state body).isSome
  | receiptIsText => (receiptTextOf crates state body).isSome

end Holds
end Check

/-! ## The stages, read off the body -/

section Agreement

variable (crates : Crates) {state : AppState} {body : Bytes} {now : UInt64} {entropy : Bytes}

theorem signatureOf_eq_some_iff {request : SessionKeyRequest} {signature : Signature}
    (hRequest : requestOf crates body = some request) :
    signatureOf crates body = some signature ↔
      parseSignature crates request.signature = .ok signature := by
  rw [parseSignature_eq_ok_iff]
  unfold signatureOf signatureBytesOf
  rw [hRequest, Option.bind_some]
  constructor
  · intro hSignature
    obtain ⟨bytes, hBytes, hMatch⟩ := Option.bind_eq_some_iff.mp hSignature
    refine ⟨bytes, hBytes, ?_⟩
    split at hMatch
    · rename_i found hNext
      rw [hNext, Option.some.inj hMatch]
    · cases hMatch
  · intro hRead
    rcases hRead with ⟨bytes, hBytes, hNext⟩
    rw [hBytes, Option.bind_some, hNext]

theorem isUnknownCritical_eq_false_iff {subpacket : Subpacket} :
    subpacket.isUnknownCritical = false ↔
      (subpacket.isCritical = true →
        (∃ t, subpacket.data = .signatureCreationTime t) ∨
          (∃ f, subpacket.data = .issuerFingerprint f) ∨ ∃ k, subpacket.data = .issuerKeyId k) := by
  unfold Subpacket.isUnknownCritical
  cases subpacket.isCritical with
  | false => simp
  | true => cases subpacket.data <;> simp

theorem pkeskOf_eq_some_iff {pkeskBytes : Bytes} {pkesk : PublicKeyEncryptedSessionKey}
    (hBytes : pkeskBytesOf crates body = some pkeskBytes) :
    pkeskOf crates body = some pkesk ↔
      crates.rpgp.nextPacket pkeskBytes =
        some (some (.publicKeyEncryptedSessionKey pkesk), []) := by
  unfold pkeskOf
  rw [hBytes, Option.bind_some]
  constructor
  · intro hMatch
    split at hMatch
    · rename_i found hNext
      rw [hNext, Option.some.inj hMatch]
    · cases hMatch
  · intro hNext
    rw [hNext]

theorem exists_of_signatureOf_isSome (hSome : (signatureOf crates body).isSome) :
    ∃ request signature, requestOf crates body = some request ∧
      signatureOf crates body = some signature ∧
        parseSignature crates request.signature = .ok signature := by
  obtain ⟨signature, hSignature⟩ := Option.isSome_iff_exists.mp hSome
  have hRead := hSignature
  unfold signatureOf signatureBytesOf at hRead
  obtain ⟨bytes, hBytes, -⟩ := Option.bind_eq_some_iff.mp hRead
  obtain ⟨request, hRequest, -⟩ := Option.bind_eq_some_iff.mp hBytes
  exact ⟨request, signature, hRequest, hSignature,
    (signatureOf_eq_some_iff crates hRequest).mp hSignature⟩

/-- An authenticated request says what it was authenticated for. -/
theorem Authenticated.read {request : SessionKeyRequest} {signature : Signature}
    {entry : SignerEntry}
    (hAuthenticated : Authenticated crates state body request signature entry) :
    requestOf crates body = some request ∧ signatureOf crates body = some signature ∧
      entryOf crates state body = some entry := by
  have hSignature :=
    (signatureOf_eq_some_iff crates hAuthenticated.parsed).mpr hAuthenticated.packet
  refine ⟨hAuthenticated.parsed, hSignature, ?_⟩
  unfold entryOf
  rw [hSignature, Option.bind_some]
  exact hAuthenticated.listed

/-- An admitted request says what it was admitted for. -/
theorem Admitted.read {request : SessionKeyRequest} {payload : SessionKeyPayload}
    {transport : P256EncryptPublic} (hRequest : requestOf crates body = some request)
    (hAdmitted : Admitted crates state now request payload transport) :
    payloadOf crates body = some payload ∧ transportOf crates body = some transport := by
  have hPayload : payloadOf crates body = some payload := by
    unfold payloadOf
    rw [hRequest, Option.bind_some]
    exact hAdmitted.parsed
  obtain ⟨bytes, hBytes, -, -, hPoint⟩ := (transportKey_eq_ok_iff crates).mp hAdmitted.transport
  refine ⟨hPayload, ?_⟩
  unfold transportOf transportBytesOf
  rw [hPayload, Option.bind_some, hBytes, Option.bind_some]
  exact hPoint

/-- An accepted PKESK is the one the request asked for. -/
theorem AcceptedPkesk.read {pkeskBytes : Bytes} {pkesk : PublicKeyEncryptedSessionKey}
    {point wrapped : Bytes} (hBytes : pkeskBytesOf crates body = some pkeskBytes)
    (hAccepted : AcceptedPkesk crates state pkeskBytes pkesk point wrapped) :
    pkeskOf crates body = some pkesk ∧
      pkeskValuesOf crates body = some (.ecdh point wrapped) := by
  have hPkesk := (pkeskOf_eq_some_iff crates hBytes).mpr hAccepted.packet
  refine ⟨hPkesk, ?_⟩
  unfold pkeskValuesOf
  rw [hPkesk, Option.bind_some]
  exact hAccepted.values

/-- What the team subkey decrypts is the session key the request asked for. -/
theorem AcceptedPkesk.opens {pkeskBytes : Bytes} {pkesk : PublicKeyEncryptedSessionKey}
    {point wrapped : Bytes} {symAlg : UInt8} {key : Bytes}
    (hBytes : pkeskBytesOf crates body = some pkeskBytes)
    (hAccepted : AcceptedPkesk crates state pkeskBytes pkesk point wrapped)
    (hOpened : crates.rpgp.decrypt state.teamKey.encryptionSubkey (.ecdh point wrapped) =
      some (some (.v3_4 symAlg key))) :
    plainOf crates state body = some (.v3_4 symAlg key) ∧
      sessionKeyOf crates state body = some (symAlg :: key) := by
  have hPlain : plainOf crates state body = some (.v3_4 symAlg key) := by
    unfold plainOf
    rw [(hAccepted.read crates hBytes).2, Option.bind_some, hOpened]
    rfl
  refine ⟨hPlain, ?_⟩
  unfold sessionKeyOf
  rw [hPlain]

/-- A released request says what its session key was released from. -/
theorem Released.read {entry : SignerEntry} {payload : SessionKeyPayload}
    {transport : P256EncryptPublic} {opening : Opening}
    (hEntry : entryOf crates state body = some entry)
    (hPayload : payloadOf crates body = some payload)
    (hTransport : transportOf crates body = some transport)
    (hReleased : Released crates state entropy entry payload transport opening) :
    pkeskBytesOf crates body = some opening.pkeskBytes ∧
      pkeskOf crates body = some opening.pkesk ∧
        pkeskValuesOf crates body = some (.ecdh opening.point opening.wrapped) ∧
          plainOf crates state body = some (.v3_4 opening.symAlg opening.key) ∧
            envelopeOf crates state body entropy = some opening.envelope ∧
              receiptBytesOf crates state body = some (asBytes opening.receiptJson) := by
  have hBytes : pkeskBytesOf crates body = some opening.pkeskBytes := by
    unfold pkeskBytesOf
    rw [hPayload, Option.bind_some]
    exact hReleased.decoded
  obtain ⟨hPkesk, hValues⟩ := hReleased.accepted.read crates hBytes
  obtain ⟨hPlain, hSessionKey⟩ := hReleased.accepted.opens crates hBytes hReleased.opened
  refine ⟨hBytes, hPkesk, hValues, hPlain, ?_, ?_⟩
  · unfold envelopeOf
    rw [hTransport, Option.bind_some, hSessionKey, Option.bind_some]
    exact hReleased.enveloped
  · unfold receiptBytesOf
    rw [hEntry, Option.bind_some, hPayload, Option.bind_some, hBytes, Option.bind_some]
    exact hReleased.encoded

end Agreement

/-! ## The code is the list -/

section Release

variable (crates : Crates) (state : AppState) (body : Bytes) (now : UInt64) (entropy : Bytes)

/-- A signature that passes the checks of its shape is of an accepted shape. -/
theorem checkSignatureShape_of_holds {signature : Signature}
    (hSignature : signatureOf crates body = some signature)
    (hHolds : ∀ c ≤ Check.signatureCriticalSubpackets, c.Holds crates state body now entropy) :
    checkSignatureShape signature = .ok () := by
  obtain ⟨config, hConfig⟩ : ∃ config, signature.config = some config := by
    simpa [Check.Holds, hSignature, Option.isSome_iff_exists] using
      hHolds .signatureHasConfig (by decide)
  refine checkSignatureShape_eq_ok_iff.mpr ⟨config, hConfig, ?_, ?_, ?_, ?_, ?_⟩
  · simpa [Check.Holds, hSignature] using hHolds .signatureIsVersion4 (by decide)
  · simpa [Check.Holds, hSignature] using hHolds .signatureIsBinary (by decide)
  · simpa [Check.Holds, hSignature, hConfig] using hHolds .signatureKeyAlgorithm (by decide)
  · simpa [Check.Holds, hSignature] using hHolds .signatureHash (by decide)
  · intro subpacket hMem
    have hCritical := hHolds .signatureCriticalSubpackets (by decide)
    simp only [Check.Holds, hSignature, hConfig, Option.mem_def, Option.some.injEq,
      exists_eq_left'] at hCritical
    exact isUnknownCritical_eq_false_iff.mpr (hCritical subpacket hMem)

/-- A request that passes the checks up to the verification is authenticated. -/
theorem exists_authenticated
    (hHolds : ∀ c ≤ Check.signatureVerifies, c.Holds crates state body now entropy) :
    ∃ request signature entry, Authenticated crates state body request signature entry := by
  obtain ⟨request, signature, hRequest, hSignature, hPacket⟩ :=
    exists_of_signatureOf_isSome crates (hHolds .signatureIsOnePacket (by decide))
  have hShape := checkSignatureShape_of_holds crates state body now entropy hSignature
    fun c hc => hHolds c (hc.trans (by decide))
  obtain ⟨entry, hEntry⟩ := Option.isSome_iff_exists.mp (hHolds .signerIsListed (by decide))
  refine ⟨request, signature, entry, hRequest, hPacket, hShape, ?_, ?_⟩
  · unfold entryOf at hEntry
    rw [hSignature, Option.bind_some] at hEntry
    exact hEntry
  · rw [verified_eq]
    simpa [Check.Holds, hRequest, hSignature, hEntry] using hHolds .signatureVerifies (by decide)

/-- An authenticated request that passes the payload checks too is admitted. -/
theorem exists_admitted {request : SessionKeyRequest}
    (hRequest : requestOf crates body = some request)
    (hHolds : ∀ c ≤ Check.transportIsAccepted, c.Holds crates state body now entropy) :
    ∃ payload transport, Admitted crates state now request payload transport := by
  obtain ⟨payload, hPayload⟩ := Option.isSome_iff_exists.mp (hHolds .payloadIsPayload (by decide))
  obtain ⟨transport, hTransport⟩ :=
    Option.isSome_iff_exists.mp (hHolds .transportIsAccepted (by decide))
  have hParsed := hPayload
  unfold payloadOf at hParsed
  rw [hRequest, Option.bind_some] at hParsed
  refine ⟨payload, transport, hParsed, ?_, ?_, ?_, ?_⟩
  · simpa [Check.Holds, hPayload] using hHolds .payloadDomain (by decide)
  · simpa [Check.Holds, hPayload] using hHolds .payloadAppId (by decide)
  · rw [absDiff_le_window_iff]
    simpa [Check.Holds, hPayload] using hHolds .payloadTime (by decide)
  · unfold transportOf at hTransport
    obtain ⟨bytes, hBytes, hPoint⟩ := Option.bind_eq_some_iff.mp hTransport
    have hShape : bytes.length = 65 ∧ bytes.head? = some 0x04 := by
      simpa [Check.Holds, hBytes] using hHolds .transportIsPoint (by decide)
    unfold transportBytesOf at hBytes
    rw [hPayload, Option.bind_some] at hBytes
    exact (transportKey_eq_ok_iff crates).mpr ⟨bytes, hBytes, hShape.1, hShape.2, hPoint⟩

/-- An admitted request that passes every check is released. -/
theorem exists_released {entry : SignerEntry} {payload : SessionKeyPayload}
    {transport : P256EncryptPublic} (hEntry : entryOf crates state body = some entry)
    (hPayload : payloadOf crates body = some payload)
    (hTransport : transportOf crates body = some transport)
    (hHolds : ∀ c, Check.Holds crates state body now entropy c) :
    ∃ opening, Released crates state entropy entry payload transport opening := by
  -- each check leaves behind one of the values an opening is made of
  obtain ⟨pkeskBytes, hBytes⟩ := Option.isSome_iff_exists.mp (hHolds .pkeskIsHex)
  obtain ⟨pkesk, hPkesk⟩ := Option.isSome_iff_exists.mp (hHolds .pkeskIsOnePacket)
  obtain ⟨point, wrapped, hValues⟩ := hHolds .pkeskHasEcdhValues
  obtain ⟨plain, hPlain⟩ := Option.isSome_iff_exists.mp (hHolds .sessionKeyKind)
  obtain ⟨envelope, hEnvelope⟩ := Option.isSome_iff_exists.mp (hHolds .envelopeEncrypts)
  obtain ⟨receiptBytes, hReceipt⟩ := Option.isSome_iff_exists.mp (hHolds .receiptEncodes)
  obtain ⟨receiptSignature, hSigned⟩ := Option.isSome_iff_exists.mp (hHolds .receiptSigns)
  obtain ⟨receiptJson, hText⟩ := Option.isSome_iff_exists.mp (hHolds .receiptIsText)
  have hPoint : point.length = 65 ∧ point.head? = some 0x04 := by
    simpa [Check.Holds, hValues] using hHolds .pkeskPoint
  have hWrapped : 16 ≤ wrapped.length ∧ wrapped.length ≤ 64 ∧ wrapped.length % 8 = 0 := by
    simpa [Check.Holds, hValues] using hHolds .pkeskWrappedLength
  have hAccepted : AcceptedPkesk crates state pkeskBytes pkesk point wrapped := by
    refine ⟨(pkeskOf_eq_some_iff crates hBytes).mp hPkesk, ?_, ?_, ?_, ?_, hPoint.1, hPoint.2,
      hWrapped⟩
    · simpa [Check.Holds, hPkesk] using hHolds .pkeskIsVersion3
    · simpa [Check.Holds, hPkesk] using hHolds .pkeskIsEcdh
    · simpa [Check.Holds, hPkesk] using hHolds .pkeskNamesSubkey
    · simpa [pkeskValuesOf, hPkesk] using hValues
  unfold pkeskBytesOf at hBytes
  rw [hPayload, Option.bind_some] at hBytes
  have hSession := hPlain
  unfold sessionKeyOf at hPlain
  split at hPlain
  · rename_i symAlg key hOpened
    cases hPlain
    unfold plainOf at hOpened
    rw [hValues, Option.bind_some, Option.join_eq_some_iff] at hOpened
    unfold envelopeOf at hEnvelope
    rw [hTransport, Option.bind_some, hSession, Option.bind_some] at hEnvelope
    unfold receiptTextOf at hText
    unfold receiptSignatureOf at hSigned
    rw [hReceipt, Option.bind_some] at hText hSigned
    obtain rfl := asBytes_of_fromUtf8 hText
    unfold receiptBytesOf pkeskBytesOf at hReceipt
    rw [hEntry, Option.bind_some, hPayload, Option.bind_some, Option.bind_some, hBytes,
      Option.bind_some] at hReceipt
    exact ⟨⟨pkeskBytes, pkesk, point, wrapped, symAlg, key, envelope, receiptJson,
      receiptSignature⟩, hBytes, hAccepted, hOpened, hEnvelope, hReceipt, hSigned⟩
  · cases hPlain

/-- An authenticated request passes every check up to the verification. -/
theorem Authenticated.holds {request : SessionKeyRequest} {signature : Signature}
    {entry : SignerEntry} (hAuthenticated : Authenticated crates state body request signature entry)
    {c : Check} (hEarly : c ≤ .signatureVerifies) : c.Holds crates state body now entropy := by
  obtain ⟨hRequest, hSignature, hEntry⟩ := hAuthenticated.read crates
  obtain ⟨config, hShape⟩ := checkSignatureShape_eq_ok_iff.mp hAuthenticated.shape
  cases c with
  | bodyIsRequest => simp [Check.Holds, hRequest]
  | signatureIsHex =>
      obtain ⟨bytes, hBytes, -⟩ := (parseSignature_eq_ok_iff crates).mp hAuthenticated.packet
      simp [Check.Holds, signatureBytesOf, hRequest, hBytes]
  | signatureIsOnePacket => simp [Check.Holds, hSignature]
  | signatureHasConfig => exact ⟨signature, hSignature, by simp [hShape.hasConfig]⟩
  | signatureIsVersion4 => exact ⟨signature, hSignature, hShape.version⟩
  | signatureIsBinary => exact ⟨signature, hSignature, hShape.typ⟩
  | signatureKeyAlgorithm => exact ⟨signature, hSignature, config, hShape.hasConfig, hShape.pubAlg⟩
  | signatureHash => exact ⟨signature, hSignature, hShape.hashAlg⟩
  | signatureCriticalSubpackets =>
      exact ⟨signature, hSignature, config, hShape.hasConfig, fun subpacket hMem =>
        isUnknownCritical_eq_false_iff.mp (hShape.critical subpacket hMem)⟩
  | signerIsListed => simp [Check.Holds, hEntry]
  | signatureVerifies =>
      refine ⟨request, hRequest, signature, hSignature, entry, hEntry, ?_⟩
      rw [← verified_eq]
      exact hAuthenticated.verifies
  | _ => exact absurd hEarly (by decide)

/-- An accepted transport key passes all three checks of it. -/
theorem transport_holds_of_accepted {payload : SessionKeyPayload} {transport : P256EncryptPublic}
    (hPayload : payloadOf crates body = some payload)
    (hTransport : transportKey crates payload.transportPublicKey = .ok transport) {c : Check}
    (hFrom : Check.transportIsHex ≤ c) (hTo : c ≤ Check.transportIsAccepted) :
    c.Holds crates state body now entropy := by
  obtain ⟨bytes, hHex, hLength, hHead, hPoint⟩ := (transportKey_eq_ok_iff crates).mp hTransport
  have hBytes : transportBytesOf crates body = some bytes := by
    unfold transportBytesOf
    rw [hPayload, Option.bind_some, hHex]
  cases c with
  | transportIsHex => simp [Check.Holds, hBytes]
  | transportIsPoint => exact ⟨bytes, hBytes, hLength, hHead⟩
  | transportIsAccepted => simp [Check.Holds, transportOf, hBytes, hPoint]
  | _ => first | exact absurd hFrom (by decide) | exact absurd hTo (by decide)

/-- An admitted request passes every check up to the transport key. -/
theorem Admitted.passesThrough {request : SessionKeyRequest} {signature : Signature}
    {entry : SignerEntry} {payload : SessionKeyPayload} {transport : P256EncryptPublic}
    (hAuthenticated : Authenticated crates state body request signature entry)
    (hAdmitted : Admitted crates state now request payload transport) :
    PassesThrough (Check.Holds crates state body now entropy) .transportIsAccepted := by
  intro c hEarly
  have hRequest := (hAuthenticated.read crates).1
  have hPayload := (hAdmitted.read crates hRequest).1
  -- the checks fall into those of the signature, of the transport key and of the payload
  by_cases hSignature : c ≤ .signatureVerifies
  · exact hAuthenticated.holds crates state body now entropy hSignature
  by_cases hTransport : Check.transportIsHex ≤ c
  · exact transport_holds_of_accepted crates state body now entropy hPayload hAdmitted.transport
      hTransport hEarly
  cases c with
  | payloadIsPayload => simp [Check.Holds, hPayload]
  | payloadDomain => exact ⟨payload, hPayload, hAdmitted.domain⟩
  | payloadAppId => exact ⟨payload, hPayload, hAdmitted.appId⟩
  | payloadTime => exact ⟨payload, hPayload, (absDiff_le_window_iff _ _).mp hAdmitted.time⟩
  | _ => first | exact absurd (by decide) hSignature | exact absurd (by decide) hTransport

/-- A released request passes every check of the PKESK stage. -/
theorem Released.holds {entry : SignerEntry} {payload : SessionKeyPayload}
    {transport : P256EncryptPublic} {opening : Opening}
    (hEntry : entryOf crates state body = some entry)
    (hPayload : payloadOf crates body = some payload)
    (hTransport : transportOf crates body = some transport)
    (hReleased : Released crates state entropy entry payload transport opening)
    {c : Check} (hLate : Check.transportIsAccepted < c) :
    c.Holds crates state body now entropy := by
  obtain ⟨hBytes, hPkesk, hValues, hPlain, hEnvelope, hReceipt⟩ :=
    hReleased.read crates hEntry hPayload hTransport
  have hAccepted := hReleased.accepted
  cases c with
  | pkeskIsHex => simp [Check.Holds, hBytes]
  | pkeskIsOnePacket => simp [Check.Holds, hPkesk]
  | pkeskIsVersion3 => exact ⟨_, hPkesk, hAccepted.version⟩
  | pkeskIsEcdh => exact ⟨_, hPkesk, hAccepted.algorithm⟩
  | pkeskNamesSubkey => exact ⟨_, hPkesk, hAccepted.id⟩
  | pkeskHasEcdhValues => exact ⟨_, _, hValues⟩
  | pkeskPoint => exact ⟨_, _, hValues, hAccepted.pointLength, hAccepted.pointHead⟩
  | pkeskWrappedLength => exact ⟨_, _, hValues, hAccepted.wrappedLength⟩
  | pkeskDecrypts => simp [Check.Holds, hPlain]
  | sessionKeyKind => simp [Check.Holds, sessionKeyOf, hPlain]
  | envelopeEncrypts => simp [Check.Holds, hEnvelope]
  | receiptEncodes => simp [Check.Holds, hReceipt]
  | receiptSigns => simp [Check.Holds, receiptSignatureOf, hReceipt, hReleased.signed]
  | receiptIsText => simp [Check.Holds, receiptTextOf, hReceipt]
  | _ => exact absurd hLate (by decide)

/-- A signature of a shape the app does not accept is turned down for its shape. -/
theorem release_of_shape_error {request : SessionKeyRequest} {signature : Signature}
    {reason : RejectReason} (hRequest : requestOf crates body = some request)
    (hPacket : parseSignature crates request.signature = .ok signature)
    (hShape : checkSignatureShape signature = .error reason) :
    release crates state body now entropy = .error reason := by
  unfold requestOf at hRequest
  simp only [release, hRequest, okOr_some, ok_bind, hPacket, hShape, error_bind]

/-- A request whose signature cannot be read is turned down for it. -/
theorem release_of_unread_signature {c : Check} (hUnread : c ≤ .signatureIsOnePacket)
    (hFirst : FirstFailure (Check.Holds crates state body now entropy) c) :
    release crates state body now entropy = .error c.reason := by
  obtain ⟨hNot, hBefore⟩ := hFirst
  cases c with
  | bodyIsRequest =>
      have hNone : (crates.json.read body).bind SessionKeyRequest.ofJson = none := by
        simpa [Check.Holds, requestOf] using hNot
      simp only [release, hNone, okOr_none, error_bind, Check.reason]
  | signatureIsHex =>
      obtain ⟨request, hRequest⟩ :=
        Option.isSome_iff_exists.mp (hBefore .bodyIsRequest (by decide))
      have hNone : crates.hexDecode request.signature = none := by
        simpa [Check.Holds, signatureBytesOf, hRequest] using hNot
      unfold requestOf at hRequest
      simp only [release, parseSignature, hRequest, hNone, okOr_some, okOr_none, ok_bind,
        error_bind, Check.reason]
  | signatureIsOnePacket =>
      obtain ⟨request, hRequest⟩ :=
        Option.isSome_iff_exists.mp (hBefore .bodyIsRequest (by decide))
      obtain ⟨bytes, hBytes⟩ :=
        Option.isSome_iff_exists.mp (hBefore .signatureIsHex (by decide))
      unfold signatureBytesOf at hBytes
      rw [hRequest, Option.bind_some] at hBytes
      -- the bytes are there, so only the packet can be at fault
      have hPacket : parseSignature crates request.signature = .error .signatureNotOnePacket := by
        refine parseSignature_of_decoded crates hBytes fun signature hNext => hNot ?_
        have hSome := (signatureOf_eq_some_iff crates hRequest).mpr
          ((parseSignature_eq_ok_iff crates).mpr ⟨bytes, hBytes, hNext⟩)
        simp [Check.Holds, hSome]
      unfold requestOf at hRequest
      simp only [release, hRequest, okOr_some, ok_bind, hPacket, error_bind, Check.reason]
  | _ => exact absurd hUnread (by decide)

/-- A signature is refused for the first check of its shape that fails. -/
theorem checkSignatureShape_of_firstFailure {signature : Signature}
    (hSignature : signatureOf crates body = some signature) {c : Check}
    (hRead : .signatureIsOnePacket < c) (hShape : c ≤ .signatureCriticalSubpackets)
    (hFirst : FirstFailure (Check.Holds crates state body now entropy) c) :
    checkSignatureShape signature = .error c.reason := by
  obtain ⟨hNot, hBefore⟩ := hFirst
  by_cases hConfig : signature.config = none
  · -- without a configuration the first check after the packet is the failing one
    have hNoConfig : ¬ Check.Holds crates state body now entropy .signatureHasConfig := by
      simp [Check.Holds, hSignature, hConfig]
    obtain rfl : c = .signatureHasConfig :=
      le_antisymm (le_of_not_gt fun hLater => hNoConfig (hBefore _ hLater)) hRead
    simp only [checkSignatureShape, hConfig, okOr_none, error_bind, Check.reason]
  obtain ⟨config, hConfig⟩ := Option.ne_none_iff_exists'.mp hConfig
  -- what each check that comes before `c` leaves behind
  have hVersion (hLate : Check.signatureIsVersion4 < c) : signature.version = .v4 := by
    simpa [Check.Holds, hSignature] using hBefore .signatureIsVersion4 hLate
  have hTyp (hLate : Check.signatureIsBinary < c) : signature.typ = some .binary := by
    simpa [Check.Holds, hSignature] using hBefore .signatureIsBinary hLate
  have hPubAlg (hLate : Check.signatureKeyAlgorithm < c) :
      config.pubAlg = .rsa ∨ config.pubAlg = .eddsaLegacy := by
    simpa [Check.Holds, hSignature, hConfig] using hBefore .signatureKeyAlgorithm hLate
  have hHash (hLate : Check.signatureHash < c) :
      signature.hashAlg = some .sha256 ∨ signature.hashAlg = some .sha384 ∨
        signature.hashAlg = some .sha512 := by
    simpa [Check.Holds, hSignature] using hBefore .signatureHash hLate
  cases c with
  | signatureHasConfig => simp [Check.Holds, hSignature, hConfig] at hNot
  | signatureIsVersion4 =>
      have hOther : ¬ signature.version = .v4 := by
        simpa [Check.Holds, hSignature] using hNot
      simp only [checkSignatureShape, hConfig, okOr_some, ok_bind, require_of_not _ hOther,
        error_bind, Check.reason]
  | signatureIsBinary =>
      have hOther : ¬ signature.typ = some .binary := by
        simpa [Check.Holds, hSignature] using hNot
      simp only [checkSignatureShape, hConfig, okOr_some, ok_bind,
        require_of _ (hVersion (by decide)), require_of_not _ hOther, error_bind, Check.reason]
  | signatureKeyAlgorithm =>
      have hOther : ¬ (config.pubAlg = .rsa ∨ config.pubAlg = .eddsaLegacy) := by
        simpa [Check.Holds, hSignature, hConfig] using hNot
      simp only [checkSignatureShape, hConfig, okOr_some, ok_bind,
        require_of _ (hVersion (by decide)), require_of _ (hTyp (by decide)),
        require_of_not _ hOther, error_bind, Check.reason]
  | signatureHash =>
      have hOther : ¬ (signature.hashAlg = some .sha256 ∨ signature.hashAlg = some .sha384 ∨
          signature.hashAlg = some .sha512) := by
        simpa [Check.Holds, hSignature] using hNot
      simp only [checkSignatureShape, hConfig, okOr_some, ok_bind,
        require_of _ (hVersion (by decide)), require_of _ (hTyp (by decide)),
        require_of _ (hPubAlg (by decide)), require_of_not _ hOther, error_bind, Check.reason]
  | signatureCriticalSubpackets =>
      have hOther : ¬ ¬ (config.hashedSubpackets ++ config.unhashedSubpackets).any
          Subpacket.isUnknownCritical := by
        intro hNone
        refine hNot ⟨signature, hSignature, config, hConfig, fun subpacket hMem => ?_⟩
        apply isUnknownCritical_eq_false_iff.mp
        exact Bool.eq_false_iff.mpr fun hTrue =>
          hNone (List.any_eq_true.mpr ⟨subpacket, hMem, hTrue⟩)
      simp only [checkSignatureShape, hConfig, okOr_some, ok_bind,
        require_of _ (hVersion (by decide)), require_of _ (hTyp (by decide)),
        require_of _ (hPubAlg (by decide)), require_of _ (hHash (by decide)),
        require_of_not _ hOther, Check.reason]
  | _ => first | exact absurd hRead (by decide) | exact absurd hShape (by decide)

/-- A request that fails first at one of the checks of its signature is turned
down for it. -/
theorem release_of_signature_failure {c : Check} (hEarly : c ≤ .signatureVerifies)
    (hFirst : FirstFailure (Check.Holds crates state body now entropy) c) :
    release crates state body now entropy = .error c.reason := by
  by_cases hUnread : c ≤ .signatureIsOnePacket
  · exact release_of_unread_signature crates state body now entropy hUnread hFirst
  have hRead : Check.signatureIsOnePacket < c := lt_of_not_ge hUnread
  obtain ⟨request, signature, hRequest, hSignature, hPacket⟩ :=
    exists_of_signatureOf_isSome crates (hFirst.2 .signatureIsOnePacket hRead)
  by_cases hShaped : c ≤ .signatureCriticalSubpackets
  · apply release_of_shape_error crates state body now entropy hRequest hPacket
    exact checkSignatureShape_of_firstFailure crates state body now entropy hSignature hRead
      hShaped hFirst
  -- the shape is accepted, so the signer or the signature itself is at fault
  have hShape := checkSignatureShape_of_holds crates state body now entropy hSignature
    fun d hd => hFirst.2 d (hd.trans_lt (lt_of_not_ge hShaped))
  obtain ⟨hNot, hBefore⟩ := hFirst
  cases c with
  | signerIsListed =>
      have hNone : state.allowlist.lookup signature.issuerFingerprint.head?
          signature.issuerKeyId.head? = none := by
        simpa [Check.Holds, entryOf, hSignature] using hNot
      unfold requestOf at hRequest
      simp only [release, hRequest, okOr_some, ok_bind, hPacket, hShape, hNone, okOr_none,
        error_bind, Check.reason]
  | signatureVerifies =>
      obtain ⟨entry, hEntry⟩ := Option.isSome_iff_exists.mp (hBefore .signerIsListed (by decide))
      have hRefuted : ¬ verified crates signature entry request.payload = true := by
        rw [verified_eq]
        simpa [Check.Holds, hRequest, hSignature, hEntry] using hNot
      unfold entryOf at hEntry
      rw [hSignature, Option.bind_some] at hEntry
      unfold requestOf at hRequest
      simp only [release, hRequest, okOr_some, ok_bind, hPacket, hShape, hEntry,
        require_of_not _ hRefuted, error_bind, Check.reason]
  | _ => first | exact absurd hEarly (by decide) | exact absurd (by decide) hShaped

/-- A request that fails first at one of the checks of its payload is turned
down for it. -/
theorem release_of_payload_failure {c : Check} (hLate : .signatureVerifies < c)
    (hEarly : c ≤ .transportIsAccepted)
    (hFirst : FirstFailure (Check.Holds crates state body now entropy) c) :
    release crates state body now entropy = .error c.reason := by
  obtain ⟨hNot, hBefore⟩ := hFirst
  obtain ⟨request, signature, entry, hAuthenticated⟩ :=
    exists_authenticated crates state body now entropy fun d hd => hBefore d (hd.trans_lt hLate)
  have hRequest := (hAuthenticated.read crates).1
  rw [release_of_authenticated crates hAuthenticated]
  have hPayloadOf : payloadOf crates body =
      (crates.json.read (asBytes request.payload)).bind SessionKeyPayload.ofJson := by
    unfold payloadOf
    rw [hRequest, Option.bind_some]
  by_cases hUnread : c = .payloadIsPayload
  · subst hUnread
    have hNone : (crates.json.read (asBytes request.payload)).bind SessionKeyPayload.ofJson =
        none := by
      rw [← hPayloadOf]
      simpa [Check.Holds] using hNot
    simp only [releaseSigned, hNone, okOr_none, error_bind, Check.reason]
  · have hRead : Check.payloadIsPayload < c := lt_of_le_of_ne hLate (Ne.symm hUnread)
    obtain ⟨payload, hPayload⟩ := Option.isSome_iff_exists.mp (hBefore _ hRead)
    have hParsed := hPayloadOf.symm.trans hPayload
    have hDomain (hLater : Check.payloadDomain < c) : payload.domain = requestDomain := by
      simpa [Check.Holds, hPayload] using hBefore _ hLater
    have hAppId (hLater : Check.payloadAppId < c) : payload.appId = state.appId := by
      simpa [Check.Holds, hPayload] using hBefore _ hLater
    have hTime (hLater : Check.payloadTime < c) :
        absDiff now payload.time ≤ timeWindowSeconds := by
      rw [absDiff_le_window_iff]
      simpa [Check.Holds, hPayload] using hBefore _ hLater
    by_cases hTransportStage : Check.transportIsHex ≤ c
    · -- the three checks of the transport key have one reason
      have hReason : c.reason = .transportKey := by
        cases c <;> first | rfl | exact absurd hTransportStage (by decide) |
          exact absurd hEarly (by decide)
      have hTransport : transportKey crates payload.transportPublicKey = .error .transportKey :=
        (transportKey_onlyFailsWith crates _).eq_error fun transport hOk =>
          hNot (transport_holds_of_accepted crates state body now entropy hPayload hOk
            hTransportStage hEarly)
      have hPast (d : Check) (hd : d < .transportIsHex) : d < c := lt_of_lt_of_le hd hTransportStage
      simp only [releaseSigned, hParsed, okOr_some, ok_bind,
        require_of _ (hDomain (hPast _ (by decide))), require_of _ (hAppId (hPast _ (by decide))),
        require_of _ (hTime (hPast _ (by decide))), hTransport, error_bind, hReason]
    · cases c with
      | payloadDomain =>
          have hOther : ¬ payload.domain = requestDomain := by
            simpa [Check.Holds, hPayload] using hNot
          simp only [releaseSigned, hParsed, okOr_some, ok_bind, require_of_not _ hOther,
            error_bind, Check.reason]
      | payloadAppId =>
          have hOther : ¬ payload.appId = state.appId := by
            simpa [Check.Holds, hPayload] using hNot
          simp only [releaseSigned, hParsed, okOr_some, ok_bind,
            require_of _ (hDomain (by decide)), require_of_not _ hOther, error_bind, Check.reason]
      | payloadTime =>
          have hOther : ¬ absDiff now payload.time ≤ timeWindowSeconds := by
            rw [absDiff_le_window_iff]
            simpa [Check.Holds, hPayload] using hNot
          simp only [releaseSigned, hParsed, okOr_some, ok_bind,
            require_of _ (hDomain (by decide)), require_of _ (hAppId (by decide)),
            require_of_not _ hOther, error_bind, Check.reason]
      | _ => first | exact absurd hRead (by decide) | exact absurd hTransportStage (by decide)

/-- What a request that passes every check through the transport key amounts to:
its release is the PKESK stage. -/
theorem exists_pkeskStage (hHolds : PassesThrough (Check.Holds crates state body now entropy)
    .transportIsAccepted) :
    ∃ entry payload transport, entryOf crates state body = some entry ∧
      payloadOf crates body = some payload ∧ transportOf crates body = some transport ∧
        release crates state body now entropy =
          releasePkesk crates state entropy entry payload transport := by
  obtain ⟨request, signature, entry, hAuthenticated⟩ :=
    exists_authenticated crates state body now entropy fun d hd => hHolds d (hd.trans (by decide))
  obtain ⟨hRequest, -, hEntry⟩ := hAuthenticated.read crates
  obtain ⟨payload, transport, hAdmitted⟩ :=
    exists_admitted crates state body now entropy hRequest hHolds
  obtain ⟨hPayload, hTransport⟩ := hAdmitted.read crates hRequest
  refine ⟨entry, payload, transport, hEntry, hPayload, hTransport, ?_⟩
  rw [release_of_authenticated crates hAuthenticated, releaseSigned_of_admitted crates hAdmitted]

theorem reason_of_late {c : Check} (hLate : Check.transportIsAccepted < c) :
    c.reason = .rejected := by
  cases c <;> first | rfl | exact absurd hLate (by decide)

/-- A request that fails first at one of the checks of the PKESK stage is turned
down with the reason they share. -/
theorem release_of_pkesk_failure {c : Check} (hLate : .transportIsAccepted < c)
    (hFirst : FirstFailure (Check.Holds crates state body now entropy) c) :
    release crates state body now entropy = .error c.reason := by
  obtain ⟨entry, payload, transport, hEntry, hPayload, hTransport, hStage⟩ :=
    exists_pkeskStage crates state body now entropy fun d hd => hFirst.2 d (hd.trans_lt hLate)
  rw [hStage, reason_of_late hLate]
  refine (releasePkesk_onlyFailsWith crates state entropy entry payload transport).eq_error ?_
  intro response hOk
  obtain ⟨opening, hReleased, -⟩ := (releasePkesk_eq_ok_iff crates).mp hOk
  exact hFirst.1 (hReleased.holds crates state body now entropy hEntry hPayload hTransport hLate)

/-- A request that passes every check is answered from its own values. -/
theorem release_of_holds (hHolds : ∀ c, Check.Holds crates state body now entropy c) :
    ∃ response, release crates state body now entropy = .ok response ∧
      answerOf crates state body entropy = some response := by
  obtain ⟨entry, payload, transport, hEntry, hPayload, hTransport, hStage⟩ :=
    exists_pkeskStage crates state body now entropy fun d _ => hHolds d
  obtain ⟨opening, hReleased⟩ :=
    exists_released crates state body now entropy hEntry hPayload hTransport hHolds
  obtain ⟨-, -, -, -, hEnvelope, hReceipt⟩ := hReleased.read crates hEntry hPayload hTransport
  refine ⟨opening.response crates state, ?_, ?_⟩
  · rw [hStage]
    exact (releasePkesk_eq_ok_iff crates).mpr ⟨opening, hReleased, rfl⟩
  · simp [answerOf, hEnvelope, receiptTextOf, receiptSignatureOf, hReceipt, hReleased.signed,
      Opening.response]

/-- The code is the list of checks. -/
theorem follows_checks : Follows (Check.Holds crates state body now entropy) Check.reason
    (release crates state body now entropy) where
  accepts hHolds := by
    obtain ⟨response, hOk, -⟩ := release_of_holds crates state body now entropy hHolds
    exact ⟨response, hOk⟩
  rejects c hFirst := by
    -- the turning points of the list are those of `release`
    by_cases hSignature : c ≤ .signatureVerifies
    · exact release_of_signature_failure crates state body now entropy hSignature hFirst
    · by_cases hPayload : c ≤ .transportIsAccepted
      · exact release_of_payload_failure crates state body now entropy (lt_of_not_ge hSignature)
          hPayload hFirst
      · exact release_of_pkesk_failure crates state body now entropy (lt_of_not_ge hPayload) hFirst

/-- A request is answered with a session key exactly when every check holds, and
then with the answer made from the values the checks are about; otherwise it is
turned down with the reason of the first check that fails. -/
theorem release_follows_checks :
    (∀ response, release crates state body now entropy = .ok response ↔
      (∀ c, Check.Holds crates state body now entropy c) ∧
        answerOf crates state body entropy = some response) ∧
      ∀ reason, release crates state body now entropy = .error reason ↔
        ∃ c, FirstFailure (Check.Holds crates state body now entropy) c ∧ c.reason = reason := by
  have hFollows := follows_checks crates state body now entropy
  refine ⟨fun response => ⟨fun hOk => ?_, fun ⟨hHolds, hAnswer⟩ => ?_⟩, fun reason =>
    hFollows.error_iff⟩
  · have hHolds := hFollows.ok_iff.mp ⟨response, hOk⟩
    obtain ⟨found, hFound, hAnswer⟩ := release_of_holds crates state body now entropy hHolds
    rw [hOk] at hFound
    obtain rfl := Except.ok.inj hFound
    exact ⟨hHolds, hAnswer⟩
  · obtain ⟨found, hFound, hFoundAnswer⟩ := release_of_holds crates state body now entropy hHolds
    rw [hAnswer] at hFoundAnswer
    rw [hFound, Option.some.inj hFoundAnswer]

end Release
end TvcGpg
