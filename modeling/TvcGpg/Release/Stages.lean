import TvcGpg.Model.SessionKey

/-!
# The stages of a release

One specification lemma for each function of `session_key.rs`, and the two
relations that describe how far a request got:

* `Authenticated` — a signature by an allowlisted key over the exact payload
  text has been verified, and nothing of the payload has been read;
* `Admitted` — the payload itself has been accepted, and the PKESK has not been
  touched.

`release_of_authenticated` and `releaseSigned_of_admitted` say that from there a
release is its next stage, and `release_eq_ok_iff` that a released session key
went through both.  From `Admitted` on, every error is the same one:
`releasePkesk_onlyFailsWith`.
-/

namespace TvcGpg

open Lib Lib.Text Lib.Fallible

section Stages

variable (crates : Crates)

theorem onePacket_eq_some_iff {bytes : Bytes} {packet : Packet} :
    onePacket crates bytes = some packet ↔
      crates.rpgp.nextPacket bytes = some (some packet, []) := by
  unfold onePacket
  split
  · rename_i found hNext
    simp [hNext]
  · rename_i hOther
    constructor
    · intro hNone
      cases hNone
    · intro hNext
      exact absurd hNext (hOther packet)

/-- Exactly one signature packet, read from hex. -/
theorem parseSignature_eq_ok_iff {hex : String} {signature : Signature} :
    parseSignature crates hex = .ok signature ↔
      ∃ bytes, crates.hexDecode hex = some bytes ∧
        crates.rpgp.nextPacket bytes = some (some (.signature signature), []) := by
  unfold parseSignature
  simp only [bind_eq_ok_iff, okOr_eq_ok_iff, onePacket_eq_some_iff]
  constructor
  · intro hOk
    rcases hOk with ⟨bytes, hBytes, packet, hPacket, hSignature⟩
    cases packet with
    | signature found =>
        cases hSignature
        exact ⟨bytes, hBytes, hPacket⟩
    | publicKeyEncryptedSessionKey pkesk => cases hSignature
    | other tag => cases hSignature
  · intro hRead
    rcases hRead with ⟨bytes, hBytes, hPacket⟩
    exact ⟨bytes, hBytes, .signature signature, hPacket, rfl⟩

/-- Hex that decodes is turned down as a packet exactly when it is not one
signature packet. -/
theorem parseSignature_of_decoded {hex : String} {bytes : Bytes}
    (hBytes : crates.hexDecode hex = some bytes)
    (hNot : ∀ signature,
      crates.rpgp.nextPacket bytes ≠ some (some (.signature signature), [])) :
    parseSignature crates hex = .error .signatureNotOnePacket := by
  unfold parseSignature
  simp only [hBytes, okOr_some, ok_bind]
  cases hPacket : onePacket crates bytes with
  | none => rfl
  | some packet =>
      have hNext := (onePacket_eq_some_iff crates).mp hPacket
      cases packet with
      | signature found => exact absurd hNext (hNot found)
      | publicKeyEncryptedSessionKey pkesk => rfl
      | other tag => rfl

/-- The shape of a signature the app accepts. -/
structure AcceptedShape (signature : Signature) (config : SignatureConfig) : Prop where
  hasConfig : signature.config = some config
  version : signature.version = .v4
  typ : signature.typ = some .binary
  pubAlg : config.pubAlg = .rsa ∨ config.pubAlg = .eddsaLegacy
  hashAlg : signature.hashAlg = some .sha256 ∨ signature.hashAlg = some .sha384 ∨
    signature.hashAlg = some .sha512
  critical : ∀ subpacket ∈ config.hashedSubpackets ++ config.unhashedSubpackets,
    subpacket.isUnknownCritical = false

theorem checkSignatureShape_eq_ok_iff {signature : Signature} :
    checkSignatureShape signature = .ok () ↔ ∃ config, AcceptedShape signature config := by
  unfold checkSignatureShape
  simp only [bind_eq_ok_iff, okOr_eq_ok_iff, require_eq_ok_iff]
  constructor
  · intro hOk
    rcases hOk with ⟨config, hConfig, -, hVersion, -, hTyp, -, hPubAlg, -, hHash, hCritical⟩
    refine ⟨config, hConfig, hVersion, hTyp, hPubAlg, hHash, fun subpacket hMem => ?_⟩
    by_contra hUnknown
    exact hCritical (List.any_eq_true.mpr ⟨subpacket, hMem, by simpa using hUnknown⟩)
  · intro hAccepted
    rcases hAccepted with ⟨config, hShape⟩
    refine ⟨config, hShape.hasConfig, (), hShape.version, (), hShape.typ, (), hShape.pubAlg, (),
      hShape.hashAlg, ?_⟩
    intro hAny
    obtain ⟨subpacket, hMem, hUnknown⟩ := List.any_eq_true.mp hAny
    rw [hShape.critical subpacket hMem] at hUnknown
    cases hUnknown

/-- A transport key is accepted exactly when it is the hex of an uncompressed
point `qos_p256` accepts. -/
theorem transportKey_eq_ok_iff {hex : String} {transport : P256EncryptPublic} :
    transportKey crates hex = .ok transport ↔
      ∃ bytes, crates.hexDecode hex = some bytes ∧ bytes.length = sec1PointLen ∧
        bytes.head? = some sec1Uncompressed ∧
        crates.p256.encryptPublicFromBytes bytes = some transport := by
  unfold transportKey
  simp only [bind_eq_ok_iff, okOr_eq_ok_iff, require_eq_ok_iff]
  constructor
  · intro hOk
    rcases hOk with ⟨bytes, hBytes, -, ⟨hLength, hHead⟩, hPoint⟩
    exact ⟨bytes, hBytes, hLength, hHead, hPoint⟩
  · intro hRead
    rcases hRead with ⟨bytes, hBytes, hLength, hHead, hPoint⟩
    exact ⟨bytes, hBytes, (), ⟨hLength, hHead⟩, hPoint⟩

theorem transportKey_onlyFailsWith (hex : String) :
    OnlyFailsWith (transportKey crates hex) .transportKey := by
  unfold transportKey
  refine (onlyFailsWith_okOr _ _).bind fun bytes => ?_
  exact (onlyFailsWith_require _ _).bind fun _ => onlyFailsWith_okOr _ _

/-- The window test is the distance of the two times, with no wrap around. -/
theorem absDiff_le_window_iff (now time : UInt64) :
    absDiff now time ≤ timeWindowSeconds ↔
      ((now.toNat : Int) - (time.toNat : Int)).natAbs ≤ 300 := by
  unfold absDiff
  have hWindow : timeWindowSeconds.toNat = 300 := rfl
  rw [UInt64.le_iff_toNat_le, hWindow]
  by_cases hLe : now ≤ time
  · have hNat : now.toNat ≤ time.toNat := UInt64.le_iff_toNat_le.mp hLe
    rw [if_pos hLe, UInt64.toNat_sub_of_le _ _ hLe]
    omega
  · have hLt : time ≤ now := by
      rw [UInt64.le_iff_toNat_le] at hLe ⊢
      omega
    have hNat : time.toNat ≤ now.toNat := UInt64.le_iff_toNat_le.mp hLt
    rw [if_neg hLe, UInt64.toNat_sub_of_le _ _ hLt]
    omega

/-! ## The PKESK stage -/

/-- A PKESK the app decrypts: one version 3 ECDH packet that names the team
subkey, with an uncompressed point and a wrapped key of whole blocks. -/
structure AcceptedPkesk (state : AppState) (pkeskBytes : Bytes)
    (pkesk : PublicKeyEncryptedSessionKey) (point wrapped : Bytes) : Prop where
  packet : crates.rpgp.nextPacket pkeskBytes =
    some (some (.publicKeyEncryptedSessionKey pkesk), [])
  version : pkesk.version = .v3
  algorithm : pkesk.algorithm = some .ecdh
  id : pkesk.id = some state.teamKey.subkeyKeyId
  values : pkesk.values = some (.ecdh point wrapped)
  pointLength : point.length = sec1PointLen
  pointHead : point.head? = some sec1Uncompressed
  wrappedLength : minWrappedKeyLen ≤ wrapped.length ∧ wrapped.length ≤ maxWrappedKeyLen ∧
    wrapped.length % 8 = 0

theorem checkedPkesk_eq_ok_iff {state : AppState} {pkeskBytes : Bytes} {values : PkeskBytes} :
    checkedPkesk crates state pkeskBytes = .ok values ↔
      ∃ pkesk point wrapped, AcceptedPkesk crates state pkeskBytes pkesk point wrapped ∧
        values = .ecdh point wrapped := by
  unfold checkedPkesk
  constructor
  · intro hOk
    cases hPacket : onePacket crates pkeskBytes with
    | none => simp [hPacket] at hOk
    | some packet =>
        have hNext := (onePacket_eq_some_iff crates).mp hPacket
        cases packet with
        | signature signature => simp [hPacket] at hOk
        | other tag => simp [hPacket] at hOk
        | publicKeyEncryptedSessionKey pkesk =>
            simp only [hPacket, bind_eq_ok_iff, okOr_eq_ok_iff, require_eq_ok_iff] at hOk
            obtain ⟨-, hVersion, algorithm, hAlgorithm, -, hEcdh, id, hId, -, hNames, found,
              hFound, hRest⟩ := hOk
            subst hEcdh hNames
            -- the algorithm octet alone does not make the values ECDH ones
            cases found with
            | other contents => cases hRest
            | ecdh point wrapped =>
                simp only [bind_eq_ok_iff, require_eq_ok_iff] at hRest
                obtain ⟨-, ⟨hLength, hHead⟩, -, hWrapped, hValues⟩ := hRest
                exact ⟨pkesk, point, wrapped,
                  ⟨hNext, hVersion, hAlgorithm, hId, hFound, hLength, hHead, hWrapped⟩,
                  (Except.ok.inj hValues).symm⟩
  · intro hAccepted
    rcases hAccepted with ⟨pkesk, point, wrapped, hAccepted, rfl⟩
    have hPacket := (onePacket_eq_some_iff crates).mpr hAccepted.packet
    simp only [hPacket, bind_eq_ok_iff, okOr_eq_ok_iff, require_eq_ok_iff]
    refine ⟨(), hAccepted.version, .ecdh, hAccepted.algorithm, (), rfl, _, hAccepted.id, (), rfl,
      _, hAccepted.values, ?_⟩
    simp only [bind_eq_ok_iff, require_eq_ok_iff]
    exact ⟨(), ⟨hAccepted.pointLength, hAccepted.pointHead⟩, (), hAccepted.wrappedLength, rfl⟩

theorem checkedPkesk_onlyFailsWith (state : AppState) (pkeskBytes : Bytes) :
    OnlyFailsWith (checkedPkesk crates state pkeskBytes) .rejected := by
  unfold checkedPkesk
  split
  · refine (onlyFailsWith_require _ _).bind fun _ => ?_
    refine (onlyFailsWith_okOr _ _).bind fun algorithm => ?_
    refine (onlyFailsWith_require _ _).bind fun _ => ?_
    refine (onlyFailsWith_okOr _ _).bind fun id => ?_
    refine (onlyFailsWith_require _ _).bind fun _ => ?_
    refine (onlyFailsWith_okOr _ _).bind fun values => ?_
    split
    · refine (onlyFailsWith_require _ _).bind fun _ => ?_
      exact (onlyFailsWith_require _ _).bind fun _ => onlyFailsWith_ok _ _
    · exact onlyFailsWith_error _
  · exact onlyFailsWith_error _

/-- The receipt of a release. -/
def receiptFor (state : AppState) (entry : SignerEntry) (payload : SessionKeyPayload)
    (pkeskBytes : Bytes) : Receipt :=
  { domain := receiptDomain
    appId := state.appId
    requester := entry.primaryFingerprint
    pkeskSha256 := crates.hexEncode (crates.sha256 pkeskBytes)
    transportPublicKey := payload.transportPublicKey
    time := payload.time }

/-- The values the PKESK stage computes on its way to a released session key. -/
structure Opening where
  pkeskBytes : Bytes
  pkesk : PublicKeyEncryptedSessionKey
  point : Bytes
  wrapped : Bytes
  symAlg : UInt8
  key : Bytes
  envelope : Bytes
  receiptJson : String
  receiptSignature : Bytes

/-- The answer those values make. -/
def Opening.response (opening : Opening) (state : AppState) : SessionKeyResponse :=
  { wrappedSessionKey := crates.hexEncode opening.envelope
    receiptJson := opening.receiptJson
    receiptSignature := crates.hexEncode opening.receiptSignature
    quorumPublicKey :=
      crates.hexEncode (crates.p256.publicToBytes (crates.p256.publicKey state.quorumKey)) }

/-- Every step of the PKESK stage succeeded, with these values. -/
structure Released (state : AppState) (entropy : Bytes) (entry : SignerEntry)
    (payload : SessionKeyPayload) (transport : P256EncryptPublic) (opening : Opening) : Prop where
  decoded : crates.hexDecode payload.pkesk = some opening.pkeskBytes
  accepted :
    AcceptedPkesk crates state opening.pkeskBytes opening.pkesk opening.point opening.wrapped
  opened :
    crates.rpgp.decrypt state.teamKey.encryptionSubkey (.ecdh opening.point opening.wrapped) =
      some (some (.v3_4 opening.symAlg opening.key))
  enveloped : crates.p256.encrypt transport (opening.symAlg :: opening.key) entropy =
    some opening.envelope
  encoded :
    crates.json.canonical (receiptFor crates state entry payload opening.pkeskBytes).toJson =
      some (asBytes opening.receiptJson)
  signed : crates.p256.sign state.quorumKey (asBytes opening.receiptJson) =
    some opening.receiptSignature

theorem releasePkesk_eq_ok_iff {state : AppState} {entropy : Bytes} {entry : SignerEntry}
    {payload : SessionKeyPayload} {transport : P256EncryptPublic}
    {response : SessionKeyResponse} :
    releasePkesk crates state entropy entry payload transport = .ok response ↔
      ∃ opening, Released crates state entropy entry payload transport opening ∧
        opening.response crates state = response := by
  unfold releasePkesk
  simp only [bind_eq_ok_iff, okOr_eq_ok_iff, checkedPkesk_eq_ok_iff]
  constructor
  · intro hOk
    rcases hOk with ⟨pkeskBytes, hDecoded, values, ⟨pkesk, point, wrapped, hAccepted, rfl⟩, outer,
      hOuter, plain, hPlain, hRest⟩
    subst hPlain
    -- only a version 3 or 4 session key has an algorithm octet to send along
    cases plain with
    | other key => cases hRest
    | v3_4 symAlg key =>
        simp only [bind_eq_ok_iff, okOr_eq_ok_iff] at hRest
        obtain ⟨envelope, hEnvelope, receiptBytes, hReceipt, signature, hSigned, receiptJson,
          hText, hResponse⟩ := hRest
        obtain rfl := asBytes_of_fromUtf8 hText
        exact ⟨⟨pkeskBytes, pkesk, point, wrapped, symAlg, key, envelope, receiptJson, signature⟩,
          ⟨hDecoded, hAccepted, hOuter, hEnvelope, hReceipt, hSigned⟩, Except.ok.inj hResponse⟩
  · intro hReleased
    rcases hReleased with ⟨opening, hReleased, rfl⟩
    refine ⟨opening.pkeskBytes, hReleased.decoded, _,
      ⟨opening.pkesk, opening.point, opening.wrapped, hReleased.accepted, rfl⟩, _,
      hReleased.opened, _, rfl, ?_⟩
    simp only [bind_eq_ok_iff, okOr_eq_ok_iff]
    exact ⟨opening.envelope, hReleased.enveloped, _, hReleased.encoded, _, hReleased.signed, _,
      fromUtf8_asBytes _, rfl⟩

/-- From PKESK parsing onward there is one reason. -/
theorem releasePkesk_onlyFailsWith (state : AppState) (entropy : Bytes) (entry : SignerEntry)
    (payload : SessionKeyPayload) (transport : P256EncryptPublic) :
    OnlyFailsWith (releasePkesk crates state entropy entry payload transport) .rejected := by
  unfold releasePkesk
  refine (onlyFailsWith_okOr _ _).bind fun pkeskBytes => ?_
  refine (checkedPkesk_onlyFailsWith crates state pkeskBytes).bind fun values => ?_
  refine (onlyFailsWith_okOr _ _).bind fun outer => ?_
  refine (onlyFailsWith_okOr _ _).bind fun plain => ?_
  split
  · refine (onlyFailsWith_okOr _ _).bind fun envelope => ?_
    refine (onlyFailsWith_okOr _ _).bind fun receiptBytes => ?_
    refine (onlyFailsWith_okOr _ _).bind fun signature => ?_
    exact (onlyFailsWith_okOr _ _).bind fun receiptJson => onlyFailsWith_ok _ _
  · exact onlyFailsWith_error _

/-! ## The stages before it -/

/-- The payload of a request has been accepted, together with its transport key. -/
structure Admitted (state : AppState) (now : UInt64) (request : SessionKeyRequest)
    (payload : SessionKeyPayload) (transport : P256EncryptPublic) : Prop where
  parsed : (crates.json.read (asBytes request.payload)).bind SessionKeyPayload.ofJson =
    some payload
  domain : payload.domain = requestDomain
  appId : payload.appId = state.appId
  time : absDiff now payload.time ≤ timeWindowSeconds
  transport : transportKey crates payload.transportPublicKey = .ok transport

theorem releaseSigned_of_admitted {state : AppState} {now : UInt64} {entropy : Bytes}
    {entry : SignerEntry} {request : SessionKeyRequest} {payload : SessionKeyPayload}
    {transport : P256EncryptPublic}
    (hAdmitted : Admitted crates state now request payload transport) :
    releaseSigned crates state now entropy entry request =
      releasePkesk crates state entropy entry payload transport := by
  unfold releaseSigned
  simp only [hAdmitted.parsed, okOr_some, ok_bind, require_of _ hAdmitted.domain,
    require_of _ hAdmitted.appId, require_of _ hAdmitted.time, hAdmitted.transport]

theorem releaseSigned_eq_ok_iff {state : AppState} {now : UInt64} {entropy : Bytes}
    {entry : SignerEntry} {request : SessionKeyRequest} {response : SessionKeyResponse} :
    releaseSigned crates state now entropy entry request = .ok response ↔
      ∃ payload transport, Admitted crates state now request payload transport ∧
        releasePkesk crates state entropy entry payload transport = .ok response := by
  constructor
  · intro hOk
    unfold releaseSigned at hOk
    simp only [bind_eq_ok_iff, okOr_eq_ok_iff, require_eq_ok_iff] at hOk
    obtain ⟨payload, hParsed, -, hDomain, -, hAppId, -, hTime, transport, hTransport, hRest⟩ := hOk
    exact ⟨payload, transport, ⟨hParsed, hDomain, hAppId, hTime, hTransport⟩, hRest⟩
  · intro hAdmitted
    rcases hAdmitted with ⟨payload, transport, hAdmitted, hOk⟩
    rw [releaseSigned_of_admitted crates hAdmitted, hOk]

/-- The key of an entry verifies alike whether it is a primary key or a subkey. -/
theorem verified_eq (signature : Signature) (entry : SignerEntry) (payload : String) :
    verified crates signature entry payload =
      crates.rpgp.verify signature entry.key.details (asBytes payload) := by
  unfold verified SignerEntry.verifyingKey SigningKey.details
  cases entry.key <;> rfl

/-- A signature by an allowlisted key over the payload text has been verified. -/
structure Authenticated (state : AppState) (body : Bytes) (request : SessionKeyRequest)
    (signature : Signature) (entry : SignerEntry) : Prop where
  parsed : (crates.json.read body).bind SessionKeyRequest.ofJson = some request
  packet : parseSignature crates request.signature = .ok signature
  shape : checkSignatureShape signature = .ok ()
  listed : state.allowlist.lookup signature.issuerFingerprint.head? signature.issuerKeyId.head? =
    some entry
  verifies : verified crates signature entry request.payload = true

theorem release_of_authenticated {state : AppState} {body : Bytes} {now : UInt64}
    {entropy : Bytes} {request : SessionKeyRequest} {signature : Signature} {entry : SignerEntry}
    (hAuthenticated : Authenticated crates state body request signature entry) :
    release crates state body now entropy =
      releaseSigned crates state now entropy entry request := by
  unfold release
  simp only [hAuthenticated.parsed, okOr_some, ok_bind, hAuthenticated.packet,
    hAuthenticated.shape, hAuthenticated.listed, require_of _ hAuthenticated.verifies]

/-- A released session key went through every stage. -/
theorem release_eq_ok_iff {state : AppState} {body : Bytes} {now : UInt64} {entropy : Bytes}
    {response : SessionKeyResponse} :
    release crates state body now entropy = .ok response ↔
      ∃ request signature entry payload transport opening,
        Authenticated crates state body request signature entry ∧
          Admitted crates state now request payload transport ∧
            Released crates state entropy entry payload transport opening ∧
              opening.response crates state = response := by
  constructor
  · intro hOk
    unfold release at hOk
    simp only [bind_eq_ok_iff, okOr_eq_ok_iff, require_eq_ok_iff] at hOk
    obtain ⟨request, hParsed, signature, hPacket, ⟨⟩, hShape, entry, hListed, -, hVerifies,
      hRest⟩ := hOk
    obtain ⟨payload, transport, hAdmitted, hPkesk⟩ := (releaseSigned_eq_ok_iff crates).mp hRest
    obtain ⟨opening, hReleased, hResponse⟩ := (releasePkesk_eq_ok_iff crates).mp hPkesk
    exact ⟨request, signature, entry, payload, transport, opening,
      ⟨hParsed, hPacket, hShape, hListed, hVerifies⟩, hAdmitted, hReleased, hResponse⟩
  · intro hStages
    rcases hStages with ⟨request, signature, entry, payload, transport, opening, hAuthenticated,
      hAdmitted, hReleased, hResponse⟩
    rw [release_of_authenticated crates hAuthenticated, releaseSigned_of_admitted crates hAdmitted]
    exact (releasePkesk_eq_ok_iff crates).mpr ⟨opening, hReleased, hResponse⟩

end Stages
end TvcGpg
