import TvcGpg.Allowlist.Index
import TvcGpg.EndToEnd.Laws
import TvcGpg.Release.Checks

/-!
# An honest run

The client and the app agree end to end.  The module follows a run: the bytes the
client posts read back as the request it meant, the request is authenticated and
admitted, the PKESK opens, and the answer passes the client's own checks and
opens to the session key.

Each step is a lemma about one direction of the exchange.  They are put together
in `honest_release`, which is about any honest request.  `EndToEnd.Agreement` starts
from the message instead.

An engineer's requests to an app that lists the engineer end the module.  Every payload
can be signed, with the issuer named by fingerprint or by key id in the unhashed area, and
either way it is accepted (`signedBy`).
-/

namespace TvcGpg

open Lib Lib.Text Lib.Fallible

section HonestRun

variable {crates : Crates}

/-! ## The request reaches the app as it was meant -/

theorem read_sessionKeyBody (hJson : JsonLaws crates.json) (payload : String) (signature : Bytes) :
    (crates.json.read (Client.sessionKeyBody crates payload signature)).bind
        SessionKeyRequest.ofJson =
      some { payload, signature := crates.hexEncode signature } := by
  have hFlat : FlatFields [("payload", .string payload),
      ("signature", .string (crates.hexEncode signature))] := flatFields_nil.string.string
  unfold Client.sessionKeyBody
  rw [hJson.read_write _ hFlat, Option.bind_some]
  rfl

theorem read_payloadJson (hJson : JsonLaws crates.json) (appId pkesk transport : String)
    (time : UInt64) :
    (crates.json.read (asBytes (Client.payloadJson crates appId pkesk transport time))).bind
        SessionKeyPayload.ofJson =
      some { domain := requestDomain, appId, pkesk, transportPublicKey := transport, time } := by
  unfold Client.payloadJson Client.Payload.toJson
  rw [hJson.read_write _ flatFields_nil.natural.string.string.string.string, Option.bind_some]
  rfl

/-- `bytes` is one signature packet of an accepted shape, made over `payload` by a
key of the allowlist. -/
structure SignedBy (crates : Crates) (state : AppState) (payload : String) (bytes : Bytes)
    (signature : Signature) (entry : SignerEntry) : Prop where
  packet : crates.rpgp.nextPacket bytes = some (some (.signature signature), [])
  shape : checkSignatureShape signature = .ok ()
  listed : state.allowlist.lookup signature.issuerFingerprint.head? signature.issuerKeyId.head? =
    some entry
  verifies : crates.rpgp.verify signature entry.key.details (asBytes payload) = true

/-- A signed payload is authenticated in the body the client posts. -/
theorem SignedBy.authenticated (hHex : HexLaws crates) (hJson : JsonLaws crates.json)
    {state : AppState} {payload : String} {bytes : Bytes} {signature : Signature}
    {entry : SignerEntry} (hSigned : SignedBy crates state payload bytes signature entry) :
    Authenticated crates state (Client.sessionKeyBody crates payload bytes)
      { payload, signature := crates.hexEncode bytes } signature entry where
  parsed := read_sessionKeyBody hJson payload bytes
  packet := (parseSignature_eq_ok_iff crates).mpr
    ⟨bytes, hHex.decode_encode bytes, hSigned.packet⟩
  shape := hSigned.shape
  listed := hSigned.listed
  verifies := by
    rw [verified_eq]
    exact hSigned.verifies

/-- The payload of a run is admitted while the two clocks are close. -/
theorem admitted_payloadJson (hHex : HexLaws crates) (hJson : JsonLaws crates.json)
    (hP256 : P256Laws crates.p256) {state : AppState} {now clock : UInt64}
    {request : SessionKeyRequest} {pkesk : String} {transport : P256EncryptPair}
    (hPayload : request.payload = Client.payloadJson crates state.appId pkesk
      (Client.transportPublicKey crates transport) clock)
    (hClock : ((now.toNat : Int) - (clock.toNat : Int)).natAbs ≤ 300) :
    Admitted crates state now request
      { domain := requestDomain, appId := state.appId, pkesk,
        transportPublicKey := Client.transportPublicKey crates transport, time := clock }
      (crates.p256.encryptPublicKey transport) where
  parsed := by
    rw [hPayload]
    exact read_payloadJson hJson _ _ _ _
  domain := rfl
  appId := rfl
  time := (absDiff_le_window_iff now clock).mpr hClock
  transport := (transportKey_eq_ok_iff crates).mpr
    ⟨_, hHex.decode_encode _, hP256.encryptPublic_length _, hP256.encryptPublic_head _,
      hP256.encryptPublic_read _⟩

/-! ## The app opens the PKESK and signs the receipt -/

/-- `pkeskBytes` is one PKESK packet to the team subkey, and the subkey opens it to
the session key `key` for the algorithm `symAlg`. -/
structure OpensTo (crates : Crates) (state : AppState) (pkeskBytes : Bytes) (symAlg : UInt8)
    (key : Bytes) : Prop where
  accepted : ∃ pkesk point wrapped, AcceptedPkesk crates state pkeskBytes pkesk point wrapped ∧
    crates.rpgp.decrypt state.teamKey.encryptionSubkey (.ecdh point wrapped) =
      some (some (.v3_4 symAlg key))

theorem flatFields_receipt (receipt : Receipt) : FlatFields receipt.fields :=
  flatFields_nil.natural.string.string.string.string.string

theorem nodup_receipt_names (receipt : Receipt) : (receipt.fields.map Prod.fst).Nodup := by
  show ["domain", "app_id", "requester", "pkesk_sha256", "transport_public_key", "time"].Nodup
  decide

/-- Reading a receipt back finds every string field the app wrote into it. -/
theorem read_receipt (hJson : JsonLaws crates.json) {receipt : Receipt} {bytes : Bytes}
    (hCanonical : crates.json.canonical receipt.toJson = some bytes) :
    ∃ read, crates.json.read bytes = some read ∧
      (read.index "domain").asStr = some receipt.domain ∧
        (read.index "app_id").asStr = some receipt.appId ∧
          (read.index "requester").asStr = some receipt.requester ∧
            (read.index "pkesk_sha256").asStr = some receipt.pkeskSha256 ∧
              (read.index "transport_public_key").asStr = some receipt.transportPublicKey := by
  obtain ⟨read, hRead, hKeeps⟩ := hJson.read_canonical receipt.fields bytes
    (flatFields_receipt receipt) (nodup_receipt_names receipt) hCanonical
  have hField {name s : String} (hMem : (name, Json.string s) ∈ receipt.fields) :
      (read.index name).asStr = some s := by
    rw [hKeeps name s hMem]
    rfl
  refine ⟨read, hRead, hField ?_, hField ?_, hField ?_, hField ?_, hField ?_⟩
  all_goals simp [Receipt.fields]

/-- The PKESK stage of an honest request succeeds, and what it wraps opens again. -/
theorem OpensTo.released (hHex : HexLaws crates) (hJson : JsonLaws crates.json)
    (hP256 : P256Laws crates.p256) {state : AppState} {pkeskBytes : Bytes} {symAlg : UInt8}
    {key : Bytes} (hOpens : OpensTo crates state pkeskBytes symAlg key) (entropy : Bytes)
    (entry : SignerEntry) (payload : SessionKeyPayload) (transport : P256EncryptPair)
    (hPkesk : payload.pkesk = crates.hexEncode pkeskBytes) :
    ∃ opening, Released crates state entropy entry payload
        (crates.p256.encryptPublicKey transport) opening ∧
      opening.pkeskBytes = pkeskBytes ∧
        crates.p256.decrypt transport opening.envelope = some (symAlg :: key) ∧
          crates.p256.verify (crates.p256.publicKey state.quorumKey)
            (asBytes opening.receiptJson) opening.receiptSignature = true := by
  obtain ⟨pkesk, point, wrapped, hAccepted, hOpened⟩ := hOpens.accepted
  -- the crates promise an envelope, a receipt text and a signature, in this order
  obtain ⟨envelope, hEnvelope, hDecrypt⟩ := hP256.encrypt_opens transport (symAlg :: key) entropy
  obtain ⟨receiptJson, hReceipt⟩ := hJson.canonical_text _
    (flatFields_receipt (receiptFor crates state entry payload pkeskBytes))
    (nodup_receipt_names _)
  obtain ⟨receiptSignature, hSigned, hVerify⟩ :=
    hP256.sign_verifies state.quorumKey (asBytes receiptJson)
  refine ⟨⟨pkeskBytes, pkesk, point, wrapped, symAlg, key, envelope, receiptJson,
    receiptSignature⟩, ⟨?_, hAccepted, hOpened, hEnvelope, hReceipt, hSigned⟩, rfl, hDecrypt,
    hVerify⟩
  rw [hPkesk]
  exact hHex.decode_encode pkeskBytes

/-! ## The client accepts the answer -/

theorem checkField_eq_ok_iff {receipt : Json} {field : String × String} :
    Client.checkField receipt field = .ok ⟨⟩ ↔ (receipt.index field.1).asStr = some field.2 := by
  unfold Client.checkField
  exact require_eq_ok_iff

/-- An answer passes exactly when the pinned key signed its receipt and the receipt
reads as the four fields of this run. -/
theorem checkResponse_eq_ok_iff {response : Client.SessionKeyResponse} {quorum : P256Public}
    {appId transport : String} {pkesk : Bytes} :
    Client.checkResponse crates response quorum appId transport pkesk = .ok ⟨⟩ ↔
      ∃ signature receipt, crates.hexDecode response.receiptSignature = some signature ∧
        crates.p256.verify quorum (asBytes response.receiptJson) signature = true ∧
          crates.json.read (asBytes response.receiptJson) = some receipt ∧
            (receipt.index "domain").asStr = some Client.receiptDomain ∧
              (receipt.index "app_id").asStr = some appId ∧
                (receipt.index "transport_public_key").asStr = some transport ∧
                  (receipt.index "pkesk_sha256").asStr =
                    some (crates.hexEncode (crates.sha256 pkesk)) := by
  unfold Client.checkResponse Client.expectedFields
  simp only [bind_eq_ok_iff, okOr_eq_ok_iff, require_eq_ok_iff, forM_eq_ok_iff,
    List.forall_mem_cons, checkField_eq_ok_iff]
  constructor
  · intro hOk
    rcases hOk with ⟨signature, hHex, -, hVerify, receipt, hRead, hDomain, hAppId, hTransport,
      hPkesk, -⟩
    exact ⟨signature, receipt, hHex, hVerify, hRead, hDomain, hAppId, hTransport, hPkesk⟩
  · intro hAccepted
    rcases hAccepted with ⟨signature, receipt, hHex, hVerify, hRead, hDomain, hAppId, hTransport,
      hPkesk⟩
    exact ⟨signature, hHex, (), hVerify, receipt, hRead, hDomain, hAppId, hTransport, hPkesk,
      by simp⟩

theorem openSessionKey_eq_ok_iff {transport : P256EncryptPair} {wrapped : String} {plain : Bytes} :
    Client.openSessionKey crates transport wrapped = .ok plain ↔
      ∃ envelope, crates.hexDecode wrapped = some envelope ∧
        crates.p256.decrypt transport envelope = some plain ∧ 2 ≤ plain.length := by
  unfold Client.openSessionKey
  simp only [bind_eq_ok_iff, okOr_eq_ok_iff, require_eq_ok_iff]
  constructor
  · intro hOk
    rcases hOk with ⟨envelope, hHex, found, hDecrypt, -, hLength, hPlain⟩
    obtain rfl := Except.ok.inj hPlain
    exact ⟨envelope, hHex, hDecrypt, hLength⟩
  · intro hOpened
    rcases hOpened with ⟨envelope, hHex, hDecrypt, hLength⟩
    exact ⟨envelope, hHex, plain, hDecrypt, (), hLength, rfl⟩

/-- What the client makes of the app's answer. -/
def clientView (response : SessionKeyResponse) : Client.SessionKeyResponse :=
  { wrappedSessionKey := response.wrappedSessionKey
    receiptJson := response.receiptJson
    receiptSignature := response.receiptSignature }

/-- The client reads the fields of an answer that fits its limit. -/
theorem readResponse_toJson (hJson : JsonLaws crates.json) {response : SessionKeyResponse}
    (hFits : (asBytes (crates.json.write response.toJson)).length ≤ Client.maxResponseBytes) :
    Client.readResponse crates (asBytes (crates.json.write response.toJson)) =
      .ok (clientView response) := by
  unfold Client.readResponse
  rw [List.take_of_length_le hFits]
  unfold SessionKeyResponse.toJson
  rw [hJson.read_write _ flatFields_nil.string.string.string.string, Option.bind_some]
  rfl

/-- The loop of `session_key_string` appends the upper case hex of the key. -/
theorem foldl_encodeUpper (key : Bytes) (text : String) :
    key.foldl (fun text byte => text ++ Hex.encodeUpper [byte]) text =
      text ++ Hex.encodeUpper key := by
  induction key generalizing text with
  | nil => simp [Hex.encodeUpper]
  | cons byte key ih =>
      rw [List.foldl_cons, ih, String.append_assoc, ← Hex.encodeUpper_cons]

theorem sessionKeyString_cons (symAlg : UInt8) (key : Bytes) :
    Client.sessionKeyString (symAlg :: key) =
      .ok (toString symAlg ++ ":" ++ Hex.encodeUpper key) := by
  show Except.ok (key.foldl (fun text byte => text ++ Hex.encodeUpper [byte]) _) = _
  rw [foldl_encodeUpper]

/-! ## The whole run -/

/-- An honest request is released, and the client accepts and opens the answer. -/
theorem honest_release (hHex : HexLaws crates) (hJson : JsonLaws crates.json)
    (hP256 : P256Laws crates.p256) {state : AppState} {pkeskBytes : Bytes} {symAlg : UInt8}
    {key : Bytes} (hOpens : OpensTo crates state pkeskBytes symAlg key) (hKey : key ≠ [])
    (transport : P256EncryptPair) {now clock : UInt64}
    (hClock : ((now.toNat : Int) - (clock.toNat : Int)).natAbs ≤ 300) (entropy : Bytes)
    {payload : String} (hPayload : payload = Client.payloadJson crates state.appId
      (crates.hexEncode pkeskBytes) (Client.transportPublicKey crates transport) clock)
    {bytes : Bytes} {signature : Signature} {entry : SignerEntry}
    (hSigned : SignedBy crates state payload bytes signature entry) :
    ∃ response,
      release crates state (Client.sessionKeyBody crates payload bytes) now entropy =
          .ok response ∧
        Client.checkResponse crates (clientView response)
            (crates.p256.publicKey state.quorumKey) state.appId
            (Client.transportPublicKey crates transport) pkeskBytes = .ok ⟨⟩ ∧
          Client.openSessionKey crates transport (clientView response).wrappedSessionKey =
            .ok (symAlg :: key) := by
  have hAuthenticated := hSigned.authenticated hHex hJson
  have hAdmitted : Admitted crates state now { payload, signature := crates.hexEncode bytes } _ _ :=
    admitted_payloadJson hHex hJson hP256 hPayload hClock
  obtain ⟨opening, hReleased, hBytes, hDecrypt, hVerify⟩ :=
    hOpens.released hHex hJson hP256 entropy entry
      { domain := requestDomain, appId := state.appId, pkesk := crates.hexEncode pkeskBytes,
        transportPublicKey := Client.transportPublicKey crates transport, time := clock }
      transport rfl
  obtain ⟨receipt, hRead, hDomain, hAppId, -, hSha, hTransport⟩ :=
    read_receipt hJson hReleased.encoded
  refine ⟨opening.response crates state, ?_, ?_, ?_⟩
  -- the app releases, the client accepts, the client opens
  · exact (release_eq_ok_iff crates).mpr
      ⟨_, _, _, _, _, _, hAuthenticated, hAdmitted, hReleased, rfl⟩
  · rw [← hBytes]
    exact checkResponse_eq_ok_iff.mpr
      ⟨opening.receiptSignature, receipt, hHex.decode_encode _, hVerify, hRead, hDomain, hAppId,
        hTransport, hSha⟩
  · refine openSessionKey_eq_ok_iff.mpr
      ⟨opening.envelope, hHex.decode_encode _, hDecrypt, ?_⟩
    have hLength := List.length_pos_iff.mpr hKey
    show 2 ≤ key.length + 1
    omega

/-- The PKESK the client sends is one the app opens. -/
theorem opensTo_of_pkeskFor (hPkesk : PkeskLaws crates.rpgp) {state : AppState}
    {pkesks : List PublicKeyEncryptedSessionKey} {pkesk : PublicKeyEncryptedSessionKey}
    {point wrapped : Bytes} {symAlg : UInt8} {key : Bytes}
    (hFirst : pkesks.find? (fun pkesk => pkesk.id = some state.teamKey.subkeyKeyId) = some pkesk)
    (hEcdh : EcdhPkesk pkesk point wrapped)
    (hOpened : crates.rpgp.decrypt state.teamKey.encryptionSubkey (.ecdh point wrapped) =
      some (some (.v3_4 symAlg key))) :
    ∃ pkeskBytes, Client.pkeskFor crates pkesks state.teamKey.subkeyKeyId = .ok pkeskBytes ∧
      OpensTo crates state pkeskBytes symAlg key := by
  have hId : pkesk.id = some state.teamKey.subkeyKeyId := by
    simpa using List.find?_some hFirst
  obtain ⟨bytes, body, hWrite, hRead⟩ := hPkesk.read_write pkesk point wrapped _ hEcdh hId
  refine ⟨bytes, ?_, ⟨{ pkesk with body := body }, point, wrapped, ?_, hOpened⟩⟩
  · unfold Client.pkeskFor
    rw [hFirst, okOr_some, ok_bind, hWrite, okOr_some]
  · exact ⟨hRead, hEcdh.version, hEcdh.algorithm, hId, hEcdh.values, hEcdh.pointLength,
      hEcdh.pointHead, hEcdh.wrappedLength⟩

end HonestRun

/-! ## An engineer's requests -/

namespace Reference

open Lib Lib.Text

/-- The encryption subkey of the team. -/
def teamSubkey : SecretSubkey where
  fingerprint := ⟨.v4, List.replicate 20 0xB2⟩
  legacyKeyId := ⟨Vector.replicate 8 0xB2⟩
  createdAt := 1000
  algorithm := .ecdh
  body := [0x21]
  fingerprint_octets := by decide
  secret := [0x5A]

/-- The app that serves the engineer. -/
def state (lifetime : Option UInt32) : AppState where
  quorumKey := ⟨[0x07]⟩
  teamKey := { encryptionSubkey := teamSubkey }
  allowlist := allowlist lifetime
  appId := "team app"

/-! ### Signatures -/

/-- An unhashed area that names the engineer by fingerprint. -/
def fingerprintArea : Bytes := 22 :: 33 :: 4 :: List.replicate 20 0xA1

/-- An unhashed area that names the engineer by key id. -/
def keyIdArea : Bytes := 9 :: 16 :: List.replicate 8 0xA1

/-- The signature packet over a payload, with this unhashed area. -/
def signatureBytes (unhashed : Bytes) (payload : String) : Bytes :=
  framePacket signatureHeader
    ([4, 0, 22, 8, 0, 6, 5, 2, 0, 0, 4, 0, 0, UInt8.ofNat unhashed.length] ++ unhashed ++
      signatureValues primaryKey.toKeyDetails (asBytes payload))

/-- What is read from a signature packet with this unhashed area. -/
def signatureWith (unhashed : List Subpacket) (payload : String) : Signature where
  config := some
    { pubAlg := .eddsaLegacy
      hashedSubpackets := [{ isCritical := false, data := .signatureCreationTime 1024 }]
      unhashedSubpackets := unhashed }
  version := .v4
  typ := some .binary
  hashAlg := some .sha256
  issuerFingerprint := issuerFingerprints unhashed
  issuerKeyId := issuerKeyIds unhashed
  created := some 1024
  keyExpirationTime := none
  keyFlags := { sign := false }
  body := signatureValues primaryKey.toKeyDetails (asBytes payload)

/-- The subpacket that names the engineer by fingerprint. -/
def fingerprintSubpacket : Subpacket :=
  { isCritical := false, data := .issuerFingerprint primaryKey.fingerprint }

/-- The subpacket that names the engineer by key id. -/
def keyIdSubpacket : Subpacket :=
  { isCritical := false, data := .issuerKeyId primaryKey.legacyKeyId }

theorem nextPacket_fingerprint (payload : String) :
    nextPacket (signatureBytes fingerprintArea payload) =
      some (some (.signature (signatureWith [fingerprintSubpacket] payload)), []) := rfl

theorem nextPacket_keyId (payload : String) :
    nextPacket (signatureBytes keyIdArea payload) =
      some (some (.signature (signatureWith [keyIdSubpacket] payload)), []) := rfl

/-- A signature that names the engineer either way is accepted over its payload, by every app
that lists the engineer. -/
theorem signedBy {published : String → Option (List SignedPublicKey)} {app : AppState}
    {lifetime : Option UInt32} (hAllowlist : app.allowlist = allowlist lifetime)
    (payload : String) {unhashed : Bytes} {subpacket : Subpacket}
    (hSubpacket : subpacket = fingerprintSubpacket ∨ subpacket = keyIdSubpacket)
    (hPacket : nextPacket (signatureBytes unhashed payload) =
      some (some (.signature (signatureWith [subpacket] payload)), [])) :
    SignedBy (crates published) app payload (signatureBytes unhashed payload)
      (signatureWith [subpacket] payload) (entry lifetime) where
  packet := hPacket
  shape := by
    rcases hSubpacket with rfl | rfl <;> rfl
  listed := by
    rw [hAllowlist]
    rcases hSubpacket with rfl | rfl <;> rfl
  verifies := by
    have hIssuer : issuerMatch (signatureWith [subpacket] payload) primaryKey.toKeyDetails =
        true := by
      rcases hSubpacket with rfl | rfl <;> rfl
    show (issuerMatch (signatureWith [subpacket] payload) primaryKey.toKeyDetails &&
      decide ((signatureWith [subpacket] payload).body =
        signatureValues primaryKey.toKeyDetails (asBytes payload))) = true
    rw [hIssuer, Bool.true_and]
    exact decide_eq_true rfl

/-! ### The PKESK -/

/-- The session key of the message. -/
def sessionKey : Bytes := List.replicate 16 0x33

/-- The session key, wrapped to the team subkey. -/
def wrappedKey : Bytes := wrap 0x5A (padKey 7 sessionKey)

/-- The PKESK of the message. -/
def pkesk : PublicKeyEncryptedSessionKey where
  version := .v3
  algorithm := some .ecdh
  id := some teamSubkey.legacyKeyId
  values := some (.ecdh (point [0x0B]) wrappedKey)
  body := []

/-- The packet of that PKESK. -/
def pkeskBytes : Bytes :=
  framePacket pkeskHeader (pkeskBody teamSubkey.legacyKeyId (point [0x0B]) wrappedKey)

theorem ecdhPkesk : EcdhPkesk pkesk (point [0x0B]) wrappedKey where
  version := rfl
  algorithm := rfl
  values := rfl
  pointLength := length_point _
  pointHead := rfl
  wrappedLength := by decide

section Opens

variable {published : String → Option (List SignedPublicKey)} {app : AppState}

theorem crates_nextPacket : (crates published).rpgp.nextPacket = nextPacket := rfl

theorem nextPacket_pkeskBytes : (crates published).rpgp.nextPacket pkeskBytes =
    some (some (.publicKeyEncryptedSessionKey pkesk), []) := by
  rw [crates_nextPacket]
  exact nextPacket_pkesk teamSubkey.legacyKeyId ecdhPkesk.pointLength ecdhPkesk.wrappedLength.2.1

/-- Every app with the key id of the team's subkey accepts the PKESK. -/
theorem acceptedPkesk (hId : app.teamKey.subkeyKeyId = teamSubkey.legacyKeyId) :
    AcceptedPkesk (crates published) app pkeskBytes pkesk (point [0x0B]) wrappedKey where
  packet := nextPacket_pkeskBytes
  version := ecdhPkesk.version
  algorithm := ecdhPkesk.algorithm
  id := congrArg some hId.symm
  values := ecdhPkesk.values
  pointLength := ecdhPkesk.pointLength
  pointHead := ecdhPkesk.pointHead
  wrappedLength := ecdhPkesk.wrappedLength

/-- Every subkey with the secret of the team's subkey unwraps the session key. -/
theorem decrypt_wrappedKey {subkey : SecretSubkey} (hSecret : subkey.secret.headD 0 = 0x5A) :
    (crates published).rpgp.decrypt subkey (.ecdh (point [0x0B]) wrappedKey) =
      some (some (.v3_4 7 sessionKey)) := by
  show some ((unwrap (subkey.secret.headD 0) wrappedKey).bind unpadKey) = _
  rw [hSecret, wrappedKey, unwrap_wrap, Option.bind_some, unpadKey_padKey]

/-- So an app with both opens the PKESK. -/
theorem opensTo_pkeskBytes (hId : app.teamKey.subkeyKeyId = teamSubkey.legacyKeyId)
    (hSecret : app.teamKey.encryptionSubkey.secret.headD 0 = 0x5A) :
    OpensTo (crates published) app pkeskBytes 7 sessionKey where
  accepted := ⟨pkesk, point [0x0B], wrappedKey, acceptedPkesk hId, decrypt_wrappedKey hSecret⟩

end Opens

/-! ### Runs -/

/-- The transport pair of a run. -/
def transport : P256EncryptPair := ⟨[0x31, 0x32]⟩

/-- What a run names its transport key by. -/
def transportText (lifetime : Option UInt32) : String :=
  Client.transportPublicKey (engineerCrates lifetime) transport

/-- The payload that asks for this PKESK text at a time. -/
def payloadFor (lifetime : Option UInt32) (pkeskText : String) (clock : UInt64) : String :=
  Client.payloadJson (engineerCrates lifetime) "team app" pkeskText (transportText lifetime) clock

/-- The body that asks for this PKESK text at a time. -/
def bodyFor (lifetime : Option UInt32) (pkeskText : String) (clock : UInt64) (unhashed : Bytes) :
    Bytes :=
  Client.sessionKeyBody (engineerCrates lifetime) (payloadFor lifetime pkeskText clock)
    (signatureBytes unhashed (payloadFor lifetime pkeskText clock))

/-- The request the app reads in such a body. -/
def requestFor (lifetime : Option UInt32) (pkeskText : String) (clock : UInt64)
    (unhashed : Bytes) : SessionKeyRequest where
  payload := payloadFor lifetime pkeskText clock
  signature := Hex.encode (signatureBytes unhashed (payloadFor lifetime pkeskText clock))

/-- What the app reads in the payload of such a body. -/
def readPayloadFor (lifetime : Option UInt32) (pkeskText : String) (clock : UInt64) :
    SessionKeyPayload where
  domain := requestDomain
  appId := "team app"
  pkesk := pkeskText
  transportPublicKey := transportText lifetime
  time := clock

/-- The body of a run of the engineer. -/
def bodyAt (lifetime : Option UInt32) (clock : UInt64) (unhashed : Bytes) : Bytes :=
  bodyFor lifetime (Hex.encode pkeskBytes) clock unhashed

section Runs

variable (lifetime : Option UInt32) (pkeskText : String) (clock : UInt64) {unhashed : Bytes}
  {subpacket : Subpacket}

theorem authenticated_bodyFor
    (hSubpacket : subpacket = fingerprintSubpacket ∨ subpacket = keyIdSubpacket)
    (hPacket : ∀ payload, nextPacket (signatureBytes unhashed payload) =
      some (some (.signature (signatureWith [subpacket] payload)), [])) :
    Authenticated (engineerCrates lifetime) (state lifetime)
      (bodyFor lifetime pkeskText clock unhashed) (requestFor lifetime pkeskText clock unhashed)
      (signatureWith [subpacket] (payloadFor lifetime pkeskText clock)) (entry lifetime) := by
  have hSigned : SignedBy (engineerCrates lifetime) (state lifetime)
      (payloadFor lifetime pkeskText clock) _ _ (entry lifetime) :=
    signedBy rfl _ hSubpacket (hPacket _)
  exact hSigned.authenticated (hexLaws _) jsonLaws

theorem admitted_bodyFor :
    Admitted (engineerCrates lifetime) (state lifetime) clock
      (requestFor lifetime pkeskText clock unhashed) (readPayloadFor lifetime pkeskText clock)
      ((engineerCrates lifetime).p256.encryptPublicKey transport) := by
  have hClock : ((clock.toNat : Int) - (clock.toNat : Int)).natAbs ≤ 300 := by simp
  exact admitted_payloadJson (hexLaws _) jsonLaws p256Laws rfl hClock

/-- What the app reads of such a body. -/
theorem read_bodyFor :
    requestOf (engineerCrates lifetime) (bodyFor lifetime pkeskText clock unhashed) =
        some (requestFor lifetime pkeskText clock unhashed) ∧
      payloadOf (engineerCrates lifetime) (bodyFor lifetime pkeskText clock unhashed) =
        some (readPayloadFor lifetime pkeskText clock) := by
  have hRequest : requestOf (engineerCrates lifetime)
      (bodyFor lifetime pkeskText clock unhashed) =
        some (requestFor lifetime pkeskText clock unhashed) :=
    read_sessionKeyBody jsonLaws _ _
  exact ⟨hRequest, ((admitted_bodyFor lifetime pkeskText clock).read _ hRequest).1⟩

/-- A run of the engineer asks for the PKESK of the message. -/
theorem pkeskBytesOf_bodyAt :
    pkeskBytesOf (engineerCrates lifetime) (bodyAt lifetime clock unhashed) = some pkeskBytes := by
  unfold pkeskBytesOf bodyAt
  rw [(read_bodyFor lifetime _ clock).2, Option.bind_some]
  exact (hexLaws _).decode_encode pkeskBytes

/-- A run of the engineer asks for the session key of the message. -/
theorem sessionKeyOf_bodyAt :
    sessionKeyOf (engineerCrates lifetime) (state lifetime) (bodyAt lifetime clock unhashed) =
      some (7 :: sessionKey) := by
  have hAccepted : AcceptedPkesk (engineerCrates lifetime) (state lifetime) pkeskBytes _ _ _ :=
    acceptedPkesk rfl
  exact (hAccepted.opens _ (pkeskBytesOf_bodyAt lifetime clock) (decrypt_wrappedKey rfl)).2

/-- Every run of the engineer is released, accepted and opened. -/
theorem release_bodyAt
    (hSubpacket : subpacket = fingerprintSubpacket ∨ subpacket = keyIdSubpacket)
    (hPacket : ∀ payload, nextPacket (signatureBytes unhashed payload) =
      some (some (.signature (signatureWith [subpacket] payload)), [])) (entropy : Bytes) :
    ∃ response,
      release (engineerCrates lifetime) (state lifetime) (bodyAt lifetime clock unhashed) clock
          entropy = .ok response ∧
        Client.checkResponse (engineerCrates lifetime) (clientView response)
            ((engineerCrates lifetime).p256.publicKey (state lifetime).quorumKey) "team app"
            (transportText lifetime) pkeskBytes = .ok ⟨⟩ ∧
          Client.openSessionKey (engineerCrates lifetime) transport
            (clientView response).wrappedSessionKey = .ok (7 :: sessionKey) := by
  have hClock : ((clock.toNat : Int) - (clock.toNat : Int)).natAbs ≤ 300 := by simp
  have hOpens : OpensTo (engineerCrates lifetime) (state lifetime) pkeskBytes 7 sessionKey :=
    opensTo_pkeskBytes rfl rfl
  exact honest_release (hexLaws _) jsonLaws p256Laws hOpens (by decide) transport hClock entropy
    rfl (signedBy rfl _ hSubpacket (hPacket _))

end Runs

end Reference
end TvcGpg
