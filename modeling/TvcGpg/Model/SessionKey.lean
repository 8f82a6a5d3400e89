import TvcGpg.Model.Allowlist

/-!
# Release of a session key

`session_key.rs`, with the part of `response.rs` its errors go through: what a
request must be, in which order it is checked, which reason is given for what
fails first, and the answer that is built when nothing fails.

`release` is cut where the source marks the two turning points of the function:
`releaseSigned` starts where the signed bytes may be read, and `releasePkesk`
where every failure returns the same body.
-/

namespace TvcGpg

open Lib Lib.Text Lib.Fallible

/-- Domain string the caller signs. -/
def requestDomain : String := "tvc gpg session key request"

/-- Domain string in the signed receipt. -/
def receiptDomain : String := "tvc gpg session key receipt"

/-- Seconds either side of enclave time a request time may sit. -/
def timeWindowSeconds : UInt64 := 300

/-- Length of an uncompressed SEC1 P-256 point. -/
def sec1PointLen : Nat := 65

/-- First byte of an uncompressed SEC1 point. -/
def sec1Uncompressed : UInt8 := 0x04

/-- Smallest AES key wrap output: one 8 octet block behind an 8 octet IV. -/
def minWrappedKeyLen : Nat := 16

/-- Largest wrapped session key the app entertains. -/
def maxWrappedKeyLen : Nat := 64

/-- The team OpenPGP key, as far as a release uses it. -/
structure TeamKey where
  encryptionSubkey : SecretSubkey

/-- Key id of the encryption subkey. -/
def TeamKey.subkeyKeyId (teamKey : TeamKey) : KeyId :=
  teamKey.encryptionSubkey.legacyKeyId

/-- Shared application state. -/
structure AppState where
  quorumKey : P256Pair
  teamKey : TeamKey
  allowlist : Allowlist
  appId : String

/-- A signed request for a session key. -/
structure SessionKeyRequest where
  payload : String
  signature : String
  deriving DecidableEq, Repr

/-- The contents of a session key request payload. -/
structure SessionKeyPayload where
  domain : String
  appId : String
  pkesk : String
  transportPublicKey : String
  time : UInt64
  deriving DecidableEq, Repr

/-- A released session key and the receipt that records the release. -/
structure SessionKeyResponse where
  wrappedSessionKey : String
  receiptJson : String
  receiptSignature : String
  quorumPublicKey : String
  deriving DecidableEq, Repr

/-- The derived `Serialize` of `SessionKeyResponse`. -/
def SessionKeyResponse.toJson (response : SessionKeyResponse) : Json :=
  .object
    [("wrapped_session_key", .string response.wrappedSessionKey),
      ("receipt_json", .string response.receiptJson),
      ("receipt_signature", .string response.receiptSignature),
      ("quorum_public_key", .string response.quorumPublicKey)]

/-- The receipt the quorum key signs for every released session key. -/
structure Receipt where
  domain : String
  appId : String
  requester : String
  pkeskSha256 : String
  transportPublicKey : String
  time : UInt64
  deriving DecidableEq, Repr

/-- The derived `Deserialize` of `SessionKeyRequest`. -/
def SessionKeyRequest.ofJson (document : Json) : Option SessionKeyRequest :=
  match document.structFields ["payload", "signature"] with
  | some [payload, signature] => do
      let payload ← payload.asStr
      let signature ← signature.asStr
      return { payload, signature }
  | _ => none

/-- The derived `Deserialize` of `SessionKeyPayload`. -/
def SessionKeyPayload.ofJson (document : Json) : Option SessionKeyPayload :=
  match document.structFields ["domain", "app_id", "pkesk", "transport_public_key", "time"] with
  | some [domain, appId, pkesk, transportPublicKey, time] => do
      let domain ← domain.asStr
      let appId ← appId.asStr
      let pkesk ← pkesk.asStr
      let transportPublicKey ← transportPublicKey.asStr
      let time ← time.asU64
      return { domain, appId, pkesk, transportPublicKey, time }
  | _ => none

/-- The fields of a receipt, in order. -/
def Receipt.fields (receipt : Receipt) : List (String × Json) :=
  [("domain", .string receipt.domain), ("app_id", .string receipt.appId),
    ("requester", .string receipt.requester), ("pkesk_sha256", .string receipt.pkeskSha256),
    ("transport_public_key", .string receipt.transportPublicKey),
    ("time", .number (.posInt receipt.time))]

/-- The derived `Serialize` of `Receipt`. -/
def Receipt.toJson (receipt : Receipt) : Json :=
  .object receipt.fields

/-- Why a session key request was turned down. -/
inductive RejectReason
  | bodyNotRequest
  | signatureNotHex
  | signatureNotOnePacket
  | signatureVersion
  | signatureType
  | signatureKeyAlgorithm
  | signatureHash
  | signatureCriticalSubpacket
  | notOnAllowlist
  | signatureInvalid
  | payloadNotPayload
  | payloadDomain
  | payloadAppId
  | payloadTime
  | transportKey
  /-- Anything from PKESK parsing onward. -/
  | rejected
  deriving DecidableEq, Repr

/-- The body text a reason puts on the wire. -/
def RejectReason.message : RejectReason → String
  | bodyNotRequest => "request body is not a session key request"
  | signatureNotHex => "signature is not valid hex"
  | signatureNotOnePacket => "signature is not one OpenPGP signature packet"
  | signatureVersion => "signature version is not 4"
  | signatureType => "signature type is not binary"
  | signatureKeyAlgorithm => "signature key algorithm is not RSA or EdDSA legacy"
  | signatureHash => "signature hash algorithm is not SHA-256, SHA-384 or SHA-512"
  | signatureCriticalSubpacket => "signature carries a critical subpacket the app does not know"
  | notOnAllowlist => "the signing key is not on the allowlist"
  | signatureInvalid => "the signature does not verify over the payload"
  | payloadNotPayload => "payload is not a session key payload"
  | payloadDomain => "payload domain is not accepted"
  | payloadAppId => "payload app id is not this app"
  | payloadTime => "payload time is outside the accepted window"
  | transportKey => "transport public key is not an uncompressed P-256 point"
  | rejected => "session key request rejected"

/-- The statuses an error answer can have. -/
inductive StatusCode
  | badRequest
  | internalServerError
  deriving DecidableEq, Repr

/-- Application error response: a status and a fixed message. -/
structure AppError where
  status : StatusCode
  message : String
  deriving DecidableEq, Repr

/-- Create a bad request error. -/
def AppError.badRequest (message : String) : AppError :=
  { status := .badRequest, message }

/-- Create an internal server error. -/
def AppError.internal (message : String) : AppError :=
  { status := .internalServerError, message }

/-- The answer a reason becomes. -/
def AppError.fromReason (reason : RejectReason) : AppError :=
  .badRequest reason.message

/-! ## The steps of a release -/

section Steps

variable (crates : Crates)

/-- The one packet in `bytes`, or `none` if there is not exactly one or it does
not parse. -/
def onePacket (bytes : Bytes) : Option Packet :=
  match crates.rpgp.nextPacket bytes with
  | some (some packet, []) => some packet
  | _ => none

/-- Read the one OpenPGP signature packet in `hex`. -/
def parseSignature (hex : String) : Except RejectReason Signature := do
  let bytes ← okOr (crates.hexDecode hex) .signatureNotHex
  match ← okOr (onePacket crates bytes) .signatureNotOnePacket with
  | .signature signature => .ok signature
  | _ => .error .signatureNotOnePacket

/-- A critical subpacket the app does not act on. -/
def Subpacket.isUnknownCritical (subpacket : Subpacket) : Bool :=
  subpacket.isCritical &&
    match subpacket.data with
    | .signatureCreationTime _ | .issuerFingerprint _ | .issuerKeyId _ => false
    | .other _ _ => true

/-- Check that a signature is one the app accepts before it verifies anything. -/
def checkSignatureShape (signature : Signature) : Except RejectReason Unit := do
  let config ← okOr signature.config .signatureVersion
  require (signature.version = .v4) .signatureVersion
  require (signature.typ = some .binary) .signatureType
  require (config.pubAlg = .rsa ∨ config.pubAlg = .eddsaLegacy) .signatureKeyAlgorithm
  require
    (signature.hashAlg = some .sha256 ∨ signature.hashAlg = some .sha384 ∨
      signature.hashAlg = some .sha512)
    .signatureHash
  -- a signer that marks something critical in the unhashed area still means it
  require
    (¬ (config.hashedSubpackets ++ config.unhashedSubpackets).any Subpacket.isUnknownCritical)
    .signatureCriticalSubpacket

/-- Build the caller's transport key from the hex in the payload. -/
def transportKey (hex : String) : Except RejectReason P256EncryptPublic := do
  let bytes ← okOr (crates.hexDecode hex) .transportKey
  require (bytes.length = sec1PointLen ∧ bytes.head? = some sec1Uncompressed) .transportKey
  okOr (crates.p256.encryptPublicFromBytes bytes) .transportKey

/-- Read a PKESK packet meant for the team encryption subkey, check every field
the app pins before any decryption runs, and return the values to decrypt. -/
def checkedPkesk (state : AppState) (pkeskBytes : Bytes) : Except RejectReason PkeskBytes :=
  match onePacket crates pkeskBytes with
  | some (.publicKeyEncryptedSessionKey pkesk) => do
      require (pkesk.version = .v3) .rejected
      let algorithm ← okOr pkesk.algorithm .rejected
      require (algorithm = .ecdh) .rejected
      let id ← okOr pkesk.id .rejected
      -- a wildcard key id is not accepted: the packet must name the subkey
      require (id = state.teamKey.subkeyKeyId) .rejected
      let values ← okOr pkesk.values .rejected
      match values with
      | .ecdh point encryptedSessionKey => do
          require (point.length = sec1PointLen ∧ point.head? = some sec1Uncompressed) .rejected
          let wrapped := encryptedSessionKey.length
          require (minWrappedKeyLen ≤ wrapped ∧ wrapped ≤ maxWrappedKeyLen ∧ wrapped % 8 = 0)
            .rejected
          return values
      | _ => .error .rejected
  | _ => .error .rejected

/-- `u64::abs_diff`. -/
def absDiff (a b : UInt64) : UInt64 :=
  if a ≤ b then b - a else a - b

/-- The part of `release` from where every failure returns the same body: open
the PKESK, wrap the session key to the transport key, sign the receipt. -/
def releasePkesk (state : AppState) (entropy : Bytes) (entry : SignerEntry)
    (payload : SessionKeyPayload) (transport : P256EncryptPublic) :
    Except RejectReason SessionKeyResponse := do
  let pkeskBytes ← okOr (crates.hexDecode payload.pkesk) .rejected
  let values ← checkedPkesk crates state pkeskBytes
  let plain ← okOr (crates.rpgp.decrypt state.teamKey.encryptionSubkey values) .rejected
  let plain ← okOr plain .rejected
  match plain with
  | .v3_4 symAlg key => do
      let wrappedPlaintext := symAlg :: key
      let wrappedSessionKey ←
        okOr (crates.p256.encrypt transport wrappedPlaintext entropy) .rejected
      let receipt : Receipt :=
        { domain := receiptDomain
          appId := state.appId
          requester := entry.primaryFingerprint
          pkeskSha256 := crates.hexEncode (crates.sha256 pkeskBytes)
          transportPublicKey := payload.transportPublicKey
          time := payload.time }
      let receiptBytes ← okOr (crates.json.canonical receipt.toJson) .rejected
      let receiptSignature ← okOr (crates.p256.sign state.quorumKey receiptBytes) .rejected
      let receiptJson ← okOr (fromUtf8 receiptBytes) .rejected
      return {
        wrappedSessionKey := crates.hexEncode wrappedSessionKey
        receiptJson
        receiptSignature := crates.hexEncode receiptSignature
        quorumPublicKey :=
          crates.hexEncode (crates.p256.publicToBytes (crates.p256.publicKey state.quorumKey)) }
  | _ => .error .rejected

/-- The part of `release` from where the signed bytes are safe to read. -/
def releaseSigned (state : AppState) (now : UInt64) (entropy : Bytes) (entry : SignerEntry)
    (request : SessionKeyRequest) : Except RejectReason SessionKeyResponse := do
  let payload ←
    okOr ((crates.json.read (asBytes request.payload)).bind SessionKeyPayload.ofJson)
      .payloadNotPayload
  require (payload.domain = requestDomain) .payloadDomain
  require (payload.appId = state.appId) .payloadAppId
  require (absDiff now payload.time ≤ timeWindowSeconds) .payloadTime
  let transport ← transportKey crates payload.transportPublicKey
  releasePkesk crates state entropy entry payload transport

/-- Whether a signature verifies over a payload under the key of an entry. -/
def verified (signature : Signature) (entry : SignerEntry) (payload : String) : Bool :=
  match entry.verifyingKey with
  | .primary key => crates.rpgp.verify signature key.toKeyDetails (asBytes payload)
  | .subkey key => crates.rpgp.verify signature key.toKeyDetails (asBytes payload)

/-- The body of `releaseSessionKey`, with the reason still typed.  `entropy` is
what the envelope encryption draws from the operating system. -/
def release (state : AppState) (body : Bytes) (now : UInt64) (entropy : Bytes) :
    Except RejectReason SessionKeyResponse := do
  let request ← okOr ((crates.json.read body).bind SessionKeyRequest.ofJson) .bodyNotRequest
  let signature ← parseSignature crates request.signature
  checkSignatureShape signature
  let entry ←
    okOr (state.allowlist.lookup signature.issuerFingerprint.head? signature.issuerKeyId.head?)
      .notOnAllowlist
  require (verified crates signature entry request.payload) .signatureInvalid
  -- only now is it safe to read the bytes the signature covers
  releaseSigned crates state now entropy entry request

/-- Verify a session key request and release the session key it asks for. -/
def releaseSessionKey (state : AppState) (body : Bytes) (now : UInt64) (entropy : Bytes) :
    Except AppError SessionKeyResponse :=
  (release crates state body now entropy).mapError AppError.fromReason

end Steps
end TvcGpg
