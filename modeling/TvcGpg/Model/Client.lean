import TvcGpg.Lib.Hex
import TvcGpg.Model.SessionKey

/-!
# The client

The client crate up to the calls of gpg: `message.rs` finds the one session key
packet of a message the app needs, `request.rs` builds the request, checks the
answer and opens it, and `gpg.rs` writes the session key the way gpg reads it.

The client shares no code with the app.  What both sides name alike is defined
here a second time, in the namespace `Client`, from the client's own source.
The text of an error stops where the source appends the wording of a crate.
-/

namespace TvcGpg
namespace Client

open Lib Lib.Text Lib.Fallible

/-! ## Reading the message -/

/-- The first line of an armored PGP message. -/
def armorHeader : String := "-----BEGIN PGP MESSAGE-----"

/-- What to tell a caller whose message uses AEAD. -/
def aeadMessage : String :=
  "this message uses AEAD encryption, which the app cannot open. The sender most likely ran gpg " ++
    "with force-ocb or a cipher preference that picks OCB. Ask them to send it again without " ++
    "force-ocb."

/-- `u8::is_ascii_whitespace`. -/
def isAsciiWhitespace (byte : UInt8) : Bool :=
  byte = 0x20 || byte = 0x09 || byte = 0x0A || byte = 0x0C || byte = 0x0D

section Message

variable (crates : Crates)

/-- The raw packet bytes of `message`, dearmored when the message is armored. -/
def packetBytes (message : Bytes) : Except String Bytes :=
  let body := message.dropWhile isAsciiWhitespace
  if (asBytes armorHeader).isPrefixOf body then
    okOr (crates.rpgp.dearmor body) "the armored message did not decode"
  else
    .ok body

/-- The loop of `sessionKeyPackets`. -/
def walkPackets (found : List PublicKeyEncryptedSessionKey) :
    List (Option MessagePacket) → Except String (List PublicKeyEncryptedSessionKey)
  | [] => .error "this message holds no encrypted data"
  | none :: _ => .error "the message did not parse"
  | some body :: rest =>
      match body.tag with
      | .publicKeyEncryptedSessionKey =>
          match body.parsed with
          | none => .error "a session key packet did not parse"
          | some (.publicKeyEncryptedSessionKey pkesk) => walkPackets (found ++ [pkesk]) rest
          -- a packet that reads as something else is passed over
          | some _ => walkPackets found rest
      | .symEncryptedProtectedData =>
          match body.firstOctet with
          | none => .error "the encrypted data did not parse"
          -- the walk ends here and never reads the encrypted data
          | some version => if version ≠ 1 then .error aeadMessage else .ok found
      | .gnupgAeadData => .error aeadMessage
      | .symEncryptedData =>
          .error "this message has no integrity protection, so the app will not open it"
      -- any other packet is read to its end, for the next one to be found
      | .other _ =>
          if body.drains then walkPackets found rest else .error "the message did not parse"

/-- Every PKESK packet that stands before the encrypted data of `packets`. -/
def sessionKeyPackets (packets : Bytes) : Except String (List PublicKeyEncryptedSessionKey) :=
  walkPackets [] (crates.rpgp.messagePackets packets)

/-- The key id of the one encryption subkey in an armored certificate. -/
def encryptionSubkeyId (armored : String) : Except String KeyId := do
  let certificate ← okOr (crates.rpgp.fromArmor armored) "the app public key did not parse"
  match certificate.publicSubkeys.filter fun subkey => subkey.key.algorithm = .ecdh with
  | [] => .error "the app public key has no encryption subkey"
  | [subkey] => .ok subkey.key.legacyKeyId
  | _ => .error "the app public key has more than one encryption subkey"

/-- The PKESK packet addressed to `keyId`, serialized with its packet header. -/
def pkeskFor (packets : List PublicKeyEncryptedSessionKey) (keyId : KeyId) :
    Except String Bytes := do
  let pkesk ←
    okOr (packets.find? fun pkesk => pkesk.id = some keyId)
      "this message is not encrypted to the app key"
  okOr (crates.rpgp.writePkesk pkesk) "the session key packet did not serialize"

end Message

/-! ## The request -/

/-- Domain string the caller signs. -/
def requestDomain : String := "tvc gpg session key request"

/-- Domain string in the signed receipt. -/
def receiptDomain : String := "tvc gpg session key receipt"

/-- The payload the caller signs. -/
structure Payload where
  domain : String
  appId : String
  pkesk : String
  transportPublicKey : String
  time : UInt64
  deriving DecidableEq, Repr

/-- The derived `Serialize` of `Payload`. -/
def Payload.toJson (payload : Payload) : Json :=
  .object
    [("domain", .string payload.domain), ("app_id", .string payload.appId),
      ("pkesk", .string payload.pkesk),
      ("transport_public_key", .string payload.transportPublicKey),
      ("time", .number (.posInt payload.time))]

/-- A released session key and the receipt that records the release. -/
structure SessionKeyResponse where
  wrappedSessionKey : String
  receiptJson : String
  receiptSignature : String
  deriving DecidableEq, Repr

/-- The derived `Deserialize` of `SessionKeyResponse`. -/
def SessionKeyResponse.ofJson (document : Json) : Option SessionKeyResponse :=
  match document.structFields ["wrapped_session_key", "receipt_json", "receipt_signature"] with
  | some [wrappedSessionKey, receiptJson, receiptSignature] => do
      let wrappedSessionKey ← wrappedSessionKey.asStr
      let receiptJson ← receiptJson.asStr
      let receiptSignature ← receiptSignature.asStr
      return { wrappedSessionKey, receiptJson, receiptSignature }
  | _ => none

section Request

variable (crates : Crates)

/-- Build the exact payload to sign. -/
def payloadJson (appId pkesk transportPublicKey : String) (time : UInt64) : String :=
  crates.json.write
    (Payload.toJson { domain := requestDomain, appId, pkesk, transportPublicKey, time })

/-- The body `post_session_key` sends. -/
def sessionKeyBody (payload : String) (signature : Bytes) : Bytes :=
  asBytes (crates.json.write
    (.object
      [("payload", .string payload), ("signature", .string (crates.hexEncode signature))]))

/-- The transport key a run asks for, as it stands in the payload. -/
def transportPublicKey (transport : P256EncryptPair) : String :=
  crates.hexEncode (crates.p256.encryptPublicToBytes (crates.p256.encryptPublicKey transport))

/-- Largest answer the client reads from the app, in bytes. -/
def maxResponseBytes : Nat := 64 * 1024

/-- What `post_session_key` reads from the body of the app's answer. -/
def readResponse (body : Bytes) : Except String SessionKeyResponse :=
  okOr ((crates.json.read (body.take maxResponseBytes)).bind SessionKeyResponse.ofJson)
    "/session-key did not send a session key"

/-- Turn an answer down unless a field of its receipt is the expected text. -/
def checkField (receipt : Json) (field : String × String) : Except String Unit :=
  require ((receipt.index field.1).asStr = some field.2)
    s!"the receipt {field.1} is not the one asked for"

/-- The fields of a receipt the client compares, with what it expects. -/
def expectedFields (appId transportPublicKey : String) (pkesk : Bytes) : List (String × String) :=
  [("domain", receiptDomain), ("app_id", appId), ("transport_public_key", transportPublicKey),
    ("pkesk_sha256", crates.hexEncode (crates.sha256 pkesk))]

/-- Check the receipt against the quorum key the caller pinned. -/
def checkResponse (response : SessionKeyResponse) (quorum : P256Public)
    (appId transportPublicKey : String) (pkesk : Bytes) : Except String Unit := do
  let signature ←
    okOr (crates.hexDecode response.receiptSignature) "the receipt signature is not hex"
  require (crates.p256.verify quorum (asBytes response.receiptJson) signature)
    "the receipt signature did not verify"
  let receipt ← okOr (crates.json.read (asBytes response.receiptJson)) "the receipt did not parse"
  (expectedFields crates appId transportPublicKey pkesk).forM (checkField receipt)

/-- Open the wrapped session key with the transport pair. -/
def openSessionKey (transport : P256EncryptPair) (wrappedSessionKey : String) :
    Except String Bytes := do
  let envelope ← okOr (crates.hexDecode wrappedSessionKey) "the wrapped session key is not hex"
  let plain ← okOr (crates.p256.decrypt transport envelope) "the wrapped session key did not open"
  require (2 ≤ plain.length) "the app sent a session key that is too short"
  return plain

end Request

/-! ## The session key -/

/-- gpg's `<algorithm>:<upper case hex>` form of a session key. -/
def sessionKeyString (plain : Bytes) : Except String String :=
  match plain with
  | [] => .error "the session key is empty"
  | algorithm :: key =>
      .ok (key.foldl (fun text byte => text ++ Hex.encodeUpper [byte]) (toString algorithm ++ ":"))

end Client
end TvcGpg
