import TvcGpg.Lib.Hex

/-!
# OpenPGP values as rPGP shows them

The program never looks inside an OpenPGP packet: it asks rPGP.  A packet is
therefore the record of what rPGP answers about it, one field for each accessor
the program calls, and nothing about how rPGP computes an answer is fixed here.
Two packets that differ only in what the program cannot see differ in their
`body`.

The functions of rPGP, as opposed to its values, are the fields of `Rpgp`.
-/

namespace TvcGpg

open Lib

/-- Version octet of a key. -/
inductive KeyVersion
  | v2
  | v3
  | v4
  | v5
  | v6
  | other (octet : UInt8)
  deriving DecidableEq, Repr

/-- A fingerprint, tagged with the key version it was computed for. -/
structure Fingerprint where
  version : KeyVersion
  octets : Bytes
  deriving DecidableEq, Repr

/-- rPGP displays a fingerprint as lower case hex of its octets. -/
instance : ToString Fingerprint where
  toString fingerprint := Hex.encode fingerprint.octets

/-- A legacy key id, the eight octets a signature or a PKESK names a key by. -/
structure KeyId where
  octets : Vector UInt8 8
  deriving DecidableEq, Repr

/-- Public key algorithms the program tells apart. -/
inductive PublicKeyAlgorithm
  | rsa
  | eddsaLegacy
  | ecdh
  | other (octet : UInt8)
  deriving DecidableEq, Repr

/-- Hash algorithms the program tells apart. -/
inductive HashAlgorithm
  | sha256
  | sha384
  | sha512
  | other (octet : UInt8)
  deriving DecidableEq, Repr

/-- Version of a signature packet. -/
inductive SignatureVersion
  | v4
  | other (octet : UInt8)
  deriving DecidableEq, Repr

/-- Signature types the program tells apart. -/
inductive SignatureType
  | binary
  | certGeneric
  | certPersona
  | certCasual
  | certPositive
  | subkeyBinding
  | keyRevocation
  | subkeyRevocation
  | certRevocation
  | other (octet : UInt8)
  deriving DecidableEq, Repr

/-- The contents of a signature subpacket. -/
inductive SubpacketData
  | signatureCreationTime (seconds : UInt32)
  | issuerFingerprint (fingerprint : Fingerprint)
  | issuerKeyId (keyId : KeyId)
  | other (octet : UInt8) (contents : Bytes)
  deriving DecidableEq, Repr

/-- A signature subpacket with its critical bit. -/
structure Subpacket where
  isCritical : Bool
  data : SubpacketData
  deriving DecidableEq, Repr

/-- The parsed part of a signature rPGP can read the version of. -/
structure SignatureConfig where
  pubAlg : PublicKeyAlgorithm
  hashedSubpackets : List Subpacket
  unhashedSubpackets : List Subpacket
  deriving DecidableEq, Repr

/-- The key flags of a signature the program reads. -/
structure KeyFlags where
  sign : Bool
  deriving DecidableEq, Repr

/-- A signature packet, as rPGP answers about it.  `issuerFingerprint` and
`issuerKeyId` list the issuers of both subpacket areas; `created` and
`keyExpirationTime` are seconds. -/
structure Signature where
  config : Option SignatureConfig
  version : SignatureVersion
  typ : Option SignatureType
  hashAlg : Option HashAlgorithm
  issuerFingerprint : List Fingerprint
  issuerKeyId : List KeyId
  created : Option UInt32
  keyExpirationTime : Option UInt32
  keyFlags : KeyFlags
  /-- The signature values, which only verification reads. -/
  body : Bytes
  deriving DecidableEq, Repr

/-- What rPGP's `KeyDetails` trait shows of a public key.  A fingerprint has
twenty octets exactly when the key is of version 4. -/
structure KeyDetails where
  fingerprint : Fingerprint
  legacyKeyId : KeyId
  createdAt : UInt32
  algorithm : PublicKeyAlgorithm
  /-- The key material, which only verification reads. -/
  body : Bytes
  fingerprint_octets : fingerprint.octets.length = 20 ↔ fingerprint.version = .v4
  deriving DecidableEq

/-- The version of a key is the version its fingerprint was computed for. -/
def KeyDetails.version (key : KeyDetails) : KeyVersion :=
  key.fingerprint.version

/-- A primary key. -/
structure PublicKey extends KeyDetails
  deriving DecidableEq

/-- A subkey. -/
structure PublicSubkey extends KeyDetails
  deriving DecidableEq

/-- A user id packet. -/
structure UserId where
  id : Bytes
  deriving DecidableEq, Repr

/-- A user id with the signatures over it. -/
structure SignedUser where
  id : UserId
  signatures : List Signature
  deriving DecidableEq, Repr

/-- The parts of a certificate that hang off its primary key. -/
structure SignedKeyDetails where
  revocationSignatures : List Signature
  users : List SignedUser
  deriving DecidableEq, Repr

/-- A subkey with the signatures over it. -/
structure SignedPublicSubKey where
  key : PublicSubkey
  signatures : List Signature
  deriving DecidableEq

/-- A certificate. -/
structure SignedPublicKey where
  primaryKey : PublicKey
  details : SignedKeyDetails
  publicSubkeys : List SignedPublicSubKey
  deriving DecidableEq

/-- Version of a PKESK packet. -/
inductive PkeskVersion
  | v3
  | other (octet : UInt8)
  deriving DecidableEq, Repr

/-- The algorithm specific values of a PKESK. -/
inductive PkeskBytes
  | ecdh (publicPoint encryptedSessionKey : Bytes)
  | other (contents : Bytes)
  deriving DecidableEq, Repr

/-- A PKESK packet.  An accessor rPGP can refuse is an option. -/
structure PublicKeyEncryptedSessionKey where
  version : PkeskVersion
  algorithm : Option PublicKeyAlgorithm
  id : Option KeyId
  values : Option PkeskBytes
  /-- Everything else in the packet, its header included. -/
  body : Bytes
  deriving DecidableEq, Repr

/-- A packet, as far as the program tells packets apart. -/
inductive Packet
  | signature (signature : Signature)
  | publicKeyEncryptedSessionKey (pkesk : PublicKeyEncryptedSessionKey)
  | other (tag : UInt8)
  deriving DecidableEq, Repr

/-- A decrypted session key.  A version 3 or 4 one carries the octet of its
symmetric algorithm. -/
inductive PlainSessionKey
  | v3_4 (symAlg : UInt8) (key : Bytes)
  | other (key : Bytes)
  deriving DecidableEq, Repr

/-- A secret subkey: what it shows of its public half, and its secret. -/
structure SecretSubkey extends KeyDetails where
  secret : Bytes
  deriving DecidableEq

/-- The packet types the client's walk of a message tells apart. -/
inductive Tag
  | publicKeyEncryptedSessionKey
  | symEncryptedProtectedData
  | gnupgAeadData
  | symEncryptedData
  | other (octet : UInt8)
  deriving DecidableEq, Repr

/-- A packet of a message whose header has been read, and what happens to whoever
reads its body. -/
structure MessagePacket where
  tag : Tag
  /-- `Packet::from_reader` of the body. -/
  parsed : Option Packet
  /-- The first octet of the body, when one can be read. -/
  firstOctet : Option UInt8
  /-- Whether the body can be read to its end. -/
  drains : Bool
  deriving DecidableEq, Repr

/-- The rPGP functions the program calls. -/
structure Rpgp where
  /-- `PacketParser::new(bytes).next()` and what is left of the reader after it:
  no packet, a packet that does not parse, or a packet. -/
  nextPacket : Bytes → Option (Option Packet × Bytes)
  /-- `to_writer_with_header` of a PKESK. -/
  writePkesk : PublicKeyEncryptedSessionKey → Option Bytes
  /-- The packets a `PacketParser` over a message yields in turn, each as long as
  the ones before it were read; a packet whose header does not parse is missing. -/
  messagePackets : Bytes → List (Option MessagePacket)
  /-- `Dearmor`, read to its end. -/
  dearmor : Bytes → Option Bytes
  /-- `SignedPublicKey::from_string`. -/
  fromArmor : String → Option SignedPublicKey
  /-- `SignedPublicKey::from_armor_many` of one armored block, with the result
  for each certificate in it. -/
  fromArmorMany : String → Option (List (Option SignedPublicKey))
  /-- `Signature::verify` over some data. -/
  verify : Signature → KeyDetails → Bytes → Bool
  /-- `Signature::verify_certification` of a user id. -/
  verifyCertification : Signature → PublicKey → UserId → Bool
  /-- `SignedPublicSubKey::verify_bindings`. -/
  verifyBindings : SignedPublicSubKey → PublicKey → Bool
  /-- `DecryptionKey::decrypt` with the empty password, both of its results. -/
  decrypt : SecretSubkey → PkeskBytes → Option (Option PlainSessionKey)

end TvcGpg
