import TvcGpg.Model.SessionKey

/-!
# The team key

`team_key.rs`: how the two scalars of the team key come from the master seed of the
quorum key, and how the OpenPGP key is built from them.  The packets that are made here
have more to them than a release reads of a key, so what goes into them has its own
definitions, in the namespace `Team`.

`derive_secret` is asked with a seed and a salt.  A run keeps what it has asked for so far,
and an answer may depend on all of it; nothing about the answers is fixed here.
-/

namespace TvcGpg
namespace Team

open Lib Lib.Text

/-- Creation time stamped on both keys and on every signature in the key. -/
def keyCreatedAt : UInt32 := 1790000000

/-- User ID certified by the primary key. -/
def userIdText : String := "Turnkey Security Team <security@turnkey.io>"

/-- HKDF salt for the primary signing key. -/
def primaryPath : Bytes := asBytes "tvc_gpg_primary"

/-- HKDF salt for the encryption subkey. -/
def subkeyPath : Bytes := asBytes "tvc_gpg_encrypt"

/-- An error of `qos_p256`, as its `Debug` shows it. -/
structure P256Error where
  shown : String
  deriving DecidableEq, Repr

/-- An error of rPGP, as it displays. -/
structure PgpError where
  shown : String
  deriving DecidableEq, Repr

/-- Error returned when the team key cannot be derived or exported. -/
inductive TeamKeyError
  /-- HKDF derivation from the quorum key master seed failed. -/
  | derive (error : P256Error)
  /-- No counter byte gave a scalar in range for P-256. -/
  | derivationExhausted
  /-- An OpenPGP packet, signature or armor operation failed. -/
  | pgp (error : PgpError)
  deriving DecidableEq, Repr

instance : ToString TeamKeyError where
  toString
    | .derive error => s!"failed to derive from the quorum seed: {error.shown}"
    | .derivationExhausted => "no counter byte gave a valid P-256 scalar"
    | .pgp error => s!"OpenPGP operation failed: {error.shown}"

/-! ## What goes into a key -/

/-- A P-256 scalar in range, `p256::SecretKey`. -/
structure Scalar where
  octets : Bytes
  deriving DecidableEq, Repr

/-- Symmetric algorithms the program names. -/
inductive SymmetricKeyAlgorithm
  | aes128
  | aes256
  deriving DecidableEq, Repr

/-- `PublicKeyAlgorithm::ECDSA`. -/
def ecdsa : PublicKeyAlgorithm := .other 19

/-- The public parameters of the two keys. -/
inductive PublicParams
  | ecdsaP256 (key : Bytes)
  | ecdhP256 (p : Bytes) (hash : HashAlgorithm) (algSym : SymmetricKeyAlgorithm)
  deriving DecidableEq, Repr

/-- The secret parameters of the two keys, in plain. -/
inductive SecretParams
  | ecdsaP256 (scalar : Scalar)
  | ecdhP256 (secret : Scalar)
  deriving DecidableEq, Repr

/-- What a public key packet is made of. -/
structure PubKeyInner where
  version : KeyVersion
  algorithm : PublicKeyAlgorithm
  createdAt : UInt32
  expiration : Option UInt16
  publicParams : PublicParams
  deriving DecidableEq, Repr

/-- The key flags of a signature the program makes. -/
structure KeyFlags where
  certify : Bool := false
  encryptComms : Bool := false
  encryptStorage : Bool := false
  deriving DecidableEq, Repr

/-- The contents of a subpacket the program makes. -/
inductive SubpacketData
  | signatureCreationTime (createdAt : UInt32)
  | keyFlags (flags : KeyFlags)
  | issuerFingerprint (fingerprint : Fingerprint)
  | issuerKeyId (keyId : KeyId)
  | preferredSymmetricAlgorithms (algorithms : List SymmetricKeyAlgorithm)
  | preferredHashAlgorithms (algorithms : List HashAlgorithm)
  | features (seipdV1 : Bool)
  | isPrimary (isPrimary : Bool)
  deriving DecidableEq, Repr

/-- A subpacket the program makes. -/
structure Subpacket where
  isCritical : Bool
  data : SubpacketData
  deriving DecidableEq, Repr

/-- What a version 4 signature is made of. -/
structure SignatureConfig where
  typ : SignatureType
  pubAlg : PublicKeyAlgorithm
  hashAlg : HashAlgorithm
  hashedSubpackets : List Subpacket
  unhashedSubpackets : List Subpacket
  deriving DecidableEq, Repr

/-- A secret primary key: what it shows of its public half, and its secret. -/
structure SecretKey extends KeyDetails where
  secret : Bytes
  deriving DecidableEq

/-- A secret subkey with the signatures over it. -/
structure SignedSecretSubKey where
  key : SecretSubkey
  signatures : List Signature
  deriving DecidableEq

/-- A certificate with its secrets. -/
structure SignedSecretKey where
  primaryKey : SecretKey
  details : SignedKeyDetails
  publicSubkeys : List SignedPublicSubKey
  secretSubkeys : List SignedSecretSubKey
  deriving DecidableEq

/-- The team OpenPGP key held by this app: `derive` always builds exactly one subkey. -/
structure TeamKey where
  secret : SignedSecretKey
  one_subkey : secret.secretSubkeys.length = 1

/-- The encryption subkey, used to unwrap session keys. -/
def TeamKey.encryptionSubkey (teamKey : TeamKey) : SecretSubkey :=
  (teamKey.secret.secretSubkeys.get ⟨0, by rw [teamKey.one_subkey]; exact Nat.one_pos⟩).key

/-- The team key, as far as a release uses it. -/
def TeamKey.forRelease (teamKey : TeamKey) : TvcGpg.TeamKey :=
  { encryptionSubkey := teamKey.encryptionSubkey }

/-! ## The crates behind it -/

/-- What `derive_secret` is asked for. -/
structure HkdfInput where
  seed : Bytes
  salt : Bytes
  deriving DecidableEq, Repr

/-- The functions outside the repository that make a key. -/
structure KeyCrates where
  /-- `P256Pair::to_master_seed`. -/
  toMasterSeed : P256Pair → Bytes
  /-- `qos_p256::derive_secret`, behind the calls made before. -/
  deriveSecret : List HkdfInput → HkdfInput → Except P256Error Bytes
  /-- `p256::SecretKey::from_slice`: zero and what is not below the group order are out of
  range. -/
  scalarFromSlice : Bytes → Option Scalar
  /-- `p256::SecretKey::public_key`. -/
  scalarPublicKey : Scalar → Bytes
  /-- `PubKeyInner::new`. -/
  newPubKeyInner : PubKeyInner → Except PgpError PubKeyInner
  /-- `PublicKey::from_inner`. -/
  publicKeyFromInner : PubKeyInner → Except PgpError PublicKey
  /-- `PublicSubkey::from_inner`. -/
  publicSubkeyFromInner : PubKeyInner → Except PgpError PublicSubkey
  /-- `SecretKey::new`. -/
  newSecretKey : PublicKey → SecretParams → Except PgpError SecretKey
  /-- `SecretSubkey::new`. -/
  newSecretSubkey : PublicSubkey → SecretParams → Except PgpError SecretSubkey
  /-- `Subpacket::regular`. -/
  regular : SubpacketData → Except PgpError Subpacket
  /-- `UserId::from_str` with the default packet header. -/
  userIdFromStr : String → Except PgpError UserId
  /-- `SignatureConfig::sign_certification` of a user id with the empty password. -/
  signCertification : SignatureConfig → SecretKey → UserId → Except PgpError Signature
  /-- `SignatureConfig::sign_subkey_binding` of the public half of a subkey, with the empty
  password. -/
  signSubkeyBinding : SignatureConfig → SecretKey → SecretSubkey → Except PgpError Signature

/-- A run that derives keys, with what it has asked `derive_secret` for. -/
abbrev KeyM := EStateM TeamKeyError (List HkdfInput)

section Derive

variable (crates : KeyCrates)

/-! ## The scalars -/

/-- A call of `derive_secret`. -/
def deriveSecret (input : HkdfInput) : KeyM Bytes := fun asked =>
  match crates.deriveSecret asked input with
  | .ok bytes => .ok bytes (asked ++ [input])
  | .error error => .error (.derive error) (asked ++ [input])

/-- The loop of `deriveScalar`: the salt buffer is kept from one round to the next. -/
def deriveScalarLoop (seed path salt : Bytes) : List UInt8 → KeyM Scalar
  | [] => throw .derivationExhausted
  | counter :: counters => do
      let salt := if 0 < counter then salt.take path.length ++ [counter] else salt
      let bytes ← deriveSecret crates { seed, salt }
      match crates.scalarFromSlice bytes with
      | some scalar => pure scalar
      | none => deriveScalarLoop seed path salt counters

/-- `0..=u8::MAX`. -/
def counterBytes : List UInt8 := (List.range 256).map UInt8.ofNat

/-- Derive a P-256 scalar from the master seed at `path`. -/
def deriveScalar (seed path : Bytes) : KeyM Scalar :=
  deriveScalarLoop crates seed path path counterBytes

/-! ## The packets -/

/-- What `?` makes of a result of rPGP. -/
def ofPgp {α : Type} (result : Except PgpError α) : Except TeamKeyError α :=
  result.mapError .pgp

/-- Build the certified user ID packet. -/
def userId : Except TeamKeyError UserId :=
  ofPgp (crates.userIdFromStr userIdText)

/-- The subpackets of an area of a signature. -/
def subpackets (area : List SubpacketData) : Except TeamKeyError (List Subpacket) :=
  area.mapM fun data => ofPgp (crates.regular data)

/-- Self certify the user ID with the primary key. -/
def certifyUserId (primary : SecretKey) (createdAt : UInt32) : Except TeamKeyError Signature := do
  let hashedSubpackets ← subpackets crates
    [.signatureCreationTime createdAt, .keyFlags { certify := true },
      .issuerFingerprint primary.fingerprint, .preferredSymmetricAlgorithms [.aes256, .aes128],
      .preferredHashAlgorithms [.sha256, .sha512], .features true, .isPrimary true]
  let unhashedSubpackets ← subpackets crates [.issuerKeyId primary.legacyKeyId]
  let user ← userId crates
  ofPgp (crates.signCertification
    { typ := .certPositive, pubAlg := ecdsa, hashAlg := .sha256, hashedSubpackets,
      unhashedSubpackets }
    primary user)

/-- Bind the encryption subkey to the primary key. -/
def bindSubkey (primary : SecretKey) (subkey : SecretSubkey) (createdAt : UInt32) :
    Except TeamKeyError Signature := do
  let hashedSubpackets ← subpackets crates
    [.signatureCreationTime createdAt, .keyFlags { encryptComms := true, encryptStorage := true },
      .issuerFingerprint primary.fingerprint]
  let unhashedSubpackets ← subpackets crates [.issuerKeyId primary.legacyKeyId]
  ofPgp (crates.signSubkeyBinding
    { typ := .subkeyBinding, pubAlg := ecdsa, hashAlg := .sha256, hashedSubpackets,
      unhashedSubpackets }
    primary subkey)

/-- The primary key `derive` makes of its scalar. -/
def newPrimary (scalar : Scalar) (createdAt : UInt32) : Except TeamKeyError SecretKey := do
  let inner ← ofPgp (crates.newPubKeyInner
    { version := .v4, algorithm := ecdsa, createdAt, expiration := none,
      publicParams := .ecdsaP256 (crates.scalarPublicKey scalar) })
  let publicKey ← ofPgp (crates.publicKeyFromInner inner)
  ofPgp (crates.newSecretKey publicKey (.ecdsaP256 scalar))

/-- The encryption subkey `derive` makes of its scalar. -/
def newSubkey (scalar : Scalar) (createdAt : UInt32) : Except TeamKeyError SecretSubkey := do
  let inner ← ofPgp (crates.newPubKeyInner
    { version := .v4, algorithm := .ecdh, createdAt, expiration := none,
      publicParams := .ecdhP256 (crates.scalarPublicKey scalar) .sha256 .aes128 })
  let publicSubkey ← ofPgp (crates.publicSubkeyFromInner inner)
  ofPgp (crates.newSecretSubkey publicSubkey (.ecdhP256 scalar))

/-- What `derive` puts together once it has both keys. -/
def assemble (primary : SecretKey) (subkey : SecretSubkey) (createdAt : UInt32) :
    Except TeamKeyError TeamKey := do
  let selfSignature ← certifyUserId crates primary createdAt
  let binding ← bindSubkey crates primary subkey createdAt
  let user ← userId crates
  return {
    secret :=
      { primaryKey := primary
        details :=
          { revocationSignatures := [], users := [{ id := user, signatures := [selfSignature] }] }
        publicSubkeys := []
        secretSubkeys := [{ key := subkey, signatures := [binding] }] }
    one_subkey := rfl }

/-- Derive the team key from the quorum key. -/
def TeamKey.derive (quorum : P256Pair) : KeyM TeamKey := do
  let seed := crates.toMasterSeed quorum
  let primaryScalar ← deriveScalar crates seed primaryPath
  let primary ← liftExcept (newPrimary crates primaryScalar keyCreatedAt)
  let subkeyScalar ← deriveScalar crates seed subkeyPath
  let subkey ← liftExcept (newSubkey crates subkeyScalar keyCreatedAt)
  liftExcept (assemble crates primary subkey keyCreatedAt)

end Derive

end Team
end TvcGpg
