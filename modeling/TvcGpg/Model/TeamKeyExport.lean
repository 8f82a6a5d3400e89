import TvcGpg.Model.TeamKey

/-!
# What the team key gives out

The rest of `team_key.rs`: the fingerprint a build can pin, and the two armored texts the
server hands to anybody who asks, the public key and a revocation certificate.
-/

namespace TvcGpg
namespace Team

open Lib Lib.Text

/-- Subkey fingerprint this build must produce, if the build pins one. -/
def expectedSubkeyFingerprint : Option String := none

/-- Reason text in the revocation certificate. -/
def revocationReason : String := "key retired"

/-- `RevocationCode`, as far as the program names it. -/
inductive RevocationCode
  | keyRetired
  deriving DecidableEq, Repr

/-- The contents of a subpacket of the revocation certificate. -/
inductive RevocationSubpacketData
  | signatureCreationTime (createdAt : UInt32)
  | issuerFingerprint (fingerprint : Fingerprint)
  | issuerKeyId (keyId : KeyId)
  | revocationReason (code : RevocationCode) (reason : String)
  deriving DecidableEq, Repr

/-- A subpacket of the revocation certificate. -/
structure RevocationSubpacket where
  isCritical : Bool
  data : RevocationSubpacketData
  deriving DecidableEq, Repr

/-- What the revocation certificate is made of. -/
structure RevocationConfig where
  typ : SignatureType
  pubAlg : PublicKeyAlgorithm
  hashAlg : HashAlgorithm
  hashedSubpackets : List RevocationSubpacket
  unhashedSubpackets : List RevocationSubpacket
  deriving DecidableEq, Repr

/-- The functions of rPGP that write a key out. -/
structure ExportCrates where
  /-- `SignedSecretKey::to_public_key`. -/
  toPublicKey : SignedSecretKey → SignedPublicKey
  /-- `SignedPublicKey::to_armored_string` with the default options. -/
  armorPublicKey : SignedPublicKey → Except PgpError String
  /-- `Subpacket::regular`. -/
  regular : RevocationSubpacketData → Except PgpError RevocationSubpacket
  /-- `SignatureConfig::sign_key` of the primary key by itself, with the empty password. -/
  signKey : RevocationConfig → SecretKey → Except PgpError Signature
  /-- `DetachedSignature::to_armored_string` with the default options. -/
  armorSignature : Signature → Except PgpError String

section Export

/-- Fingerprint of the encryption subkey, as 40 upper case hex characters. -/
def TeamKey.subkeyFingerprint (crates : Crates) (teamKey : TeamKey) : String :=
  toUppercase (crates.hexEncode teamKey.encryptionSubkey.fingerprint.octets)

variable (crates : ExportCrates)

/-- The public half of the team key, in armored form. -/
def TeamKey.publicKeyArmored (teamKey : TeamKey) : Except TeamKeyError String :=
  ofPgp (crates.armorPublicKey (crates.toPublicKey teamKey.secret))

/-- A revocation certificate for the primary key, in armored form. -/
def TeamKey.revocationCertificateArmored (teamKey : TeamKey) : Except TeamKeyError String := do
  let primary := teamKey.secret.primaryKey
  let regular := fun data => ofPgp (crates.regular data)
  let hashedSubpackets ← List.mapM regular
    [.signatureCreationTime keyCreatedAt, .issuerFingerprint primary.fingerprint,
      .revocationReason .keyRetired revocationReason]
  let unhashedSubpackets ← List.mapM regular [.issuerKeyId primary.legacyKeyId]
  let signature ← ofPgp (crates.signKey
    { typ := .keyRevocation, pubAlg := ecdsa, hashAlg := .sha256, hashedSubpackets,
      unhashedSubpackets }
    primary)
  ofPgp (crates.armorSignature signature)

end Export

end Team
end TvcGpg
