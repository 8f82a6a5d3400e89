import Mathlib.Data.List.AList
import Mathlib.Order.Lattice
import TvcGpg.Lib.Fallible
import TvcGpg.Lib.Scans
import TvcGpg.Model.Crates

/-!
# The allowlist of engineer keys

`allowlist.rs`: reading the joined armored keys into certificates, deciding
which keys of a certificate can verify at a given time, and the two maps a
request's signer is looked up in.

The two hash maps are association lists with one entry a key; the source never
iterates over them, so the order of their entries does not matter.
-/

namespace TvcGpg

open Lib Lib.Text Lib.Fallible Lib.Scans

/-- First line of an armored public key block. -/
def armorBegin : String := "-----BEGIN PGP PUBLIC KEY BLOCK-----"

/-- Reason an allowlist could not be built. -/
inductive AllowlistError
  | notUtf8
  | noKeyBlock
  /-- Holds the block number, counted from one. -/
  | badKeyBlock (block : Nat)
  | noSigningKeys
  deriving DecidableEq, Repr

instance : ToString AllowlistError where
  toString
    | .notUtf8 => "the allowlist is not UTF-8 text"
    | .noKeyBlock => "the allowlist holds no armored public key block"
    | .badKeyBlock n => s!"allowlist key block {n} could not be read"
    | .noSigningKeys => "the allowlist holds no key that can verify"

/-- A key from the allowlist that can verify a signature. -/
inductive SigningKey
  | primary (key : PublicKey)
  | subkey (key : PublicSubkey)
  deriving DecidableEq

namespace SigningKey

/-- What rPGP shows of this key. -/
def details : SigningKey → KeyDetails
  | primary key => key.toKeyDetails
  | subkey key => key.toKeyDetails

/-- Fingerprint of this key. -/
def fingerprint (key : SigningKey) : Fingerprint := key.details.fingerprint

/-- Legacy key id of this key. -/
def keyId (key : SigningKey) : KeyId := key.details.legacyKeyId

end SigningKey

/-- One signer the app accepts, held once per key that can verify. -/
structure SignerEntry where
  /-- Fingerprint of the certificate this key belongs to, in upper case hex. -/
  primaryFingerprint : String
  certificate : SignedPublicKey
  key : SigningKey

/-- The key that verifies signatures from this signer. -/
def SignerEntry.verifyingKey (entry : SignerEntry) : SigningKey := entry.key

/-- Engineer public keys the app accepts requests from. -/
structure Allowlist where
  certificates : List SignedPublicKey
  byFingerprint : AList fun _ : Fingerprint => SignerEntry
  byKeyId : AList fun _ : KeyId => Fingerprint

/-! ## Which keys of a certificate can verify -/

/-- Creation time of a signature, zero if it carries none. -/
def createdAt (signature : Signature) : UInt32 :=
  signature.created.getD 0

/-- The time a key expires, from its creation time and the expiry in the
signature.  `none` means it never expires. -/
def expiresAt (keyCreatedAt : UInt32) (signature : Signature) : Option UInt64 :=
  match signature.keyExpirationTime with
  | none => none
  | some seconds =>
      -- an expiry of zero seconds stands for none
      if seconds = 0 then none else some (keyCreatedAt.toUInt64 + seconds.toUInt64)

/-- The expiry of a key, when it is not after `now`. -/
def expiredAt (keyCreatedAt : UInt32) (signature : Signature) (now : UInt32) : Option UInt64 :=
  match expiresAt keyCreatedAt signature with
  | none => none
  | some expiry => if expiry ≤ now.toUInt64 then some expiry else none

/-- Whether a signature names the primary key as its issuer. -/
def issuedBy (primary : PublicKey) (signature : Signature) : Bool :=
  signature.issuerFingerprint.any (fun f => f = primary.fingerprint) ||
    signature.issuerKeyId.any (fun k => k = primary.legacyKeyId)

/-- The newest self certification over a user id of `certificate`, with the user
id it covers. -/
def newestSelfSignature (certificate : SignedPublicKey) : Option (UserId × Signature) :=
  maxByKey (fun pair => (createdAt pair.2).toNat)
    ((certificate.details.users.flatMap fun user =>
      user.signatures.map fun signature => (user.id, signature)).filter
        fun pair => issuedBy certificate.primaryKey pair.2)

/-- The newest subkey binding signature. -/
def newestBinding (signatures : List Signature) : Option Signature :=
  maxByKey (fun signature => (createdAt signature).toNat)
    (signatures.filter fun signature => signature.typ = some .subkeyBinding)

/-- What one round of the subkey loop of `classify` does with a subkey. -/
inductive SubkeyVerdict
  | passedOver
  | defect (message : String)
  | accepted (key : PublicSubkey)
  deriving DecidableEq

/-- One round of the subkey loop of `classify`. -/
def subkeyVerdict (rpgp : Rpgp) (primary : PublicKey) (now : UInt32)
    (subkey : SignedPublicSubKey) : SubkeyVerdict :=
  let fingerprint := primary.fingerprint
  match newestBinding subkey.signatures with
  | none => .passedOver
  | some binding =>
      if !binding.keyFlags.sign then .passedOver
      else
        let subkeyFingerprint := subkey.key.fingerprint
        if subkey.signatures.any fun signature => signature.typ = some .subkeyRevocation then
          .defect s!"signing subkey {subkeyFingerprint} of key {fingerprint} is revoked"
        else
          match expiredAt subkey.key.createdAt binding now with
          | some expiry =>
              .defect
                s!"signing subkey {subkeyFingerprint} of key {fingerprint} expired at {expiry}"
          | none =>
              -- this also checks the back signature a signing subkey must carry
              if !rpgp.verifyBindings subkey primary then
                .defect
                  s!"signing subkey {subkeyFingerprint} of key {fingerprint} failed binding verification"
              else .accepted subkey.key

/-- The keys and the messages pushed by one round of the subkey loop. -/
def pushVerdict (rpgp : Rpgp) (primary : PublicKey) (now : UInt32)
    (found : List SigningKey × List String) (subkey : SignedPublicSubKey) :
    List SigningKey × List String :=
  match subkeyVerdict rpgp primary now subkey with
  | .passedOver => found
  | .defect message => (found.1, found.2 ++ [message])
  | .accepted key => (found.1 ++ [.subkey key], found.2)

/-- The keys of `certificate` that can verify at `now`, and one message per key
the allowlist cannot use. -/
def classify (rpgp : Rpgp) (certificate : SignedPublicKey) (now : UInt32) :
    List SigningKey × List String :=
  let primary := certificate.primaryKey
  let fingerprint := primary.fingerprint
  if primary.version ≠ .v4 then
    ([], [s!"key {fingerprint} is not version 4"])
  else if !certificate.details.revocationSignatures.isEmpty then
    ([], [s!"key {fingerprint} is revoked"])
  else
    match newestSelfSignature certificate with
    | none => ([], [s!"key {fingerprint} has no self signature"])
    | some (userId, selfSignature) =>
        if !rpgp.verifyCertification selfSignature primary userId then
          ([], [s!"key {fingerprint} failed self signature verification"])
        else
          match expiredAt primary.createdAt selfSignature now with
          | some expiry => ([], [s!"key {fingerprint} expired at {expiry}"])
          | none =>
              let keys := if selfSignature.keyFlags.sign then [.primary primary] else []
              let (keys, defects) :=
                certificate.publicSubkeys.foldl (pushVerdict rpgp primary now) (keys, [])
              if keys.isEmpty && defects.isEmpty then
                (keys, defects ++ [s!"key {fingerprint} has no signing capable key"])
              else (keys, defects)

/-! ## Reading the joined armored keys -/

/-- The loop state of `readCertificates`: the fingerprints seen, the
certificates kept and the number of blocks. -/
structure ReadState where
  kept : List Fingerprint × List SignedPublicKey
  blocks : Nat

/-- Fingerprint of the primary key of a certificate. -/
def SignedPublicKey.primaryFingerprint (certificate : SignedPublicKey) : Fingerprint :=
  certificate.primaryKey.fingerprint

/-- Read one block, given the text between its first line and the next block. -/
def readBlock (rpgp : Rpgp) (state : ReadState) (rest : List Char) :
    Except AllowlistError ReadState := do
  let blocks := state.blocks + 1
  let block := armorBegin ++ String.ofList rest
  let parsed ← okOr (rpgp.fromArmorMany block) (.badKeyBlock blocks)
  let kept ← parsed.foldlM (fun kept certificate => do
    let certificate ← okOr certificate (.badKeyBlock blocks)
    return keepFirst SignedPublicKey.primaryFingerprint kept certificate) state.kept
  return { kept, blocks }

/-- Read every armored block in `armored` into a certificate, keeping the first
copy of each fingerprint. -/
def readCertificates (rpgp : Rpgp) (armored : Bytes) :
    Except AllowlistError (List SignedPublicKey) := do
  let text ← okOr (fromUtf8 armored) .notUtf8
  -- what stands before the first block is passed over
  let rests := (splitOn armorBegin.toList text.toList).drop 1
  let state ← rests.foldlM (readBlock rpgp) { kept := ([], []), blocks := 0 }
  require (state.blocks ≠ 0) .noKeyBlock
  return state.kept.2

/-! ## The index -/

/-- The loop state of `parseAt`. -/
structure IndexState where
  byFingerprint : AList fun _ : Fingerprint => SignerEntry
  byKeyId : AList fun _ : KeyId => Fingerprint
  ambiguousKeyIds : List KeyId

/-- Enter one key of `certificate`. -/
def indexKey (certificate : SignedPublicKey) (primaryFingerprint : String)
    (state : IndexState) (key : SigningKey) : IndexState :=
  let fingerprint := key.fingerprint
  let keyId := key.keyId
  -- the id may have led to another key until now
  let ambiguousKeyIds :=
    match state.byKeyId.lookup keyId with
    | some other =>
        if other ≠ fingerprint then state.ambiguousKeyIds ++ [keyId] else state.ambiguousKeyIds
    | none => state.ambiguousKeyIds
  { byKeyId := state.byKeyId.insert keyId fingerprint
    ambiguousKeyIds
    byFingerprint :=
      state.byFingerprint.insert fingerprint { primaryFingerprint, certificate, key } }

/-- Enter the keys of one certificate that can verify at `now`. -/
def indexCertificate (rpgp : Rpgp) (now : UInt32) (state : IndexState)
    (certificate : SignedPublicKey) : IndexState :=
  let primaryFingerprint := toUppercase (toString certificate.primaryFingerprint)
  let keys := (classify rpgp certificate now).1
  keys.foldl (indexKey certificate primaryFingerprint) state

namespace Allowlist

/-- Build an allowlist from armored public key blocks, dropping keys that are
expired at `now`, in seconds since the epoch. -/
def parseAt (rpgp : Rpgp) (armored : Bytes) (now : UInt32) : Except AllowlistError Allowlist := do
  let certificates ← readCertificates rpgp armored
  let state := certificates.foldl (indexCertificate rpgp now)
    { byFingerprint := ∅, byKeyId := ∅, ambiguousKeyIds := [] }
  -- a shared key id cannot tell its keys apart, so the id goes and the fingerprints stay
  let byKeyId := state.ambiguousKeyIds.foldl (fun map keyId => map.erase keyId) state.byKeyId
  require (¬ state.byFingerprint.entries.isEmpty) .noSigningKeys
  return { certificates, byFingerprint := state.byFingerprint, byKeyId }

/-- Find a signer by the fingerprint of its verifying key, or by the legacy key
id if no fingerprint is given or the fingerprint is unknown. -/
def lookup (allowlist : Allowlist) (fingerprint : Option Fingerprint) (keyId : Option KeyId) :
    Option SignerEntry :=
  match fingerprint.bind allowlist.byFingerprint.lookup with
  | some entry => some entry
  | none => do
      let keyId ← keyId
      let fingerprint ← allowlist.byKeyId.lookup keyId
      allowlist.byFingerprint.lookup fingerprint

/-- One message per key the allowlist cannot use at `now`. -/
def check (allowlist : Allowlist) (rpgp : Rpgp) (now : UInt32) : List String :=
  allowlist.certificates.flatMap fun certificate => (classify rpgp certificate now).2

end Allowlist
end TvcGpg
