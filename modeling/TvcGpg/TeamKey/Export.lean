import TvcGpg.EndToEnd.HonestRun
import TvcGpg.Model.TeamKeyExport
import TvcGpg.TeamKey.Derivation

/-!
# The published key leads to the subkey

The app derives the team key, keeps the secret subkey and publishes the public half.  The
client reads the key id of the one encryption subkey from that, looks for a PKESK with it,
and the app turns down every PKESK that does not name its own subkey.  That both sides mean
one key follows from what `derive` puts together and from what rPGP keeps of a packet on the
way: `served_key_names_the_subkey`.
-/

namespace TvcGpg
namespace Team

open Lib Lib.Text Lib.Fallible

/-! ## What rPGP keeps -/

/-- rPGP makes the packets it is asked for: their fields are kept, and a secret packet shows
what its public half does. -/
structure PacketLaws (keys : KeyCrates) : Prop where
  newPubKeyInner : ∀ asked inner, keys.newPubKeyInner asked = .ok inner → inner = asked
  subkeyAlgorithm : ∀ inner key, keys.publicSubkeyFromInner inner = .ok key →
    key.algorithm = inner.algorithm
  subkeyCreatedAt : ∀ inner key, keys.publicSubkeyFromInner inner = .ok key →
    key.createdAt = inner.createdAt
  newSecretSubkey : ∀ key params secret, keys.newSecretSubkey key params = .ok secret →
    secret.toKeyDetails = key.toKeyDetails

/-- What the subkeys of a certificate show. -/
def subkeysShown (certificate : SignedPublicKey) : List KeyDetails :=
  certificate.publicSubkeys.map fun subkey => subkey.key.toKeyDetails

/-- rPGP takes the public half of every subkey, and reads the subkeys of a certificate that
it wrote. -/
structure ExportLaws (crates : Crates) (exports : ExportCrates) : Prop where
  toPublicKey : ∀ secret, subkeysShown (exports.toPublicKey secret) =
    secret.publicSubkeys.map (fun subkey => subkey.key.toKeyDetails) ++
      secret.secretSubkeys.map fun subkey => subkey.key.toKeyDetails
  readArmor : ∀ certificate text, exports.armorPublicKey certificate = .ok text →
    ∃ read, crates.rpgp.fromArmor text = some read ∧
      subkeysShown read = subkeysShown certificate

section Export

variable {crates : Crates} {keys : KeyCrates} {exports : ExportCrates}

theorem ofPgp_eq_ok_iff {α : Type} {result : Except PgpError α} {value : α} :
    ofPgp result = .ok value ↔ result = .ok value := mapError_eq_ok_iff

/-! ## The subkey -/

/-- The subkey that is derived is an ECDH key with the fixed creation time. -/
theorem newSubkey_shows (hLaws : PacketLaws keys) {scalar : Scalar} {createdAt : UInt32}
    {subkey : SecretSubkey} (hKey : newSubkey keys scalar createdAt = .ok subkey) :
    subkey.algorithm = .ecdh ∧ subkey.createdAt = createdAt := by
  obtain ⟨inner, hInner, hKey⟩ := bind_eq_ok_iff.mp hKey
  obtain ⟨publicSubkey, hPublic, hSecret⟩ := bind_eq_ok_iff.mp hKey
  obtain rfl := hLaws.newPubKeyInner _ _ (ofPgp_eq_ok_iff.mp hInner)
  have hShown := hLaws.newSecretSubkey _ _ _ (ofPgp_eq_ok_iff.mp hSecret)
  have hAlgorithm := hLaws.subkeyAlgorithm _ _ (ofPgp_eq_ok_iff.mp hPublic)
  have hCreatedAt := hLaws.subkeyCreatedAt _ _ (ofPgp_eq_ok_iff.mp hPublic)
  constructor
  · calc subkey.algorithm
      _ = publicSubkey.algorithm := congrArg KeyDetails.algorithm hShown
      _ = .ecdh := hAlgorithm
  · calc subkey.createdAt
      _ = publicSubkey.createdAt := congrArg KeyDetails.createdAt hShown
      _ = createdAt := hCreatedAt

/-- A team key has the one subkey that was derived, and no other. -/
theorem assemble_subkeys {primary : SecretKey} {subkey : SecretSubkey} {createdAt : UInt32}
    {teamKey : TeamKey} (hKey : assemble keys primary subkey createdAt = .ok teamKey) :
    teamKey.secret.publicSubkeys.map (fun subkey => subkey.key.toKeyDetails) ++
        teamKey.secret.secretSubkeys.map (fun subkey => subkey.key.toKeyDetails) =
      [teamKey.encryptionSubkey.toKeyDetails] := by
  obtain ⟨selfSignature, -, hKey⟩ := bind_eq_ok_iff.mp hKey
  obtain ⟨binding, -, hKey⟩ := bind_eq_ok_iff.mp hKey
  obtain ⟨user, -, hKey⟩ := bind_eq_ok_iff.mp hKey
  cases hKey
  rfl

theorem derive_subkeys {quorum : P256Pair} {asked after : List HkdfInput} {teamKey : TeamKey}
    (hKey : TeamKey.derive keys quorum asked = .ok teamKey after) :
    teamKey.secret.publicSubkeys.map (fun subkey => subkey.key.toKeyDetails) ++
        teamKey.secret.secretSubkeys.map (fun subkey => subkey.key.toKeyDetails) =
      [teamKey.encryptionSubkey.toKeyDetails] := by
  unfold TeamKey.derive at hKey
  obtain ⟨signing, mid, -, hKey⟩ := Logged.bind_eq_ok_iff.mp hKey
  obtain ⟨primary, _, -, hKey⟩ := Logged.bind_eq_ok_iff.mp hKey
  obtain ⟨encryption, last, -, hKey⟩ := Logged.bind_eq_ok_iff.mp hKey
  obtain ⟨subkey, _, -, hAssemble⟩ := Logged.bind_eq_ok_iff.mp hKey
  obtain ⟨hAssembled, -⟩ := Logged.liftExcept_eq_ok_iff.mp hAssemble
  exact assemble_subkeys hAssembled

/-! ## What the client reads -/

/-- A certificate whose one subkey is an ECDH key has that for its encryption subkey. -/
theorem encryptionSubkeyId_of_shown {text : String} {read : SignedPublicKey} {shown : KeyDetails}
    (hRead : crates.rpgp.fromArmor text = some read) (hShown : subkeysShown read = [shown])
    (hEcdh : shown.algorithm = .ecdh) :
    Client.encryptionSubkeyId crates text = .ok shown.legacyKeyId := by
  obtain ⟨subkey, rest, hSubkeys, rfl, hRest⟩ := List.map_eq_cons_iff.mp hShown
  obtain rfl := List.map_eq_nil_iff.mp hRest
  unfold Client.encryptionSubkeyId
  rw [hRead, okOr_some, ok_bind, hSubkeys, List.filter_singleton]
  simp only [hEcdh, decide_true, cond_true]

/-- The client reads the key id of the derived subkey from the exported key. -/
theorem encryptionSubkeyId_of_derive (hPackets : PacketLaws keys)
    (hExports : ExportLaws crates exports) {quorum : P256Pair} {asked after : List HkdfInput}
    {teamKey : TeamKey} (hDerive : TeamKey.derive keys quorum asked = .ok teamKey after)
    {text : String} (hText : teamKey.publicKeyArmored exports = .ok text) :
    Client.encryptionSubkeyId crates text = .ok teamKey.forRelease.subkeyKeyId := by
  obtain ⟨_, _, _, -, -, -, hSubkey⟩ := derive_eq_ok hDerive
  obtain ⟨read, hRead, hShown⟩ := hExports.readArmor _ _ (ofPgp_eq_ok_iff.mp hText)
  have hOne : subkeysShown read = [teamKey.encryptionSubkey.toKeyDetails] :=
    calc subkeysShown read
      _ = subkeysShown (exports.toPublicKey teamKey.secret) := hShown
      _ = [teamKey.encryptionSubkey.toKeyDetails] :=
        (hExports.toPublicKey _).trans (derive_subkeys hDerive)
  exact encryptionSubkeyId_of_shown hRead hOne (newSubkey_shows hPackets hSubkey).1

/-- The key a server publishes leads every client to the subkey the server has derived, which
is the one it asks of a PKESK, and its creation time is the same for every quorum key. -/
theorem served_key_names_the_subkey (hPackets : PacketLaws keys)
    (hExports : ExportLaws crates exports) {quorum : P256Pair} {asked after : List HkdfInput}
    {teamKey : TeamKey} (hDerive : TeamKey.derive keys quorum asked = .ok teamKey after)
    {text : String} (hText : teamKey.publicKeyArmored exports = .ok text) :
    Client.encryptionSubkeyId crates text = .ok teamKey.forRelease.subkeyKeyId ∧
      teamKey.encryptionSubkey.createdAt = keyCreatedAt := by
  obtain ⟨_, _, _, -, -, -, hSubkey⟩ := derive_eq_ok hDerive
  exact ⟨encryptionSubkeyId_of_derive hPackets hExports hDerive hText,
    (newSubkey_shows hPackets hSubkey).2⟩

end Export

end Team

/-! ## The key of one team -/

namespace Reference

open Lib Lib.Text Lib.HmacKey Team

/-- What a packet shows of the team's primary key. -/
def primaryDetails (createdAt : UInt32) (algorithm : PublicKeyAlgorithm) : KeyDetails where
  fingerprint := ⟨.v4, List.replicate 20 0x97⟩
  legacyKeyId := ⟨Vector.replicate 8 0x97⟩
  createdAt := createdAt
  algorithm := algorithm
  body := [0x22]
  fingerprint_octets := by decide

/-- What a packet shows of the team's subkey. -/
def subkeyDetails (createdAt : UInt32) (algorithm : PublicKeyAlgorithm) : KeyDetails where
  fingerprint := teamSubkey.fingerprint
  legacyKeyId := teamSubkey.legacyKeyId
  createdAt := createdAt
  algorithm := algorithm
  body := teamSubkey.body
  fingerprint_octets := teamSubkey.fingerprint_octets

/-- The crates that make the team key of the engineer's team. -/
def keyCrates : KeyCrates :=
  { retryCrates with
    deriveSecret := fun _ input =>
      .ok (zeroPad 32 [if input.salt = subkeyPath then 0x5A else 0x5B])
    publicKeyFromInner := fun inner =>
      .ok { toKeyDetails := primaryDetails inner.createdAt inner.algorithm }
    publicSubkeyFromInner := fun inner =>
      .ok { toKeyDetails := subkeyDetails inner.createdAt inner.algorithm } }

/-- The subkey they make. -/
def derivedSubkey : SecretSubkey where
  toKeyDetails := subkeyDetails keyCreatedAt .ecdh
  secret := zeroPad 32 [0x5A]

/-- The primary key they make. -/
def derivedPrimary : Team.SecretKey where
  toKeyDetails := primaryDetails keyCreatedAt ecdsa
  secret := zeroPad 32 [0x5B]

/-- A signature the derivation makes, of which this is shown. -/
def derivedSignature (typ : SignatureType) : Signature :=
  shownSignature
    { typ, pubAlg := ecdsa, hashAlg := .sha256, hashedSubpackets := [], unhashedSubpackets := [] }

/-- The team key of the engineer's team. -/
def derivedTeamKey : Team.TeamKey where
  secret :=
    { primaryKey := derivedPrimary
      details :=
        { revocationSignatures := []
          users := [{ id := ⟨asBytes userIdText⟩
                      signatures := [derivedSignature .certPositive] }] }
      publicSubkeys := []
      secretSubkeys := [{ key := derivedSubkey, signatures := [derivedSignature .subkeyBinding] }] }
  one_subkey := rfl

theorem derive_keyCrates : ∃ after,
    TeamKey.derive keyCrates ⟨[0x07]⟩ [] = .ok derivedTeamKey after := ⟨_, rfl⟩

/-- The public half of a secret key. -/
def publicHalf (secret : SignedSecretKey) : SignedPublicKey where
  primaryKey := { toKeyDetails := secret.primaryKey.toKeyDetails }
  details := secret.details
  publicSubkeys := secret.publicSubkeys ++ secret.secretSubkeys.map fun subkey =>
    { key := { toKeyDetails := subkey.key.toKeyDetails }, signatures := subkey.signatures }

/-- What stands for the armored text of the public half. -/
def teamArmor : String := "derived team key"

/-- The crates that write the team key out. -/
def exportCrates : ExportCrates where
  toPublicKey := publicHalf
  armorPublicKey certificate :=
    if certificate = publicHalf derivedTeamKey.secret then .ok teamArmor
    else .error ⟨"unknown certificate"⟩
  regular data := .ok { isCritical := false, data }
  signKey config _ := .ok
    { derivedSignature config.typ with hashAlg := some config.hashAlg }
  armorSignature _ := .ok "revocation certificate"

/-- The certificates there are: the engineer's in the first block, and the team's. -/
def publishedByTeam (armored : String) : Option (List SignedPublicKey) :=
  if armored = teamArmor then some [publicHalf derivedTeamKey.secret]
  else published (certificate none []) (certificate none [revocation]) armored

/-- The crates a deployment is linked with. -/
def deployedCrates : Crates := crates publishedByTeam

theorem readCertificates_deployed :
    readCertificates deployedCrates.rpgp (asBytes firstBlock) = .ok [certificate none []] := by
  have hNotTeam : firstBlock ≠ teamArmor := by decide
  have hReads : BlockReads deployedCrates.rpgp firstRest [certificate none []] := by
    show (publishedByTeam firstBlock).map _ = _
    rw [publishedByTeam, if_neg hNotTeam, published, if_pos rfl]
    rfl
  refine readCertificates_eq_ok_iff.mpr ⟨[[certificate none []]], ?_, by simp, rfl⟩
  refine ⟨firstBlock, fromUtf8_asBytes _, ?_⟩
  rw [splitOn_firstBlock]
  exact .cons hReads .nil

theorem publicKeyArmored_derivedTeamKey :
    derivedTeamKey.publicKeyArmored exportCrates = .ok teamArmor := by
  have hArmor : exportCrates.armorPublicKey (publicHalf derivedTeamKey.secret) = .ok teamArmor := by
    show (if publicHalf derivedTeamKey.secret = publicHalf derivedTeamKey.secret then
      Except.ok teamArmor else Except.error ⟨"unknown certificate"⟩) = _
    rw [if_pos rfl]
  show Team.ofPgp (exportCrates.armorPublicKey (publicHalf derivedTeamKey.secret)) = _
  rw [hArmor]
  rfl

theorem packetLaws : PacketLaws keyCrates where
  newPubKeyInner := by
    intro asked inner hInner
    exact (Except.ok.inj hInner).symm
  subkeyAlgorithm := by
    intro inner key hKey
    obtain rfl := Except.ok.inj hKey
    rfl
  subkeyCreatedAt := by
    intro inner key hKey
    obtain rfl := Except.ok.inj hKey
    rfl
  newSecretSubkey := by
    intro key params secret hSecret
    cases params with
    | ecdsaP256 scalar => cases hSecret
    | ecdhP256 scalar =>
        obtain rfl := Except.ok.inj hSecret
        rfl

theorem fromArmor_teamArmor :
    deployedCrates.rpgp.fromArmor teamArmor = some (publicHalf derivedTeamKey.secret) := by
  rfl

theorem exportLaws : ExportLaws deployedCrates exportCrates where
  toPublicKey := by
    intro secret
    show List.map _ (_ ++ _) = _
    rw [List.map_append, List.map_map]
    rfl
  readArmor := by
    intro certificate text hText
    by_cases hTeam : certificate = publicHalf derivedTeamKey.secret
    · have hArmor : text = teamArmor := Except.ok.inj (hText.symm.trans (if_pos hTeam))
      exact ⟨certificate, hTeam ▸ hArmor ▸ fromArmor_teamArmor, rfl⟩
    · cases hText.symm.trans (if_neg hTeam)

end Reference

namespace Team

open Lib Reference in
/-- The team's key, derived, exported, and read by the client. -/
theorem served_key_names_the_subkey_derived :
    Client.encryptionSubkeyId deployedCrates teamArmor =
        .ok derivedTeamKey.forRelease.subkeyKeyId ∧
      derivedTeamKey.encryptionSubkey.createdAt = keyCreatedAt := by
  obtain ⟨after, hDerive⟩ := derive_keyCrates
  exact served_key_names_the_subkey packetLaws exportLaws hDerive publicKeyArmored_derivedTeamKey

end Team
end TvcGpg
