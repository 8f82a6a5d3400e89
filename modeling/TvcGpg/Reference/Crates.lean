import Mathlib.Data.List.Sort
import TvcGpg.Lib.FlatJson
import TvcGpg.Reference.OpenPgp

/-!
# Reference crates

One instance of everything the two programs are linked with, for which the laws
of `EndToEnd.Laws` hold.  Hexadecimal text and JSON are the real ones, the latter
for flat objects, in the compact dialect and in the canonical one with its sorted
names and its numbers written as texts.  The cryptography is a stand in: it keeps
the shapes, the lengths and the round trips, and protects nothing.

So the assumptions of the results are met together, and a result can be applied to
an actual run.
-/

namespace TvcGpg
namespace Reference

open Lib Lib.Text

/-! ## JSON -/

/-- A value as the flat writer takes it.  Nested values are not written. -/
def toFlat : Json → FlatJson.Value
  | .string s => .text s.toList
  | .number (.posInt n) => .natural n.toNat
  | _ => .text []

/-- A value the flat reader returned. -/
def ofFlat : FlatJson.Value → Json
  | .text s => .string (String.ofList s)
  | .natural n =>
      if n < 2 ^ 64 then .number (.posInt (UInt64.ofNat n))
      else .number (.float (String.ofList (FlatJson.writeNatural n)))

/-- The canonical dialect writes a number as a text. -/
def numberAsText : Json → Json
  | .number (.posInt n) => .string (String.ofList (FlatJson.writeNatural n.toNat))
  | value => value

/-- Read an object from its text. -/
def readJson (bytes : Bytes) : Option Json :=
  (fromUtf8 bytes).bind fun text =>
    (FlatJson.readObject text.toList).map fun fields =>
      .object (fields.map fun field => (String.ofList field.1, ofFlat field.2))

/-- The compact text of an object. -/
def writeFields (fields : List (String × Json)) : String :=
  String.ofList
    (FlatJson.writeObject (fields.map fun field => (field.1.toList, toFlat field.2)))

/-- The compact writer. -/
def writeJson : Json → String
  | .object fields => writeFields fields
  | _ => ""

/-- Fields in the order of their names, with numbers as texts. -/
def canonicalFields (fields : List (String × Json)) : List (String × Json) :=
  (fields.insertionSort fun a b => a.1 ≤ b.1).map fun field => (field.1, numberAsText field.2)

/-- The canonical writer. -/
def canonicalJson : Json → Option Bytes
  | .object fields => some (asBytes (writeFields (canonicalFields fields)))
  | _ => none

/-- The reference JSON functions. -/
def json : JsonText :=
  { read := readJson, write := writeJson, canonical := canonicalJson }

theorem ofFlat_toFlat {value : Json}
    (hFlat : (∃ s, value = .string s) ∨ ∃ n, value = .number (.posInt n)) :
    ofFlat (toFlat value) = value := by
  rcases hFlat with ⟨s, rfl⟩ | ⟨n, rfl⟩
  · simp [toFlat, ofFlat]
  · have hBound := n.toNat_lt
    simp only [toFlat, ofFlat, if_pos hBound, UInt64.ofNat_toNat]

theorem readJson_writeFields {fields : List (String × Json)} (hFlat : FlatFields fields) :
    readJson (asBytes (writeFields fields)) = some (.object fields) := by
  unfold readJson writeFields
  rw [fromUtf8_asBytes, Option.bind_some, String.toList_ofList, FlatJson.readObject_writeObject,
    Option.map_some, List.map_map]
  have hFields : fields.map ((fun field : List Char × FlatJson.Value =>
      (String.ofList field.1, ofFlat field.2)) ∘ fun field : String × Json =>
        (field.1.toList, toFlat field.2)) = fields.map id := by
    refine List.map_congr_left fun field hField => ?_
    simp only [Function.comp_apply, String.ofList_toList, ofFlat_toFlat (hFlat field hField), id]
  rw [hFields, List.map_id]

/-- With distinct names, a field is found by its name. -/
theorem index_eq_of_mem {fields : List (String × Json)} (hNames : (fields.map Prod.fst).Nodup)
    {name : String} {value : Json} (hMem : (name, value) ∈ fields) :
    (Json.object fields).index name = value := by
  unfold Json.index
  cases hFind : fields.reverse.find? fun field => field.1 = name with
  | none =>
      have hNone := List.find?_eq_none.mp hFind (name, value) (List.mem_reverse.mpr hMem)
      simp at hNone
  | some field =>
      have hName : field.1 = name := by simpa using List.find?_some hFind
      have hField := List.mem_reverse.mp (List.mem_of_find?_eq_some hFind)
      obtain rfl := List.inj_on_of_nodup_map hNames hField hMem hName
      simp [hFind]

theorem flatFields_canonicalFields {fields : List (String × Json)} (hFlat : FlatFields fields) :
    FlatFields (canonicalFields fields) := by
  intro field hField
  obtain ⟨source, hSource, rfl⟩ := List.mem_map.mp hField
  rcases hFlat source ((List.mem_insertionSort _).mp hSource) with ⟨s, hs⟩ | ⟨n, hn⟩
  · exact Or.inl ⟨s, by rw [hs]; rfl⟩
  · exact Or.inl ⟨_, by rw [hn]; rfl⟩

theorem nodup_canonicalFields {fields : List (String × Json)}
    (hNames : (fields.map Prod.fst).Nodup) : ((canonicalFields fields).map Prod.fst).Nodup := by
  have hMap : (canonicalFields fields).map Prod.fst =
      (fields.insertionSort fun a b => a.1 ≤ b.1).map Prod.fst := by
    unfold canonicalFields
    rw [List.map_map]
    rfl
  rw [hMap]
  exact ((List.perm_insertionSort _ fields).map Prod.fst).nodup_iff.mpr hNames

theorem keepsStrings_canonicalFields {fields : List (String × Json)}
    (hNames : (fields.map Prod.fst).Nodup) :
    KeepsStrings fields (.object (canonicalFields fields)) := by
  intro name s hMem
  refine index_eq_of_mem (nodup_canonicalFields hNames) ?_
  exact List.mem_map.mpr ⟨(name, .string s), (List.mem_insertionSort _).mpr hMem, rfl⟩

theorem jsonLaws : JsonLaws json where
  read_write fields hFlat := readJson_writeFields hFlat
  canonical_text fields _ _ := ⟨writeFields (canonicalFields fields), rfl⟩
  read_canonical fields bytes hFlat hNames hCanonical := by
    obtain rfl := Option.some.inj hCanonical
    exact ⟨_, readJson_writeFields (flatFields_canonicalFields hFlat),
      keepsStrings_canonicalFields hNames⟩

/-! ## P-256 -/

/-- An uncompressed point made from the octets of a pair. -/
def point (octets : Bytes) : Bytes :=
  sec1Uncompressed :: (octets ++ List.replicate 64 0).take 64

theorem length_point (octets : Bytes) : (point octets).length = sec1PointLen := by
  simp [point, sec1PointLen]

/-- The reference P-256 functions: a signature is the message behind the key, and an
envelope is the plaintext behind the point it is wrapped to. -/
def p256 : QosP256 where
  publicKey pair := ⟨pair.octets⟩
  publicToBytes key := key.octets
  publicFromBytes bytes := some ⟨bytes⟩
  sign pair message := some (pair.octets ++ message)
  verify key message signature := decide (signature = key.octets ++ message)
  encryptPublicKey pair := ⟨point pair.octets⟩
  encryptPublicToBytes key := key.octets
  encryptPublicFromBytes bytes :=
    if bytes.length = sec1PointLen ∧ bytes.head? = some sec1Uncompressed then some ⟨bytes⟩ else none
  encrypt key plain _ := some (key.octets ++ plain)
  decrypt pair envelope :=
    if envelope.take sec1PointLen = point pair.octets then some (envelope.drop sec1PointLen)
    else none

theorem p256Laws : P256Laws p256 where
  encryptPublic_length pair := length_point pair.octets
  encryptPublic_head _ := rfl
  encryptPublic_read pair := if_pos ⟨length_point pair.octets, rfl⟩
  encrypt_opens pair plain _ := by
    refine ⟨point pair.octets ++ plain, rfl, ?_⟩
    show (if (point pair.octets ++ plain).take sec1PointLen = point pair.octets then
      some ((point pair.octets ++ plain).drop sec1PointLen) else none) = some plain
    rw [List.take_left' (length_point _), List.drop_left' (length_point _), if_pos rfl]
  sign_verifies pair message := ⟨pair.octets ++ message, rfl, by simp [p256]⟩

/-! ## OpenPGP -/

/-- Whether a signature names a key, or names none. -/
def issuerMatch (signature : Signature) (key : KeyDetails) : Bool :=
  (signature.issuerFingerprint.isEmpty && signature.issuerKeyId.isEmpty) ||
    signature.issuerFingerprint.any (fun f => f = key.fingerprint) ||
      signature.issuerKeyId.any (fun k => k = key.legacyKeyId)

/-- The octet a signature binds data by. -/
def checksum (data : Bytes) : UInt8 :=
  data.foldl (fun sum octet => sum + octet) 0

/-- The signature values over data under a key. -/
def signatureValues (key : KeyDetails) (data : Bytes) : Bytes :=
  key.body ++ [checksum data]

/-- The two octet checksum of a session key. -/
def sessionKeyChecksum (key : Bytes) : Bytes :=
  let sum := key.foldl (fun sum octet => sum + octet.toNat) 0
  [UInt8.ofNat (sum / 256), UInt8.ofNat sum]

/-- How many octets pad a session key of this many octets, behind its algorithm octet
and before its checksum, to whole blocks. -/
def paddingOf (length : Nat) : Nat :=
  8 - (length + 3) % 8

/-- A session key with its algorithm octet, its checksum and its padding. -/
def padKey (symAlg : UInt8) (key : Bytes) : Bytes :=
  symAlg :: (key ++ sessionKeyChecksum key ++
    List.replicate (paddingOf key.length) (UInt8.ofNat (paddingOf key.length)))

/-- Read a padded session key. -/
def unpadKey : Bytes → Option PlainSessionKey
  | symAlg :: rest =>
      let content := rest.take (rest.length - (rest.getLastD 0).toNat)
      let key := content.take (content.length - 2)
      if content.drop (content.length - 2) = sessionKeyChecksum key then some (.v3_4 symAlg key)
      else none
  | [] => none

/-- What an AES key wrap starts with. -/
def wrapIv : Bytes := List.replicate 8 0xA6

/-- Wrap octets under the octet of a subkey. -/
def wrap (secret : UInt8) (content : Bytes) : Bytes :=
  (wrapIv ++ content).map fun octet => octet ^^^ secret

/-- Open wrapped octets. -/
def unwrap (secret : UInt8) (wrapped : Bytes) : Option Bytes :=
  let clear := wrapped.map fun octet => octet ^^^ secret
  if clear.take 8 = wrapIv then some (clear.drop 8) else none

theorem unpadKey_padKey (symAlg : UInt8) (key : Bytes) :
    unpadKey (padKey symAlg key) = some (.v3_4 symAlg key) := by
  have hRange : 1 ≤ paddingOf key.length ∧ paddingOf key.length ≤ 8 := by
    unfold paddingOf
    omega
  have hOctet : (UInt8.ofNat (paddingOf key.length)).toNat = paddingOf key.length := by
    rw [UInt8.toNat_ofNat']
    omega
  unfold padKey
  -- all that matters about the padding is that its last octet says its length
  generalize paddingOf key.length = padding at hRange hOctet
  have hLast : (key ++ sessionKeyChecksum key ++
      List.replicate padding (UInt8.ofNat padding)).getLastD 0 = UInt8.ofNat padding := by
    obtain ⟨n, rfl⟩ := Nat.exists_eq_add_of_le hRange.1
    rw [Nat.add_comm, List.replicate_succ', ← List.append_assoc, List.getLastD_concat]
  have hContent : (key ++ sessionKeyChecksum key ++
      List.replicate padding (UInt8.ofNat padding)).take
        ((key ++ sessionKeyChecksum key ++
          List.replicate padding (UInt8.ofNat padding)).length - padding) =
      key ++ sessionKeyChecksum key := by
    apply List.take_left'
    simp only [List.length_append, List.length_replicate]
    omega
  have hKey : (key ++ sessionKeyChecksum key).length - 2 = key.length := by
    simp [sessionKeyChecksum]
  unfold unpadKey
  simp only [hLast, hOctet, hContent, hKey, List.take_left, List.drop_left, if_true]

theorem unwrap_wrap (secret : UInt8) (content : Bytes) :
    unwrap secret (wrap secret content) = some content := by
  have hClear : (wrap secret content).map (fun octet => octet ^^^ secret) = wrapIv ++ content := by
    unfold wrap
    rw [List.map_map]
    refine (List.map_congr_left fun octet _ => ?_).trans (List.map_id _)
    show octet ^^^ secret ^^^ secret = octet
    rw [UInt8.xor_assoc, UInt8.xor_self, UInt8.xor_zero]
  have hIv : wrapIv.length = 8 := rfl
  unfold unwrap
  simp only [hClear, List.take_left' hIv, List.drop_left' hIv, if_true]

/-- The reference rPGP functions, with the certificates published in each armored
block. -/
def rpgp (published : String → Option (List SignedPublicKey)) : Rpgp where
  nextPacket := nextPacket
  writePkesk := writePkesk
  messagePackets bytes := messagePackets bytes.length bytes
  dearmor _ := none
  fromArmor armored := (published armored).bind List.head?
  fromArmorMany armored := (published armored).map fun certificates => certificates.map some
  verify signature key data :=
    issuerMatch signature key && decide (signature.body = signatureValues key data)
  verifyCertification signature primary userId :=
    decide (signature.body = signatureValues primary.toKeyDetails userId.id)
  verifyBindings subkey primary :=
    subkey.signatures.all fun signature =>
      signature.body = signatureValues primary.toKeyDetails subkey.key.body
  decrypt subkey values :=
    match values with
    | .ecdh _ wrapped => some ((unwrap (subkey.secret.headD 0) wrapped).bind unpadKey)
    | .other _ => none

theorem pkeskLaws (published : String → Option (List SignedPublicKey)) :
    PkeskLaws (rpgp published) where
  read_write _ _ _ _ hEcdh hId := nextPacket_writePkesk hEcdh hId

/-- The reference crates. -/
def crates (published : String → Option (List SignedPublicKey)) : Crates where
  hexEncode := Hex.encode
  hexDecode := Hex.decode
  sha256 bytes := (bytes ++ List.replicate 32 0).take 32
  json := json
  p256 := p256
  rpgp := rpgp published

theorem hexLaws (published : String → Option (List SignedPublicKey)) :
    HexLaws (crates published) where
  decode_encode := Hex.decode_encode

end Reference
end TvcGpg
