import TvcGpg.Model.Client

/-!
# What the two programs rely on

The client and the app meet only through the crates both are linked with.  Each
structure here is what one of these crates promises and the two programs need:
that a reader gives back what a writer was given, that an envelope opens, that a
signature verifies.  The results about both sides take them as hypotheses.

Nothing is promised about input no writer made: a law says what happens to
honest text, and the results about adversaries do not use them for anything else.
-/

namespace TvcGpg

open Lib Lib.Text Lib.Fallible

/-- `qos_hex` reads what it wrote. -/
structure HexLaws (crates : Crates) : Prop where
  decode_encode : ∀ bytes, crates.hexDecode (crates.hexEncode bytes) = some bytes

/-- Different bytes have different hex. -/
theorem HexLaws.encode_injective {crates : Crates} (hHex : HexLaws crates) :
    Function.Injective crates.hexEncode := by
  intro a b hEncode
  have hDecode := hHex.decode_encode a
  rw [hEncode, hHex.decode_encode] at hDecode
  exact (Option.some.inj hDecode).symm

/-- Every value is a string or a natural number. -/
def FlatFields (fields : List (String × Json)) : Prop :=
  ∀ field ∈ fields, (∃ s, field.2 = .string s) ∨ ∃ n, field.2 = .number (.posInt n)

/-- Reading a document back finds its string fields. -/
def KeepsStrings (fields : List (String × Json)) (read : Json) : Prop :=
  ∀ name s, (name, Json.string s) ∈ fields → read.index name = .string s

/-- `serde_json` reads what it wrote, and of what `qos_json` wrote it reads every
string field back. -/
structure JsonLaws (json : JsonText) : Prop where
  read_write : ∀ fields, FlatFields fields →
    json.read (asBytes (json.write (.object fields))) = some (.object fields)
  canonical_text : ∀ fields, FlatFields fields → (fields.map Prod.fst).Nodup →
    ∃ text, json.canonical (.object fields) = some (asBytes text)
  read_canonical : ∀ fields bytes, FlatFields fields → (fields.map Prod.fst).Nodup →
    json.canonical (.object fields) = some bytes →
      ∃ read, json.read bytes = some read ∧ KeepsStrings fields read

/-- `qos_p256` reads the public half of an envelope pair it wrote, opens what was
wrapped to it, and verifies its own signatures. -/
structure P256Laws (p256 : QosP256) : Prop where
  encryptPublic_length : ∀ pair,
    (p256.encryptPublicToBytes (p256.encryptPublicKey pair)).length = sec1PointLen
  encryptPublic_head : ∀ pair,
    (p256.encryptPublicToBytes (p256.encryptPublicKey pair)).head? = some sec1Uncompressed
  encryptPublic_read : ∀ pair,
    p256.encryptPublicFromBytes (p256.encryptPublicToBytes (p256.encryptPublicKey pair)) =
      some (p256.encryptPublicKey pair)
  encrypt_opens : ∀ pair plain entropy, ∃ envelope,
    p256.encrypt (p256.encryptPublicKey pair) plain entropy = some envelope ∧
      p256.decrypt pair envelope = some plain
  sign_verifies : ∀ pair message, ∃ signature, p256.sign pair message = some signature ∧
    p256.verify (p256.publicKey pair) message signature = true

/-- A version 3 ECDH PKESK to some key, of the lengths the app accepts. -/
structure EcdhPkesk (pkesk : PublicKeyEncryptedSessionKey) (point wrapped : Bytes) : Prop where
  version : pkesk.version = .v3
  algorithm : pkesk.algorithm = some .ecdh
  values : pkesk.values = some (.ecdh point wrapped)
  pointLength : point.length = sec1PointLen
  pointHead : point.head? = some sec1Uncompressed
  wrappedLength : minWrappedKeyLen ≤ wrapped.length ∧ wrapped.length ≤ maxWrappedKeyLen ∧
    wrapped.length % 8 = 0

/-- rPGP reads a PKESK it wrote back as one packet with the same values. -/
structure PkeskLaws (rpgp : Rpgp) : Prop where
  read_write : ∀ pkesk point wrapped keyId, EcdhPkesk pkesk point wrapped →
    pkesk.id = some keyId → ∃ bytes body, rpgp.writePkesk pkesk = some bytes ∧
      rpgp.nextPacket bytes =
        some (some (.publicKeyEncryptedSessionKey { pkesk with body := body }), [])

theorem flatFields_nil : FlatFields [] := by
  intro field hField
  cases hField

theorem FlatFields.string {name s : String} {fields : List (String × Json)}
    (hFields : FlatFields fields) : FlatFields ((name, .string s) :: fields) := by
  intro field hField
  rcases List.mem_cons.mp hField with rfl | hField
  · exact Or.inl ⟨s, rfl⟩
  · exact hFields field hField

theorem FlatFields.natural {name : String} {n : UInt64} {fields : List (String × Json)}
    (hFields : FlatFields fields) : FlatFields ((name, .number (.posInt n)) :: fields) := by
  intro field hField
  rcases List.mem_cons.mp hField with rfl | hField
  · exact Or.inr ⟨n, rfl⟩
  · exact hFields field hField

end TvcGpg
