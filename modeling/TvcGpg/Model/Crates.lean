import TvcGpg.Model.Rpgp

/-!
# The crates the program is linked with

Everything the two programs call outside this repository, gathered in one
record: hexadecimal text, JSON in its two dialects, SHA-256, the P-256 keys of
the enclave, and OpenPGP.  The model takes such a record as a parameter.  What
a result relies on is stated next to it, as a hypothesis about these functions.
-/

namespace TvcGpg

open Lib

/-- A JSON number as `serde_json` keeps it. -/
inductive JsonNumber
  | posInt (n : UInt64)
  | negInt (n : Int64)
  | float (digits : String)
  deriving DecidableEq, Repr

/-- A JSON document as `serde_json` walks it: the fields of an object are in
the order of the text, repeated names included. -/
inductive Json
  | null
  | bool (b : Bool)
  | number (n : JsonNumber)
  | string (s : String)
  | array (items : List Json)
  | object (fields : List (String × Json))

/-- The JSON functions the program calls. -/
structure JsonText where
  /-- `serde_json`'s reader: `from_slice`, `from_str` and `from_reader` differ
  in where the bytes come from only. -/
  read : Bytes → Option Json
  /-- `serde_json`'s compact writer. -/
  write : Json → String
  /-- `qos_json::to_vec`, the canonical dialect receipts are signed in. -/
  canonical : Json → Option Bytes

/-- A P-256 pair that signs, held by the enclave. -/
structure P256Pair where
  octets : Bytes
  deriving DecidableEq, Repr

/-- The public half of a signing pair. -/
structure P256Public where
  octets : Bytes
  deriving DecidableEq, Repr

/-- A P-256 pair that opens envelopes, held by one run of the client. -/
structure P256EncryptPair where
  octets : Bytes
  deriving DecidableEq, Repr

/-- The public half of an envelope pair. -/
structure P256EncryptPublic where
  octets : Bytes
  deriving DecidableEq, Repr

/-- The `qos_p256` functions the program calls.  `encrypt` takes the randomness
it draws from the operating system as its last argument. -/
structure QosP256 where
  publicKey : P256Pair → P256Public
  publicToBytes : P256Public → Bytes
  publicFromBytes : Bytes → Option P256Public
  sign : P256Pair → Bytes → Option Bytes
  verify : P256Public → Bytes → Bytes → Bool
  encryptPublicKey : P256EncryptPair → P256EncryptPublic
  encryptPublicToBytes : P256EncryptPublic → Bytes
  encryptPublicFromBytes : Bytes → Option P256EncryptPublic
  encrypt : P256EncryptPublic → Bytes → Bytes → Option Bytes
  decrypt : P256EncryptPair → Bytes → Option Bytes

/-- Every function outside the repository. -/
structure Crates where
  /-- `qos_hex::encode`. -/
  hexEncode : Bytes → String
  /-- `qos_hex::decode`. -/
  hexDecode : String → Option Bytes
  /-- `Sha256::digest`. -/
  sha256 : Bytes → Bytes
  json : JsonText
  p256 : QosP256
  rpgp : Rpgp

namespace Json

/-- `value[name]` of a `serde_json::Value`: null unless `value` is an object
with that field.  A later field of the same name replaces an earlier one. -/
def index (value : Json) (name : String) : Json :=
  match value with
  | object fields => ((fields.reverse.find? fun field => field.1 = name).map Prod.snd).getD null
  | _ => null

/-- `Value::as_str`. -/
def asStr : Json → Option String
  | string s => some s
  | _ => none

/-- `Value::as_u64`, also what a `u64` field deserializes from. -/
def asU64 : Json → Option UInt64
  | number (.posInt n) => some n
  | _ => none

/-- The value of a field of a derived `Deserialize`: a field that is missing or
repeated is an error, whatever other fields there are. -/
def onlyField (fields : List (String × Json)) (name : String) : Option Json :=
  match fields.filter fun field => field.1 = name with
  | [field] => some field.2
  | _ => none

/-- The values of the named fields, as a derived `Deserialize` of a struct reads
them: from an object by name, or from an array of exactly that many values. -/
def structFields (names : List String) : Json → Option (List Json)
  | object fields => names.mapM (onlyField fields)
  | array items => if items.length = names.length then some items else none
  | _ => none

end Json
end TvcGpg
