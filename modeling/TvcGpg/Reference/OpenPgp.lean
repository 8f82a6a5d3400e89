import TvcGpg.EndToEnd.Laws

/-!
# Reference OpenPGP packets

A reader and a writer of the packets the two programs exchange, on the octets of
the OpenPGP message format: new format headers with one length octet, version 4
signatures with their two subpacket areas, version 3 ECDH PKESKs.

It is no replacement for rPGP, which both programs are linked with.  It shows that
what the results assume of rPGP can be met, and gives them packets to be applied
to: `nextPacket_writePkesk` is the law of PKESKs for these octets.
-/

namespace TvcGpg
namespace Reference

open Lib

/-! ## Headers -/

/-- Header octet of a PKESK. -/
def pkeskHeader : UInt8 := 0xC1

/-- Header octet of a signature. -/
def signatureHeader : UInt8 := 0xC2

/-- Split one packet off: its header octet, its body and what follows. -/
def splitPacket : Bytes → Option (UInt8 × Bytes × Bytes)
  | header :: length :: rest =>
      if length.toNat < 192 ∧ length.toNat ≤ rest.length then
        some (header, rest.take length.toNat, rest.drop length.toNat)
      else none
  | _ => none

/-- A packet with its header and its length octet. -/
def framePacket (header : UInt8) (body : Bytes) : Bytes :=
  header :: UInt8.ofNat body.length :: body

theorem splitPacket_framePacket (header : UInt8) {body : Bytes} (rest : Bytes)
    (hShort : body.length < 192) :
    splitPacket (framePacket header body ++ rest) = some (header, body, rest) := by
  have hLength : (UInt8.ofNat body.length).toNat = body.length := by
    rw [UInt8.toNat_ofNat']
    omega
  show splitPacket (header :: UInt8.ofNat body.length :: (body ++ rest)) = _
  rw [splitPacket, hLength, if_pos ⟨hShort, by simp⟩, List.take_left, List.drop_left]

/-! ## Fields -/

/-- A key id from its octets. -/
def keyIdOf (octets : Bytes) : Option KeyId :=
  if hLength : octets.length = 8 then some ⟨⟨octets.toArray, by simpa using hLength⟩⟩ else none

theorem keyIdOf_octets (keyId : KeyId) : keyIdOf keyId.octets.toList = some keyId := by
  obtain ⟨⟨octets, hSize⟩⟩ := keyId
  unfold keyIdOf
  rw [dif_pos (by simp [hSize])]
  simp [Vector.toList]

/-- A public key algorithm from its octet. -/
def algorithmOf (octet : UInt8) : PublicKeyAlgorithm :=
  if octet = 1 then .rsa else if octet = 18 then .ecdh else if octet = 22 then .eddsaLegacy
  else .other octet

/-- A hash algorithm from its octet. -/
def hashOf (octet : UInt8) : HashAlgorithm :=
  if octet = 8 then .sha256 else if octet = 9 then .sha384 else if octet = 10 then .sha512
  else .other octet

/-- A signature type from its octet. -/
def typeOf (octet : UInt8) : SignatureType :=
  if octet = 0x00 then .binary else if octet = 0x10 then .certGeneric
  else if octet = 0x11 then .certPersona else if octet = 0x12 then .certCasual
  else if octet = 0x13 then .certPositive else if octet = 0x18 then .subkeyBinding
  else if octet = 0x20 then .keyRevocation else if octet = 0x28 then .subkeyRevocation
  else if octet = 0x30 then .certRevocation else .other octet

/-- A number from two octets, the first one counting 256. -/
def number16 (high low : UInt8) : Nat :=
  256 * high.toNat + low.toNat

/-! ## Signatures -/

/-- The contents of a subpacket from its type and its octets. -/
def subpacketData (octet : UInt8) (contents : Bytes) : SubpacketData :=
  if octet = 2 then
    match contents with
    | [a, b, c, d] =>
        .signatureCreationTime (UInt32.ofNat (65536 * number16 a b + number16 c d))
    | _ => .other octet contents
  else if octet = 16 then
    match keyIdOf contents with
    | some keyId => .issuerKeyId keyId
    | none => .other octet contents
  else if octet = 33 then
    match contents with
    | version :: octets =>
        if version = 4 ∧ octets.length = 20 then .issuerFingerprint ⟨.v4, octets⟩
        else .other octet contents
    | [] => .other octet contents
  else .other octet contents

/-- The subpackets of an area, at most `fuel` of them. -/
def readSubpackets : Nat → Bytes → Option (List Subpacket)
  | _, [] => some []
  | 0, _ :: _ => none
  | fuel + 1, length :: area =>
      if length.toNat < 192 ∧ length.toNat ≤ area.length then
        match area.take length.toNat with
        | [] => none
        | octet :: contents =>
            (readSubpackets fuel (area.drop length.toNat)).map fun rest =>
              { isCritical := octet ≥ 0x80
                data := subpacketData (octet &&& 0x7F) contents } :: rest
      else none

/-- An area with its length in two octets: its subpackets and what follows. -/
def readArea : Bytes → Option (List Subpacket × Bytes)
  | high :: low :: rest =>
      if number16 high low ≤ rest.length then
        (readSubpackets rest.length (rest.take (number16 high low))).map fun subpackets =>
          (subpackets, rest.drop (number16 high low))
      else none
  | _ => none

/-- The issuer fingerprints among subpackets. -/
def issuerFingerprints (subpackets : List Subpacket) : List Fingerprint :=
  subpackets.filterMap fun subpacket =>
    match subpacket.data with
    | .issuerFingerprint fingerprint => some fingerprint
    | _ => none

/-- The issuer key ids among subpackets. -/
def issuerKeyIds (subpackets : List Subpacket) : List KeyId :=
  subpackets.filterMap fun subpacket =>
    match subpacket.data with
    | .issuerKeyId keyId => some keyId
    | _ => none

/-- The creation time among subpackets. -/
def creationTime (subpackets : List Subpacket) : Option UInt32 :=
  subpackets.findSome? fun subpacket =>
    match subpacket.data with
    | .signatureCreationTime seconds => some seconds
    | _ => none

/-- The body of a version 4 signature packet. -/
def readSignature : Bytes → Option Signature
  | version :: typ :: pubAlg :: hashAlg :: rest =>
      if version = 4 then
        (readArea rest).bind fun hashed =>
          (readArea hashed.2).map fun unhashed =>
            { config := some
                { pubAlg := algorithmOf pubAlg
                  hashedSubpackets := hashed.1
                  unhashedSubpackets := unhashed.1 }
              version := .v4
              typ := some (typeOf typ)
              hashAlg := some (hashOf hashAlg)
              issuerFingerprint := issuerFingerprints (hashed.1 ++ unhashed.1)
              issuerKeyId := issuerKeyIds (hashed.1 ++ unhashed.1)
              created := creationTime hashed.1
              keyExpirationTime := none
              keyFlags := { sign := false }
              body := unhashed.2 }
      else none
  | _ => none

/-! ## PKESKs -/

/-- The body of a version 3 ECDH PKESK to `keyId`.  The point is a number of 515
bits: a leading octet 4 and 64 more. -/
def pkeskBody (keyId : KeyId) (point wrapped : Bytes) : Bytes :=
  3 :: (keyId.octets.toList ++
    18 :: 0x02 :: 0x03 :: (point ++ UInt8.ofNat wrapped.length :: wrapped))

/-- The values of an ECDH PKESK. -/
def readEcdh : Bytes → Option PkeskBytes
  | high :: low :: rest =>
      if high = 0x02 ∧ low = 0x03 then
        match rest.drop sec1PointLen with
        | length :: wrapped =>
            if length.toNat = wrapped.length then some (.ecdh (rest.take sec1PointLen) wrapped)
            else none
        | [] => none
      else none
  | _ => none

/-- The body of a version 3 PKESK packet. -/
def readPkesk : Bytes → Option PublicKeyEncryptedSessionKey
  | version :: rest =>
      if version = 3 then
        match keyIdOf (rest.take 8), rest.drop 8 with
        | some keyId, octet :: contents =>
            some
              { version := .v3
                algorithm := some (algorithmOf octet)
                id := some keyId
                values := if octet = 18 then readEcdh contents else some (.other contents)
                body := [] }
        | _, _ => none
      else none
  | [] => none

/-- Write a version 3 ECDH PKESK; other PKESKs are not written. -/
def writePkesk (pkesk : PublicKeyEncryptedSessionKey) : Option Bytes :=
  match pkesk.version, pkesk.algorithm, pkesk.id, pkesk.values with
  | .v3, some .ecdh, some keyId, some (.ecdh point wrapped) =>
      some (framePacket pkeskHeader (pkeskBody keyId point wrapped))
  | _, _, _, _ => none

/-! ## Packets -/

/-- The packet with this header octet and body. -/
def readBody (header : UInt8) (body : Bytes) : Option Packet :=
  if header = pkeskHeader then (readPkesk body).map .publicKeyEncryptedSessionKey
  else if header = signatureHeader then (readSignature body).map .signature
  else some (.other header)

/-- The first packet and what follows it. -/
def nextPacket (bytes : Bytes) : Option (Option Packet × Bytes) :=
  match bytes with
  | [] => none
  | _ :: _ =>
      match splitPacket bytes with
      | none => some (none, [])
      | some (header, body, rest) => some (readBody header body, rest)

/-- The packet type of a header octet. -/
def tagOf (header : UInt8) : Tag :=
  if header = pkeskHeader then .publicKeyEncryptedSessionKey
  else if header = 0xD2 then .symEncryptedProtectedData
  else if header = 0xD4 then .gnupgAeadData
  else if header = 0xC9 then .symEncryptedData
  else .other header

/-- A packet as the walk of a message meets it. -/
def messagePacket (header : UInt8) (body : Bytes) : MessagePacket where
  tag := tagOf header
  parsed := readBody header body
  firstOctet := body.head?
  drains := true

/-- The packets of a message, at most `fuel` of them. -/
def messagePackets : Nat → Bytes → List (Option MessagePacket)
  | 0, _ => []
  | _, [] => []
  | fuel + 1, octet :: rest =>
      match splitPacket (octet :: rest) with
      | none => [none]
      | some (header, body, rest) => some (messagePacket header body) :: messagePackets fuel rest

/-- The first packet of a message, and the packets behind it. -/
theorem messagePackets_framePacket (fuel : Nat) (header : UInt8) {body : Bytes} (rest : Bytes)
    (hShort : body.length < 192) :
    messagePackets (fuel + 1) (framePacket header body ++ rest) =
      some (messagePacket header body) :: messagePackets fuel rest := by
  have hSplit := splitPacket_framePacket header rest hShort
  change splitPacket (header :: (UInt8.ofNat body.length :: body ++ rest)) = _ at hSplit
  show (match splitPacket (header :: (UInt8.ofNat body.length :: body ++ rest)) with
    | none => [none]
    | some (header, body, rest) => some (messagePacket header body) :: messagePackets fuel rest) = _
  rw [hSplit]

/-! ## Packets as their octets arrive -/

/-- A packet with a length in its header, of whose body some octets may be missing. -/
def streamPacket (header : UInt8) (length : Nat) (body : Bytes) : MessagePacket where
  tag := tagOf header
  parsed := if length ≤ body.length then readBody header (body.take length) else none
  firstOctet := (body.take length).head?
  drains := length ≤ body.length

/-- The packets of a message whose end may be missing, at most `fuel` of them. -/
def streamPackets : Nat → Bytes → List (Option MessagePacket)
  | fuel + 1, header :: length :: body =>
      if length.toNat < 192 then
        some (streamPacket header length.toNat body) ::
          streamPackets fuel (body.drop length.toNat)
      else [none]
  | _ + 1, [_] => [none]
  | _, _ => []

/-- How many octets stand up to the first octet of the body of a packet: its header, its
length and that octet, and whole packets in front of it. -/
def streamReach : Nat → Bytes → Nat
  | 0, _ => 3
  | index + 1, _ :: length :: body =>
      2 + (length.toNat + streamReach index (body.drop length.toNat))
  | _ + 1, _ => 0

/-- A packet of the stream has a header and a length. -/
theorem streamPackets_eq_cons {fuel : Nat} {bytes : Bytes} {index : Nat}
    {packet : MessagePacket} (hAt : (streamPackets fuel bytes)[index]? = some (some packet)) :
    ∃ rest header length body, fuel = rest + 1 ∧ bytes = header :: length :: body ∧
      length.toNat < 192 ∧
        streamPackets fuel bytes =
          some (streamPacket header length.toNat body) ::
            streamPackets rest (body.drop length.toNat) := by
  cases fuel with
  | zero => simp [streamPackets] at hAt
  | succ fuel =>
      match bytes with
      | [] => simp [streamPackets] at hAt
      | [octet] =>
          cases index <;> simp [streamPackets] at hAt
      | header :: length :: body =>
          by_cases hShort : length.toNat < 192
          · refine ⟨fuel, header, length, body, rfl, rfl, hShort, ?_⟩
            rw [streamPackets, if_pos hShort]
          · rw [streamPackets, if_neg hShort] at hAt
            cases index <;> simp at hAt

/-- Octets that agree up to somewhere behind a whole packet have the same packet there, and
go on to agree behind it. -/
theorem agree_packet {header length : UInt8} {body bytes' : Bytes} {reach : Nat}
    (hWhole : length.toNat ≤ body.length)
    (hAgree : bytes'.take (2 + (length.toNat + reach)) =
      (header :: length :: body).take (2 + (length.toNat + reach))) :
    ∃ body', bytes' = header :: length :: body' ∧
      streamPacket header length.toNat body' = streamPacket header length.toNat body ∧
        (body'.drop length.toNat).take reach = (body.drop length.toNat).take reach := by
  rw [Nat.add_comm 2, List.take_succ_cons, List.take_succ_cons] at hAgree
  match bytes' with
  | [] => simp at hAgree
  | [octet] => simp at hAgree
  | header' :: length' :: body' =>
      rw [List.take_succ_cons, List.take_succ_cons] at hAgree
      obtain ⟨rfl, hTail⟩ := List.cons.inj hAgree
      obtain ⟨rfl, hBody⟩ := List.cons.inj hTail
      refine ⟨body', rfl, ?_, ?_⟩
      · have hFront : body'.take length'.toNat = body.take length'.toNat := by
          have hTake := congrArg (List.take length'.toNat) hBody
          rwa [List.take_take, List.take_take, Nat.min_eq_left (by omega)] at hTake
        have hWhole' : length'.toNat ≤ body'.length := by
          have hLength := congrArg List.length hFront
          rw [List.length_take, List.length_take] at hLength
          omega
        unfold streamPacket
        rw [hFront, decide_eq_true hWhole', decide_eq_true hWhole, if_pos hWhole',
          if_pos hWhole]
      · have hDrop := congrArg (List.drop length'.toNat) hBody
        rwa [List.drop_take, List.drop_take, Nat.add_sub_cancel_left] at hDrop

/-- Messages that agree up to the first octet of the body of a packet have the same packets
in front of it, and a packet of the same type with that first octet there. -/
theorem streamPackets_agree {index fuel fuel' : Nat} {bytes bytes' : Bytes}
    {packet : MessagePacket} {version : UInt8} (hFuel' : bytes'.length ≤ fuel')
    (hAt : (streamPackets fuel bytes)[index]? = some (some packet))
    (hVersion : packet.firstOctet = some version)
    (hAgree : bytes'.take (streamReach index bytes) = bytes.take (streamReach index bytes)) :
    (streamPackets fuel' bytes').take index = (streamPackets fuel bytes).take index ∧
      ∃ packet', (streamPackets fuel' bytes')[index]? = some (some packet') ∧
        packet'.tag = packet.tag ∧ packet'.firstOctet = packet.firstOctet := by
  induction index generalizing fuel fuel' bytes bytes' with
  | zero =>
      obtain ⟨fuel, header, length, body, rfl, rfl, hShort, hPackets⟩ := streamPackets_eq_cons hAt
      rw [hPackets, List.getElem?_cons_zero, Option.some.injEq, Option.some.injEq] at hAt
      subst hAt
      obtain ⟨tail, rfl⟩ : ∃ tail, body = version :: tail := by
        cases body with
        | nil => simp [streamPacket] at hVersion
        | cons first tail =>
            refine ⟨tail, ?_⟩
            cases hLength : length.toNat with
            | zero => simp [streamPacket, hLength] at hVersion
            | succ count =>
                simp only [streamPacket, hLength, List.take_succ_cons, List.head?_cons,
                  Option.some.injEq] at hVersion
                rw [hVersion]
      -- the three octets are those of the other message too
      obtain ⟨tail', rfl⟩ : ∃ tail', bytes' = header :: length :: version :: tail' := by
        refine ⟨bytes'.drop 3, ?_⟩
        calc bytes' = bytes'.take 3 ++ bytes'.drop 3 := (List.take_append_drop 3 bytes').symm
          _ = header :: length :: version :: bytes'.drop 3 := by rw [show
                bytes'.take 3 = [header, length, version] from hAgree]; rfl
      cases fuel' with
      | zero => simp at hFuel'
      | succ fuel' =>
          refine ⟨by simp, streamPacket header length.toNat (version :: tail'), ?_, rfl, ?_⟩
          · rw [streamPackets, if_pos hShort, List.getElem?_cons_zero]
          · cases hLength : length.toNat with
            | zero => simp [streamPacket, hLength] at hVersion
            | succ count => simp [streamPacket]
  | succ index ih =>
      obtain ⟨fuel, header, length, body, rfl, rfl, hShort, hPackets⟩ := streamPackets_eq_cons hAt
      rw [hPackets, List.getElem?_cons_succ] at hAt
      -- something follows the first packet, so nothing of it is missing
      have hWhole : length.toNat ≤ body.length := by
        obtain ⟨_, _, _, _, -, hRest, -⟩ := streamPackets_eq_cons hAt
        by_contra hMissing
        rw [List.drop_eq_nil_of_le (by omega)] at hRest
        cases hRest
      have hReach : streamReach (index + 1) (header :: length :: body) =
          2 + (length.toNat + streamReach index (body.drop length.toNat)) := rfl
      rw [hReach] at hAgree
      obtain ⟨body', rfl, hSame, hBack⟩ := agree_packet hWhole hAgree
      cases fuel' with
      | zero => simp at hFuel'
      | succ fuel' =>
          have hRest : (body'.drop length.toNat).length ≤ fuel' := by
            rw [List.length_drop]
            simp only [List.length_cons] at hFuel'
            omega
          obtain ⟨hTake, packet', hAt', hTag, hOctet⟩ := ih hRest hAt hBack
          refine ⟨?_, packet', ?_, hTag, hOctet⟩
          · rw [hPackets, streamPackets, if_pos hShort, List.take_succ_cons,
              List.take_succ_cons, hTake, hSame]
          · rw [streamPackets, if_pos hShort, List.getElem?_cons_succ, hAt']

theorem framePacket_cons (header : UInt8) (body rest : Bytes) :
    framePacket header body ++ rest = header :: UInt8.ofNat body.length :: (body ++ rest) := rfl

theorem toNat_ofNat_of_short {body : Bytes} (hShort : body.length < 192) :
    (UInt8.ofNat body.length).toNat = body.length := by
  rw [UInt8.toNat_ofNat']
  omega

/-- A whole packet at the front of the stream is met as a packet of a message is. -/
theorem streamPackets_framePacket (fuel : Nat) (header : UInt8) {body : Bytes} (rest : Bytes)
    (hShort : body.length < 192) :
    streamPackets (fuel + 1) (framePacket header body ++ rest) =
      some (messagePacket header body) :: streamPackets fuel rest := by
  have hWhole : body.length ≤ (body ++ rest).length := by simp
  rw [framePacket_cons, streamPackets, toNat_ofNat_of_short hShort, if_pos hShort, List.drop_left]
  unfold streamPacket messagePacket
  rw [if_pos hWhole, List.take_left, decide_eq_true hWhole]

/-- What stands behind a whole packet is reached over its octets. -/
theorem streamReach_framePacket (index : Nat) (header : UInt8) {body : Bytes} (rest : Bytes)
    (hShort : body.length < 192) :
    streamReach (index + 1) (framePacket header body ++ rest) =
      (framePacket header body).length + streamReach index rest := by
  rw [framePacket_cons, streamReach, toNat_ofNat_of_short hShort, List.drop_left]
  simp only [framePacket, List.length_cons]
  omega

theorem length_pkeskBody (keyId : KeyId) (point wrapped : Bytes) :
    (pkeskBody keyId point wrapped).length = point.length + wrapped.length + 13 := by
  simp only [pkeskBody, List.length_cons, List.length_append, Vector.length_toList]
  omega

theorem readEcdh_pkeskBody {point wrapped : Bytes} (hPoint : point.length = sec1PointLen)
    (hWrapped : wrapped.length < 256) :
    readEcdh (0x02 :: 0x03 :: (point ++ UInt8.ofNat wrapped.length :: wrapped)) =
      some (.ecdh point wrapped) := by
  have hLength : (UInt8.ofNat wrapped.length).toNat = wrapped.length := by
    rw [UInt8.toNat_ofNat']
    omega
  rw [readEcdh, if_pos ⟨rfl, rfl⟩, List.drop_left' hPoint, List.take_left' hPoint]
  simp only [hLength, if_true]

theorem readPkesk_pkeskBody {keyId : KeyId} {point wrapped : Bytes}
    (hPoint : point.length = sec1PointLen) (hWrapped : wrapped.length < 256) :
    readPkesk (pkeskBody keyId point wrapped) =
      some
        { version := .v3
          algorithm := some .ecdh
          id := some keyId
          values := some (.ecdh point wrapped)
          body := [] } := by
  have hKeyId : keyId.octets.toList.length = 8 := by simp
  rw [pkeskBody, readPkesk, if_pos rfl, List.take_left' hKeyId, List.drop_left' hKeyId,
    keyIdOf_octets]
  simp only [if_true, readEcdh_pkeskBody hPoint hWrapped]
  rfl

/-- The packet of a version 3 ECDH PKESK is one packet. -/
theorem nextPacket_pkesk (keyId : KeyId) {point wrapped : Bytes}
    (hPoint : point.length = sec1PointLen) (hWrapped : wrapped.length ≤ maxWrappedKeyLen) :
    nextPacket (framePacket pkeskHeader (pkeskBody keyId point wrapped)) =
      some
        (some
          (.publicKeyEncryptedSessionKey
            { version := .v3
              algorithm := some .ecdh
              id := some keyId
              values := some (.ecdh point wrapped)
              body := [] }), []) := by
  have hLimit : wrapped.length ≤ 64 := hWrapped
  have hLength : point.length = 65 := hPoint
  have hShort : (pkeskBody keyId point wrapped).length < 192 := by
    rw [length_pkeskBody]
    omega
  have hSplit := splitPacket_framePacket pkeskHeader [] hShort
  have hByte : wrapped.length < 256 := by omega
  rw [List.append_nil] at hSplit
  show (match splitPacket (framePacket pkeskHeader (pkeskBody keyId point wrapped)) with
    | none => some (none, [])
    | some (header, body, rest) => some (readBody header body, rest)) = _
  rw [hSplit]
  simp only [readBody, if_true, readPkesk_pkeskBody hPoint hByte, Option.map_some]

/-- A written PKESK is read back as one packet. -/
theorem nextPacket_writePkesk {pkesk : PublicKeyEncryptedSessionKey} {point wrapped : Bytes}
    {keyId : KeyId} (hEcdh : EcdhPkesk pkesk point wrapped) (hId : pkesk.id = some keyId) :
    ∃ bytes body, writePkesk pkesk = some bytes ∧
      nextPacket bytes =
        some (some (.publicKeyEncryptedSessionKey { pkesk with body := body }), []) := by
  refine ⟨framePacket pkeskHeader (pkeskBody keyId point wrapped), [], ?_, ?_⟩
  · unfold writePkesk
    rw [hEcdh.version, hEcdh.algorithm, hId, hEcdh.values]
  · rw [nextPacket_pkesk keyId hEcdh.pointLength hEcdh.wrappedLength.2.1, ← hEcdh.version,
      ← hEcdh.algorithm, ← hId, ← hEcdh.values]

end Reference
end TvcGpg
