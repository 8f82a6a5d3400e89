import TvcGpg.EndToEnd.HonestRun

/-!
# The walk of a message

`sessionKeyPackets` reads the packets of a message one after the other and stops at
the first one that holds encrypted data.  The walk is exact: it succeeds when that
packet is a version 1 SEIPD and everything before it reads, and it returns the
session key packets before it.  It is lazy: nothing behind the version octet of that
packet has a say in the result.

Octets come in through rPGP's reader only.  `ReadsAhead` is what is asked of it: a
packet is yielded from the octets in front of it and its own, and the header and the
version octet of encrypted data before anything behind them is read.
-/

namespace TvcGpg
namespace Client

open Lib Lib.Fallible

/-! ## The packets of a message -/

/-- A packet of one of the three types that hold encrypted data. -/
def isEncryptedData (packet : Option MessagePacket) : Bool :=
  match packet with
  | none => false
  | some body =>
      match body.tag with
      | .symEncryptedProtectedData | .gnupgAeadData | .symEncryptedData => true
      | .publicKeyEncryptedSessionKey | .other _ => false

/-- A packet that reads: a session key packet parses, any other packet reads to its
end. -/
def Reads (packet : Option MessagePacket) : Prop :=
  ∃ body, packet = some body ∧
    match body.tag with
    | .publicKeyEncryptedSessionKey => body.parsed.isSome
    | _ => body.drains

/-- The session key packet a packet parses as. -/
def sessionKeyPacketOf (packet : Option MessagePacket) : Option PublicKeyEncryptedSessionKey :=
  match packet with
  | none => none
  | some body =>
      match body.tag, body.parsed with
      | .publicKeyEncryptedSessionKey, some (.publicKeyEncryptedSessionKey pkesk) => some pkesk
      | _, _ => none

/-- `container` is the first packet that holds encrypted data, and `before` is what
stands before it. -/
def FirstEncryptedData (packets before : List (Option MessagePacket))
    (container : MessagePacket) : Prop :=
  ∃ after, packets = before ++ some container :: after ∧
    isEncryptedData (some container) = true ∧ ∀ packet ∈ before, isEncryptedData packet = false

/-- A SEIPD packet of version 1. -/
def Opens (container : MessagePacket) : Prop :=
  container.tag = .symEncryptedProtectedData ∧ container.firstOctet = some 1

/-! ## One packet -/

/-- Over a packet that reads and is no encrypted data the walk goes on, with the session key
packet if it is one. -/
theorem walkPackets_cons_of_reads {packet : Option MessagePacket}
    (hPlain : isEncryptedData packet = false) (hReads : Reads packet)
    (found : List PublicKeyEncryptedSessionKey) (rest : List (Option MessagePacket)) :
    walkPackets found (packet :: rest) =
      walkPackets (found ++ (sessionKeyPacketOf packet).toList) rest := by
  obtain ⟨⟨tag, parsed, firstOctet, drains⟩, rfl, hBody⟩ := hReads
  cases tag with
  | publicKeyEncryptedSessionKey =>
      cases parsed with
      | none => cases hBody
      | some parsed =>
          cases parsed with
          | publicKeyEncryptedSessionKey pkesk => rfl
          | signature signature => simp [walkPackets, sessionKeyPacketOf]
          | other octet => simp [walkPackets, sessionKeyPacketOf]
  | other octet =>
      obtain rfl : drains = true := hBody
      simp [walkPackets, sessionKeyPacketOf]
  | symEncryptedProtectedData => cases hPlain
  | gnupgAeadData => cases hPlain
  | symEncryptedData => cases hPlain

/-- At a packet that does not read and is no encrypted data the walk stops, whatever was
found and whatever follows. -/
theorem walkPackets_cons_of_not_reads {packet : Option MessagePacket}
    (hPlain : isEncryptedData packet = false) (hNot : ¬ Reads packet) :
    ∃ error, ∀ found rest, walkPackets found (packet :: rest) = .error error := by
  cases packet with
  | none => exact ⟨_, fun _ _ => rfl⟩
  | some body =>
      obtain ⟨tag, parsed, firstOctet, drains⟩ := body
      cases tag with
      | publicKeyEncryptedSessionKey =>
          cases parsed with
          | none => exact ⟨_, fun _ _ => rfl⟩
          | some parsed => exact absurd ⟨_, rfl, rfl⟩ hNot
      | other octet =>
          cases drains with
          | true => exact absurd ⟨_, rfl, rfl⟩ hNot
          | false => exact ⟨_, fun _ _ => rfl⟩
      | symEncryptedProtectedData => cases hPlain
      | gnupgAeadData => cases hPlain
      | symEncryptedData => cases hPlain

/-- At encrypted data the walk stops: with what was found when it opens, with an error
otherwise. -/
theorem walkPackets_container {container : MessagePacket}
    (hEncrypted : isEncryptedData (some container) = true) :
    (Opens container ∧ ∀ found rest, walkPackets found (some container :: rest) = .ok found) ∨
      (¬ Opens container ∧
        ∃ error, ∀ found rest, walkPackets found (some container :: rest) = .error error) := by
  obtain ⟨tag, parsed, firstOctet, drains⟩ := container
  cases tag with
  | publicKeyEncryptedSessionKey => cases hEncrypted
  | other octet => cases hEncrypted
  | gnupgAeadData =>
      refine Or.inr ⟨?_, _, fun _ _ => rfl⟩
      intro hOpens
      cases hOpens.1
  | symEncryptedData =>
      refine Or.inr ⟨?_, _, fun _ _ => rfl⟩
      intro hOpens
      cases hOpens.1
  | symEncryptedProtectedData =>
      cases firstOctet with
      | none =>
          refine Or.inr ⟨?_, _, fun _ _ => rfl⟩
          intro hOpens
          cases hOpens.2
      | some version =>
          by_cases hVersion : version = 1
          · subst hVersion
            exact Or.inl ⟨⟨rfl, rfl⟩, fun _ _ => rfl⟩
          · refine Or.inr ⟨?_, aeadMessage, ?_⟩
            · intro hOpens
              exact hVersion (Option.some.inj hOpens.2)
            · intro found rest
              exact if_pos hVersion

/-- The type and the version octet of encrypted data are all the walk looks at. -/
theorem walkPackets_container_congr {container container' : MessagePacket}
    (hEncrypted : isEncryptedData (some container) = true)
    (hTag : container'.tag = container.tag)
    (hOctet : container'.firstOctet = container.firstOctet)
    (found : List PublicKeyEncryptedSessionKey) (rest rest' : List (Option MessagePacket)) :
    walkPackets found (some container' :: rest') = walkPackets found (some container :: rest) := by
  obtain ⟨tag, parsed, firstOctet, drains⟩ := container
  obtain ⟨tag', parsed', firstOctet', drains'⟩ := container'
  obtain rfl : tag' = tag := hTag
  obtain rfl : firstOctet' = firstOctet := hOctet
  cases tag' with
  | publicKeyEncryptedSessionKey => cases hEncrypted
  | other octet => cases hEncrypted
  | symEncryptedProtectedData => rfl
  | gnupgAeadData => rfl
  | symEncryptedData => rfl

/-! ## The packets before the encrypted data -/

/-- Over packets that read the walk collects the session key packets in order. -/
theorem walkPackets_append_of_reads {before : List (Option MessagePacket)}
    (hPlain : ∀ packet ∈ before, isEncryptedData packet = false)
    (hReads : ∀ packet ∈ before, Reads packet)
    (found : List PublicKeyEncryptedSessionKey) (rest : List (Option MessagePacket)) :
    walkPackets found (before ++ rest) =
      walkPackets (found ++ before.filterMap sessionKeyPacketOf) rest := by
  induction before generalizing found with
  | nil => simp
  | cons packet before ih =>
      rw [List.forall_mem_cons] at hPlain hReads
      rw [List.cons_append, walkPackets_cons_of_reads hPlain.1 hReads.1, ih hPlain.2 hReads.2,
        List.filterMap_cons]
      cases sessionKeyPacketOf packet <;> simp

/-- At the first packet that does not read the walk stops. -/
theorem walkPackets_append_of_not_reads {before : List (Option MessagePacket)}
    (hPlain : ∀ packet ∈ before, isEncryptedData packet = false)
    (hNot : ¬ ∀ packet ∈ before, Reads packet) :
    ∃ error, ∀ found rest, walkPackets found (before ++ rest) = .error error := by
  induction before with
  | nil => exact absurd (by simp) hNot
  | cons packet before ih =>
      rw [List.forall_mem_cons] at hPlain hNot
      by_cases hFirst : Reads packet
      · obtain ⟨error, hError⟩ := ih hPlain.2 fun hRest => hNot ⟨hFirst, hRest⟩
        refine ⟨error, ?_⟩
        intro found rest
        rw [List.cons_append, walkPackets_cons_of_reads hPlain.1 hFirst]
        exact hError _ rest
      · obtain ⟨error, hError⟩ := walkPackets_cons_of_not_reads hPlain.1 hFirst
        exact ⟨error, fun found rest => hError found (before ++ rest)⟩

/-- A walk that meets no encrypted data fails. -/
theorem walkPackets_of_not_encrypted {packets : List (Option MessagePacket)}
    (hPlain : ∀ packet ∈ packets, isEncryptedData packet = false)
    (found : List PublicKeyEncryptedSessionKey) :
    ∃ error, walkPackets found packets = .error error := by
  by_cases hReads : ∀ packet ∈ packets, Reads packet
  · have hEnd := walkPackets_append_of_reads hPlain hReads found []
    rw [List.append_nil] at hEnd
    exact ⟨_, hEnd⟩
  · obtain ⟨error, hError⟩ := walkPackets_append_of_not_reads hPlain hReads
    have hEnd := hError found []
    rw [List.append_nil] at hEnd
    exact ⟨error, hEnd⟩

/-- What the walk of a message with encrypted data returns. -/
theorem walkPackets_eq_ok_iff {packets before : List (Option MessagePacket)}
    {container : MessagePacket} (hFirst : FirstEncryptedData packets before container)
    {found : List PublicKeyEncryptedSessionKey} :
    walkPackets [] packets = .ok found ↔
      Opens container ∧ (∀ packet ∈ before, Reads packet) ∧
        found = before.filterMap sessionKeyPacketOf := by
  obtain ⟨after, rfl, hEncrypted, hPlain⟩ := hFirst
  by_cases hReads : ∀ packet ∈ before, Reads packet
  · rw [walkPackets_append_of_reads hPlain hReads, List.nil_append]
    rcases walkPackets_container hEncrypted with ⟨hOpens, hOk⟩ | ⟨hNot, error, hError⟩
    · rw [hOk]
      constructor
      · intro hFound
        exact ⟨hOpens, hReads, (Except.ok.inj hFound).symm⟩
      · intro hAll
        rw [hAll.2.2]
    · rw [hError]
      constructor
      · intro hFound
        cases hFound
      · intro hAll
        exact absurd hAll.1 hNot
  · obtain ⟨error, hError⟩ := walkPackets_append_of_not_reads hPlain hReads
    rw [hError]
    constructor
    · intro hFound
      cases hFound
    · intro hAll
      exact absurd hAll.2.1 hReads

/-- Every sequence of packets has a first one that holds encrypted data, or none. -/
theorem firstEncryptedData_or (packets : List (Option MessagePacket)) :
    (∃ before container, FirstEncryptedData packets before container) ∨
      ∀ packet ∈ packets, isEncryptedData packet = false := by
  induction packets with
  | nil => exact Or.inr (by simp)
  | cons packet packets ih =>
      cases hPacket : isEncryptedData packet with
      | true =>
          cases packet with
          | none => cases hPacket
          | some container => exact Or.inl ⟨[], container, packets, rfl, hPacket, by simp⟩
      | false =>
          rcases ih with ⟨before, container, after, rfl, hEncrypted, hPlain⟩ | hPlain
          · refine Or.inl ⟨packet :: before, container, after, rfl, hEncrypted, ?_⟩
            exact List.forall_mem_cons.mpr ⟨hPacket, hPlain⟩
          · exact Or.inr (List.forall_mem_cons.mpr ⟨hPacket, hPlain⟩)

/-! ## The octets of a message -/

/-- rPGP yields the packets of a message from its octets in order.  `reach bytes index` is how
many octets of `bytes` have been read when the first octet of the packet with this index has;
whoever agrees on these octets agrees on the packets before it, and on its type and first
octet. -/
structure ReadsInOrder (rpgp : Rpgp) (reach : Bytes → Nat → Nat) : Prop where
  agree : ∀ {bytes bytes' index container version},
    (rpgp.messagePackets bytes)[index]? = some (some container) →
      isEncryptedData (some container) = true → container.firstOctet = some version →
        bytes'.take (reach bytes index) = bytes.take (reach bytes index) →
          (rpgp.messagePackets bytes').take index = (rpgp.messagePackets bytes).take index ∧
            ∃ container', (rpgp.messagePackets bytes')[index]? = some (some container') ∧
              container'.tag = container.tag ∧ container'.firstOctet = container.firstOctet

end Client

/-! ## A reader of octets as they arrive -/

namespace Reference

open Lib Client

/-- The reference crates, with a reader for messages whose end may be missing. -/
def streamCrates : Crates :=
  { crates (fun _ => none) with
    rpgp :=
      { rpgp (fun _ => none) with
        messagePackets := fun bytes => streamPackets bytes.length bytes } }

theorem streamCrates_messagePackets (bytes : Bytes) :
    streamCrates.rpgp.messagePackets bytes = streamPackets bytes.length bytes := rfl

theorem readsInOrder_streamCrates :
    ReadsInOrder streamCrates.rpgp fun bytes index => streamReach index bytes where
  agree hAt _ hVersion hAgree := streamPackets_agree (Nat.le_refl _) hAt hVersion hAgree

/-- The session key packet of the reference request, as the walk of a message meets it. -/
def pkeskPacket : MessagePacket :=
  messagePacket pkeskHeader (pkeskBody teamSubkey.legacyKeyId (point [0x0B]) wrappedKey)

theorem length_pkeskPacket :
    (pkeskBody teamSubkey.legacyKeyId (point [0x0B]) wrappedKey).length < 192 := by
  rw [length_pkeskBody, ecdhPkesk.pointLength]
  decide

theorem sessionKeyPacketOf_pkeskPacket : sessionKeyPacketOf (some pkeskPacket) = some pkesk := by
  have hParsed : readPkesk (pkeskBody teamSubkey.legacyKeyId (point [0x0B]) wrappedKey) =
      some pkesk :=
    readPkesk_pkeskBody ecdhPkesk.pointLength (by decide)
  unfold pkeskPacket messagePacket readBody
  rw [if_pos rfl, hParsed]
  rfl

/-- Behind that packet, a version 1 SEIPD packet of which `rest` has arrived. -/
def messageUpTo (rest : Bytes) : Bytes := pkeskBytes ++ (0xD2 :: 3 :: 1 :: rest)

/-- However much of it has arrived, the first encrypted data of the message opens. -/
theorem firstEncryptedData_messageUpTo (rest : Bytes) :
    ∃ container, FirstEncryptedData (streamCrates.rpgp.messagePackets (messageUpTo rest))
        [some pkeskPacket] container ∧ Opens container := by
  have hLength : (messageUpTo rest).length =
      (pkeskBytes.length + rest.length + 1) + 1 + 1 := by
    unfold messageUpTo
    rw [List.length_append]
    simp only [List.length_cons]
    omega
  have hRest : streamPackets (pkeskBytes.length + rest.length + 1 + 1) (0xD2 :: 3 :: 1 :: rest) =
      some (streamPacket 0xD2 (3 : UInt8).toNat (1 :: rest)) ::
        streamPackets (pkeskBytes.length + rest.length + 1)
          ((1 :: rest).drop (3 : UInt8).toNat) := by
    rw [streamPackets, if_pos (by decide)]
  refine ⟨streamPacket 0xD2 (3 : UInt8).toNat (1 :: rest),
    ⟨streamPackets (pkeskBytes.length + rest.length + 1) ((1 :: rest).drop (3 : UInt8).toNat),
      ?_, rfl, ?_⟩, rfl, rfl⟩
  · have hFront := streamPackets_framePacket (pkeskBytes.length + rest.length + 1 + 1) pkeskHeader
      (0xD2 :: 3 :: 1 :: rest) length_pkeskPacket
    rw [hRest] at hFront
    rw [streamCrates_messagePackets, hLength, messageUpTo, pkeskBytes]
    exact hFront
  · intro packet hPacket
    obtain rfl := List.mem_singleton.mp hPacket
    rfl

/-- The version octet stands three octets behind the session key packet. -/
theorem streamReach_messageUpTo (rest : Bytes) :
    streamReach 1 (messageUpTo rest) = pkeskBytes.length + 3 := by
  rw [messageUpTo, pkeskBytes, streamReach_framePacket _ _ _ length_pkeskPacket]
  rfl

end Reference

/-! ## The law -/

namespace Client

open Lib Lib.Fallible

/-- What the walk of a message returns, in terms of the packets before the first one that
holds encrypted data, and of nothing behind the version octet of that one. -/
structure ExactWalk (crates : Crates) (reach : Bytes → Nat → Nat) : Prop where
  /-- The walk succeeds exactly when that packet opens and everything before it reads, and
  then it finds the session key packets before it. -/
  ok_iff : ∀ bytes found, sessionKeyPackets crates bytes = .ok found ↔
    ∃ before container,
      FirstEncryptedData (crates.rpgp.messagePackets bytes) before container ∧
        Opens container ∧ (∀ packet ∈ before, Reads packet) ∧
          found = before.filterMap sessionKeyPacketOf
  /-- A message without such a packet, or with one that does not open, is turned down. -/
  error_of_not_opens : ∀ bytes,
    (∀ before container,
      FirstEncryptedData (crates.rpgp.messagePackets bytes) before container →
        ¬ Opens container) →
      ∃ error, sessionKeyPackets crates bytes = .error error
  /-- What follows the version octet does not matter. -/
  lazy : ∀ bytes bytes' before container version,
    FirstEncryptedData (crates.rpgp.messagePackets bytes) before container →
      container.firstOctet = some version →
        bytes'.take (reach bytes before.length) = bytes.take (reach bytes before.length) →
          sessionKeyPackets crates bytes' = sessionKeyPackets crates bytes
  /-- The packet sent is the first one before the encrypted data that names the key. -/
  sent : ∀ bytes before container keyId front pkesk back,
    FirstEncryptedData (crates.rpgp.messagePackets bytes) before container →
      Opens container → (∀ packet ∈ before, Reads packet) →
        before.filterMap sessionKeyPacketOf = front ++ pkesk :: back → pkesk.id = some keyId →
          (∀ earlier ∈ front, earlier.id ≠ some keyId) →
            (sessionKeyPackets crates bytes >>= fun found => pkeskFor crates found keyId) =
              okOr (crates.rpgp.writePkesk pkesk) "the session key packet did not serialize"
  /-- Without one nothing is sent. -/
  not_sent : ∀ bytes before container keyId,
    FirstEncryptedData (crates.rpgp.messagePackets bytes) before container →
      Opens container → (∀ packet ∈ before, Reads packet) →
        (∀ pkesk ∈ before.filterMap sessionKeyPacketOf, pkesk.id ≠ some keyId) →
          (sessionKeyPackets crates bytes >>= fun found => pkeskFor crates found keyId) =
            .error "this message is not encrypted to the app key"

/-- The first packet to name the key is sent. -/
theorem pkeskFor_of_first {crates : Crates} {front back : List PublicKeyEncryptedSessionKey}
    {pkesk : PublicKeyEncryptedSessionKey} {keyId : KeyId} (hId : pkesk.id = some keyId)
    (hEarlier : ∀ earlier ∈ front, earlier.id ≠ some keyId) :
    pkeskFor crates (front ++ pkesk :: back) keyId =
      okOr (crates.rpgp.writePkesk pkesk) "the session key packet did not serialize" := by
  have hFound : (front ++ pkesk :: back).find? (fun pkesk => pkesk.id = some keyId) =
      some pkesk := by
    rw [List.find?_eq_some_iff_append]
    refine ⟨by simpa using hId, front, back, rfl, ?_⟩
    intro earlier hMem
    simpa using hEarlier earlier hMem
  unfold pkeskFor
  rw [hFound, okOr_some, ok_bind]

theorem pkeskFor_of_none {crates : Crates} {found : List PublicKeyEncryptedSessionKey}
    {keyId : KeyId} (hNone : ∀ pkesk ∈ found, pkesk.id ≠ some keyId) :
    pkeskFor crates found keyId = .error "this message is not encrypted to the app key" := by
  have hFound : found.find? (fun pkesk => pkesk.id = some keyId) = none := by
    rw [List.find?_eq_none]
    intro pkesk hMem
    simpa using hNone pkesk hMem
  unfold pkeskFor
  rw [hFound, okOr_none, error_bind]

/-- Messages that agree up to the version octet of the first encrypted data are walked
alike. -/
theorem ReadsInOrder.walk_agree {crates : Crates} {reach : Bytes → Nat → Nat}
    (hReader : ReadsInOrder crates.rpgp reach) {bytes bytes' : Bytes}
    {before : List (Option MessagePacket)} {container : MessagePacket} {version : UInt8}
    (hFirst : FirstEncryptedData (crates.rpgp.messagePackets bytes) before container)
    (hVersion : container.firstOctet = some version)
    (hAgree : bytes'.take (reach bytes before.length) = bytes.take (reach bytes before.length)) :
    sessionKeyPackets crates bytes' = sessionKeyPackets crates bytes := by
  obtain ⟨after, hPackets, hEncrypted, hPlain⟩ := hFirst
  have hAt : (crates.rpgp.messagePackets bytes)[before.length]? = some (some container) := by
    rw [hPackets]
    simp
  obtain ⟨hTake, container', hAt', hTag, hOctet⟩ :=
    hReader.agree hAt hEncrypted hVersion hAgree
  have hBefore : (crates.rpgp.messagePackets bytes').take before.length = before := by
    rw [hTake, hPackets, List.take_left]
  -- both sequences are the same packets, then encrypted data that looks the same
  have hPackets' : crates.rpgp.messagePackets bytes' =
      before ++ some container' ::
        (crates.rpgp.messagePackets bytes').drop (before.length + 1) := by
    obtain ⟨hIndex, hGet⟩ := List.getElem?_eq_some_iff.mp hAt'
    calc crates.rpgp.messagePackets bytes'
        = (crates.rpgp.messagePackets bytes').take before.length ++
            (crates.rpgp.messagePackets bytes').drop before.length :=
          (List.take_append_drop _ _).symm
      _ = before ++ some container' ::
            (crates.rpgp.messagePackets bytes').drop (before.length + 1) := by
          rw [hBefore, List.drop_eq_getElem_cons hIndex, hGet]
  unfold sessionKeyPackets
  rw [hPackets, hPackets']
  by_cases hReads : ∀ packet ∈ before, Reads packet
  · rw [walkPackets_append_of_reads hPlain hReads, walkPackets_append_of_reads hPlain hReads]
    exact walkPackets_container_congr hEncrypted hTag hOctet _ _ _
  · obtain ⟨error, hError⟩ := walkPackets_append_of_not_reads hPlain hReads
    rw [hError, hError]

/-- The walk of the client is exact and lazy. -/
theorem sessionKeyPackets_exact {crates : Crates} {reach : Bytes → Nat → Nat}
    (hReader : ReadsInOrder crates.rpgp reach) : ExactWalk crates reach where
  ok_iff bytes found := by
    unfold sessionKeyPackets
    constructor
    · intro hOk
      rcases firstEncryptedData_or (crates.rpgp.messagePackets bytes) with
        ⟨before, container, hFirst⟩ | hPlain
      · exact ⟨before, container, hFirst, (walkPackets_eq_ok_iff hFirst).mp hOk⟩
      · obtain ⟨error, hError⟩ := walkPackets_of_not_encrypted hPlain []
        rw [hError] at hOk
        cases hOk
    · intro hWalk
      rcases hWalk with ⟨before, container, hFirst, hAll⟩
      exact (walkPackets_eq_ok_iff hFirst).mpr hAll
  error_of_not_opens bytes hNot := by
    unfold sessionKeyPackets
    rcases firstEncryptedData_or (crates.rpgp.messagePackets bytes) with
      ⟨before, container, hFirst⟩ | hPlain
    · cases hResult : walkPackets [] (crates.rpgp.messagePackets bytes) with
      | error error => exact ⟨error, rfl⟩
      | ok found =>
          exact absurd ((walkPackets_eq_ok_iff hFirst).mp hResult).1 (hNot before container hFirst)
    · exact walkPackets_of_not_encrypted hPlain []
  lazy _ _ _ _ _ hFirst hVersion hAgree := hReader.walk_agree hFirst hVersion hAgree
  sent bytes before container keyId front pkesk back hFirst hOpens hReads hSplit hId hEarlier := by
    have hOk : sessionKeyPackets crates bytes = .ok (before.filterMap sessionKeyPacketOf) :=
      (walkPackets_eq_ok_iff hFirst).mpr ⟨hOpens, hReads, rfl⟩
    rw [hOk, ok_bind, hSplit]
    exact pkeskFor_of_first hId hEarlier
  not_sent bytes before container keyId hFirst hOpens hReads hNone := by
    have hOk : sessionKeyPackets crates bytes = .ok (before.filterMap sessionKeyPacketOf) :=
      (walkPackets_eq_ok_iff hFirst).mpr ⟨hOpens, hReads, rfl⟩
    rw [hOk, ok_bind]
    exact pkeskFor_of_none hNone

open Reference in
/-- The session key packet of a message is found when two octets of its encrypted data are
there, and then also when none are. -/
theorem sessionKeyPackets_exact_messageUpTo :
    sessionKeyPackets streamCrates (messageUpTo [0x99, 0x98]) = .ok [pkesk] ∧
      sessionKeyPackets streamCrates (messageUpTo []) = .ok [pkesk] := by
  have hWalk := sessionKeyPackets_exact readsInOrder_streamCrates
  obtain ⟨container, hFirst, hOpens⟩ := firstEncryptedData_messageUpTo [0x99, 0x98]
  have hReads : ∀ packet ∈ [some pkeskPacket], Reads packet := by
    intro packet hPacket
    obtain rfl := List.mem_singleton.mp hPacket
    refine ⟨pkeskPacket, rfl, ?_⟩
    show pkeskPacket.parsed.isSome
    rfl
  have hWhole : sessionKeyPackets streamCrates (messageUpTo [0x99, 0x98]) = .ok [pkesk] := by
    refine (hWalk.ok_iff _ _).mpr ⟨_, container, hFirst, hOpens, hReads, ?_⟩
    rw [List.filterMap_cons, sessionKeyPacketOf_pkeskPacket]
    rfl
  have hSame := hWalk.lazy _ (messageUpTo []) _ _ 1 hFirst hOpens.2 (by
    show (messageUpTo []).take (streamReach 1 (messageUpTo [0x99, 0x98])) =
      (messageUpTo [0x99, 0x98]).take (streamReach 1 (messageUpTo [0x99, 0x98]))
    rw [streamReach_messageUpTo, messageUpTo, messageUpTo, List.take_length_add_append,
      List.take_length_add_append]
    rfl)
  exact ⟨hWhole, hSame.trans hWhole⟩

end Client
end TvcGpg
