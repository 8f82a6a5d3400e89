import TvcGpg.EndToEnd.HonestRun

/-!
# Who the receipt names

The entry a receipt names is looked up by issuers that may stand in the unhashed
area of the signature, which nobody signed.  Still nobody can steer it: whatever
entry is found, the signature has to verify under its key, and an allowlist holds
one entry for each key.

A signature without its unhashed area is its `SignatureCore`.  rPGP verifies a
signature by comparing the issuers with the key and then checking an equation
about the core; `VerifiesByCore` is this assumption.
-/

namespace TvcGpg

open Lib Lib.Text Lib.Fallible

/-- Everything of a signature that is hashed or cryptographic. -/
structure SignatureCore where
  version : SignatureVersion
  typ : Option SignatureType
  hashAlg : Option HashAlgorithm
  pubAlg : Option PublicKeyAlgorithm
  hashedSubpackets : Option (List Subpacket)
  body : Bytes
  deriving DecidableEq, Repr

/-- A signature without its unhashed area. -/
def Signature.core (signature : Signature) : SignatureCore :=
  { version := signature.version
    typ := signature.typ
    hashAlg := signature.hashAlg
    pubAlg := signature.config.map SignatureConfig.pubAlg
    hashedSubpackets := signature.config.map SignatureConfig.hashedSubpackets
    body := signature.body }

/-- An entry some lookup returns. -/
def Listed (allowlist : Allowlist) (entry : SignerEntry) : Prop :=
  ∃ fingerprint keyId, allowlist.lookup fingerprint keyId = some entry

/-- Verification is an equation about the core of a signature, next to a comparison
of its issuers with the key. -/
def VerifiesByCore (rpgp : Rpgp) (issuerMatch : Signature → KeyDetails → Bool)
    (equation : SignatureCore → KeyDetails → Bytes → Bool) : Prop :=
  ∀ signature key data,
    rpgp.verify signature key data = (issuerMatch signature key && equation signature.core key data)

/-- No signature satisfies the equation for two allowlisted keys. -/
def VerifiesUnderOneKey (allowlist : Allowlist)
    (equation : SignatureCore → KeyDetails → Bytes → Bool) : Prop :=
  ∀ core data entry entry', Listed allowlist entry → Listed allowlist entry' →
    equation core entry.key.details data = true → equation core entry'.key.details data = true →
      entry.fingerprint = entry'.fingerprint

section Requester

variable {crates : Crates}

/-- The receipt an answer carries. -/
def CarriesReceipt (crates : Crates) (response : SessionKeyResponse) (receipt : Receipt) : Prop :=
  crates.json.canonical receipt.toJson = some (asBytes response.receiptJson)

/-- A verified signature satisfies the equation for the key of its entry. -/
theorem Authenticated.equation {issuerMatch : Signature → KeyDetails → Bool}
    {equation : SignatureCore → KeyDetails → Bytes → Bool}
    (hCore : VerifiesByCore crates.rpgp issuerMatch equation) {state : AppState} {body : Bytes}
    {request : SessionKeyRequest} {signature : Signature} {entry : SignerEntry}
    (hAuthenticated : Authenticated crates state body request signature entry) :
    equation signature.core entry.key.details (asBytes request.payload) = true := by
  have hVerifies := hAuthenticated.verifies
  rw [verified_eq, hCore, Bool.and_eq_true] at hVerifies
  exact hVerifies.2

/-- Two signatures over one payload that agree on their cores are attributed to the
same entry. -/
theorem Authenticated.entry_unique {issuerMatch : Signature → KeyDetails → Bool}
    {equation : SignatureCore → KeyDetails → Bytes → Bool} {state : AppState} {boot : UInt32}
    (hIndexed : Indexed crates.rpgp boot state.allowlist)
    (hCore : VerifiesByCore crates.rpgp issuerMatch equation)
    (hOneKey : VerifiesUnderOneKey state.allowlist equation) {body body' : Bytes}
    {request request' : SessionKeyRequest} {signature signature' : Signature}
    {entry entry' : SignerEntry}
    (hAuthenticated : Authenticated crates state body request signature entry)
    (hAuthenticated' : Authenticated crates state body' request' signature' entry')
    (hPayload : request.payload = request'.payload) (hSame : signature.core = signature'.core) :
    entry = entry' := by
  have hEquation := hAuthenticated.equation hCore
  have hEquation' := hAuthenticated'.equation hCore
  rw [hPayload, hSame] at hEquation
  refine lookup_unique hIndexed hAuthenticated.listed hAuthenticated'.listed ?_
  exact hOneKey _ _ entry entry' ⟨_, _, hAuthenticated.listed⟩ ⟨_, _, hAuthenticated'.listed⟩
    hEquation hEquation'

/-- Two requests with one payload text and signatures that differ in their unhashed
areas only are released with the same receipt, which names the same requester,
whenever each of them is handled. -/
theorem receipt_independent_of_unhashed {armored : Bytes} {boot : UInt32} {state : AppState}
    {issuerMatch : Signature → KeyDetails → Bool}
    {equation : SignatureCore → KeyDetails → Bytes → Bool}
    (hParse : Allowlist.parseAt crates.rpgp armored boot = .ok state.allowlist)
    (hCore : VerifiesByCore crates.rpgp issuerMatch equation)
    (hOneKey : VerifiesUnderOneKey state.allowlist equation)
    {body body' : Bytes} {now now' : UInt64} {entropy entropy' : Bytes} {payload : String}
    {hex hex' : String} {signature signature' : Signature}
    (hRequest : (crates.json.read body).bind SessionKeyRequest.ofJson =
      some { payload, signature := hex })
    (hRequest' : (crates.json.read body').bind SessionKeyRequest.ofJson =
      some { payload, signature := hex' })
    (hSignature : parseSignature crates hex = .ok signature)
    (hSignature' : parseSignature crates hex' = .ok signature')
    (hSame : signature.core = signature'.core) {response response' : SessionKeyResponse}
    (hRelease : release crates state body now entropy = .ok response)
    (hRelease' : release crates state body' now' entropy' = .ok response') :
    response.receiptJson = response'.receiptJson ∧
      response.receiptSignature = response'.receiptSignature ∧
        ∃ receipt, CarriesReceipt crates response receipt ∧
          CarriesReceipt crates response' receipt := by
  obtain ⟨-, hIndexed⟩ := parseAt_spec hParse
  obtain ⟨request, found, entry, read, transport, opening, hAuthenticated, hAdmitted, hReleased,
    rfl⟩ := (release_eq_ok_iff crates).mp hRelease
  obtain ⟨request', found', entry', read', transport', opening', hAuthenticated', hAdmitted',
    hReleased', rfl⟩ := (release_eq_ok_iff crates).mp hRelease'
  -- both runs read the requests and the signatures of the statement
  obtain rfl := Option.some.inj (hAuthenticated.parsed.symm.trans hRequest)
  obtain rfl := Option.some.inj (hAuthenticated'.parsed.symm.trans hRequest')
  obtain rfl := Except.ok.inj (hAuthenticated.packet.symm.trans hSignature)
  obtain rfl := Except.ok.inj (hAuthenticated'.packet.symm.trans hSignature')
  obtain rfl := hAuthenticated.entry_unique hIndexed hCore hOneKey hAuthenticated' rfl hSame
  -- so they read one payload and one PKESK, and encode one receipt
  obtain rfl := Option.some.inj (hAdmitted.parsed.symm.trans hAdmitted'.parsed)
  have hBytes : opening.pkeskBytes = opening'.pkeskBytes :=
    Option.some.inj (hReleased.decoded.symm.trans hReleased'.decoded)
  have hEncoded' := hReleased'.encoded
  rw [← hBytes] at hEncoded'
  have hText : opening.receiptJson = opening'.receiptJson :=
    asBytes_injective (Option.some.inj (hReleased.encoded.symm.trans hEncoded'))
  have hSigned' := hReleased'.signed
  rw [← hText] at hSigned'
  have hSigned : opening.receiptSignature = opening'.receiptSignature :=
    Option.some.inj (hReleased.signed.symm.trans hSigned')
  refine ⟨hText, congrArg crates.hexEncode hSigned, _, hReleased.encoded, ?_⟩
  show crates.json.canonical _ = some (asBytes opening'.receiptJson)
  exact hEncoded'

end Requester

namespace Reference

/-- The equation of a reference signature. -/
def equation (core : SignatureCore) (key : KeyDetails) (data : Bytes) : Bool :=
  decide (core.body = signatureValues key data)

theorem verifiesByCore : VerifiesByCore (engineerCrates none).rpgp issuerMatch equation :=
  fun _ _ _ => rfl

/-- The allowlist of the one engineer has one entry to find. -/
theorem eq_entry_of_listed {found : SignerEntry} (hListed : Listed (allowlist none) found) :
    found = entry none := by
  obtain ⟨fingerprint, keyId, hLookup⟩ := hListed
  obtain ⟨-, hIndexed⟩ := parseAt_spec (parseAt_firstBlock (unlimited_fresh 1000))
  have hMem := mem_acceptedEntries_of_lookup hIndexed hLookup
  have hEntries : acceptedEntries (engineerCrates none).rpgp (allowlist none).certificates 1000 =
      [entry none] := by
    show [certificate none []].flatMap _ = _
    rw [List.flatMap_singleton, engineerCrates_rpgp, certificate,
      classify_certificateOf _ rfl (unlimited_fresh 1000)]
    rfl
  rw [hEntries] at hMem
  exact List.mem_singleton.mp hMem

theorem verifiesUnderOneKey : VerifiesUnderOneKey (allowlist none) equation := by
  intro _ _ _ _ hListed hListed' _ _
  rw [eq_entry_of_listed hListed, eq_entry_of_listed hListed']

end Reference

open Reference in
/-- The engineer signs one payload twice, naming the key by fingerprint and by key id. -/
theorem receipt_independent_of_unhashed_bodyAt : ∃ response response',
    release (engineerCrates none) (state none) (bodyAt none 1500 fingerprintArea) 1500 [] =
        .ok response ∧
      release (engineerCrates none) (state none) (bodyAt none 1500 keyIdArea) 1500 [] =
          .ok response' ∧
        response.receiptJson = response'.receiptJson ∧
          response.receiptSignature = response'.receiptSignature ∧
            ∃ receipt, CarriesReceipt (engineerCrates none) response receipt ∧
              CarriesReceipt (engineerCrates none) response' receipt := by
  obtain ⟨response, hRelease, -⟩ :=
    release_bodyAt none 1500 (.inl rfl) nextPacket_fingerprint []
  obtain ⟨response', hRelease', -⟩ := release_bodyAt none 1500 (.inr rfl) nextPacket_keyId []
  have hAuthenticated := authenticated_bodyFor none (Hex.encode pkeskBytes) 1500 (.inl rfl)
    nextPacket_fingerprint
  have hAuthenticated' := authenticated_bodyFor none (Hex.encode pkeskBytes) 1500 (.inr rfl)
    nextPacket_keyId
  exact ⟨response, response', hRelease, hRelease',
    receipt_independent_of_unhashed (parseAt_firstBlock (unlimited_fresh 1000)) verifiesByCore
      verifiesUnderOneKey hAuthenticated.parsed hAuthenticated'.parsed hAuthenticated.packet
      hAuthenticated'.packet rfl hRelease hRelease'⟩
end TvcGpg
