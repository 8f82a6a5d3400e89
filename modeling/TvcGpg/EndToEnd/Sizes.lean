import TvcGpg.Lib.JsonSizes
import TvcGpg.Server.Boot

/-!
# How long requests and answers are

The app reads no more of a request than 8192 bytes, and the client no more of an answer than
64 KiB.  Neither program looks at the length of what it sends.  What stands here is how long
a request and an answer are, from the lengths of their parts: the payload is a JSON text
inside a JSON text, and so is the receipt.
-/

namespace TvcGpg

open Lib Lib.Text Lib.Fallible Lib.FlatJson Lib.JsonSizes

/-! ## What the crates write -/

/-- A value as a flat object has it. -/
def flatValue : Json → Value
  | .string s => .text s.toList
  | .number (.posInt n) => .natural n.toNat
  | _ => .text []

/-- A field of a flat object. -/
def flatField (field : String × Json) : List Char × Value := (field.1.toList, flatValue field.2)

/-- How long the texts of the crates are: `serde_json` writes compact JSON, the canonical
dialect puts no more than two quotes around a number, hex is lower case hex, and a session
key is no longer than it was wrapped. -/
structure SizeLaws (crates : Crates) : Prop where
  hexEncode : ∀ bytes, crates.hexEncode bytes = Hex.encode bytes
  write : ∀ fields, FlatFields fields →
    crates.json.write (.object fields) = String.ofList (writeObject (fields.map flatField))
  canonical : ∀ fields bytes, FlatFields fields →
    crates.json.canonical (.object fields) = some bytes →
      bytes.length ≤ sizeAt 0 (writeObject (fields.map flatField)) + 2 * fields.length
  sha256 : ∀ bytes, (crates.sha256 bytes).length = 32
  decrypt : ∀ subkey point wrapped symAlg key,
    crates.rpgp.decrypt subkey (.ecdh point wrapped) = some (some (.v3_4 symAlg key)) →
      key.length ≤ wrapped.length

/-- How much longer the cryptography makes what it is given. -/
structure SealSizes (crates : Crates) (quorum : P256Pair) : Prop where
  encrypt : ∀ bytes transport plain entropy envelope,
    crates.p256.encryptPublicFromBytes bytes = some transport → bytes.length = sec1PointLen →
      crates.p256.encrypt transport plain entropy = some envelope →
        envelope.length ≤ plain.length + 256
  sign : ∀ message signature, crates.p256.sign quorum message = some signature →
    signature.length ≤ message.length + 256
  publicKey : (crates.p256.publicToBytes (crates.p256.publicKey quorum)).length ≤ 256

section Sizes

variable {crates : Crates}

/-- The bytes of a compact document. -/
theorem length_write (hSizes : SizeLaws crates) {fields : List (String × Json)}
    (hFlat : FlatFields fields) (hSome : fields ≠ []) :
    (asBytes (crates.json.write (.object fields))).length =
      ((fields.map flatField).map fun field => sizeAt 0 (writeField field) + 1).sum + 1 := by
  have hFields : fields.map flatField ≠ [] := by
    intro hNil
    exact hSome (List.map_eq_nil_iff.mp hNil)
  rw [hSizes.write fields hFlat, length_asBytes, String.toList_ofList,
    ← sizeAt_writeObject 0 hFields]
  rfl

theorem sizeAt_quote_zero : sizeAt 0 [quote] = 1 := by decide

theorem sizeAt_quote_one : sizeAt 1 [quote] = 2 := by decide

/-! ## The request -/

/-- The payload inside the body of a request. -/
theorem sizeAt_payload (hSizes : SizeLaws crates) (appId : String) (pkesk : Bytes)
    {transport : Bytes} (hTransport : transport.length = sec1PointLen) (time : UInt64) :
    sizeAt 1 (Client.payloadJson crates appId (crates.hexEncode pkesk)
        (crates.hexEncode transport) time).toList ≤
      265 + 7 * (asBytes appId).length + 2 * pkesk.length := by
  have hFlat : FlatFields [("domain", .string Client.requestDomain), ("app_id", .string appId),
      ("pkesk", .string (crates.hexEncode pkesk)),
      ("transport_public_key", .string (crates.hexEncode transport)),
      ("time", .number (.posInt time))] := flatFields_nil.natural.string.string.string.string
  have hText : (Client.payloadJson crates appId (crates.hexEncode pkesk)
      (crates.hexEncode transport) time).toList = writeObject
        [("domain".toList, .text Client.requestDomain.toList),
          ("app_id".toList, .text appId.toList),
          ("pkesk".toList, .text (Hex.encode pkesk).toList),
          ("transport_public_key".toList, .text (Hex.encode transport).toList),
          ("time".toList, .natural time.toNat)] := by
    unfold Client.payloadJson Client.Payload.toJson
    rw [hSizes.write _ hFlat, String.toList_ofList, hSizes.hexEncode, hSizes.hexEncode]
    rfl
  have hNames : sizeAt 2 "domain".toList = 6 ∧ sizeAt 2 "app_id".toList = 6 ∧
      sizeAt 2 "pkesk".toList = 5 ∧ sizeAt 2 "transport_public_key".toList = 20 ∧
        sizeAt 2 "time".toList = 4 ∧ sizeAt 2 Client.requestDomain.toList = 27 := by
    decide +kernel
  obtain ⟨hDomain, hApp, hPkesk, hKey, hTime, hRequest⟩ := hNames
  have hAppId := sizeAt_le sizeAt_two_le appId.toList
  rw [← length_asBytes] at hAppId
  have hDigits := length_writeNatural_le time.toNat_lt
  have hPoint : sizeAt 2 (Hex.encode transport).toList = 130 := by
    rw [sizeAt_encode, hTransport]
    rfl
  have hHex := sizeAt_encode 2 pkesk
  rw [hText, sizeAt_writeObject 1 (List.cons_ne_nil _ _)]
  simp only [List.map_cons, List.map_nil, List.sum_cons, List.sum_nil, sizeAt_text_field,
    sizeAt_natural_field, sizeAt_quote_one, Nat.reduceAdd, hDomain, hApp, hPkesk, hKey, hTime,
    hRequest, hPoint, hHex]
  omega

/-- The body of an honest request. -/
theorem length_sessionKeyBody_le (hSizes : SizeLaws crates) (appId : String)
    (pkesk signature : Bytes) {transport : Bytes} (hTransport : transport.length = sec1PointLen)
    (time : UInt64) :
    (Client.sessionKeyBody crates (Client.payloadJson crates appId (crates.hexEncode pkesk)
        (crates.hexEncode transport) time) signature).length ≤
      294 + 7 * (asBytes appId).length + 2 * pkesk.length + 2 * signature.length := by
  have hPayload := sizeAt_payload hSizes appId pkesk hTransport time
  generalize Client.payloadJson crates appId (crates.hexEncode pkesk) (crates.hexEncode transport)
    time = payload at hPayload
  have hFlat : FlatFields [("payload", .string payload),
      ("signature", .string (crates.hexEncode signature))] := flatFields_nil.string.string
  have hNames : sizeAt 1 "payload".toList = 7 ∧ sizeAt 1 "signature".toList = 9 := by
    decide +kernel
  obtain ⟨hName, hSignature⟩ := hNames
  have hHex := sizeAt_encode 1 signature
  unfold Client.sessionKeyBody
  rw [length_write hSizes hFlat (List.cons_ne_nil _ _)]
  simp only [List.map_cons, List.map_nil, List.sum_cons, List.sum_nil, flatField, flatValue,
    sizeAt_text_field, sizeAt_quote_zero, Nat.reduceAdd, hName, hSignature, hSizes.hexEncode, hHex]
  omega

/-! ## The answer -/

/-- A receipt, as the quorum key signs it. -/
theorem length_receipt_le (hSizes : SizeLaws crates) {receipt : Receipt} {bytes transport : Bytes}
    (hCanonical : crates.json.canonical receipt.toJson = some bytes)
    (hDomain : receipt.domain = receiptDomain)
    (hRequester : sizeAt 1 receipt.requester.toList ≤ 40)
    {digest : Bytes} (hDigest : receipt.pkeskSha256 = crates.hexEncode (crates.sha256 digest))
    (hPoint : receipt.transportPublicKey = crates.hexEncode transport)
    (hTransport : transport.length = sec1PointLen) :
    bytes.length ≤ 385 + 6 * (asBytes receipt.appId).length := by
  have hLength := hSizes.canonical _ _ (flatFields_receipt receipt) hCanonical
  have hNames : sizeAt 1 "domain".toList = 6 ∧ sizeAt 1 "app_id".toList = 6 ∧
      sizeAt 1 "requester".toList = 9 ∧ sizeAt 1 "pkesk_sha256".toList = 12 ∧
        sizeAt 1 "transport_public_key".toList = 20 ∧ sizeAt 1 "time".toList = 4 ∧
          sizeAt 1 receiptDomain.toList = 27 := by
    decide +kernel
  obtain ⟨hNameDomain, hNameApp, hNameRequester, hNameSha, hNameKey, hNameTime, hText⟩ := hNames
  have hAppId := sizeAt_le sizeAt_one_le receipt.appId.toList
  rw [← length_asBytes] at hAppId
  have hDigits := length_writeNatural_le receipt.time.toNat_lt
  have hSha : sizeAt 1 (Hex.encode (crates.sha256 digest)).toList = 64 := by
    rw [sizeAt_encode, hSizes.sha256]
  have hKey : sizeAt 1 (Hex.encode transport).toList = 130 := by
    rw [sizeAt_encode, hTransport]
    rfl
  rw [sizeAt_writeObject 0 (by simp [Receipt.fields])] at hLength
  unfold Receipt.fields at hLength
  simp only [List.map_cons, List.map_nil, List.sum_cons, List.sum_nil, flatField, flatValue,
    sizeAt_text_field, sizeAt_natural_field, sizeAt_quote_zero, Nat.reduceAdd, hNameDomain,
    hNameApp, hNameRequester, hNameSha, hNameKey, hNameTime, hDomain, hText, hDigest, hPoint,
    hSizes.hexEncode, hSha, hKey, List.length_cons, List.length_nil] at hLength
  omega

/-- The answer, from the lengths of what is in it. -/
theorem length_response_le (hSizes : SizeLaws crates) (state : AppState) (opening : Opening) :
    (asBytes (crates.json.write (opening.response crates state).toJson)).length ≤
      90 + 2 * opening.envelope.length + 2 * opening.receiptSignature.length +
        2 * (crates.p256.publicToBytes (crates.p256.publicKey state.quorumKey)).length +
          6 * (asBytes opening.receiptJson).length := by
  have hFlat : FlatFields
      [("wrapped_session_key", .string (crates.hexEncode opening.envelope)),
        ("receipt_json", .string opening.receiptJson),
        ("receipt_signature", .string (crates.hexEncode opening.receiptSignature)),
        ("quorum_public_key", .string (crates.hexEncode
          (crates.p256.publicToBytes (crates.p256.publicKey state.quorumKey))))] :=
    flatFields_nil.string.string.string.string
  have hNames : sizeAt 1 "wrapped_session_key".toList = 19 ∧ sizeAt 1 "receipt_json".toList = 12 ∧
      sizeAt 1 "receipt_signature".toList = 17 ∧ sizeAt 1 "quorum_public_key".toList = 17 := by
    decide +kernel
  obtain ⟨hWrapped, hReceipt, hSignature, hPublic⟩ := hNames
  have hText := sizeAt_le sizeAt_one_le opening.receiptJson.toList
  rw [← length_asBytes] at hText
  unfold SessionKeyResponse.toJson Opening.response
  rw [length_write hSizes hFlat (List.cons_ne_nil _ _)]
  simp only [List.map_cons, List.map_nil, List.sum_cons, List.sum_nil, flatField, flatValue,
    sizeAt_text_field, sizeAt_quote_zero, Nat.reduceAdd, hWrapped, hReceipt, hSignature, hPublic,
    hSizes.hexEncode, sizeAt_encode]
  omega

/-- The requester is a fingerprint in upper case hex. -/
theorem sizeAt_requester {rpgp : Rpgp} {now : UInt32} {allowlist : Allowlist}
    (hIndexed : Indexed rpgp now allowlist) {fingerprint : Option Fingerprint}
    {keyId : Option KeyId} {entry : SignerEntry}
    (hLookup : allowlist.lookup fingerprint keyId = some entry) :
    sizeAt 1 entry.primaryFingerprint.toList = 40 := by
  obtain ⟨⟨-, hKey⟩, hOwn⟩ :=
    mem_acceptedEntries_iff.mp (mem_acceptedEntries_of_lookup hIndexed hLookup)
  obtain ⟨userId, selfSignature, hAccepted, -⟩ := mem_classify_iff.mp hKey
  have hOctets : entry.certificate.primaryFingerprint.octets.length = 20 :=
    entry.certificate.primaryKey.fingerprint_octets.mpr hAccepted.version
  have hText : entry.primaryFingerprint =
      Hex.encodeUpper entry.certificate.primaryFingerprint.octets :=
    hOwn.trans (Hex.toUppercase_encode _)
  rw [hText, sizeAt_encodeUpper, hOctets]

/-- The app reads the whole of an honest request. -/
theorem request_fits (hSizes : SizeLaws crates) (hP256 : P256Laws crates.p256) {appId : String}
    {pkesk bytes : Bytes} (transport : P256EncryptPair) (time : UInt64)
    (hParts : 7 * (asBytes appId).length + 2 * pkesk.length + 2 * bytes.length ≤ 7898) :
    (Client.sessionKeyBody crates (Client.payloadJson crates appId (crates.hexEncode pkesk)
      (Client.transportPublicKey crates transport) time) bytes).length ≤ Router.maxBodyBytes := by
  refine (length_sessionKeyBody_le hSizes appId pkesk bytes
    (hP256.encryptPublic_length transport) time).trans ?_
  unfold Router.maxBodyBytes
  omega

/-- The client reads the whole of the answer to an honest request. -/
theorem answer_fits (hSizes : SizeLaws crates) (hJson : JsonLaws crates.json)
    (hP256 : P256Laws crates.p256) {state : AppState} (hSeal : SealSizes crates state.quorumKey)
    {boot : UInt32} (hIndexed : Indexed crates.rpgp boot state.allowlist) {appId : String}
    {pkesk bytes : Bytes} {transport : P256EncryptPair} {time : UInt64}
    (hAppId : (asBytes appId).length ≤ 1128) {now : UInt64} {entropy : Bytes}
    {response : SessionKeyResponse}
    (hRelease : release crates state (Client.sessionKeyBody crates (Client.payloadJson crates appId
      (crates.hexEncode pkesk) (Client.transportPublicKey crates transport) time) bytes) now
        entropy = .ok response) :
    (asBytes (crates.json.write response.toJson)).length ≤ Client.maxResponseBytes := by
  obtain ⟨request, signature, entry, payload, found, opening, hAuthenticated, hAdmitted,
    hReleased, rfl⟩ := (release_eq_ok_iff crates).mp hRelease
  -- the app reads the payload the client wrote
  obtain rfl := Option.some.inj
    ((read_sessionKeyBody hJson _ bytes).symm.trans hAuthenticated.parsed)
  obtain rfl := Option.some.inj
    ((read_payloadJson hJson appId _ _ time).symm.trans hAdmitted.parsed)
  have hSame : appId = state.appId := hAdmitted.appId
  obtain ⟨point, -, hLength, -, hFound⟩ := (transportKey_eq_ok_iff crates).mp hAdmitted.transport
  have hKey : opening.key.length ≤ 64 :=
    (hSizes.decrypt _ _ _ _ _ hReleased.opened).trans hReleased.accepted.wrappedLength.2.1
  have hEnvelope := hSeal.encrypt _ _ _ _ _ hFound hLength hReleased.enveloped
  have hSignature := hSeal.sign _ _ hReleased.signed
  have hReceipt : (asBytes opening.receiptJson).length ≤ 385 + 6 * (asBytes state.appId).length :=
    length_receipt_le hSizes hReleased.encoded rfl
      (sizeAt_requester hIndexed hAuthenticated.listed).le rfl rfl
        (hP256.encryptPublic_length transport)
  have hResponse := length_response_le hSizes state opening
  have hPublic := hSeal.publicKey
  rw [List.length_cons] at hEnvelope
  rw [← hSame] at hReceipt
  unfold Client.maxResponseBytes
  omega

/-- An honest request that is within what the app reads of a body, by the lengths of its
parts, has an answer that is within what the client reads of an answer. -/
theorem honest_sizes_fit (hSizes : SizeLaws crates) (hJson : JsonLaws crates.json)
    (hP256 : P256Laws crates.p256) {state : AppState} (hSeal : SealSizes crates state.quorumKey)
    {boot : UInt32} (hIndexed : Indexed crates.rpgp boot state.allowlist) {appId : String}
    {pkesk bytes : Bytes} (transport : P256EncryptPair) (time : UInt64)
    (hParts : 7 * (asBytes appId).length + 2 * pkesk.length + 2 * bytes.length ≤ 7898) :
    let body := Client.sessionKeyBody crates (Client.payloadJson crates appId
      (crates.hexEncode pkesk) (Client.transportPublicKey crates transport) time) bytes
    body.length ≤ Router.maxBodyBytes ∧ ∀ now entropy response,
      release crates state body now entropy = .ok response →
        (asBytes (crates.json.write response.toJson)).length ≤ Client.maxResponseBytes :=
  ⟨request_fits hSizes hP256 transport time hParts, fun _ _ _ hRelease =>
    answer_fits hSizes hJson hP256 hSeal hIndexed (by omega) hRelease⟩

end Sizes

/-! ## The reference crates -/

namespace Reference

theorem flatField_eq (field : String × Json) :
    flatField field = (field.1.toList, toFlat field.2) := by
  obtain ⟨name, value⟩ := field
  cases value <;> rfl

theorem writeFields_eq (fields : List (String × Json)) :
    writeFields fields = String.ofList (writeObject (fields.map flatField)) := by
  have hFields : (fun field : String × Json => (field.1.toList, toFlat field.2)) = flatField :=
    funext fun field => (flatField_eq field).symm
  unfold Reference.writeFields
  rw [hFields]

/-- A field of the canonical dialect has two quotes more at most. -/
theorem sizeAt_canonical_field {field : String × Json}
    (hFlat : (∃ s, field.2 = .string s) ∨ ∃ n, field.2 = .number (.posInt n)) :
    sizeAt 0 (writeField (flatField (field.1, numberAsText field.2))) ≤
      sizeAt 0 (writeField (flatField field)) + 2 := by
  obtain ⟨name, value⟩ := field
  rcases hFlat with ⟨s, rfl⟩ | ⟨n, rfl⟩
  · exact Nat.le_add_right _ _
  · have hDigits : ∀ m, sizeAt m (writeNatural n.toNat) = (writeNatural n.toNat).length :=
      sizeAt_of_plain fun c hc => plain_of_isDigit (isDigit_of_mem_writeNatural hc)
    show sizeAt 0 (writeField (name.toList, .text (String.ofList (writeNatural n.toNat)).toList)) ≤
      sizeAt 0 (writeField (name.toList, .natural n.toNat)) + 2
    rw [sizeAt_text_field, sizeAt_natural_field, String.toList_ofList, hDigits, sizeAt_quote_zero]

theorem sum_map_le {fields : List (String × Json)} {first second : String × Json → Nat}
    (hEach : ∀ field ∈ fields, first field ≤ second field + 2) :
    (fields.map first).sum ≤ (fields.map second).sum + 2 * fields.length := by
  induction fields with
  | nil => exact Nat.zero_le _
  | cons field fields ih =>
      obtain ⟨hField, hFields⟩ := List.forall_mem_cons.mp hEach
      have hRest := ih hFields
      rw [List.map_cons, List.sum_cons, List.map_cons, List.sum_cons, List.length_cons]
      omega

/-- The canonical dialect has the fields of the compact one, in another order. -/
theorem length_canonical_le {fields : List (String × Json)} (hFlat : FlatFields fields) :
    (asBytes (writeFields (canonicalFields fields))).length ≤
      sizeAt 0 (writeObject (fields.map flatField)) + 2 * fields.length := by
  have hLength : (asBytes (writeFields (canonicalFields fields))).length =
      sizeAt 0 (writeObject ((canonicalFields fields).map flatField)) := by
    rw [writeFields_eq, length_asBytes, String.toList_ofList]
    rfl
  rw [hLength]
  by_cases hNil : fields = []
  · subst hNil
    exact Nat.le_add_right _ _
  · have hSort := List.perm_insertionSort (fun a b : String × Json => a.1 ≤ b.1) fields
    have hSome : fields.map flatField ≠ [] := fun hMap => hNil (List.map_eq_nil_iff.mp hMap)
    have hCanonical : (canonicalFields fields).map flatField ≠ [] := by
      intro hMap
      have hSorted := List.map_eq_nil_iff.mp (List.map_eq_nil_iff.mp hMap)
      exact hNil (List.perm_nil.mp (hSorted ▸ hSort).symm)
    have hEach : ∀ field ∈ fields,
        sizeAt 0 (writeField (flatField (field.1, numberAsText field.2))) + 1 ≤
          sizeAt 0 (writeField (flatField field)) + 1 + 2 := by
      intro field hField
      have hTwo := sizeAt_canonical_field (hFlat field hField)
      omega
    have hSum := sum_map_le hEach
    rw [sizeAt_writeObject 0 hCanonical, sizeAt_writeObject 0 hSome]
    unfold canonicalFields
    rw [List.map_map, List.map_map, List.map_map, (hSort.map _).sum_eq]
    simp only [Function.comp_def]
    omega

theorem length_unwrap_le {secret : UInt8} {wrapped clear : Bytes}
    (hClear : unwrap secret wrapped = some clear) : clear.length ≤ wrapped.length := by
  unfold unwrap at hClear
  dsimp only at hClear
  split at hClear
  · obtain rfl := Option.some.inj hClear
    rw [List.length_drop, List.length_map]
    omega
  · cases hClear

theorem length_unpadKey_le {clear key : Bytes} {symAlg : UInt8}
    (hKey : unpadKey clear = some (.v3_4 symAlg key)) : key.length ≤ clear.length := by
  cases clear with
  | nil => cases hKey
  | cons first rest =>
      unfold unpadKey at hKey
      dsimp only at hKey
      split at hKey
      · cases hKey
        rw [List.length_take, List.length_take, List.length_cons]
        omega
      · cases hKey

/-- The texts and keys of the reference crates are as long as they should be. -/
theorem sizeLaws (published : String → Option (List SignedPublicKey)) :
    SizeLaws (crates published) where
  hexEncode _ := rfl
  write fields _ := writeFields_eq fields
  canonical fields bytes hFlat hBytes := by
    obtain rfl := Option.some.inj hBytes
    exact length_canonical_le hFlat
  sha256 bytes := by
    show ((bytes ++ List.replicate 32 0).take 32).length = 32
    simp
  decrypt subkey point wrapped symAlg key hDecrypt := by
    obtain ⟨clear, hClear, hKey⟩ := Option.bind_eq_some_iff.mp (Option.some.inj hDecrypt)
    exact (length_unpadKey_le hKey).trans (length_unwrap_le hClear)

theorem sealSizes (published : String → Option (List SignedPublicKey)) :
    SealSizes (crates published) ⟨[0x07]⟩ where
  encrypt bytes transport plain entropy envelope hRead hLength hEnvelope := by
    have hKey : transport.octets = bytes := by
      change (if _ then some (P256EncryptPublic.mk bytes) else none) = _ at hRead
      split at hRead
      · exact (congrArg P256EncryptPublic.octets (Option.some.inj hRead)).symm
      · cases hRead
    obtain rfl := Option.some.inj hEnvelope
    show (transport.octets ++ plain).length ≤ _
    rw [hKey, List.length_append, hLength]
    unfold sec1PointLen
    omega
  sign message signature hSign := by
    obtain rfl := Option.some.inj hSign
    show ([0x07] ++ message).length ≤ _
    simp
  publicKey := by
    show ([0x07] : Bytes).length ≤ 256
    decide

/-! ## A request to a team's server -/

theorem signedBy_deployed (payload : String) :
    SignedBy deployedCrates serverState.forRelease payload
      (signatureBytes fingerprintArea payload) (signatureWith [fingerprintSubpacket] payload)
      (entry none) :=
  signedBy rfl payload (.inl rfl) (nextPacket_fingerprint payload)

theorem opensTo_deployed :
    OpensTo deployedCrates serverState.forRelease pkeskBytes 7 sessionKey :=
  opensTo_pkeskBytes rfl rfl

/-- The payload the engineer signs at a time. -/
def deployedPayload (clock : UInt64) : String :=
  Client.payloadJson deployedCrates "team app" (deployedCrates.hexEncode pkeskBytes)
    (Client.transportPublicKey deployedCrates transport) clock

/-- The body the engineer's client sends. -/
def deployedBody (clock : UInt64) : Bytes :=
  Client.sessionKeyBody deployedCrates (deployedPayload clock)
    (signatureBytes fingerprintArea (deployedPayload clock))

/-- The request the server reads in it. -/
def deployedRead (clock : UInt64) : SessionKeyRequest where
  payload := deployedPayload clock
  signature := deployedCrates.hexEncode (signatureBytes fingerprintArea (deployedPayload clock))

/-- What the server reads in its payload. -/
def deployedPayloadRead (clock : UInt64) : SessionKeyPayload where
  domain := requestDomain
  appId := "team app"
  pkesk := deployedCrates.hexEncode pkeskBytes
  transportPublicKey := Client.transportPublicKey deployedCrates transport
  time := clock

theorem authenticated_deployed (clock : UInt64) :
    Authenticated deployedCrates serverState.forRelease (deployedBody clock) (deployedRead clock)
      (signatureWith [fingerprintSubpacket] (deployedPayload clock)) (entry none) :=
  (signedBy_deployed _).authenticated (hexLaws publishedByTeam) jsonLaws

theorem admitted_deployed {now clock : UInt64}
    (hClock : ((now.toNat : Int) - (clock.toNat : Int)).natAbs ≤ 300) :
    Admitted deployedCrates serverState.forRelease now (deployedRead clock)
      (deployedPayloadRead clock) (deployedCrates.p256.encryptPublicKey transport) := by
  have hPayload : deployedPayload clock = Client.payloadJson deployedCrates
      serverState.forRelease.appId (deployedCrates.hexEncode pkeskBytes)
      (Client.transportPublicKey deployedCrates transport) clock := by
    have hAppId : serverState.forRelease.appId = "team app" := rfl
    rw [hAppId, deployedPayload]
  have hHex : HexLaws deployedCrates := hexLaws publishedByTeam
  exact @admitted_payloadJson deployedCrates hHex jsonLaws p256Laws serverState.forRelease now clock
    (deployedRead clock) (deployedCrates.hexEncode pkeskBytes) transport hPayload hClock

/-- The engineer's request asks for the PKESK of the message. -/
theorem pkeskBytesOf_deployedBody (clock : UInt64) :
    pkeskBytesOf deployedCrates (deployedBody clock) = some pkeskBytes := by
  have hHex : HexLaws deployedCrates := hexLaws publishedByTeam
  have hClock : ((clock.toNat : Int) - (clock.toNat : Int)).natAbs ≤ 300 := by simp
  have hRequest : requestOf deployedCrates (deployedBody clock) = some (deployedRead clock) :=
    (authenticated_deployed clock).parsed
  unfold pkeskBytesOf
  rw [((admitted_deployed hClock).read _ hRequest).1, Option.bind_some]
  exact hHex.decode_encode pkeskBytes

/-- The server releases the session key, and the client accepts and opens the answer. -/
theorem release_deployed {now clock : UInt64}
    (hClock : ((now.toNat : Int) - (clock.toNat : Int)).natAbs ≤ 300) (entropy : Bytes) :
    ∃ response,
      release deployedCrates serverState.forRelease (deployedBody clock) now entropy =
          .ok response ∧
        Client.checkResponse deployedCrates (clientView response) ⟨[0x07]⟩ "team app"
            (Client.transportPublicKey deployedCrates transport) pkeskBytes = .ok ⟨⟩ ∧
          Client.openSessionKey deployedCrates transport
            (clientView response).wrappedSessionKey = .ok (7 :: sessionKey) := by
  have hHex : HexLaws deployedCrates := hexLaws publishedByTeam
  have hQuorum : deployedCrates.p256.publicKey serverState.forRelease.quorumKey = ⟨[0x07]⟩ := rfl
  have hAppId : serverState.forRelease.appId = "team app" := rfl
  have hPayload : deployedPayload clock = Client.payloadJson deployedCrates
      serverState.forRelease.appId (deployedCrates.hexEncode pkeskBytes)
      (Client.transportPublicKey deployedCrates transport) clock := by
    rw [hAppId, deployedPayload]
  obtain ⟨response, hRelease, hCheck, hOpen⟩ :=
    honest_release hHex jsonLaws p256Laws opensTo_deployed (by decide) transport hClock entropy
      hPayload (signedBy_deployed _)
  rw [hQuorum, hAppId] at hCheck
  exact ⟨response, hRelease, hCheck, hOpen⟩

theorem length_signatureBytes (payload : String) :
    (signatureBytes fingerprintArea payload).length = 42 := rfl

theorem length_pkeskBytes : pkeskBytes.length = 112 := by
  decide +kernel

theorem indexed_serverState :
    Indexed deployedCrates.rpgp 1000 serverState.forRelease.allowlist :=
  (parseAt_spec embeddedAllowlist_machine).2

theorem parts_deployed (time : UInt64) : 7 * (asBytes "team app").length + 2 * pkeskBytes.length +
    2 * (signatureBytes fingerprintArea (deployedPayload time)).length ≤ 7898 := by
  have hAppId : (asBytes "team app").length = 8 := by decide
  rw [hAppId, length_pkeskBytes, length_signatureBytes]
  decide

theorem deployedBody_fits (clock : UInt64) : (deployedBody clock).length ≤ Router.maxBodyBytes :=
  request_fits (sizeLaws publishedByTeam) p256Laws transport clock (parts_deployed clock)

end Reference

open Reference in
/-- The engineer's request and its answer. -/
theorem honest_sizes_fit_deployed :
    (deployedBody 1500).length ≤ Router.maxBodyBytes ∧ ∀ now entropy response,
      release deployedCrates serverState.forRelease (deployedBody 1500) now entropy =
          .ok response →
        (asBytes (deployedCrates.json.write response.toJson)).length ≤ Client.maxResponseBytes :=
  honest_sizes_fit (sizeLaws publishedByTeam) jsonLaws p256Laws (sealSizes publishedByTeam)
    indexed_serverState transport 1500 (parts_deployed 1500)

end TvcGpg
