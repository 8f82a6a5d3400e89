import TvcGpg.EndToEnd.HonestRun

/-!
# What an accepted answer proves

A client accepts answers that come over a network.  This module is about any
answer whatever: its fields may be mixed from the answers of any number of
requests the app has handled, or made up.  The one thing such an answer cannot
be is a forgery, and `Unforged` says what that means: its receipt was signed in
the history, or is no receipt.

Then an accepted receipt proves a release for this very run.  It does not vouch
for the envelope next to it, which is bound to nothing the quorum key signed:
what the client opens is the session key of the release only when the envelope
is the one of such a release.
-/

namespace TvcGpg

open Lib Lib.Text Lib.Fallible

/-- A request the app has handled, with the time and the randomness it was handled
with. -/
structure Handled where
  body : Bytes
  now : UInt64
  entropy : Bytes
  deriving DecidableEq, Repr

/-- What the app answered to it. -/
def Handled.outcome (handled : Handled) (crates : Crates) (state : AppState) :
    Except RejectReason SessionKeyResponse :=
  release crates state handled.body handled.now handled.entropy

/-- A text that reads as a receipt, by its domain. -/
def ReceiptForm (crates : Crates) (text : String) : Prop :=
  ∃ read, crates.json.read (asBytes text) = some read ∧
    (read.index "domain").asStr = some receiptDomain

/-- An answer that is no forgery: when the quorum key verifies its receipt, that
receipt was signed for a request of the history, or does not have the form of a
receipt. -/
def Unforged (crates : Crates) (state : AppState) (history : List Handled)
    (answer : Client.SessionKeyResponse) : Prop :=
  ∀ signature, crates.hexDecode answer.receiptSignature = some signature →
    crates.p256.verify (crates.p256.publicKey state.quorumKey) (asBytes answer.receiptJson)
        signature = true →
      (∃ handled ∈ history, ∃ response, handled.outcome crates state = .ok response ∧
        response.receiptJson = answer.receiptJson) ∨ ¬ ReceiptForm crates answer.receiptJson

/-- The PKESK of a run shares its digest with no other PKESK of the history. -/
def NoCollision (crates : Crates) (history : List Handled) (pkesk : Bytes) : Prop :=
  ∀ handled ∈ history, ∀ bytes ∈ pkeskBytesOf crates handled.body,
    crates.sha256 bytes = crates.sha256 pkesk → bytes = pkesk

/-- A request was released for the app id, the transport key and the PKESK of a run,
at the request of the holder of an allowlisted key. -/
structure ReleasedFor (crates : Crates) (state : AppState) (handled : Handled)
    (response : SessionKeyResponse) (entry : SignerEntry) (appId transport : String)
    (pkesk : Bytes) : Prop where
  released : handled.outcome crates state = .ok response
  app : state.appId = appId
  payload : ∃ payload ∈ payloadOf crates handled.body, payload.appId = appId ∧
    payload.transportPublicKey = transport
  pkesk : pkeskBytesOf crates handled.body = some pkesk
  listed : entryOf crates state handled.body = some entry
  signed : ∃ request ∈ requestOf crates handled.body,
    ∃ signature ∈ signatureOf crates handled.body,
      crates.rpgp.verify signature entry.key.details (asBytes request.payload) = true

section Receipts

variable {crates : Crates}

/-- What a released request says, together with the receipt of its answer. -/
theorem released_receipt (hJson : JsonLaws crates.json) {state : AppState} {handled : Handled}
    {response : SessionKeyResponse} (hOutcome : handled.outcome crates state = .ok response) :
    ∃ (entry : SignerEntry) (payload : SessionKeyPayload) (pkeskBytes : Bytes) (read : Json),
      ReleasedFor crates state handled response entry state.appId payload.transportPublicKey
          pkeskBytes ∧
        crates.json.read (asBytes response.receiptJson) = some read ∧
          (read.index "app_id").asStr = some state.appId ∧
            (read.index "transport_public_key").asStr = some payload.transportPublicKey ∧
              (read.index "pkesk_sha256").asStr =
                  some (crates.hexEncode (crates.sha256 pkeskBytes)) ∧
                (read.index "requester").asStr = some entry.primaryFingerprint := by
  obtain ⟨request, signature, entry, payload, transport, opening, hAuthenticated, hAdmitted,
    hReleased, rfl⟩ := (release_eq_ok_iff crates).mp hOutcome
  obtain ⟨hRequest, hSignature, hEntry⟩ := hAuthenticated.read crates
  obtain ⟨hPayload, hTransport⟩ := hAdmitted.read crates hRequest
  obtain ⟨hBytes, -⟩ := hReleased.read crates hEntry hPayload hTransport
  obtain ⟨read, hRead, -, hAppId, hRequester, hSha, hKey⟩ := read_receipt hJson hReleased.encoded
  refine ⟨entry, payload, opening.pkeskBytes, read, ⟨hOutcome, rfl, ⟨payload, hPayload,
    hAdmitted.appId, rfl⟩, hBytes, hEntry, ⟨request, hRequest, signature, hSignature, ?_⟩⟩, hRead,
    hAppId, hKey, hSha, hRequester⟩
  rw [← verified_eq]
  exact hAuthenticated.verifies

/-- The client's checks leave no room: an accepted answer carries the receipt of a
release for the app id, the transport key and the PKESK the client asked with. -/
theorem exists_releasedFor (hHex : HexLaws crates) (hJson : JsonLaws crates.json)
    {state : AppState} {history : List Handled} {answer : Client.SessionKeyResponse}
    {appId transport : String} {pkesk : Bytes}
    (hUnforged : Unforged crates state history answer)
    (hCollision : NoCollision crates history pkesk)
    (hAccepts : Client.checkResponse crates answer (crates.p256.publicKey state.quorumKey) appId
      transport pkesk = .ok ⟨⟩) :
    ∃ handled ∈ history, ∃ response entry,
      ReleasedFor crates state handled response entry appId transport pkesk ∧
        response.receiptJson = answer.receiptJson ∧
          ∃ read, crates.json.read (asBytes answer.receiptJson) = some read ∧
            (read.index "requester").asStr = some entry.primaryFingerprint := by
  obtain ⟨signature, receipt, hSignature, hVerify, hRead, hDomain, hAppId, hTransport, hSha⟩ :=
    checkResponse_eq_ok_iff.mp hAccepts
  rcases hUnforged signature hSignature hVerify with
    ⟨handled, hMem, response, hOutcome, hText⟩ | hForm
  swap
  · exact absurd ⟨receipt, hRead, hDomain⟩ hForm
  obtain ⟨entry, payload, pkeskBytes, read, hReleased, hReadAgain, hOwnAppId, hOwnTransport,
    hOwnSha, hRequester⟩ := released_receipt hJson hOutcome
  -- the receipt the client read is the receipt the app wrote
  rw [hText, hRead] at hReadAgain
  obtain rfl := Option.some.inj hReadAgain
  obtain rfl : state.appId = appId := Option.some.inj (hOwnAppId.symm.trans hAppId)
  obtain rfl : payload.transportPublicKey = transport :=
    Option.some.inj (hOwnTransport.symm.trans hTransport)
  have hDigest : crates.sha256 pkeskBytes = crates.sha256 pkesk :=
    hHex.encode_injective (Option.some.inj (hOwnSha.symm.trans hSha))
  obtain rfl := hCollision handled hMem pkeskBytes hReleased.pkesk hDigest
  exact ⟨handled, hMem, response, entry, hReleased, hText, receipt, hRead, hRequester⟩

/-- An accepted receipt proves a release for this very run: some request of the
history was released for this app id, this transport key and this PKESK, and the
receipt names the certificate of an allowlisted key that signed its payload. -/
theorem accepted_receipt_proves_release (hHex : HexLaws crates) (hJson : JsonLaws crates.json)
    {armored : Bytes} {boot : UInt32} {state : AppState}
    (hParse : Allowlist.parseAt crates.rpgp armored boot = .ok state.allowlist)
    {history : List Handled} {answer : Client.SessionKeyResponse} {appId transport : String}
    {pkesk : Bytes} (hUnforged : Unforged crates state history answer)
    (hCollision : NoCollision crates history pkesk)
    (hAccepts : Client.checkResponse crates answer (crates.p256.publicKey state.quorumKey) appId
      transport pkesk = .ok ⟨⟩) :
    ∃ handled ∈ history, ∃ response entry,
      ReleasedFor crates state handled response entry appId transport pkesk ∧
        Usable crates.rpgp state.allowlist.certificates boot entry.certificate entry.key ∧
          ∃ read, crates.json.read (asBytes answer.receiptJson) = some read ∧
            (read.index "requester").asStr =
              some (toUppercase (toString entry.certificate.primaryFingerprint)) := by
  obtain ⟨handled, hMem, response, entry, hReleased, -, read, hRead, hRequester⟩ :=
    exists_releasedFor hHex hJson hUnforged hCollision hAccepts
  obtain ⟨-, hIndexed⟩ := parseAt_spec hParse
  have hListed := hReleased.listed
  unfold entryOf at hListed
  obtain ⟨signature, -, hLookup⟩ := Option.bind_eq_some_iff.mp hListed
  obtain ⟨hUsable, hPrimary⟩ :=
    mem_acceptedEntries_iff.mp (mem_acceptedEntries_of_lookup hIndexed hLookup)
  exact ⟨handled, hMem, response, entry, hReleased, hUsable, read, hRead, hPrimary ▸ hRequester⟩

namespace Reference

/-- A run of the engineer, handled at second 1500. -/
def handledRun : Handled where
  body := bodyAt none 1500 fingerprintArea
  now := 1500
  entropy := []

theorem body_handledRun : handledRun.body = bodyAt none 1500 fingerprintArea := by
  rw [handledRun]

theorem outcome_handledRun : handledRun.outcome (engineerCrates none) (state none) =
    release (engineerCrates none) (state none) (bodyAt none 1500 fingerprintArea) 1500 [] := by
  rw [Handled.outcome, handledRun]

/-- The history of this one request. -/
def history : List Handled := [handledRun]

/-- The one request of the history asks for the PKESK of the message. -/
theorem noCollision_history : NoCollision (engineerCrates none) history pkeskBytes := by
  intro handled hMem bytes hBytes _
  rw [List.mem_singleton.mp hMem, body_handledRun, pkeskBytesOf_bodyAt] at hBytes
  exact (Option.some.inj hBytes).symm

/-- What the app answered to it, and what the client makes of that answer. -/
theorem exists_answer : ∃ handled ∈ history, ∃ response,
    handled.outcome (engineerCrates none) (state none) = .ok response ∧
      Client.checkResponse (engineerCrates none) (clientView response) ⟨[0x07]⟩ "team app"
        (transportText none) pkeskBytes = .ok ⟨⟩ ∧
      Client.openSessionKey (engineerCrates none) transport
        (clientView response).wrappedSessionKey = .ok (7 :: sessionKey) := by
  obtain ⟨response, hRelease, hCheck, hOpen⟩ :=
    release_bodyAt none 1500 (.inl rfl) nextPacket_fingerprint []
  rw [← outcome_handledRun] at hRelease
  exact ⟨handledRun, List.mem_cons_self, response, hRelease, hCheck, hOpen⟩

/-- An answer with a receipt of the history is no forgery. -/
theorem unforged_of_recorded {handled : Handled} (hMem : handled ∈ history)
    {response : SessionKeyResponse}
    (hOutcome : handled.outcome (engineerCrates none) (state none) = .ok response)
    {answer : Client.SessionKeyResponse} (hText : response.receiptJson = answer.receiptJson) :
    Unforged (engineerCrates none) (state none) history answer := by
  intro _ _ _
  exact .inl ⟨handled, hMem, response, hOutcome, hText⟩

end Reference

open Reference in
/-- The engineer accepts the answer of the app. -/
theorem accepted_receipt_proves_release_history : ∃ answer,
    Client.checkResponse (engineerCrates none) answer ⟨[0x07]⟩ "team app" (transportText none)
        pkeskBytes = .ok ⟨⟩ ∧
      ∃ handled ∈ history, ∃ response entry,
        ReleasedFor (engineerCrates none) (state none) handled response entry "team app"
            (transportText none) pkeskBytes ∧
          Usable (engineerCrates none).rpgp [certificate none []] 1000 entry.certificate
              entry.key ∧
            ∃ read, (engineerCrates none).json.read (asBytes answer.receiptJson) = some read ∧
              (read.index "requester").asStr =
                some (toUppercase (toString entry.certificate.primaryFingerprint)) := by
  obtain ⟨handled, hMem, response, hOutcome, hCheck, -⟩ := exists_answer
  have hHex : HexLaws (engineerCrates none) := hexLaws _
  exact ⟨clientView response, hCheck,
    accepted_receipt_proves_release hHex jsonLaws (parseAt_firstBlock (unlimited_fresh 1000))
      (unforged_of_recorded hMem hOutcome rfl) noCollision_history hCheck⟩

/-! ## The envelope -/

/-- The envelope of a release for a transport key opens, with the pair of that key,
to the session key of the release. -/
theorem ReleasedFor.opens (hHex : HexLaws crates) (hP256 : P256Laws crates.p256)
    {state : AppState} {handled : Handled} {response : SessionKeyResponse} {entry : SignerEntry}
    {appId : String} {pkesk : Bytes} {transport : P256EncryptPair}
    (hReleased : ReleasedFor crates state handled response entry appId
      (Client.transportPublicKey crates transport) pkesk) :
    ∃ envelope plain, crates.hexDecode response.wrappedSessionKey = some envelope ∧
      crates.p256.decrypt transport envelope = some plain ∧
        sessionKeyOf crates state handled.body = some plain := by
  obtain ⟨request, signature, found, payload, public', opening, hAuthenticated, hAdmitted,
    hOpening, hResponse⟩ := (release_eq_ok_iff crates).mp hReleased.released
  obtain ⟨hRequest, -, hEntry⟩ := hAuthenticated.read crates
  obtain ⟨hPayload, hTransport⟩ := hAdmitted.read crates hRequest
  obtain ⟨-, -, -, hPlain, -⟩ := hOpening.read crates hEntry hPayload hTransport
  -- the payload names the key of this pair, so the envelope was made for it
  obtain ⟨payload', hPayload', -, hKey⟩ := hReleased.payload
  rw [hPayload] at hPayload'
  obtain rfl := Option.some.inj hPayload'
  obtain ⟨bytes, hBytes, -, -, hPublic⟩ := (transportKey_eq_ok_iff crates).mp hAdmitted.transport
  rw [hKey] at hBytes
  obtain rfl := Option.some.inj ((hHex.decode_encode _).symm.trans hBytes)
  obtain rfl := Option.some.inj ((hP256.encryptPublic_read transport).symm.trans hPublic)
  obtain ⟨envelope, hEnvelope, hDecrypt⟩ :=
    hP256.encrypt_opens transport (opening.symAlg :: opening.key) handled.entropy
  obtain rfl := Option.some.inj (hEnvelope.symm.trans hOpening.enveloped)
  subst hResponse
  refine ⟨opening.envelope, _, hHex.decode_encode _, hDecrypt, ?_⟩
  unfold sessionKeyOf
  rw [hPlain]

open Reference in
/-- Whoever knows the transport key of a run can replace the envelope of its answer,
and the client opens what is not the session key of any release. -/
theorem replaced_envelope_accepted : ∃ response envelope,
    (∃ handled ∈ history, handled.outcome (engineerCrates none) (state none) = .ok response) ∧
      (engineerCrates none).p256.encrypt
          ((engineerCrates none).p256.encryptPublicKey transport) [7, 0x44] [] = some envelope ∧
        Unforged (engineerCrates none) (state none) history
            { clientView response with wrappedSessionKey := Hex.encode envelope } ∧
          NoCollision (engineerCrates none) history pkeskBytes ∧
            Client.checkResponse (engineerCrates none)
                { clientView response with wrappedSessionKey := Hex.encode envelope } ⟨[0x07]⟩
                "team app" (transportText none) pkeskBytes = .ok ⟨⟩ ∧
              Client.openSessionKey (engineerCrates none) transport (Hex.encode envelope) =
                  .ok [7, 0x44] ∧
                ∀ handled ∈ history,
                  sessionKeyOf (engineerCrates none) (state none) handled.body ≠
                    some [7, 0x44] := by
  obtain ⟨handled, hMem, response, hOutcome, hCheck, -⟩ := exists_answer
  obtain ⟨envelope, hEnvelope, hDecrypt⟩ := p256Laws.encrypt_opens transport [7, 0x44] []
  refine ⟨response, envelope, ⟨handled, hMem, hOutcome⟩, hEnvelope,
    unforged_of_recorded hMem hOutcome rfl, noCollision_history, hCheck, ?_, ?_⟩
  · exact openSessionKey_eq_ok_iff.mpr ⟨envelope, Hex.decode_encode envelope, hDecrypt, le_rfl⟩
  · intro other hOther
    rw [List.mem_singleton.mp hOther, body_handledRun, sessionKeyOf_bodyAt]
    decide

/-- What an accepted answer is worth: it proves a release for this run, and what it
opens to is the session key of such a release whenever its envelope is the one of
such a release.  The envelope itself is not checked: an answer that differs in
it alone is accepted alike. -/
theorem accepted_answer_opens (hHex : HexLaws crates) (hJson : JsonLaws crates.json)
    (hP256 : P256Laws crates.p256) {state : AppState} {history : List Handled}
    {answer : Client.SessionKeyResponse} {appId : String} {transport : P256EncryptPair}
    {pkesk plain : Bytes} (hUnforged : Unforged crates state history answer)
    (hCollision : NoCollision crates history pkesk)
    (hAccepts : Client.checkResponse crates answer (crates.p256.publicKey state.quorumKey) appId
      (Client.transportPublicKey crates transport) pkesk = .ok ⟨⟩)
    (hOpens : Client.openSessionKey crates transport answer.wrappedSessionKey = .ok plain) :
    (∃ handled ∈ history, ∃ response entry, ReleasedFor crates state handled response entry appId
        (Client.transportPublicKey crates transport) pkesk) ∧
      (∀ handled ∈ history, ∀ response entry, ReleasedFor crates state handled response entry
          appId (Client.transportPublicKey crates transport) pkesk →
        answer.wrappedSessionKey = response.wrappedSessionKey →
          sessionKeyOf crates state handled.body = some plain) ∧
      ∀ wrapped, Client.checkResponse crates { answer with wrappedSessionKey := wrapped }
        (crates.p256.publicKey state.quorumKey) appId
        (Client.transportPublicKey crates transport) pkesk = .ok ⟨⟩ := by
  refine ⟨?_, ?_, fun wrapped => hAccepts⟩
  · obtain ⟨handled, hMem, response, entry, hReleased, -⟩ :=
      exists_releasedFor hHex hJson hUnforged hCollision hAccepts
    exact ⟨handled, hMem, response, entry, hReleased⟩
  · intro handled hMem response entry hReleased hSame
    obtain ⟨envelope, found, hEnvelope, hDecrypt, hSession⟩ := hReleased.opens hHex hP256
    obtain ⟨opened, hOpened, hPlain, -⟩ := openSessionKey_eq_ok_iff.mp hOpens
    rw [hSame, hEnvelope] at hOpened
    obtain rfl := Option.some.inj hOpened
    rw [hDecrypt] at hPlain
    rw [hSession, hPlain]

open Reference in
/-- The engineer opens the answer of the app. -/
theorem accepted_answer_opens_history : ∃ (answer : Client.SessionKeyResponse) (plain : Bytes),
    Client.openSessionKey (engineerCrates none) transport answer.wrappedSessionKey = .ok plain ∧
      (∃ handled ∈ history, ∃ response entry,
        ReleasedFor (engineerCrates none) (state none) handled response entry "team app"
          (transportText none) pkeskBytes) ∧
        (∀ handled ∈ history, ∀ response entry,
          ReleasedFor (engineerCrates none) (state none) handled response entry "team app"
              (transportText none) pkeskBytes →
            answer.wrappedSessionKey = response.wrappedSessionKey →
              sessionKeyOf (engineerCrates none) (state none) handled.body = some plain) ∧
          ∀ wrapped, Client.checkResponse (engineerCrates none)
            { answer with wrappedSessionKey := wrapped } ⟨[0x07]⟩ "team app" (transportText none)
              pkeskBytes = .ok ⟨⟩ := by
  obtain ⟨handled, hMem, response, hOutcome, hCheck, hOpen⟩ := exists_answer
  have hHex : HexLaws (engineerCrates none) := hexLaws _
  exact ⟨clientView response, 7 :: sessionKey, hOpen,
    accepted_answer_opens hHex jsonLaws p256Laws (unforged_of_recorded hMem hOutcome rfl)
      noCollision_history hCheck hOpen⟩

end Receipts
end TvcGpg
