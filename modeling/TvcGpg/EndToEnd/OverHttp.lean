import TvcGpg.Client.Actions
import TvcGpg.Client.MessageFile
import TvcGpg.Model.Http
import TvcGpg.Server.Replies

/-!
# The client and the server over HTTP

Both programs with nothing left out between them: the client builds a request, the router
answers it, and the client reads the answer.  `Reaches` is all that is asked of the network
and of the HTTP library.  The error of a handler comes to the user as the handler put it
(`user_sees_the_reason`), and an honest run against a server that has started as it should
goes through, from the key the server publishes to the session key that is handed to gpg
(`honest_client_reads_over_http`).
-/

namespace TvcGpg

open Lib Lib.Text Lib.Fallible Client Router

/-! ## The network -/

/-- What `ureq` makes of an answer: a status from 400 on is an error. -/
def received (response : Response) : Except HttpFailure Body :=
  if response.status.number < 400 then .ok ⟨response.body, true⟩
  else .error (.status response.status.number ⟨response.body, true⟩)

/-- The request for the public key. -/
def publicKeyRequest : Router.Request where
  method := .get
  path := "/public-key"
  body := []
  complete := true

/-- The request for a session key. -/
def sessionKeyRequest (body : Bytes) : Router.Request where
  method := .post
  path := "/session-key"
  body := body
  complete := true

/-- The URLs of a client lead to a server, which handles what it is sent at some time, and
what it answers is brought back and can be read as the text it is. -/
structure Reaches (crates : Crates) (exports : Team.ExportCrates) (axum : Axum)
    (state : ServerState) (clock : Option UInt64) (entropy : Bytes) (network : Network)
    (appUrl : String) : Prop where
  get : network.get (publicKeyUrl appUrl) =
    received (handle crates exports axum state clock entropy publicKeyRequest)
  post : ∀ body, network.post (sessionKeyUrl appUrl) body =
    received (handle crates exports axum state clock entropy (sessionKeyRequest body))
  text : ∀ request text,
    (handle crates exports axum state clock entropy request).body = asBytes text →
      network.intoString ⟨asBytes text, true⟩ = some text

/-- How the client tells its user what the app answered. -/
def toldAs (route : String) (number : Nat) (reason : String) : String :=
  s!"{route} answered {number}: {reason}"

theorem toldAs_injective (route : String) (number : Nat) :
    Function.Injective (toldAs route number) := by
  intro reason reason' hSame
  have hChars := congrArg String.toList hSame
  unfold toldAs at hChars
  simp only [String.toList_append] at hChars
  exact String.toList_inj.mp (List.append_cancel_left hChars)

section OverHttp

variable {crates : Crates} {exports : Team.ExportCrates} {axum : Axum} {state : ServerState}
  {clock : Option UInt64} {entropy : Bytes} {network : Network} {appUrl : String}

/-! ## The public key -/

/-- The client is given the key the server exports. -/
theorem fetchPublicKey_reached
    (hReaches : Reaches crates exports axum state clock entropy network appUrl) {armored : String}
    (hArmored : state.teamKey.publicKeyArmored exports = .ok armored) :
    fetchPublicKey crates network appUrl = .ok armored := by
  have hAnswer : handle crates exports axum state clock entropy publicKeyRequest =
      { status := .ok, body := asBytes armored } := by
    have hPublic : publicKey exports state = .ok armored := by
      unfold publicKey
      rw [hArmored]
      rfl
    unfold handle Router.get publicKeyRequest
    dsimp only
    rw [if_neg (by decide), if_pos rfl, hPublic]
    rfl
  have hText := hReaches.text publicKeyRequest armored (by rw [hAnswer])
  unfold fetchPublicKey
  rw [hReaches.get, hAnswer]
  show okOr (network.intoString ⟨asBytes armored, true⟩) _ = _
  rw [hText, okOr_some]

/-! ## The session key -/

/-- A request within the limit reaches the handler. -/
theorem handle_sessionKeyRequest {body : Bytes} (hFits : body.length ≤ maxBodyBytes) :
    handle crates exports axum state clock entropy (sessionKeyRequest body) =
      answer crates ((sessionKey crates state clock entropy body).map fun response =>
        asBytes (crates.json.write response.toJson)) := by
  rw [handle_sessionKey rfl]
  unfold post sessionKeyRequest readBody
  dsimp only
  rw [if_neg (Nat.not_lt.mpr hFits), if_pos rfl]

/-- The reason in an error answer is the one the handler gave. -/
theorem httpError_intoResponse (hJson : JsonLaws crates.json) {error : AppError} {route : String}
    {number : Nat}
    (hText : network.intoString ⟨(intoResponse crates error).body, true⟩ =
      some (crates.json.write (errorJson error.message))) :
    httpError crates network route (.status number ⟨(intoResponse crates error).body, true⟩) =
      toldAs route number error.message := by
  have hFlat : FlatFields [("error", .string error.message)] := flatFields_nil.string
  have hRead := hJson.read_write _ hFlat
  unfold httpError
  dsimp only
  rw [hText, Option.getD_some]
  unfold errorJson
  rw [hRead, Option.bind_some]
  rfl

/-- What a request comes back as when the handler fails. -/
theorem postSessionKey_of_error (hJson : JsonLaws crates.json)
    (hReaches : Reaches crates exports axum state clock entropy network appUrl)
    {payload : String} {signature : Bytes} {error : AppError}
    (hFits : (sessionKeyBody crates payload signature).length ≤ maxBodyBytes)
    (hError : sessionKey crates state clock entropy (sessionKeyBody crates payload signature) =
      .error error) :
    postSessionKey crates network appUrl payload signature =
      .error (toldAs "/session-key" (ofError error.status).number error.message) := by
  have hAnswer := @handle_sessionKeyRequest crates exports axum state clock entropy _ hFits
  rw [hError] at hAnswer
  have hReceived : received (intoResponse crates error) = .error
      (.status (ofError error.status).number ⟨(intoResponse crates error).body, true⟩) := by
    unfold received intoResponse
    cases error.status <;> rfl
  have hText := hReaches.text _ (crates.json.write (errorJson error.message))
    (congrArg Response.body hAnswer)
  unfold postSessionKey
  dsimp only
  rw [hReaches.post, hAnswer]
  show (received (intoResponse crates error)).mapError _ >>= _ = _
  rw [hReceived]
  show Except.error (httpError crates network "/session-key" _) = _
  rw [httpError_intoResponse hJson hText]

/-- What a request comes back as when the handler releases a session key. -/
theorem postSessionKey_of_ok (hJson : JsonLaws crates.json)
    (hReaches : Reaches crates exports axum state clock entropy network appUrl)
    {payload : String} {signature : Bytes} {response : SessionKeyResponse}
    (hFits : (sessionKeyBody crates payload signature).length ≤ maxBodyBytes)
    (hOk : sessionKey crates state clock entropy (sessionKeyBody crates payload signature) =
      .ok response)
    (hShort : (asBytes (crates.json.write response.toJson)).length ≤ maxResponseBytes) :
    postSessionKey crates network appUrl payload signature = .ok (clientView response) := by
  have hAnswer := @handle_sessionKeyRequest crates exports axum state clock entropy _ hFits
  rw [hOk] at hAnswer
  have hTaken : (Body.mk (asBytes (crates.json.write response.toJson)) true).take
      maxResponseBytes = some (asBytes (crates.json.write response.toJson)) := by
    unfold Body.take
    rw [if_pos (.inl rfl), List.take_of_length_le hShort]
  unfold postSessionKey
  dsimp only
  rw [hReaches.post, hAnswer]
  show okOr ((Body.mk (asBytes (crates.json.write response.toJson)) true).take maxResponseBytes)
    "/session-key did not send a session key" >>= readResponse crates = _
  rw [hTaken, okOr_some, ok_bind, readResponse_toJson hJson hShort]

/-- Different reasons are told in different words. -/
theorem message_injective {reason reason' : RejectReason}
    (hSame : reason.message = reason'.message) : reason = reason' := by
  revert hSame
  cases reason <;> cases reason' <;> decide

/-- A request that reaches the handler comes back with the session key that was released, or
with the very reason the release gave, word for word, and no two reasons read alike. -/
theorem user_sees_the_reason (hJson : JsonLaws crates.json) {now : UInt64}
    (hReaches : Reaches crates exports axum state (some now) entropy network appUrl)
    {payload : String} {signature : Bytes}
    (hFits : (sessionKeyBody crates payload signature).length ≤ maxBodyBytes)
    (hShort : ∀ response, release crates state.forRelease (sessionKeyBody crates payload signature)
      now entropy = .ok response →
        (asBytes (crates.json.write response.toJson)).length ≤ maxResponseBytes) :
    (∀ response, release crates state.forRelease (sessionKeyBody crates payload signature) now
        entropy = .ok response →
      postSessionKey crates network appUrl payload signature = .ok (clientView response)) ∧
    ∀ reason, release crates state.forRelease (sessionKeyBody crates payload signature) now
        entropy = .error reason ↔
      postSessionKey crates network appUrl payload signature =
        .error (toldAs "/session-key" 400 reason.message) := by
  have hReleased : ∀ response, release crates state.forRelease
      (sessionKeyBody crates payload signature) now entropy = .ok response →
        postSessionKey crates network appUrl payload signature = .ok (clientView response) := by
    intro response hRelease
    have hOk := sessionKey_eq_ok_iff.mpr ⟨now, rfl, hRelease⟩
    exact postSessionKey_of_ok hJson hReaches hFits hOk (hShort response hRelease)
  have hRefused : ∀ reason, release crates state.forRelease
      (sessionKeyBody crates payload signature) now entropy = .error reason →
        postSessionKey crates network appUrl payload signature =
          .error (toldAs "/session-key" 400 reason.message) := by
    intro reason hRelease
    have hError : sessionKey crates state (some now) entropy
        (sessionKeyBody crates payload signature) = .error (.fromReason reason) := by
      unfold sessionKey releaseSessionKey
      rw [okOr_some, ok_bind, hRelease]
      rfl
    have hNumber : (ofError (AppError.fromReason reason).status).number = 400 := rfl
    have hMessage : (AppError.fromReason reason).message = reason.message := rfl
    rw [postSessionKey_of_error hJson hReaches hFits hError, hNumber, hMessage]
  refine ⟨hReleased, fun reason => ⟨hRefused reason, fun hTold => ?_⟩⟩
  cases hOutcome : release crates state.forRelease (sessionKeyBody crates payload signature) now
      entropy with
  | ok response =>
      rw [hReleased response hOutcome] at hTold
      cases hTold
  | error reason' =>
      rw [hRefused reason' hOutcome] at hTold
      obtain rfl := message_injective (toldAs_injective _ _ (Except.error.inj hTold))
      rfl

end OverHttp

namespace Reference

/-- The texts of axum. -/
def axumTexts : Axum where
  lengthLimit := asBytes "length limit exceeded"
  unknownBody := asBytes "Failed to buffer the request body"

/-- A network that has the team's server at the other end of every URL. -/
def network (now : UInt64) : Network where
  get _ := received
    (handle deployedCrates exportCrates axumTexts serverState (some now) [] publicKeyRequest)
  post _ body := received
    (handle deployedCrates exportCrates axumTexts serverState (some now) []
      (sessionKeyRequest body))
  intoString body := fromUtf8 body.bytes

theorem reaches_network (now : UInt64) (appUrl : String) :
    Reaches deployedCrates exportCrates axumTexts serverState (some now) [] (network now)
      appUrl where
  get := rfl
  post _ := rfl
  text _ text _ := fromUtf8_asBytes text

end Reference

open Reference in
/-- The engineer's request, a minute after it was signed. -/
theorem user_sees_the_reason_deployed :
    let payload := deployedPayload 1500
    let signature := signatureBytes fingerprintArea payload
    (∀ response, release deployedCrates serverState.forRelease
        (sessionKeyBody deployedCrates payload signature) 1560 [] = .ok response →
      postSessionKey deployedCrates (network 1560) "https://app" payload signature =
        .ok (clientView response)) ∧
    ∀ reason, release deployedCrates serverState.forRelease
        (sessionKeyBody deployedCrates payload signature) 1560 [] = .error reason ↔
      postSessionKey deployedCrates (network 1560) "https://app" payload signature =
        .error (toldAs "/session-key" 400 reason.message) := by
  have hSizes := sizeLaws publishedByTeam
  have hFits := request_fits hSizes p256Laws transport 1500 (parts_deployed 1500)
  exact user_sees_the_reason jsonLaws (reaches_network 1560 "https://app") hFits
    fun response hRelease => answer_fits hSizes jsonLaws p256Laws (sealSizes publishedByTeam)
      indexed_serverState (by decide) hRelease

/-! ## A whole run -/

/-- What a client and a server are linked with keeps its promises. -/
structure LinkedLaws (crates : Crates) (keys : Team.KeyCrates) (exports : Team.ExportCrates) :
    Prop where
  hex : HexLaws crates
  json : JsonLaws crates.json
  p256 : P256Laws crates.p256
  pkesk : PkeskLaws crates.rpgp
  packets : Team.PacketLaws keys
  exports : Team.ExportLaws crates exports
  sizes : SizeLaws crates

/-- A message to the team, as the client reads it: the first PKESK to the server's subkey opens
to this session key. -/
structure ToTheTeam (crates : Crates) (state : AppState) (message : Bytes)
    (pkesks : List PublicKeyEncryptedSessionKey) (symAlg : UInt8) (key : Bytes) : Prop where
  walks : ∃ packets, packetBytes crates message = .ok packets ∧
    sessionKeyPackets crates packets = .ok pkesks
  opens : ∃ pkesk point wrapped,
    pkesks.find? (fun pkesk => pkesk.id = some state.teamKey.subkeyKeyId) = some pkesk ∧
      EcdhPkesk pkesk point wrapped ∧
        crates.rpgp.decrypt state.teamKey.encryptionSubkey (.ecdh point wrapped) =
          some (some (.v3_4 symAlg key))
  nonempty : key ≠ []

section Run

variable {crates : Crates} {keys : Team.KeyCrates} {exports : Team.ExportCrates} {axum : Axum}
  {expected : Option String} {cli : Boot.Cli} {machine : Boot.Machine} {serving : Boot.Serving}
  {network : Network} {world : World} {args : Decrypt}

theorem derive_of_deriveTeamKey {quorum : P256Pair} {teamKey : Team.TeamKey}
    (hDerived : Boot.deriveTeamKey keys quorum = .ok teamKey) :
    ∃ after, Team.TeamKey.derive keys quorum [] = .ok teamKey after := by
  unfold Boot.deriveTeamKey at hDerived
  split at hDerived
  · rename_i found after hOk
    obtain rfl := Except.ok.inj hDerived
    exact ⟨after, hOk⟩
  · cases hDerived

/-- What the client reads of a message before anything leaves the machine. -/
theorem examine_of_toTheTeam {state : AppState} {quorum : P256Public} {message : Bytes}
    {pkesks : List PublicKeyEncryptedSessionKey} {symAlg : UInt8} {key : Bytes}
    (hPin : pinnedQuorumKey crates args.quorumPublicKey = .ok quorum)
    (hMessage : readMessage world args.file = .ok message)
    (hTeam : ToTheTeam crates state message pkesks symAlg key) :
    examine crates world args = .ok ⟨quorum, message, pkesks⟩ := by
  obtain ⟨packets, hPackets, hWalk⟩ := hTeam.walks
  unfold examine
  rw [hPin, ok_bind, hMessage, ok_bind, hPackets, ok_bind, hWalk]
  rfl

/-- An honest client gets the session key of its message from a server that has started: it is
published the server's own subkey, posts what the server releases, accepts what comes back,
and hands gpg the session key the server decrypted. -/
theorem honest_client_reads_over_http (hLinked : LinkedLaws crates keys exports)
    (hStarts : Boot.Starts crates keys expected cli machine serving) {now clock : UInt64}
    {entropy : Bytes}
    (hReaches : Reaches crates exports axum serving.state (some now) entropy network args.appUrl)
    {armored : String} (hArmored : serving.state.teamKey.publicKeyArmored exports = .ok armored)
    (hAppId : args.appId = cli.appId)
    (hPin : pinnedQuorumKey crates args.quorumPublicKey =
      .ok (crates.p256.publicKey serving.state.quorumKey))
    {message : Bytes} (hMessage : readMessage world args.file = .ok message)
    {pkesks : List PublicKeyEncryptedSessionKey} {symAlg : UInt8} {key : Bytes}
    (hTeam : ToTheTeam crates serving.state.forRelease message pkesks symAlg key)
    (hTime : world.clock = some clock)
    (hClock : ((now.toNat : Int) - (clock.toNat : Int)).natAbs ≤ 300)
    {pkeskBytes : Bytes}
    (hFor : pkeskFor crates pkesks serving.state.forRelease.teamKey.subkeyKeyId = .ok pkeskBytes)
    {payload : String} (hPayload : payload = payloadJson crates args.appId
      (crates.hexEncode pkeskBytes) (transportPublicKey crates world.transport) clock)
    {bytes : Bytes} (hSign : world.sign (signArgs args.signer) payload = .ok bytes)
    {signature : Signature} {entry : SignerEntry}
    (hSigned : SignedBy crates serving.state.forRelease payload bytes signature entry)
    (hSeal : SealSizes crates serving.state.quorumKey)
    (hParts : 7 * (asBytes args.appId).length + 2 * pkeskBytes.length + 2 * bytes.length ≤ 7898) :
    prepare crates (online crates network world) args =
      handOver (online crates network world) args message
        (toString symAlg ++ ":" ++ Hex.encodeUpper key) := by
  obtain ⟨pkesk, point, wrapped, hFirst, hEcdh, hOpened⟩ := hTeam.opens
  obtain ⟨found, hFound, hOpens⟩ := opensTo_of_pkeskFor hLinked.pkesk hFirst hEcdh hOpened
  obtain rfl : found = pkeskBytes := Except.ok.inj (hFound.symm.trans hFor)
  have hState : serving.state.forRelease.appId = args.appId := hStarts.appId.trans hAppId.symm
  obtain ⟨response, hRelease, hOwnCheck, hOpen⟩ := honest_release hLinked.hex hLinked.json
    hLinked.p256 hOpens hTeam.nonempty world.transport hClock entropy (hState ▸ hPayload) hSigned
  have hCheck : checkResponse crates (clientView response)
      (crates.p256.publicKey serving.state.quorumKey) args.appId
        (transportPublicKey crates world.transport) found = .ok ⟨⟩ := by
    rw [hState] at hOwnCheck
    exact hOwnCheck
  obtain ⟨after, hDerive⟩ := derive_of_deriveTeamKey hStarts.derived
  have hSubkey : encryptionSubkeyId crates armored =
      .ok serving.state.forRelease.teamKey.subkeyKeyId :=
    Team.encryptionSubkeyId_of_derive hLinked.packets hLinked.exports hDerive hArmored
  have hIndexed := (parseAt_spec hStarts.allowlist).2
  have hFits : (sessionKeyBody crates payload bytes).length ≤ maxBodyBytes := by
    rw [hPayload]
    exact request_fits hLinked.sizes hLinked.p256 world.transport clock hParts
  have hShort : (asBytes (crates.json.write response.toJson)).length ≤ maxResponseBytes :=
    answer_fits hLinked.sizes hLinked.json hLinked.p256 hSeal hIndexed (by omega)
      (hPayload ▸ hRelease)
  -- one stage after the other, each by what the other side does
  have hExamine : examine crates (online crates network world) args = .ok ⟨_, message, pkesks⟩ :=
    examine_of_toTheTeam hPin hMessage hTeam
  have hFetch : (online crates network world).fetchPublicKey args.appUrl = .ok armored :=
    fetchPublicKey_reached hReaches hArmored
  have hAsk : ask crates (online crates network world) args pkesks armored =
      .ok ⟨found, payload⟩ := by
    unfold ask
    rw [hSubkey, ok_bind, hFor, ok_bind]
    show okOr world.clock _ >>= _ = _
    rw [hTime, okOr_some, ok_bind, hPayload]
    rfl
  have hPost : (online crates network world).postSessionKey args.appUrl payload bytes =
      .ok (clientView response) :=
    postSessionKey_of_ok hLinked.json hReaches hFits
      (sessionKey_eq_ok_iff.mpr ⟨now, rfl, hRelease⟩) hShort
  have hAccept : accept crates (crates.p256.publicKey serving.state.quorumKey) args.appId
      world.transport found (clientView response) =
        .ok (toString symAlg ++ ":" ++ Hex.encodeUpper key) := by
    unfold accept
    rw [hCheck, ok_bind, hOpen, ok_bind, sessionKeyString_cons]
  rw [prepare_eq_stages, hExamine, ok_bind, hFetch, ok_bind, hAsk, ok_bind]
  show world.sign (signArgs args.signer) payload >>= _ = _
  rw [hSign, ok_bind, hPost, ok_bind]
  show accept crates (crates.p256.publicKey serving.state.quorumKey) args.appId world.transport
    found
    (clientView response) >>= _ = _
  rw [hAccept, ok_bind]

end Run

namespace Reference

theorem linkedLaws : LinkedLaws deployedCrates keyCrates exportCrates where
  hex := hexLaws publishedByTeam
  json := jsonLaws
  p256 := p256Laws
  pkesk := pkeskLaws publishedByTeam
  packets := packetLaws
  exports := exportLaws
  sizes := sizeLaws publishedByTeam

theorem toTheTeam_message :
    ToTheTeam deployedCrates serverState.forRelease message [pkesk] 7 sessionKey where
  walks := ⟨message, packetBytes_message, sessionKeyPackets_message⟩
  opens := ⟨pkesk, point [0x0B], wrappedKey, rfl, ecdhPkesk, by
    show some ((unwrap 0x5A wrappedKey).bind unpadKey) = _
    rw [wrappedKey, unwrap_wrap, Option.bind_some, unpadKey_padKey]⟩
  nonempty := by decide

end Reference

open Reference in
/-- The engineer reads a message of the team through the network. -/
theorem honest_client_reads_over_http_message :
    prepare deployedCrates (online deployedCrates (network 1560) runWorld) (runArgs none) =
      handOver (online deployedCrates (network 1560) runWorld) (runArgs none) message
        (toString (7 : UInt8) ++ ":" ++ Hex.encodeUpper sessionKey) := by
  have hStarts := starts_machine pinned_subkeyText
  have hPin : pinnedQuorumKey deployedCrates (runArgs none).quorumPublicKey =
      .ok (deployedCrates.p256.publicKey serverState.quorumKey) := pinnedQuorumKey_runArgs none
  have hMessage : readMessage runWorld (runArgs none).file = .ok message := readMessage_runWorld
  have hFor : pkeskFor deployedCrates [pkesk] serverState.forRelease.teamKey.subkeyKeyId =
      .ok pkeskBytes := rfl
  have hPayload : deployedPayload 1500 = payloadJson deployedCrates (runArgs none).appId
      (deployedCrates.hexEncode pkeskBytes)
        (transportPublicKey deployedCrates runWorld.transport) 1500 := rfl
  have hSign : runWorld.sign (signArgs (runArgs none).signer) (deployedPayload 1500) =
      .ok (signatureBytes fingerprintArea (deployedPayload 1500)) := rfl
  have hClock : (((1560 : UInt64).toNat : Int) - ((1500 : UInt64).toNat : Int)).natAbs ≤ 300 := by
    decide
  have hAppId : (runArgs none).appId = "team app" := rfl
  have hParts : 7 * (asBytes (runArgs none).appId).length + 2 * pkeskBytes.length +
      2 * (signatureBytes fingerprintArea (deployedPayload 1500)).length ≤ 7898 := by
    rw [hAppId]
    exact parts_deployed 1500
  exact honest_client_reads_over_http linkedLaws hStarts (reaches_network 1560 _)
    publicKeyArmored_derivedTeamKey rfl hPin hMessage toTheTeam_message rfl hClock hFor hPayload
    hSign (signedBy_deployed _) (sealSizes publishedByTeam) hParts

end TvcGpg
