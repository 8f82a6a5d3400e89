import TvcGpg.EndToEnd.OverHttp
import TvcGpg.EndToEnd.Receipts
import TvcGpg.Server.Accounts

/-!
# A request that is handled again

The server remembers nothing of the requests it has handled, so a request that was recorded
can be sent to it again.  Whoever sends it gains nothing: it is released within ten minutes
or not at all, always with the same receipt, and in an envelope that only the transport key
of the first sender opens, to the same session key (`replays_add_nothing`).  And it does not
come back to life: once a server whose clock does not go back has called its time too far
off, after it has released it before, it never releases it again
(`late_replays_stay_refused`).
-/

namespace TvcGpg
namespace Service

open Lib Lib.Text Lib.Fallible Lib.Runs Router

section Replays

variable {crates : Crates} {exports : Team.ExportCrates} {axum : Axum} {state : ServerState}
  {clock clock' : Option UInt64} {entropy entropy' : Bytes} {request request' : Request}
  {response response' : SessionKeyResponse}

/-! ## One body, two releases -/

/-- Whoever has this pair opens the envelope of a response to this session key. -/
def EnvelopeOpens (crates : Crates) (transport : P256EncryptPair) (response : SessionKeyResponse)
    (plain : Bytes) : Prop :=
  ∃ envelope, crates.hexDecode response.wrappedSessionKey = some envelope ∧
    crates.p256.decrypt transport envelope = some plain

/-- Two releases that are one, but for the randomness of their envelopes. -/
structure SameRelease (crates : Crates) (body : Bytes) (response response' : SessionKeyResponse) :
    Prop where
  receiptJson : response.receiptJson = response'.receiptJson
  receiptSignature : response.receiptSignature = response'.receiptSignature
  quorumPublicKey : response.quorumPublicKey = response'.quorumPublicKey
  /-- The owner of the transport key opens both envelopes to one session key. -/
  opens : ∀ payload ∈ payloadOf crates body, ∀ transport,
    payload.transportPublicKey = Client.transportPublicKey crates transport →
      ∃ plain, EnvelopeOpens crates transport response plain ∧
        EnvelopeOpens crates transport response' plain

/-- The envelope of a release opens to the session key its body asks for. -/
theorem envelopeOpens_of_release (hHex : HexLaws crates) (hJson : JsonLaws crates.json)
    (hP256 : P256Laws crates.p256) {state : AppState} {body : Bytes} {now : UInt64}
    (hRelease : release crates state body now entropy = .ok response)
    {payload : SessionKeyPayload} (hPayload : payload ∈ payloadOf crates body)
    {transport : P256EncryptPair}
    (hTransport : payload.transportPublicKey = Client.transportPublicKey crates transport) :
    ∃ plain, sessionKeyOf crates state body = some plain ∧
      EnvelopeOpens crates transport response plain := by
  let handled : Handled := { body, now, entropy }
  have hOutcome : handled.outcome crates state = .ok response := hRelease
  obtain ⟨entry, payload', pkeskBytes, -, hReleased, -⟩ := released_receipt hJson hOutcome
  obtain ⟨found, hFound, -, hSame⟩ := hReleased.payload
  obtain rfl := Option.some.inj (hPayload.symm.trans hFound)
  rw [← hSame, hTransport] at hReleased
  obtain ⟨envelope, plain, hEnvelope, hDecrypt, hPlain⟩ := hReleased.opens hHex hP256
  exact ⟨plain, hPlain, envelope, hEnvelope, hDecrypt⟩

/-- One body has one receipt, whenever it is released. -/
theorem sameRelease_of_release (hHex : HexLaws crates) (hJson : JsonLaws crates.json)
    (hP256 : P256Laws crates.p256) {state : AppState} {body : Bytes} {now now' : UInt64}
    (hRelease : release crates state body now entropy = .ok response)
    (hRelease' : release crates state body now' entropy' = .ok response') :
    SameRelease crates body response response' := by
  have hAnswer := (follows_checks crates state body now entropy).ok_iff.mp ⟨response, hRelease⟩
  have hAnswer' :=
    (follows_checks crates state body now' entropy').ok_iff.mp ⟨response', hRelease'⟩
  obtain ⟨found, hFound, hOf⟩ := release_of_holds crates state body now entropy hAnswer
  obtain ⟨found', hFound', hOf'⟩ := release_of_holds crates state body now' entropy' hAnswer'
  obtain rfl := Except.ok.inj (hRelease.symm.trans hFound)
  obtain rfl := Except.ok.inj (hRelease'.symm.trans hFound')
  -- only the envelope of the answer has the randomness in it
  unfold answerOf at hOf hOf'
  obtain ⟨envelope, -, hRest⟩ := Option.bind_eq_some_iff.mp hOf
  obtain ⟨envelope', -, hRest'⟩ := Option.bind_eq_some_iff.mp hOf'
  obtain ⟨text, hText, hLast⟩ := Option.bind_eq_some_iff.mp hRest
  obtain ⟨text', hText', hLast'⟩ := Option.bind_eq_some_iff.mp hRest'
  obtain ⟨signature, hSignature, rfl⟩ := Option.map_eq_some_iff.mp hLast
  obtain ⟨signature', hSignature', rfl⟩ := Option.map_eq_some_iff.mp hLast'
  obtain rfl := Option.some.inj (hText.symm.trans hText')
  obtain rfl := Option.some.inj (hSignature.symm.trans hSignature')
  refine ⟨rfl, rfl, rfl, ?_⟩
  intro payload hPayload transport hTransport
  obtain ⟨plain, hPlain, hOpens⟩ :=
    envelopeOpens_of_release hHex hJson hP256 hRelease hPayload hTransport
  obtain ⟨plain', hPlain', hOpens'⟩ :=
    envelopeOpens_of_release hHex hJson hP256 hRelease' hPayload hTransport
  obtain rfl := Option.some.inj (hPlain.symm.trans hPlain')
  exact ⟨plain, hOpens, hOpens'⟩

/-- A granted request names a time close to the server's. -/
theorem time_of_granted (hGranted : Granted crates state clock entropy request response) :
    ∃ now payload, clock = some now ∧ payloadOf crates request.body = some payload ∧
      ((now.toNat : Int) - (payload.time.toNat : Int)).natAbs ≤ 300 := by
  obtain ⟨now, hClock, hRelease⟩ := hGranted.outcome
  obtain ⟨read, signature, entry, payload, transport, opening, hAuthenticated, hAdmitted, -, -⟩ :=
    (release_eq_ok_iff crates).mp hRelease
  exact ⟨now, payload, hClock, (hAdmitted.read crates hAuthenticated.parsed).1,
    (absDiff_le_window_iff now payload.time).mp hAdmitted.time⟩

/-- A body that is released twice is released twice within ten minutes, with one receipt and
one session key. -/
theorem replays_add_nothing (hHex : HexLaws crates) (hJson : JsonLaws crates.json)
    (hP256 : P256Laws crates.p256)
    (hGranted : Granted crates state clock entropy request response)
    (hGranted' : Granted crates state clock' entropy' request' response')
    (hBody : request'.body = request.body) :
    (∃ now now', clock = some now ∧ clock' = some now' ∧
        ((now.toNat : Int) - (now'.toNat : Int)).natAbs ≤ 600) ∧
      SameRelease crates request.body response response' := by
  obtain ⟨now, payload, hClock, hPayload, hClose⟩ := time_of_granted hGranted
  obtain ⟨now', payload', hClock', hPayload', hClose'⟩ := time_of_granted hGranted'
  rw [hBody] at hPayload'
  obtain rfl := Option.some.inj (hPayload.symm.trans hPayload')
  refine ⟨⟨now, now', hClock, hClock', ?_⟩, ?_⟩
  · omega
  · obtain ⟨_, -, hRelease⟩ := hGranted.outcome
    obtain ⟨_, -, hRelease'⟩ := hGranted'.outcome
    rw [hBody] at hRelease'
    exact sameRelease_of_release hHex hJson hP256 hRelease hRelease'

/-! ## The window closes -/

/-- Of a request that has been released at some time, the time is what is refused exactly
when the clock is too far off. -/
theorem release_payloadTime_iff {state : AppState} {body : Bytes} {now then' : UInt64}
    {read : SessionKeyRequest} {signature : Signature} {entry : SignerEntry}
    {payload : SessionKeyPayload} {transport : P256EncryptPublic}
    (hAuthenticated : Authenticated crates state body read signature entry)
    (hAdmitted : Admitted crates state then' read payload transport) :
    release crates state body now entropy = .error .payloadTime ↔
      300 < ((now.toNat : Int) - (payload.time.toNat : Int)).natAbs := by
  rw [release_of_authenticated crates hAuthenticated, ← not_iff_not, Nat.not_lt,
    ← absDiff_le_window_iff]
  constructor
  · intro hOther
    by_contra hLate
    refine hOther ?_
    unfold releaseSigned
    simp only [hAdmitted.parsed, okOr_some, ok_bind, require_of _ hAdmitted.domain,
      require_of _ hAdmitted.appId, require_of_not _ hLate, error_bind]
  · intro hTime hError
    have hNow : Admitted crates state now read payload transport :=
      { hAdmitted with time := hTime }
    rw [releaseSigned_of_admitted crates hNow] at hError
    -- in the window everything that fails fails otherwise
    cases releasePkesk_onlyFailsWith crates state entropy entry payload transport _ hError

/-- The text of an error is read off its response. -/
theorem message_of_intoResponse (hJson : JsonLaws crates.json) {error error' : AppError}
    (hSame : intoResponse crates error = intoResponse crates error') :
    error.message = error'.message := by
  have hFlat (message : String) : FlatFields [("error", .string message)] := flatFields_nil.string
  have hBody : asBytes (crates.json.write (errorJson error.message)) =
      asBytes (crates.json.write (errorJson error'.message)) := congrArg Response.body hSame
  have hRead := hJson.read_write _ (hFlat error.message)
  have hRead' := hJson.read_write _ (hFlat error'.message)
  unfold errorJson at hBody
  rw [hBody, hRead'] at hRead
  simpa [eq_comm] using hRead

/-- A request that has been granted before is refused for its time by the release itself. -/
theorem refused_of_handle (hJson : JsonLaws crates.json) (hPath : request.path = "/session-key")
    (hGranted : Granted crates state clock entropy request response)
    (hRefused : handle crates exports axum state clock' entropy' request =
      intoResponse crates (.fromReason .payloadTime)) :
    ∃ now, clock' = some now ∧
      release crates state.forRelease request.body now entropy' = .error .payloadTime := by
  have hRead : readBody axum request = .ok request.body := by
    unfold readBody
    rw [if_neg (Nat.not_lt.mpr hGranted.short), if_pos hGranted.complete]
  rw [handle_sessionKey hPath] at hRefused
  unfold post at hRefused
  rw [hGranted.method] at hRefused
  dsimp only at hRefused
  rw [hRead] at hRefused
  dsimp only at hRefused
  cases hHandler : sessionKey crates state clock' entropy' request.body with
  | ok released =>
      rw [hHandler] at hRefused
      cases congrArg Response.status hRefused
  | error error =>
      rw [hHandler] at hRefused
      rcases sessionKey_eq_error hHandler with ⟨-, rfl⟩ | ⟨reason, now, hClock, hRelease, rfl⟩
      · cases congrArg Response.status hRefused
      · have hSame : intoResponse crates (.fromReason reason) =
            intoResponse crates (.fromReason .payloadTime) := hRefused
        have hReason : reason = .payloadTime :=
          message_injective (message_of_intoResponse hJson hSame)
        exact ⟨now, hClock, hReason ▸ hRelease⟩

/-- What is answered with 200 has been granted. -/
theorem granted_of_status (hPath : request.path = "/session-key")
    (hOk : (handle crates exports axum state clock entropy request).status = .ok) :
    ∃ response, Granted crates state clock entropy request response := by
  by_contra hNot
  exact status_of_mem_refusals (handle_of_not_granted hPath hNot) hOk

/-! ## Over a run -/

/-- The clock a handler reads. -/
def Event.clockRead : Event → Option UInt64
  | .resolves _ clock _ => clock
  | _ => none

/-- The clock does not go back. -/
def Forward (events : List Event) : Prop := (events.filterMap Event.clockRead).Pairwise (· ≤ ·)

/-- What a handler is given. -/
def handlingOf : Event → Option (Request × Option UInt64 × Bytes)
  | .resolves request clock entropy => some (request, clock, entropy)
  | _ => none

/-- What becomes of it. -/
def replyTo (crates : Crates) (exports : Team.ExportCrates) (axum : Axum) (state : ServerState)
    (handling : Request × Option UInt64 × Bytes) : Request × Response :=
  (handling.1, handle crates exports axum state handling.2.1 handling.2.2 handling.1)

theorem answered_eq_map {events : List Event} {s : Server}
    (hRun : Run (step crates exports axum state) Any start events s) :
    s.answered = (events.filterMap handlingOf).map (replyTo crates exports axum state) := by
  rw [(accounts_of_run hRun).answered, List.map_filterMap]
  refine List.filterMap_congr fun event _ => ?_
  cases event <;> rfl

theorem forward_handlings {events : List Event} (hForward : Forward events) :
    ((events.filterMap handlingOf).filterMap fun handling => handling.2.1).Pairwise (· ≤ ·) := by
  have hSame : ((events.filterMap handlingOf).filterMap fun handling => handling.2.1) =
      events.filterMap Event.clockRead := by
    rw [List.filterMap_filterMap]
    refine List.filterMap_congr fun event _ => ?_
    cases event <;> rfl
  rw [hSame]
  exact hForward

/-- A list of three answers comes from three handlings, in their order. -/
theorem exists_handlings {handlings : List (Request × Option UInt64 × Bytes)}
    {first second third : Response}
    (hSublist : [(request, first), (request, second), (request, third)].Sublist
      (handlings.map (replyTo crates exports axum state))) :
    ∃ h₁ h₂ h₃ : Option UInt64 × Bytes,
      [(request, h₁), (request, h₂), (request, h₃)].Sublist handlings ∧
        handle crates exports axum state h₁.1 h₁.2 request = first ∧
          handle crates exports axum state h₂.1 h₂.2 request = second ∧
            handle crates exports axum state h₃.1 h₃.2 request = third := by
  obtain ⟨part, hPart, hMap⟩ := List.sublist_map_iff.mp hSublist
  match part, hMap with
  | [(r₁, h₁), (r₂, h₂), (r₃, h₃)], hMap =>
      simp only [List.map_cons, List.map_nil, replyTo, List.cons.injEq, Prod.mk.injEq, and_true]
        at hMap
      obtain ⟨⟨rfl, rfl⟩, ⟨rfl, rfl⟩, rfl, rfl⟩ := hMap
      exact ⟨h₁, h₂, h₃, hPart, rfl, rfl, rfl⟩

/-- The window of a request closes for good: in every run in which the clock does not go
back, a request that has been answered with its session key and later been refused for its
time is never answered with its session key again. -/
theorem late_replays_stay_refused (hJson : JsonLaws crates.json) {events : List Event}
    {s : Server} (hRun : Run (step crates exports axum state) Any start events s)
    (hForward : Forward events) (hPath : request.path = "/session-key") {first last : Response}
    (hAnswers : [(request, first), (request, intoResponse crates (.fromReason .payloadTime)),
      (request, last)].Sublist s.answered) (hFirst : first.status = .ok) : last.status ≠ .ok := by
  intro hLast
  rw [answered_eq_map hRun] at hAnswers
  obtain ⟨⟨clock₁, entropy₁⟩, ⟨clock₂, entropy₂⟩, ⟨clock₃, entropy₃⟩, hSublist, rfl, hRefused,
    rfl⟩ :=
    exists_handlings hAnswers
  obtain ⟨response₁, hGranted₁⟩ := granted_of_status hPath hFirst
  obtain ⟨response₃, hGranted₃⟩ := granted_of_status hPath hLast
  obtain ⟨now₂, hClock₂, hLate⟩ := refused_of_handle hJson hPath hGranted₁ hRefused
  obtain ⟨now₁, hClock₁, hRelease₁⟩ := hGranted₁.outcome
  obtain ⟨read, signature, entry, payload, transport, -, hAuthenticated, hAdmitted, -⟩ :=
    (release_eq_ok_iff crates).mp hRelease₁
  obtain ⟨now₃, payload₃, hClock₃, hPayload₃, hClose₃⟩ := time_of_granted hGranted₃
  obtain rfl := Option.some.inj
    ((hAdmitted.read crates hAuthenticated.parsed).1.symm.trans hPayload₃)
  have hClose₁ := (absDiff_le_window_iff now₁ payload.time).mp hAdmitted.time
  have hFar₂ := (release_payloadTime_iff hAuthenticated hAdmitted).mp hLate
  -- the three clocks are in order, and the middle one is out of the window of the others
  dsimp only at hClock₁ hClock₂ hClock₃
  subst hClock₁ hClock₂ hClock₃
  have hTimes := (forward_handlings hForward).sublist
    (hSublist.filterMap fun handling => handling.2.1)
  simp only [List.filterMap_cons, List.filterMap_nil, List.pairwise_cons, List.mem_cons,
    UInt64.le_iff_toNat_le] at hTimes
  have hOrder₁ := hTimes.1 now₂ (.inl rfl)
  have hOrder₂ := hTimes.2.1 now₃ (.inl rfl)
  omega

/-- A request is sent three times, and handled as often. -/
def sentThrice (request : Request) (now₁ now₂ now₃ : UInt64) : List Event :=
  [.comes request, .comes request, .comes request, .resolves request (some now₁) [],
    .resolves request (some now₂) [], .resolves request (some now₃) []]

theorem run_sentThrice (hPath : request.path ≠ Metrics.metricsPath) (now₁ now₂ now₃ : UInt64) :
    ∃ s, Run (step crates exports axum state) Any start (sentThrice request now₁ now₂ now₃) s ∧
      s.answered = [now₁, now₂, now₃].map fun now =>
        (request, handle crates exports axum state (some now) [] request) := by
  refine ⟨repeated crates exports axum state request 0 [now₁, now₂, now₃], ?_, rfl⟩
  exact .snoc (.snoc (.snoc (.snoc (.snoc (.snoc .nil trivial (step_comes_repeated hPath 0 []))
    trivial (step_comes_repeated hPath 1 [])) trivial (step_comes_repeated hPath 2 [])) trivial
      (step_resolves_repeated _ 2 _ now₁)) trivial (step_resolves_repeated _ 1 _ now₂)) trivial
        (step_resolves_repeated _ 0 _ now₃)

end Replays
end Service

namespace Reference

open Lib Lib.Fallible Lib.Runs Router Service

/-- The engineer's request as it comes over the network. -/
def deployedRequest : Request := sessionKeyRequest (deployedBody 1500)

theorem body_deployedRequest : deployedRequest.body = deployedBody 1500 := by
  rw [deployedRequest, sessionKeyRequest]

theorem granted_deployedRequest {now : UInt64}
    (hClock : ((now.toNat : Int) - ((1500 : UInt64).toNat : Int)).natAbs ≤ 300) (entropy : Bytes) :
    ∃ response, Granted deployedCrates serverState (some now) entropy deployedRequest response := by
  obtain ⟨response, hRelease, -⟩ := release_deployed hClock entropy
  have hShort : deployedRequest.body.length ≤ maxBodyBytes := by
    rw [body_deployedRequest]
    exact deployedBody_fits 1500
  have hOutcome : ∃ read, some now = some read ∧
      release deployedCrates serverState.forRelease deployedRequest.body read entropy =
        .ok response := by
    rw [body_deployedRequest]
    exact ⟨now, rfl, hRelease⟩
  exact ⟨response, rfl, hShort, rfl, hOutcome⟩

/-- Nearly seven minutes after it was signed the engineer's request is refused for its time. -/
theorem handle_deployedRequest_late :
    handle deployedCrates exportCrates axumTexts serverState (some 1900) [] deployedRequest =
      intoResponse deployedCrates (.fromReason .payloadTime) := by
  have hClock : (((1500 : UInt64).toNat : Int) - ((1500 : UInt64).toNat : Int)).natAbs ≤ 300 := by
    decide
  have hLate : 300 < (((1900 : UInt64).toNat : Int) - ((1500 : UInt64).toNat : Int)).natAbs := by
    decide
  have hRefused : release deployedCrates serverState.forRelease (deployedBody 1500) 1900 [] =
      .error .payloadTime :=
    (release_payloadTime_iff (authenticated_deployed 1500) (admitted_deployed hClock)).mpr hLate
  have hHandler : Router.sessionKey deployedCrates serverState (some 1900) [] (deployedBody 1500) =
      .error (.fromReason .payloadTime) := by
    unfold Router.sessionKey releaseSessionKey
    rw [okOr_some, ok_bind, hRefused]
    rfl
  unfold deployedRequest
  rw [handle_sessionKeyRequest (deployedBody_fits 1500), hHandler]
  rfl

end Reference

namespace Service

open Lib.Runs Router Reference

/-- The engineer's request, one minute and five minutes after it was signed. -/
theorem replays_add_nothing_deployed : ∃ response response',
    (∃ now now', some (1560 : UInt64) = some now ∧ some (1800 : UInt64) = some now' ∧
        ((now.toNat : Int) - (now'.toNat : Int)).natAbs ≤ 600) ∧
      SameRelease deployedCrates deployedRequest.body response response' := by
  have hClock : (((1560 : UInt64).toNat : Int) - ((1500 : UInt64).toNat : Int)).natAbs ≤ 300 := by
    decide
  have hClock' : (((1800 : UInt64).toNat : Int) - ((1500 : UInt64).toNat : Int)).natAbs ≤ 300 := by
    decide
  obtain ⟨response, hGranted⟩ := granted_deployedRequest hClock []
  obtain ⟨response', hGranted'⟩ := granted_deployedRequest hClock' [0x55]
  have hHex : HexLaws deployedCrates := hexLaws publishedByTeam
  exact ⟨response, response', replays_add_nothing hHex jsonLaws p256Laws hGranted hGranted' rfl⟩

/-- Refused at second 1900, the engineer's request is refused at second 1950. -/
theorem late_replays_stay_refused_deployed : ∃ s last,
    Run (step deployedCrates exportCrates axumTexts serverState) Any start
        (sentThrice deployedRequest 1560 1900 1950) s ∧
      (deployedRequest, last) ∈ s.answered ∧ last.status ≠ .ok := by
  have hPath : deployedRequest.path ≠ Metrics.metricsPath := by
    show "/session-key" ≠ "/metrics"
    decide
  have hClock : (((1560 : UInt64).toNat : Int) - ((1500 : UInt64).toNat : Int)).natAbs ≤ 300 := by
    decide
  obtain ⟨s, hRun, hAnswered⟩ := @run_sentThrice deployedCrates exportCrates axumTexts serverState
    deployedRequest hPath 1560 1900 1950
  obtain ⟨response, hGranted⟩ := granted_deployedRequest hClock []
  have hFirst : (handle deployedCrates exportCrates axumTexts serverState (some 1560) []
      deployedRequest).status = .ok := by
    rw [handle_of_granted rfl hGranted]
    rfl
  simp only [List.map_cons, List.map_nil, handle_deployedRequest_late] at hAnswered
  have hForward : Forward (sentThrice deployedRequest 1560 1900 1950) := by
    show ([1560, 1900, 1950] : List UInt64).Pairwise (· ≤ ·)
    decide
  have hSublist := List.Sublist.refl s.answered
  nth_rewrite 1 [hAnswered] at hSublist
  refine ⟨s, _, hRun, ?_, late_replays_stay_refused jsonLaws hRun hForward rfl hSublist hFirst⟩
  rw [hAnswered]
  simp

end Service
end TvcGpg
