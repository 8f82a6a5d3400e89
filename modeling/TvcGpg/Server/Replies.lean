import TvcGpg.EndToEnd.Sizes
import TvcGpg.Metrics.Series

/-!
# What the server answers

The router of `Model.Router` is one of those the metrics layer was verified for: every
answer has a status its request can be answered with (`answers_handle`).  The path
`/session-key` has more to it.  What is not a released session key is one of a fixed list
of responses, and neither the request nor the state of the server is in any of them.
-/

namespace TvcGpg
namespace Router

open Lib Lib.Text Lib.Fallible

/-! ## Paths and methods -/

/-- A `get` handler answers GET and HEAD, and no other method. -/
theorem get_status (request : Request) (handler : Response) :
    (get request handler).status =
      if request.method = .get ∨ request.method = .head then handler.status
      else .methodNotAllowed := by
  unfold get
  cases request.method <;> rfl

/-- The `post` handler answers POST, and no other method. -/
theorem post_of_ne {axum : Axum} {request : Request} (hMethod : request.method ≠ .post)
    (handler : Bytes → Response) :
    post axum request handler = { status := .methodNotAllowed, body := [] } := by
  unfold post
  split
  · rename_i hPost
    exact absurd hPost hMethod
  · rfl

/-- What axum makes of a body: too much of it, all of it, or a part of it. -/
theorem readBody_cases (axum : Axum) (request : Request) :
    (maxBodyBytes < request.body.length ∧
        readBody axum request = .error { status := .payloadTooLarge, body := axum.lengthLimit }) ∨
      (request.body.length ≤ maxBodyBytes ∧ request.complete = true ∧
        readBody axum request = .ok request.body) ∨
      (request.body.length ≤ maxBodyBytes ∧ request.complete = false ∧
        readBody axum request = .error { status := .badRequest, body := axum.unknownBody }) := by
  unfold readBody
  by_cases hLong : maxBodyBytes < request.body.length
  · exact .inl ⟨hLong, if_pos hLong⟩
  · rw [if_neg hLong]
    have hShort := Nat.le_of_not_lt hLong
    cases hComplete : request.complete with
    | true => exact .inr (.inl ⟨hShort, rfl, rfl⟩)
    | false => exact .inr (.inr ⟨hShort, rfl, rfl⟩)

section Handle

variable {crates : Crates} {exports : Team.ExportCrates} {axum : Axum} {state : ServerState}
  {clock : Option UInt64} {entropy : Bytes} {request : Request}

/-! ## The path `/session-key` -/

theorem handle_sessionKey (hPath : request.path = "/session-key") :
    handle crates exports axum state clock entropy request =
      post axum request fun body =>
        answer crates ((sessionKey crates state clock entropy body).map fun response =>
          asBytes (crates.json.write response.toJson)) := by
  unfold handle
  simp only [hPath]
  rfl

/-- Every reason there is. -/
def reasons : List RejectReason :=
  [.bodyNotRequest, .signatureNotHex, .signatureNotOnePacket, .signatureVersion, .signatureType,
    .signatureKeyAlgorithm, .signatureHash, .signatureCriticalSubpacket, .notOnAllowlist,
    .signatureInvalid, .payloadNotPayload, .payloadDomain, .payloadAppId, .payloadTime,
    .transportKey, .rejected]

theorem mem_reasons (reason : RejectReason) : reason ∈ reasons := by
  cases reason <;> decide

/-- The error a clock before the epoch is answered with. -/
def clockError : AppError := .internal "the enclave clock is before the epoch"

/-- Every response to the path that is no session key. -/
def refusals (crates : Crates) (axum : Axum) : List Response :=
  { status := .methodNotAllowed, body := [] } ::
    { status := .payloadTooLarge, body := axum.lengthLimit } ::
      { status := .badRequest, body := axum.unknownBody } ::
        intoResponse crates clockError ::
          reasons.map fun reason => intoResponse crates (.fromReason reason)

/-- A handler that fails answers with an error of its own. -/
theorem sessionKey_eq_error {body : Bytes} {error : AppError}
    (hError : sessionKey crates state clock entropy body = .error error) :
    (clock = none ∧ error = clockError) ∨ ∃ reason now, clock = some now ∧
      release crates state.forRelease body now entropy = .error reason ∧
        error = .fromReason reason := by
  unfold sessionKey at hError
  rcases bind_eq_error_iff.mp hError with hClock | ⟨now, hClock, hRelease⟩
  · obtain ⟨hNone, rfl⟩ := okOr_eq_error_iff.mp hClock
    exact .inl ⟨hNone, rfl⟩
  · right
    unfold releaseSessionKey at hRelease
    cases hReason : release crates state.forRelease body now entropy with
    | ok response =>
        rw [hReason] at hRelease
        cases hRelease
    | error reason =>
        rw [hReason] at hRelease
        cases hRelease
        exact ⟨reason, now, okOr_eq_ok_iff.mp hClock, hReason, rfl⟩

theorem sessionKey_eq_ok_iff {body : Bytes} {response : SessionKeyResponse} :
    sessionKey crates state clock entropy body = .ok response ↔
      ∃ now, clock = some now ∧
        release crates state.forRelease body now entropy = .ok response := by
  unfold sessionKey releaseSessionKey
  simp only [bind_eq_ok_iff, okOr_eq_ok_iff]
  constructor
  · rintro ⟨now, hClock, hRelease⟩
    refine ⟨now, hClock, ?_⟩
    cases hOutcome : release crates state.forRelease body now entropy with
    | ok found =>
        rw [hOutcome] at hRelease
        cases hRelease
        rfl
    | error reason =>
        rw [hOutcome] at hRelease
        cases hRelease
  · rintro ⟨now, hClock, hRelease⟩
    refine ⟨now, hClock, ?_⟩
    rw [hRelease]
    rfl

/-- A session key is released to a request that is posted whole, within the limit, and while
the clock can be read. -/
structure Granted (crates : Crates) (state : ServerState) (clock : Option UInt64)
    (entropy : Bytes) (request : Request) (released : SessionKeyResponse) : Prop where
  method : request.method = .post
  short : request.body.length ≤ maxBodyBytes
  complete : request.complete = true
  outcome : ∃ now, clock = some now ∧
    release crates state.forRelease request.body now entropy = .ok released

/-- The response that carries a released session key. -/
def released (crates : Crates) (response : SessionKeyResponse) : Response where
  status := .ok
  body := asBytes (crates.json.write response.toJson)

/-- What the handler answers to a body. -/
theorem answer_sessionKey (body : Bytes) :
    (∃ now response, clock = some now ∧
        release crates state.forRelease body now entropy = .ok response ∧
        answer crates ((sessionKey crates state clock entropy body).map fun response =>
          asBytes (crates.json.write response.toJson)) = released crates response) ∨
      answer crates ((sessionKey crates state clock entropy body).map fun response =>
          asBytes (crates.json.write response.toJson)) ∈ refusals crates axum := by
  cases hHandler : sessionKey crates state clock entropy body with
  | ok response =>
      obtain ⟨now, hClock, hRelease⟩ := sessionKey_eq_ok_iff.mp hHandler
      exact .inl ⟨now, response, hClock, hRelease, rfl⟩
  | error error =>
      right
      show intoResponse crates error ∈ refusals crates axum
      rcases sessionKey_eq_error hHandler with ⟨-, rfl⟩ | ⟨reason, now, -, -, rfl⟩
      · simp [refusals]
      · have hMem := List.mem_map_of_mem (f := fun reason =>
          intoResponse crates (.fromReason reason)) (mem_reasons reason)
        simp only [refusals, List.mem_cons]
        exact .inr (.inr (.inr (.inr hMem)))

/-- A response that refuses is no session key. -/
theorem status_of_mem_refusals {response : Response} (hMem : response ∈ refusals crates axum) :
    response.status ≠ .ok := by
  simp only [refusals, List.mem_cons, List.mem_map] at hMem
  rcases hMem with rfl | rfl | rfl | rfl | ⟨reason, -, rfl⟩
  all_goals intro hOk
  all_goals cases hOk

theorem handle_of_granted (hPath : request.path = "/session-key")
    {response : SessionKeyResponse}
    (hGranted : Granted crates state clock entropy request response) :
    handle crates exports axum state clock entropy request = released crates response := by
  rw [handle_sessionKey hPath]
  unfold post
  rw [hGranted.method]
  dsimp only
  rcases readBody_cases axum request with ⟨hLong, -⟩ | ⟨-, -, hRead⟩ | ⟨-, hPart, -⟩
  · exact absurd hGranted.short (Nat.not_le_of_lt hLong)
  · rw [hRead]
    dsimp only
    rw [sessionKey_eq_ok_iff.mpr hGranted.outcome]
    rfl
  · rw [hGranted.complete] at hPart
    cases hPart

theorem handle_of_not_granted (hPath : request.path = "/session-key")
    (hNot : ¬ ∃ response, Granted crates state clock entropy request response) :
    handle crates exports axum state clock entropy request ∈ refusals crates axum := by
  rw [handle_sessionKey hPath]
  by_cases hMethod : request.method = .post
  · unfold post
    rw [hMethod]
    dsimp only
    rcases readBody_cases axum request with ⟨hLong, hRead⟩ | ⟨hShort, hComplete, hRead⟩ |
      ⟨hShort, hPart, hRead⟩
    · rw [hRead]
      simp [refusals]
    · rw [hRead]
      dsimp only
      rcases @answer_sessionKey crates axum state clock entropy request.body with
        ⟨now, response, hClock, hRelease, -⟩ | hRefused
      · exact absurd ⟨response, hMethod, hShort, hComplete, now, hClock, hRelease⟩ hNot
      · exact hRefused
    · rw [hRead]
      simp [refusals]
  · rw [post_of_ne hMethod]
    simp [refusals]

/-- A request for a session key is answered with the session key exactly when one is released
to it, and otherwise with one of a fixed list of responses, in which neither the request nor
anything the server holds has a part. -/
theorem session_key_replies (crates : Crates) (exports : Team.ExportCrates) (axum : Axum)
    (state : ServerState) (clock : Option UInt64) (entropy : Bytes) (request : Request)
    (hPath : request.path = "/session-key") :
    (∀ response, Granted crates state clock entropy request response →
      handle crates exports axum state clock entropy request = released crates response) ∧
    ((¬ ∃ response, Granted crates state clock entropy request response) →
      handle crates exports axum state clock entropy request ∈ refusals crates axum) ∧
    ∀ response ∈ refusals crates axum, response.status ≠ .ok :=
  ⟨fun _ hGranted => handle_of_granted hPath hGranted, handle_of_not_granted hPath,
    fun _ hMem => status_of_mem_refusals hMem⟩

open Reference in
/-- The team's server answers the engineer's request with a session key that the client opens,
and turns it down while its clock is before the epoch. -/
theorem session_key_replies_deployed :
    (∃ response,
      handle deployedCrates exportCrates ⟨[], []⟩ serverState (some 1500) []
          ⟨.post, "/session-key", deployedBody 1500, true⟩ = released deployedCrates response ∧
        Client.openSessionKey deployedCrates transport (clientView response).wrappedSessionKey =
          .ok (7 :: Reference.sessionKey)) ∧
      handle deployedCrates exportCrates ⟨[], []⟩ serverState none []
          ⟨.post, "/session-key", deployedBody 1500, true⟩ ∈ refusals deployedCrates ⟨[], []⟩ := by
  constructor
  · have hClock : (((1500 : UInt64).toNat : Int) - ((1500 : UInt64).toNat : Int)).natAbs ≤ 300 := by
      decide
    obtain ⟨response, hRelease, -, hOpen⟩ := release_deployed hClock []
    have hGranted : Granted deployedCrates serverState (some 1500) []
        ⟨.post, "/session-key", deployedBody 1500, true⟩ response := by
      refine { method := rfl, short := ?_, complete := rfl, outcome := ⟨1500, rfl, ?_⟩ }
      · dsimp only
        exact deployedBody_fits 1500
      · dsimp only
        exact hRelease
    exact ⟨response, (session_key_replies deployedCrates exportCrates ⟨[], []⟩ serverState
      (some 1500) [] _ rfl).1 response hGranted, hOpen⟩
  · refine (session_key_replies deployedCrates exportCrates ⟨[], []⟩ serverState none []
      ⟨.post, "/session-key", deployedBody 1500, true⟩ rfl).2.1 ?_
    rintro ⟨response, hGranted⟩
    obtain ⟨now, hClock, -⟩ := hGranted.outcome
    cases hClock

/-! ## Every path -/

/-- The statuses a request can be answered with, by its path and its method. -/
def statuses (request : Metrics.Request) : List Status :=
  if request.path = "/health" then
    if request.method = .get ∨ request.method = .head then [.ok] else [.methodNotAllowed]
  else if request.path = "/public-key" ∨ request.path = "/revocation-certificate" then
    if request.method = .get ∨ request.method = .head then [.ok, .internalServerError]
    else [.methodNotAllowed]
  else if request.path = "/session-key" then
    if request.method = .post then [.ok, .badRequest, .payloadTooLarge, .internalServerError]
    else [.methodNotAllowed]
  else [.notFound]

theorem status_answer (result : Except AppError Bytes) :
    (answer crates result).status ∈ [Status.ok, .badRequest, .internalServerError] := by
  cases result with
  | ok body => exact List.mem_cons_self
  | error error =>
      show ofError error.status ∈ _
      cases error.status <;> decide

theorem status_handle_sessionKey (hPath : request.path = "/session-key") :
    (handle crates exports axum state clock entropy request).status ∈
      if request.method = .post then
        [Status.ok, .badRequest, .payloadTooLarge, .internalServerError]
      else [Status.methodNotAllowed] := by
  rw [handle_sessionKey hPath]
  by_cases hMethod : request.method = .post
  · rw [if_pos hMethod]
    unfold post
    rw [hMethod]
    dsimp only
    rcases readBody_cases axum request with ⟨-, hRead⟩ | ⟨-, -, hRead⟩ | ⟨-, -, hRead⟩
    · rw [hRead]
      simp
    · rw [hRead]
      have hStatus := @status_answer crates
        ((sessionKey crates state clock entropy request.body).map fun response =>
          asBytes (crates.json.write response.toJson))
      simp only [List.mem_cons, List.not_mem_nil, or_false] at hStatus ⊢
      rcases hStatus with hStatus | hStatus | hStatus <;> simp [hStatus]
    · rw [hRead]
      simp
  · rw [if_neg hMethod, post_of_ne hMethod]
    exact List.mem_singleton_self _

/-- An export answers with its text or with an internal error. -/
theorem status_answer_export {result : Except Team.TeamKeyError String}
    (message : Team.TeamKeyError → String) :
    (answer crates ((result.mapError fun error => AppError.internal (message error)).map
      asBytes)).status ∈ [Status.ok, .internalServerError] := by
  cases result with
  | ok text => exact List.mem_cons_self
  | error error => exact List.mem_cons_of_mem _ List.mem_cons_self

theorem status_get {handler : Response} {found : List Status} (hHandler : handler.status ∈ found) :
    (get request handler).status ∈
      if request.method = .get ∨ request.method = .head then found
      else [Status.methodNotAllowed] := by
  rw [get_status]
  split
  · exact hHandler
  · exact List.mem_singleton_self _

/-- Every request is answered with a status of its path and its method. -/
theorem status_handle (crates : Crates) (exports : Team.ExportCrates) (axum : Axum)
    (state : ServerState) (clock : Option UInt64) (entropy : Bytes) (request : Request) :
    (handle crates exports axum state clock entropy request).status ∈ statuses request.line := by
  have hLine : request.line.path = request.path ∧ request.line.method = request.method :=
    ⟨rfl, rfl⟩
  unfold statuses
  rw [hLine.1, hLine.2]
  by_cases hHealth : request.path = "/health"
  · unfold handle
    rw [if_pos hHealth, if_pos hHealth]
    exact status_get List.mem_cons_self
  by_cases hPublic : request.path = "/public-key"
  · unfold handle
    rw [if_neg hHealth, if_pos hPublic, if_neg hHealth, if_pos (.inl hPublic)]
    exact status_get (status_answer_export _)
  by_cases hRevocation : request.path = "/revocation-certificate"
  · unfold handle
    rw [if_neg hHealth, if_neg hPublic, if_pos hRevocation, if_neg hHealth,
      if_pos (.inr hRevocation)]
    exact status_get (status_answer_export _)
  have hNeither : ¬ (request.path = "/public-key" ∨ request.path = "/revocation-certificate") := by
    rintro (hPath | hPath)
    · exact hPublic hPath
    · exact hRevocation hPath
  rw [if_neg hHealth, if_neg hNeither]
  by_cases hSession : request.path = "/session-key"
  · rw [if_pos hSession]
    exact status_handle_sessionKey hSession
  · unfold handle
    rw [if_neg hHealth, if_neg hPublic, if_neg hRevocation, if_neg hSession, if_neg hSession]
    exact List.mem_singleton_self _

/-- On a path with a route, the metrics layer expects any status for a method with a handler,
and 405 for the others. -/
theorem answers_of_route {method : Metrics.Method} {path : String} {methods : List Metrics.Method}
    {handled : Prop} [Decidable handled] {found : List Status} {status : Status}
    (hRoute : Metrics.routes.lookup path = some methods) (hHandled : handled → method ∈ methods)
    (hStatus : status ∈ if handled then found else [Status.methodNotAllowed]) :
    Metrics.answers { method, path } status.code = true := by
  unfold Metrics.answers
  dsimp only
  rw [hRoute]
  dsimp only
  split at hStatus
  · rename_i hHolds
    rw [decide_eq_true (hHandled hHolds), Bool.true_or]
  · obtain rfl := List.mem_singleton.mp hStatus
    exact Bool.or_true _

/-- A status of a path and a method is one the metrics layer expects there. -/
theorem answers_of_mem_statuses {line : Metrics.Request} {status : Status}
    (hStatus : status ∈ statuses line) : Metrics.answers line status.code = true := by
  obtain ⟨method, path⟩ := line
  unfold statuses at hStatus
  dsimp only at hStatus
  have hGet : method = .get ∨ method = .head → method ∈ [Metrics.Method.get, .head] := by simp
  have hPost : method = .post → method ∈ [Metrics.Method.post] := by simp
  by_cases hHealth : path = "/health"
  · subst hHealth
    exact answers_of_route rfl hGet hStatus
  by_cases hPublic : path = "/public-key"
  · subst hPublic
    exact answers_of_route rfl hGet hStatus
  by_cases hRevocation : path = "/revocation-certificate"
  · subst hRevocation
    exact answers_of_route rfl hGet hStatus
  by_cases hSession : path = "/session-key"
  · subst hSession
    exact answers_of_route rfl hPost hStatus
  have hNeither : ¬ (path = "/public-key" ∨ path = "/revocation-certificate") := by
    rintro (hPath | hPath)
    · exact hPublic hPath
    · exact hRevocation hPath
  rw [if_neg hHealth, if_neg hNeither, if_neg hSession, List.mem_singleton] at hStatus
  subst hStatus
  rw [Metrics.answers_unserved (by simp [Metrics.routes, hHealth, hPublic, hRevocation, hSession])]
  rfl

/-- Every answer of the router is one the metrics layer expects. -/
theorem answers_handle (crates : Crates) (exports : Team.ExportCrates) (axum : Axum)
    (state : ServerState) (clock : Option UInt64) (entropy : Bytes) (request : Request) :
    Metrics.answers request.line
      (handle crates exports axum state clock entropy request).status.code = true :=
  answers_of_mem_statuses (status_handle crates exports axum state clock entropy request)

end Handle

end Router
end TvcGpg
