import TvcGpg.Model.Service
import TvcGpg.Server.Replies

/-!
# What becomes of a request

The server of `Model.Service` over whole runs.  `Accounts` compares a state with the events
that led to it: what was answered is what the router answers to the requests whose handlers
were done, each in its turn and each counted once, and every request that came has been
answered, or dropped, or is still in flight.  Requests for `/metrics`, which is behind the
layer, have no part in this.

A run of this server is a run of the layer the metrics were verified for
(`service_refines_metrics`): the histogram holds no other series, and the routes make far
fewer of them than the layer alone would allow.
-/

namespace TvcGpg
namespace Service

open Lib Lib.Runs Router

section Runs

variable {crates : Crates} {exports : Team.ExportCrates} {axum : Axum} {state : ServerState}

/-! ## One step -/

/-- What a step of the server can be, and what it leaves behind. -/
theorem step_cases {s s' : Server} {event : Event}
    (hStep : step crates exports axum state s event = some s') :
    (∃ request, event = .comes request ∧ request.path = Metrics.metricsPath ∧ s' = s) ∨
    (∃ request, event = .comes request ∧ request.path ≠ Metrics.metricsPath ∧
      s' = { s with pending := s.pending ++ [request] }) ∨
    (∃ request clock entropy, event = .resolves request clock entropy ∧ request ∈ s.pending ∧
      s' = {
        observed := s.observed ++
          [labelsOf request (handle crates exports axum state clock entropy request)]
        pending := s.pending.erase request
        answered := s.answered ++
          [(request, handle crates exports axum state clock entropy request)] }) ∨
    (∃ request, event = .dropped request ∧ request ∈ s.pending ∧
      s' = { s with pending := s.pending.erase request }) := by
  cases event with
  | comes request =>
      rw [step] at hStep
      split at hStep
      · rename_i hMetrics
        exact .inl ⟨request, rfl, hMetrics, (Option.some.inj hStep).symm⟩
      · rename_i hMetrics
        exact .inr (.inl ⟨request, rfl, hMetrics, (Option.some.inj hStep).symm⟩)
  | resolves request clock entropy =>
      rw [step] at hStep
      split at hStep
      · rename_i hPending
        exact .inr (.inr (.inl
          ⟨request, clock, entropy, rfl, hPending, (Option.some.inj hStep).symm⟩))
      · cases hStep
  | dropped request =>
      rw [step] at hStep
      split at hStep
      · rename_i hPending
        exact .inr (.inr (.inr ⟨request, rfl, hPending, (Option.some.inj hStep).symm⟩))
      · cases hStep

/-! ## One request, again and again -/

/-- A server that has a request in flight so many times and has answered it at these times. -/
def repeated (crates : Crates) (exports : Team.ExportCrates) (axum : Axum) (state : ServerState)
    (request : Request) (waiting : ℕ) (times : List UInt64) : Server where
  observed := times.map fun now =>
    labelsOf request (handle crates exports axum state (some now) [] request)
  pending := List.replicate waiting request
  answered := times.map fun now => (request, handle crates exports axum state (some now) [] request)

theorem step_comes_repeated {request : Request} (hPath : request.path ≠ Metrics.metricsPath)
    (waiting : ℕ) (times : List UInt64) :
    step crates exports axum state (repeated crates exports axum state request waiting times)
      (.comes request) = some (repeated crates exports axum state request (waiting + 1) times) := by
  rw [step, if_neg hPath]
  simp [repeated, List.replicate_succ']

theorem step_resolves_repeated (request : Request) (waiting : ℕ) (times : List UInt64)
    (now : UInt64) :
    step crates exports axum state (repeated crates exports axum state request (waiting + 1) times)
      (.resolves request (some now) []) =
        some (repeated crates exports axum state request waiting (times ++ [now])) := by
  have hPending : request ∈ List.replicate (waiting + 1) request := List.mem_cons_self
  rw [step, repeated, if_pos hPending]
  simp [repeated, List.replicate_succ]

/-! ## The accounts of a run -/

/-- What the router answers when the handler of a request is done. -/
def replyOf (crates : Crates) (exports : Team.ExportCrates) (axum : Axum) (state : ServerState) :
    Event → Option (Request × Response)
  | .resolves request clock entropy =>
      some (request, handle crates exports axum state clock entropy request)
  | _ => none

/-- A state against the events that led to it. -/
structure Accounts (crates : Crates) (exports : Team.ExportCrates) (axum : Axum)
    (state : ServerState) (events : List Event) (s : Server) : Prop where
  /-- The answers are those of the handlers that were done, in their order. -/
  answered : s.answered = events.filterMap (replyOf crates exports axum state)
  /-- Every answer is counted once, under its own labels, and nothing else is. -/
  observed : s.observed = s.answered.map fun reply => labelsOf reply.1 reply.2
  /-- A request that came has been answered, or dropped, or is in flight. -/
  kept : ∀ request : Request, request.path ≠ Metrics.metricsPath →
    events.count (.comes request) = (s.answered.map Prod.fst).count request +
      events.count (.dropped request) + s.pending.count request
  /-- The route behind the layer has no part in it. -/
  pending : ∀ request ∈ s.pending, request.path ≠ Metrics.metricsPath
  answeredPaths : ∀ reply ∈ s.answered, reply.1.path ≠ Metrics.metricsPath

theorem accounts_start : Accounts crates exports axum state [] start where
  answered := rfl
  observed := rfl
  kept := by
    intro request _
    rfl
  pending := by
    intro request hRequest
    cases hRequest
  answeredPaths := by
    intro reply hReply
    cases hReply

/-- Whoever leaves the requests in flight is one fewer of them. -/
theorem count_erase_add {pending : List Request} {request : Request} (hPending : request ∈ pending)
    (other : Request) :
    pending.count other = (pending.erase request).count other + [request].count other := by
  by_cases hSame : request = other
  · subst hSame
    have hPos := List.count_pos_iff.mpr hPending
    rw [List.count_erase_self, List.count_singleton_self]
    omega
  · have hZero : [request].count other = 0 := List.count_eq_zero.mpr (by simpa using Ne.symm hSame)
    rw [List.count_erase_of_ne (Ne.symm hSame), hZero, Nat.add_zero]

/-- One event more, whatever it is. -/
theorem count_events (events : List Event) (event counted : Event) :
    (events ++ [event]).count counted =
      events.count counted + if event = counted then 1 else 0 := by
  rw [List.count_append, List.count_singleton]
  simp

/-- Every step keeps the accounts. -/
theorem Accounts.step {events : List Event} {s s' : Server} {event : Event}
    (hAccounts : Accounts crates exports axum state events s)
    (hStep : step crates exports axum state s event = some s') :
    Accounts crates exports axum state (events ++ [event]) s' := by
  rcases step_cases hStep with ⟨request, rfl, hMetrics, rfl⟩ | ⟨request, rfl, hOther, rfl⟩ |
    ⟨request, clock, entropy, rfl, hPending, rfl⟩ | ⟨request, rfl, hPending, rfl⟩
  · -- the request for the metrics is answered behind the layer
    refine ⟨?_, hAccounts.observed, ?_, hAccounts.pending, hAccounts.answeredPaths⟩
    · rw [List.filterMap_append, hAccounts.answered]
      exact (List.append_nil _).symm
    · intro other hPath
      have hNe : (Event.comes request = .comes other) = False :=
        eq_false fun hEvent => hPath (Event.comes.inj hEvent ▸ hMetrics)
      simp only [count_events, hNe, if_false, Nat.add_zero, reduceCtorEq]
      exact hAccounts.kept other hPath
  · -- a request comes
    refine ⟨?_, hAccounts.observed, ?_, ?_, hAccounts.answeredPaths⟩
    · rw [List.filterMap_append]
      exact hAccounts.answered.trans (List.append_nil _).symm
    · intro other hPath
      have hKept := hAccounts.kept other hPath
      have hCame : (s.pending ++ [request]).count other =
          s.pending.count other + if request = other then 1 else 0 := by
        rw [List.count_append, List.count_singleton]
        simp only [beq_iff_eq]
      simp only [count_events, Event.comes.injEq, reduceCtorEq, if_false, hCame]
      omega
    · intro other hOtherPending
      rcases List.mem_append.mp hOtherPending with hBefore | hNew
      · exact hAccounts.pending other hBefore
      · exact List.mem_singleton.mp hNew ▸ hOther
  · -- a handler is done
    refine ⟨?_, ?_, ?_, ?_, ?_⟩
    · rw [List.filterMap_append, ← hAccounts.answered]
      rfl
    · rw [List.map_append, hAccounts.observed]
      rfl
    · intro other hPath
      have hKept := hAccounts.kept other hPath
      have hErase := count_erase_add hPending other
      have hAnswered : ((s.answered ++ [(request, handle crates exports axum state clock entropy
          request)]).map Prod.fst).count other =
            (s.answered.map Prod.fst).count other + [request].count other := by
        rw [List.map_append, List.count_append]
        rfl
      simp only [count_events, reduceCtorEq, if_false, hAnswered]
      omega
    · intro other hOther
      exact hAccounts.pending other (List.mem_of_mem_erase hOther)
    · intro reply hReply
      rcases List.mem_append.mp hReply with hBefore | hNew
      · exact hAccounts.answeredPaths reply hBefore
      · rw [List.mem_singleton.mp hNew]
        exact hAccounts.pending request hPending
  · -- a request is dropped
    refine ⟨?_, hAccounts.observed, ?_, ?_, hAccounts.answeredPaths⟩
    · rw [List.filterMap_append]
      exact hAccounts.answered.trans (List.append_nil _).symm
    · intro other hPath
      have hKept := hAccounts.kept other hPath
      have hErase := count_erase_add hPending other
      simp only [List.count_singleton, beq_iff_eq] at hErase
      simp only [count_events, Event.dropped.injEq, reduceCtorEq, if_false]
      omega
    · intro other hOther
      exact hAccounts.pending other (List.mem_of_mem_erase hOther)

theorem accounts_of_run {events : List Event} {s : Server}
    (hRun : Run (step crates exports axum state) Any start events s) :
    Accounts crates exports axum state events s :=
  hRun.history accounts_start fun _ _ _ _ hAccounts _ hStep => hAccounts.step hStep

/-- In every run the answers are those of the router to the requests whose handlers were done,
each one is counted once, and no request for a path within the layer is lost or made up: it has
been answered, or dropped, or is in flight. -/
theorem service_keeps_accounts {events : List Event} {s : Server}
    (hRun : Run (step crates exports axum state) Any start events s) :
    Accounts crates exports axum state events s :=
  accounts_of_run hRun

end Runs

/-- A request without a body. -/
def bare (method : Metrics.Method) (path : String) : Request where
  method := method
  path := path
  body := []
  complete := true

/-- A method of WebDAV. -/
def propfind : Metrics.Method := .extension ⟨"PROPFIND", by decide, by decide⟩

/-- Five requests in flight at once; they leave in another order than they came in, and one
leaves without an answer. -/
def mixedRun : List Event :=
  [.comes (bare .get "/health"), .comes (bare .get "/nothing"), .comes (bare .get "/health"),
    .comes (bare propfind "/health"), .comes (bare .get "/metrics"),
    .comes (bare .put "/session-key"), .resolves (bare .put "/session-key") none [],
    .resolves (bare propfind "/health") none [], .dropped (bare .get "/health"),
    .resolves (bare .get "/nothing") none []]

/-- A server after it. -/
def mixedServer : Server where
  observed :=
    [⟨"PUT", "/session-key", "405"⟩, ⟨"PROPFIND", "/health", "405"⟩,
      ⟨"GET", "/nothing", "404"⟩]
  pending := [bare .get "/health"]
  answered :=
    [(bare .put "/session-key", { status := .methodNotAllowed, body := [] }),
      (bare propfind "/health", { status := .methodNotAllowed, body := [] }),
      (bare .get "/nothing", { status := .notFound, body := [] })]

theorem run_mixedRun : Run (step Reference.deployedCrates Reference.exportCrates ⟨[], []⟩
    Reference.serverState) Any start mixedRun mixedServer :=
  run_of_execute (by decide)

theorem service_keeps_accounts_mixedRun :
    Accounts Reference.deployedCrates Reference.exportCrates ⟨[], []⟩ Reference.serverState mixedRun
      mixedServer :=
  service_keeps_accounts run_mixedRun

section Metrics

variable {crates : Crates} {exports : Team.ExportCrates} {axum : Axum} {state : ServerState}

/-! ## The layer -/

/-- What the layer sees of an event. -/
def layerEvent (crates : Crates) (exports : Team.ExportCrates) (axum : Axum)
    (state : ServerState) : Event → Metrics.Event
  | .comes request => .comes request.line
  | .resolves request clock entropy =>
      .resolves (Metrics.call request.line)
        (some (handle crates exports axum state clock entropy request).status.code)
  | .dropped request => .dropped (Metrics.call request.line)

/-- The layer has the series of what was observed, and the requests in flight in some
order. -/
structure Seen (s : Server) (layer : Metrics.Server) : Prop where
  series : layer.series = s.metrics.series
  pending : layer.pending.Perm s.metrics.pending

theorem Seen.mem {s : Server} {layer : Metrics.Server} (hSeen : Seen s layer) {request : Request}
    (hPending : request ∈ s.pending) : Metrics.call request.line ∈ layer.pending :=
  hSeen.pending.mem_iff.mpr (List.mem_map_of_mem hPending)

/-- When a request leaves, a future of its labels does. -/
theorem Seen.erase {s : Server} {layer : Metrics.Server} (hSeen : Seen s layer)
    {request : Request} (hPending : request ∈ s.pending) :
    (layer.pending.erase (Metrics.call request.line)).Perm
      ((s.pending.erase request).map fun request => Metrics.call request.line) := by
  have hOut := (List.perm_cons_erase hPending).map fun request => Metrics.call request.line
  have hErased := (hSeen.pending.trans hOut).erase (Metrics.call request.line)
  rwa [List.map_cons, List.erase_cons_head] at hErased

/-- The layer can follow every step. -/
theorem Seen.step {s s' : Server} {layer : Metrics.Server} {event : Event} (hSeen : Seen s layer)
    (hStep : step crates exports axum state s event = some s') :
    ∃ layer', Metrics.step layer (layerEvent crates exports axum state event) = some layer' ∧
      Seen s' layer' := by
  rcases step_cases hStep with ⟨request, rfl, hMetrics, rfl⟩ | ⟨request, rfl, hOther, rfl⟩ |
    ⟨request, clock, entropy, rfl, hPending, rfl⟩ | ⟨request, rfl, hPending, rfl⟩
  · exact ⟨layer, if_pos hMetrics, hSeen⟩
  · refine ⟨_, if_neg hOther, hSeen.series, ?_⟩
    refine (hSeen.pending.append_right _).trans ?_
    rw [Server.metrics, Server.metrics, List.map_append]
    exact .refl _
  · let labels := labelsOf request (handle crates exports axum state clock entropy request)
    refine ⟨{ series := insert labels layer.series
              pending := layer.pending.erase (Metrics.call request.line) }, ?_, ?_, ?_⟩
    · have hAnswers := answers_handle crates exports axum state clock entropy request
      rw [layerEvent, Metrics.step, if_pos (hSeen.mem hPending)]
      exact if_pos hAnswers
    · rw [hSeen.series, Server.metrics, Server.metrics, List.toFinset_append,
        Finset.union_comm]
      rfl
    · exact hSeen.erase hPending
  · exact ⟨_, if_pos (hSeen.mem hPending), hSeen.series, hSeen.erase hPending⟩

/-! ## The series there can be -/

/-- The standard methods and the paths a route is asked with. -/
def routeLines : List Metrics.Request :=
  (Metrics.routes.map Prod.fst).flatMap fun path =>
    [.options, .get, .post, .put, .delete, .head, .trace, .connect, .patch].map fun method =>
      { method, path }

/-- The labels the answers of the routes are counted under. -/
def routeLabels : List Metrics.Labels :=
  routeLines.flatMap fun line =>
    (statuses line).map fun status => (Metrics.call line).labels status.code

theorem mem_routeLines {line : Metrics.Request} (hServed : line.path ∈ Metrics.routes.map Prod.fst)
    (hStandard : line.method.isStandard = true) : line ∈ routeLines := by
  refine List.mem_flatMap.mpr ⟨line.path, hServed, List.mem_map.mpr ⟨line.method, ?_, rfl⟩⟩
  cases hMethod : line.method with
  | extension name =>
      rw [hMethod] at hStandard
      cases hStandard
  | options | get | post | put | delete | head | trace | connect | patch => decide

/-- An answer on a route is counted under one of them. -/
theorem labelsOf_mem_routeLabels (crates : Crates) (exports : Team.ExportCrates) (axum : Axum)
    (state : ServerState) (clock : Option UInt64) (entropy : Bytes) (request : Request)
    (hServed : request.path ∈ Metrics.routes.map Prod.fst)
    (hStandard : request.method.isStandard = true) :
    labelsOf request (handle crates exports axum state clock entropy request) ∈ routeLabels :=
  List.mem_flatMap.mpr ⟨request.line, mem_routeLines hServed hStandard,
    List.mem_map_of_mem (status_handle crates exports axum state clock entropy request)⟩

theorem length_routeLabels : routeLabels.length = 43 := by decide

/-- No route has a handler for a method that is not standard. -/
theorem statuses_of_not_standard {line : Metrics.Request}
    (hServed : line.path ∈ Metrics.routes.map Prod.fst) (hOther : line.method.isStandard = false) :
    statuses line = [.methodNotAllowed] := by
  have hGet : ¬ (line.method = .get ∨ line.method = .head) := by
    rintro (hMethod | hMethod) <;> rw [hMethod] at hOther <;> cases hOther
  have hPost : line.method ≠ .post := by
    intro hMethod
    rw [hMethod] at hOther
    cases hOther
  simp only [Metrics.routes, List.map_cons, List.map_nil, List.mem_cons, List.not_mem_nil,
    or_false] at hServed
  unfold statuses
  rcases hServed with hPath | hPath | hPath | hPath <;> rw [hPath] <;> simp [hGet, hPost]

/-- What the histogram holds was asked for by an answer. -/
theorem observed_of_run {events : List Event} {s : Server}
    (hRun : Run (step crates exports axum state) Any start events s) {labels : Metrics.Labels}
    (hObserved : labels ∈ s.observed) : ∃ request clock entropy,
      labels = labelsOf request (handle crates exports axum state clock entropy request) := by
  have hAccounts := accounts_of_run hRun
  rw [hAccounts.observed, hAccounts.answered] at hObserved
  obtain ⟨reply, hReply, rfl⟩ := List.mem_map.mp hObserved
  obtain ⟨event, -, hEvent⟩ := List.mem_filterMap.mp hReply
  cases event with
  | resolves request clock entropy =>
      obtain rfl := Option.some.inj hEvent
      exact ⟨request, clock, entropy, rfl⟩
  | comes request => cases hEvent
  | dropped request => cases hEvent

/-- Every run of the server is a run of the metrics layer, step for step, with the same series
and the same requests in flight.  The routes make at most 43 series of standard methods in it;
a series of a route and another method is a 405, and a series without a route a 404. -/
theorem service_refines_metrics {events : List Event} {s : Server}
    (hRun : Run (step crates exports axum state) Any start events s) :
    (∃ layer, Run Metrics.step Any Metrics.start
        (events.map (layerEvent crates exports axum state)) layer ∧ Seen s layer) ∧
      (s.metrics.series.filter fun labels =>
        Metrics.Served labels ∧ labels.method ∈ Metrics.standardNames).card ≤ 43 ∧
      (∀ labels ∈ s.metrics.series, Metrics.Served labels →
        labels.method ∉ Metrics.standardNames → labels.status = "405") ∧
      ∀ labels ∈ s.metrics.series, ¬ Metrics.Served labels → labels.status = "404" := by
  refine ⟨hRun.simulation ⟨rfl, .refl _⟩ fun _ _ _ _ hSeen hStep => hSeen.step hStep, ?_, ?_, ?_⟩
  · calc (s.metrics.series.filter _).card
      _ ≤ routeLabels.toFinset.card := Finset.card_le_card fun labels hLabels => by
          obtain ⟨hSeries, hServed, hStandard⟩ := Finset.mem_filter.mp hLabels
          obtain ⟨request, clock, entropy, rfl⟩ :=
            observed_of_run hRun (List.mem_toFinset.mp hSeries)
          have hMethod := (Metrics.toString_mem_standardNames_iff request.method).mp hStandard
          exact List.mem_toFinset.mpr (labelsOf_mem_routeLabels _ _ _ _ _ _ _ hServed hMethod)
      _ ≤ routeLabels.length := List.toFinset_card_le _
      _ = 43 := length_routeLabels
  · intro labels hSeries hServed hOther
    obtain ⟨request, clock, entropy, rfl⟩ := observed_of_run hRun (List.mem_toFinset.mp hSeries)
    have hMethod : request.method.isStandard = false := by
      have hName := mt (Metrics.toString_mem_standardNames_iff request.method).mpr hOther
      exact Bool.not_eq_true _ ▸ hName
    have hStatus := status_handle crates exports axum state clock entropy request
    rw [statuses_of_not_standard hServed hMethod, List.mem_singleton] at hStatus
    show toString (handle crates exports axum state clock entropy request).status.code.code = _
    rw [hStatus]
    rfl
  · intro labels hSeries hUnserved
    obtain ⟨request, clock, entropy, rfl⟩ := observed_of_run hRun (List.mem_toFinset.mp hSeries)
    have hAnswers := answers_handle crates exports axum state clock entropy request
    rw [Metrics.answers_unserved hUnserved] at hAnswers
    show toString _ = _
    rw [of_decide_eq_true hAnswers]
    rfl

end Metrics

theorem service_refines_metrics_mixedRun :
    (∃ layer, Run Metrics.step Any Metrics.start (mixedRun.map (layerEvent Reference.deployedCrates
        Reference.exportCrates ⟨[], []⟩ Reference.serverState)) layer ∧ Seen mixedServer layer) ∧
      (mixedServer.metrics.series.filter fun labels =>
        Metrics.Served labels ∧ labels.method ∈ Metrics.standardNames).card ≤ 43 ∧
      (∀ labels ∈ mixedServer.metrics.series, Metrics.Served labels →
        labels.method ∉ Metrics.standardNames → labels.status = "405") ∧
      ∀ labels ∈ mixedServer.metrics.series, ¬ Metrics.Served labels → labels.status = "404" :=
  service_refines_metrics run_mixedRun

end Service
end TvcGpg
