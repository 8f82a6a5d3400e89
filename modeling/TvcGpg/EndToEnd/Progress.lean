import TvcGpg.EndToEnd.Sessions

/-!
# Nobody is locked out

Whatever has happened to the server, to the network and to the other clients: a client that
still waits for its answer can get it, by three events more, if it is one of the team's and
its message is to the team.  No event before can have spoiled that, a restart of the server
included, and finishing one session does not spoil it for the others.  So all of them can
finish, each with the session key of its own message (`all_running_can_finish`).

Nothing is said of when that happens, or of a network that never delivers.
-/

namespace TvcGpg
namespace Sessions

open Lib Lib.Text Lib.Fallible Lib.Runs Router

/-- What becomes of a session: when its client signs and what it signs with, when the server
handles its request, and the session key in its PKESK. -/
structure Exchange where
  clock : UInt64
  signature : Bytes
  now : UInt64
  entropy : Bytes
  symAlg : UInt8
  key : Bytes

section Progress

variable (crates : Crates) (state : ServerState)

/-- The payload the client signs. -/
def Exchange.payload (exchange : Exchange) (session : Session) : String :=
  Client.payloadJson crates session.appId (crates.hexEncode session.pkesk) (session.nonce crates)
    exchange.clock

/-- The request as the server handles it. -/
def Exchange.handled (exchange : Exchange) (session : Session) : Handled where
  body := Client.sessionKeyBody crates (exchange.payload crates session) exchange.signature
  now := exchange.now
  entropy := exchange.entropy

/-- The session key as gpg takes it. -/
def Exchange.sessionKey (exchange : Exchange) : String :=
  toString exchange.symAlg ++ ":" ++ Hex.encodeUpper exchange.key

/-- A session of the team's: its client signs with an allowlisted key, the server can open its
PKESK and handles the request in time, and nothing is longer than it may be. -/
structure Honest (session : Session) (exchange : Exchange) : Prop where
  app : session.appId = state.appId
  opens : OpensTo crates state.forRelease session.pkesk exchange.symAlg exchange.key
  nonempty : exchange.key ≠ []
  inTime : ((exchange.now.toNat : Int) - (exchange.clock.toNat : Int)).natAbs ≤ 300
  signed : ∃ signature entry, SignedBy crates state.forRelease (exchange.payload crates session)
    exchange.signature signature entry
  parts : 7 * (asBytes session.appId).length + 2 * session.pkesk.length +
    2 * exchange.signature.length ≤ 7898

variable {crates state} {exports : Team.ExportCrates} {axum : Axum} {deployment : Deployment}

/-- The server releases what the client takes. -/
theorem Honest.released (hHex : HexLaws crates) (hJson : JsonLaws crates.json)
    (hP256 : P256Laws crates.p256) {process : ℕ} {session : Session} {exchange : Exchange}
    (hHonest : Honest crates (deployment.state process) session exchange) : ∃ response,
    (exchange.handled crates session).outcome crates (deployment.state process).forRelease =
        .ok response ∧
      session.take crates deployment (.ok (clientView response)) = .ok exchange.sessionKey := by
  obtain ⟨signature, entry, hSigned⟩ := hHonest.signed
  have hApp : (deployment.state process).forRelease.appId = session.appId := hHonest.app.symm
  have hKey : (deployment.state process).forRelease.quorumKey = deployment.quorumKey :=
    deployment.same process
  have hPayload : exchange.payload crates session = Client.payloadJson crates
      (deployment.state process).forRelease.appId (crates.hexEncode session.pkesk)
        (Client.transportPublicKey crates session.transport) exchange.clock := by
    rw [hApp]
    rfl
  obtain ⟨response, hRelease, hCheck, hOpen⟩ := honest_release hHex hJson hP256 hHonest.opens
    hHonest.nonempty session.transport hHonest.inTime exchange.entropy hPayload hSigned
  rw [hApp, hKey] at hCheck
  refine ⟨response, hRelease, ?_⟩
  unfold Session.take Client.accept
  rw [ok_bind, hCheck, ok_bind, hOpen, ok_bind, sessionKeyString_cons]
  rfl

/-- The server reads the whole of the request. -/
theorem Honest.handledOf (hP256 : P256Laws crates.p256) (hSizes : SizeLaws crates)
    {session : Session} {exchange : Exchange} (hHonest : Honest crates state session exchange) :
    handledOf (.resolves (sessionKeyRequest (exchange.handled crates session).body)
      (some exchange.now) exchange.entropy) = some (exchange.handled crates session) := by
  have hFits : (exchange.handled crates session).body.length ≤ maxBodyBytes :=
    request_fits hSizes hP256 session.transport exchange.clock hHonest.parts
  unfold Sessions.handledOf sessionKeyRequest
  dsimp only
  rw [if_pos ⟨rfl, rfl, rfl, hFits⟩]
  rfl

/-- The events that finish a session. -/
def finishing (crates : Crates) (process : ℕ) (session : Session) (exchange : Exchange)
    (answer : Client.SessionKeyResponse) : List Event :=
  [.serves process (.comes (sessionKeyRequest (exchange.handled crates session).body)),
    .serves process (.resolves (sessionKeyRequest (exchange.handled crates session).body)
      (some exchange.now) exchange.entropy),
    .receives session (.ok answer)]

/-- In every state, a running session can be finished, and nothing else changes for the
clients. -/
theorem finish_one (hHex : HexLaws crates) (hJson : JsonLaws crates.json)
    (hP256 : P256Laws crates.p256) (hSizes : SizeLaws crates) {s : System} {session : Session}
    (hRunning : session ∈ s.running) {exchange : Exchange}
    (hHonest : Honest crates (deployment.state s.restarts) session exchange)
    (hCollision : NoCollision crates (s.handled.map Prod.snd ++ [exchange.handled crates session])
      session.pkesk) :
    ∃ answer s', Run (step crates exports axum deployment) (Meets crates deployment) s
        (finishing crates s.restarts session exchange answer) s' ∧ s'.restarts = s.restarts ∧
      s'.running = s.running.filter (fun other => other ≠ session) ∧
        s'.accepted = s.accepted ++ [(session, exchange.sessionKey)] ∧
          s'.handled = s.handled ++ [(s.restarts, exchange.handled crates session)] := by
  obtain ⟨response, hOutcome, hTake⟩ := hHonest.released hHex hJson hP256
  have hHandled := hHonest.handledOf hP256 hSizes
  -- the request comes, is handled, and its answer is taken
  let request := sessionKeyRequest (exchange.handled crates session).body
  let come : Service.Server := { s.server with pending := s.server.pending ++ [request] }
  obtain ⟨done, hDone⟩ :
      ∃ done, Service.step crates exports axum (deployment.state s.restarts) come
        (.resolves request (some exchange.now) exchange.entropy) = some done := by
    rw [Service.step, if_pos (List.mem_append_right _ (List.mem_singleton_self request))]
    exact ⟨_, rfl⟩
  let asked : System := { s with server := come }
  let served : System := {
    asked with server := done
               handled := s.handled ++ [(s.restarts, exchange.handled crates session)] }
  have hComes : step crates exports axum deployment s (.serves s.restarts (.comes request)) =
      some asked := by
    have hPath : request.path ≠ Metrics.metricsPath := by
      show "/session-key" ≠ "/metrics"
      decide
    have hCome : Service.step crates exports axum (deployment.state s.restarts) s.server
        (.comes request) = some come := by
      rw [Service.step, if_neg hPath]
    have hNone : Sessions.handledOf (.comes request) = none := rfl
    rw [step_serves hCome, hNone, Option.toList_none, List.map_nil, List.append_nil]
  have hResolves : step crates exports axum deployment asked
      (.serves s.restarts (.resolves request (some exchange.now) exchange.entropy)) =
        some served := by
    rw [step_serves (s := asked) hDone, hHandled]
    rfl
  have hReceives : step crates exports axum deployment served
      (.receives session (.ok (clientView response))) = some { served with
        running := s.running.filter fun other => other ≠ session
        accepted := s.accepted ++ [(session, exchange.sessionKey)] } :=
    step_receives (s := served) hRunning hTake
  have hMeets : Meets crates deployment served (.receives session (.ok (clientView response))) := by
    intro taken hTaken
    obtain rfl := Except.ok.inj hTaken
    have hMem : exchange.handled crates session ∈ handledIn served.handled s.restarts :=
      mem_handledIn_iff.mpr (List.mem_append_right _ (List.mem_singleton_self _))
    refine ⟨⟨s.restarts, fun _ _ _ => .inl ⟨_, hMem, response, hOutcome, rfl⟩⟩, ?_⟩
    show NoCollision crates ((s.handled ++ [(s.restarts, _)]).map Prod.snd) session.pkesk
    rw [List.map_append, List.map_singleton]
    exact hCollision
  exact ⟨clientView response, _,
    .snoc (.snoc (.snoc .nil trivial hComes) trivial hResolves) hMeets hReceives,
    rfl, rfl, rfl, rfl⟩

/-- No session runs twice, and each of them has begun. -/
structure RunsOnce (s : System) : Prop where
  nodup : s.running.Nodup
  begun : ∀ session ∈ s.running, session ∈ s.begun

theorem RunsOnce.filter {s : System} (hOnce : RunsOnce s) (session : Session)
    (accepted : List (Session × String)) :
    RunsOnce { s with running := s.running.filter fun other => other ≠ session, accepted } :=
  ⟨hOnce.nodup.filter _, fun other hMem => hOnce.begun other (List.mem_filter.mp hMem).1⟩

theorem RunsOnce.step {s s' : System} {event : Event} (hOnce : RunsOnce s)
    (hMeets : Meets crates deployment s event)
    (hStep : step crates exports axum deployment s event = some s') : RunsOnce s' := by
  rcases step_cases hStep with ⟨session, rfl, rfl⟩ | ⟨rfl, rfl⟩ | ⟨served, server, rfl, -, rfl⟩ |
    ⟨session, response, rfl, -, ⟨sessionKey, -, rfl⟩ | ⟨message, -, rfl⟩⟩
  · -- the new session has a transport key of its own
    have hNew : session ∉ s.running :=
      fun hMem => hMeets (.inl ⟨session, hOnce.begun session hMem, rfl⟩)
    refine ⟨List.nodup_append.mpr ⟨hOnce.nodup, List.nodup_singleton session, ?_⟩, ?_⟩
    · rintro a ha b hb rfl
      exact hNew (List.mem_singleton.mp hb ▸ ha)
    · intro other hOther
      rcases List.mem_append.mp hOther with hBefore | hLast
      · exact List.mem_append_left _ (hOnce.begun other hBefore)
      · exact List.mem_append_right _ hLast
  · exact ⟨hOnce.nodup, hOnce.begun⟩
  · exact ⟨hOnce.nodup, hOnce.begun⟩
  · exact hOnce.filter session _
  · exact hOnce.filter session _

theorem runsOnce_of_run {events : List Event} {s : System}
    (hRun : Run (step crates exports axum deployment) (Meets crates deployment) start events s) :
    RunsOnce s := by
  refine hRun.invariant ⟨List.nodup_nil, fun session hMem => by cases hMem⟩ ?_
  intro s event s' hOnce hMeets hStep
  exact hOnce.step hMeets hStep

/-- Sessions can be finished one after the other. -/
theorem finish_all (hHex : HexLaws crates) (hJson : JsonLaws crates.json)
    (hP256 : P256Laws crates.p256) (hSizes : SizeLaws crates) (exchange : Session → Exchange)
    {running : List Session} (hNodup : running.Nodup) {s : System} (hRunning : s.running = running)
    (hHonest : ∀ session ∈ running,
      Honest crates (deployment.state s.restarts) session (exchange session))
    (hCollision : ∀ session ∈ running, NoCollision crates (s.handled.map Prod.snd ++
      running.map fun other => (exchange other).handled crates other) session.pkesk) :
    ∃ events s', Run (step crates exports axum deployment) (Meets crates deployment) s events s' ∧
      s'.running = [] ∧ s'.accepted = s.accepted ++
        running.map fun session => (session, (exchange session).sessionKey) := by
  induction running generalizing s with
  | nil => exact ⟨[], s, .nil, hRunning, by rw [List.map_nil, List.append_nil]⟩
  | cons session running ih =>
      obtain ⟨hNew, hRest⟩ := List.nodup_cons.mp hNodup
      have hFirst : NoCollision crates
          (s.handled.map Prod.snd ++ [(exchange session).handled crates session])
            session.pkesk := by
        intro handled hMem
        refine hCollision session List.mem_cons_self handled ?_
        rw [List.map_cons, List.append_cons]
        exact List.mem_append_left _ hMem
      obtain ⟨answer, next, hOne, hSame, hLeft, hTaken, hHandled⟩ := finish_one hHex hJson hP256
        hSizes (hRunning ▸ List.mem_cons_self) (hHonest session List.mem_cons_self) hFirst
      have hNext : next.running = running := by
        rw [hLeft, hRunning, List.filter_cons_of_neg (by simp)]
        refine List.filter_eq_self.mpr fun other hOther => decide_eq_true ?_
        rintro rfl
        exact hNew hOther
      obtain ⟨events, s', hMore, hNone, hAll⟩ := ih hRest hNext (by
          intro other hOther
          rw [hSame]
          exact hHonest other (List.mem_cons_of_mem _ hOther)) (by
          intro other hOther
          rw [hHandled, List.map_append, List.map_singleton, ← List.append_cons]
          exact hCollision other (List.mem_cons_of_mem _ hOther))
      refine ⟨_, s', hOne.append hMore, hNone, ?_⟩
      rw [hAll, hTaken, List.map_cons, ← List.append_cons]

/-- From every state that clients, server and network can come to, all clients that still wait
for their answers can get them: the run goes on to a state in which none is waiting and each
of them has accepted the session key of its own message. -/
theorem all_running_can_finish (hHex : HexLaws crates) (hJson : JsonLaws crates.json)
    (hP256 : P256Laws crates.p256) (hSizes : SizeLaws crates) {events : List Event} {s : System}
    (hRun : Run (step crates exports axum deployment) (Meets crates deployment) start events s)
    (exchange : Session → Exchange)
    (hHonest : ∀ session ∈ s.running,
      Honest crates (deployment.state s.restarts) session (exchange session))
    (hCollision : ∀ session ∈ s.running, NoCollision crates (s.handled.map Prod.snd ++
      s.running.map fun other => (exchange other).handled crates other) session.pkesk) :
    ∃ more s', Run (step crates exports axum deployment) (Meets crates deployment) start
        (events ++ more) s' ∧ s'.running = [] ∧ s'.accepted = s.accepted ++
          s.running.map fun session => (session, (exchange session).sessionKey) := by
  obtain ⟨more, s', hMore, hNone, hAll⟩ := finish_all hHex hJson hP256 hSizes exchange
    (runsOnce_of_run hRun).nodup rfl hHonest hCollision
  exact ⟨more, s', hRun.append hMore, hNone, hAll⟩

end Progress

end Sessions

/-! ## The engineer's session -/

namespace Reference

open Lib Lib.Fallible Lib.Runs Router Sessions

/-- What becomes of the engineer's session. -/
def deployedExchange : Exchange where
  clock := 1500
  signature := signatureBytes fingerprintArea (deployedPayload 1500)
  now := 1560
  entropy := []
  symAlg := 7
  key := sessionKey

theorem payload_deployedExchange :
    deployedExchange.payload deployedCrates deployedSession = deployedPayload 1500 := rfl

theorem honest_deployed :
    Honest deployedCrates serverState deployedSession deployedExchange where
  app := rfl
  opens := opensTo_deployed
  nonempty := by
    show sessionKey ≠ []
    decide
  inTime := by
    show (((1560 : UInt64).toNat : Int) - ((1500 : UInt64).toNat : Int)).natAbs ≤ 300
    decide
  signed := by
    rw [payload_deployedExchange]
    exact ⟨_, _, signedBy_deployed _⟩
  parts := by
    dsimp only [deployedSession, deployedExchange]
    exact parts_deployed 1500

theorem noCollision_deployedExchange : NoCollision deployedCrates
    ([] ++ [deployedSession].map fun other => deployedExchange.handled deployedCrates other)
    deployedSession.pkesk := by
  have hBody : (deployedExchange.handled deployedCrates deployedSession).body =
      deployedBody 1500 := by
    unfold Exchange.handled deployedBody
    dsimp only
    rw [payload_deployedExchange]
    rfl
  intro handled hMem bytes hBytes _
  rw [List.nil_append, List.map_singleton] at hMem
  obtain rfl := List.mem_singleton.mp hMem
  rw [hBody, pkeskBytesOf_deployedBody] at hBytes
  exact (Option.some.inj hBytes).symm

/-- The engineer has asked and waits, and the server has been started again. -/
def deployedWaiting : System :=
  { Sessions.start with
    restarts := 1, begun := [deployedSession], running := [deployedSession] }

theorem run_deployedWaiting :
    Run (Sessions.step deployedCrates exportCrates axumTexts deployment)
      (Meets deployedCrates deployment) Sessions.start [.asks deployedSession, .restarts]
        deployedWaiting := by
  have hFresh : ¬ Used deployedCrates Sessions.start (deployedSession.nonce deployedCrates) := by
    rintro (⟨_, hMem, -⟩ | ⟨_, hMem, -⟩)
    · cases hMem
    · cases hMem
  exact .snoc (.snoc .nil hFresh rfl) trivial rfl

end Reference

namespace Sessions

open Lib.Runs Reference

/-- The engineer, who waits, gets the session key. -/
theorem all_running_can_finish_deployed : ∃ more s',
    Run (step deployedCrates exportCrates axumTexts deployment) (Meets deployedCrates deployment)
        start ([.asks deployedSession, .restarts] ++ more) s' ∧ s'.running = [] ∧
      s'.accepted = deployedWaiting.accepted ++ deployedWaiting.running.map
        fun session => (session, deployedExchange.sessionKey) := by
  have hHex : HexLaws deployedCrates := hexLaws publishedByTeam
  refine all_running_can_finish hHex jsonLaws p256Laws (sizeLaws publishedByTeam)
    run_deployedWaiting (fun _ => deployedExchange) ?_ ?_
  · intro session hMem
    obtain rfl := List.mem_singleton.mp hMem
    exact honest_deployed
  · intro session hMem
    obtain rfl := List.mem_singleton.mp hMem
    exact noCollision_deployedExchange

end Sessions
end TvcGpg
