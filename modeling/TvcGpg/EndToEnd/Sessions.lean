import TvcGpg.EndToEnd.OverHttp
import TvcGpg.EndToEnd.Receipts
import TvcGpg.Lib.Correspondence
import TvcGpg.Server.Accounts

/-!
# Many clients and one server

Any number of clients run at once, next to a server that handles whatever is sent to it, and
what a client receives is up to the network: the answer to another client, an old answer, a
mixture of answers, or a failure.  The server is restarted at any time, each time perhaps
with other keys in its allowlist, and keeps nothing but the quorum key (`Deployment`).  Two
things are beyond the network.  It cannot make a receipt of the quorum key's or a second
PKESK with one digest (`Unforged`, `NoCollision`), and a client that draws a transport key
draws one that nobody has used (`Used`).

Then the clients and the server agree on what was released for whom (`sessions_agree`).
Every client that accepts an answer has a release of its own, for its own app id, transport
key and PKESK; the server made it after the client had drawn its key and before the answer
came; and no two clients have one release between them.  Nothing has to be compared for
that but the receipts, and nothing has to be remembered by the server.
-/

namespace TvcGpg
namespace Sessions

open Lib Lib.Text Lib.Fallible Lib.Runs Lib.Correspondence Router

/-- A client that has found the packet to ask for and has drawn its transport key. -/
structure Session where
  appId : String
  transport : P256EncryptPair
  pkesk : Bytes
  deriving DecidableEq, Repr

/-- The processes of a server, one after the other: what each of them serves with.  They have
one quorum key. -/
structure Deployment where
  state : ℕ → ServerState
  quorumKey : P256Pair
  same : ∀ n, (state n).quorumKey = quorumKey

/-- The clients and the server. -/
structure System where
  /-- How often the server has been restarted. -/
  restarts : ℕ
  server : Service.Server
  /-- What the histograms of earlier processes had observed. -/
  past : List Metrics.Labels
  /-- What the server has handled, each in which process, with its time and randomness. -/
  handled : List (ℕ × Handled)
  /-- Every client there has been, and those that have no answer yet. -/
  begun : List Session
  running : List Session
  /-- What clients have made of their answers. -/
  accepted : List (Session × String)

/-- Nobody is there yet. -/
def start : System where
  restarts := 0
  server := Service.start
  past := []
  handled := []
  begun := []
  running := []
  accepted := []

/-- What can happen. -/
inductive Event
  /-- A client has drawn its transport key. -/
  | asks (session : Session)
  /-- The server ends and is started again. -/
  | restarts
  /-- Something happens to a process of the server, whoever is behind it. -/
  | serves (process : ℕ) (event : Service.Event)
  /-- `post_session_key` of a client returns. -/
  | receives (session : Session) (response : Except String Client.SessionKeyResponse)

section System

variable (crates : Crates) (exports : Team.ExportCrates) (axum : Axum) (deployment : Deployment)

/-- The transport key of a session, as it stands in its payload. -/
def Session.nonce (session : Session) : String :=
  Client.transportPublicKey crates session.transport

/-- What the client makes of what it receives. -/
def Session.take (session : Session) (response : Except String Client.SessionKeyResponse) :
    Except String String :=
  response >>= Client.accept crates (crates.p256.publicKey deployment.quorumKey) session.appId
    session.transport session.pkesk

/-- The request a server event handles in `/session-key`, if it reads one. -/
def handledOf : Service.Event → Option Handled
  | .resolves request (some now) entropy =>
      if request.path = "/session-key" ∧ request.method = .post ∧ request.complete = true ∧
          request.body.length ≤ maxBodyBytes then
        some { body := request.body, now, entropy }
      else none
  | _ => none

/-- One step of the clients and the server. -/
def step (system : System) : Event → Option System
  | .asks session => some { system with
      begun := system.begun ++ [session]
      running := system.running ++ [session] }
  | .restarts => some { system with
      restarts := system.restarts + 1
      server := Service.start
      past := system.past ++ system.server.observed }
  | .serves process event =>
      if process = system.restarts then
        (Service.step crates exports axum (deployment.state process) system.server event).map
          fun server => { system with
            server, handled := system.handled ++ (handledOf event).toList.map (Prod.mk process) }
      else none
  | .receives session response =>
      if session ∈ system.running then
        -- a client takes one answer, whatever it makes of it
        let running := system.running.filter fun other => other ≠ session
        match session.take crates deployment response with
        | .ok sessionKey =>
            some { system with running, accepted := system.accepted ++ [(session, sessionKey)] }
        | .error _ => some { system with running }
      else none

/-- A transport key that stands in a client's payload or in one the server has read. -/
def Used (system : System) (nonce : String) : Prop :=
  (∃ session ∈ system.begun, session.nonce crates = nonce) ∨
    ∃ handled ∈ system.handled, ∃ payload ∈ payloadOf crates handled.2.body,
      payload.transportPublicKey = nonce

/-- What a process has handled. -/
def handledIn (handled : List (ℕ × Handled)) (process : ℕ) : List Handled :=
  (handled.filter fun entry => entry.1 = process).map Prod.snd

/-- What is beyond the network: the receipt of an answer is one that some process has signed,
and no other PKESK has the digest of the client's. -/
def Meets (system : System) : Event → Prop
  | .asks session => ¬ Used crates system (session.nonce crates)
  | .restarts => True
  | .serves _ _ => True
  | .receives session response => ∀ answer, response = .ok answer →
      (∃ process, Unforged crates (deployment.state process).forRelease
        (handledIn system.handled process) answer) ∧
      NoCollision crates (system.handled.map Prod.snd) session.pkesk

/-- A server event releases a session key for a session: for its app id, its transport key
and its PKESK, at the request of the holder of a key that the process has in its allowlist. -/
def Serves (process : ℕ) (event : Service.Event) (session : Session) : Prop :=
  ∃ handled response entry, handledOf event = some handled ∧
    ReleasedFor crates (deployment.state process).forRelease handled response entry session.appId
      (session.nonce crates) session.pkesk

end System

section Runs

variable {crates : Crates} {exports : Team.ExportCrates} {axum : Axum} {deployment : Deployment}

/-! ## One step -/

/-- A run of the client that hands over a session key is a session that took its answer. -/
theorem take_of_accepts {world : Client.World} {args : Client.Decrypt}
    {examined : Client.Examined} {asked : Client.Asked} {signature : Bytes} {sessionKey : String}
    (hAccepts : Client.Accepts crates world args examined asked signature sessionKey)
    (hPin : examined.quorum = crates.p256.publicKey deployment.quorumKey) :
    Session.take crates deployment
        { appId := args.appId, transport := world.transport, pkesk := asked.pkesk }
        (world.postSessionKey args.appUrl asked.payload signature) = .ok sessionKey := by
  obtain ⟨response, hPost, hAccept⟩ := hAccepts.accepts
  unfold Session.take
  rw [hPost, ok_bind, ← hPin]
  exact hAccept

/-- A session that takes an answer has checked its receipt. -/
theorem take_eq_ok {session : Session} {response : Except String Client.SessionKeyResponse}
    {sessionKey : String} (hTake : session.take crates deployment response = .ok sessionKey) :
    ∃ answer, response = .ok answer ∧
      Client.checkResponse crates answer (crates.p256.publicKey deployment.quorumKey) session.appId
        (session.nonce crates) session.pkesk = .ok ⟨⟩ := by
  unfold Session.take at hTake
  obtain ⟨answer, hAnswer, hAccept⟩ := bind_eq_ok_iff.mp hTake
  unfold Client.accept at hAccept
  obtain ⟨_, hCheck, -⟩ := bind_eq_ok_iff.mp hAccept
  exact ⟨answer, hAnswer, hCheck⟩

/-- What a step can be, and what it leaves behind. -/
theorem step_cases {s s' : System} {event : Event}
    (hStep : step crates exports axum deployment s event = some s') :
    (∃ session, event = .asks session ∧
      s' = { s with begun := s.begun ++ [session], running := s.running ++ [session] }) ∨
    (event = .restarts ∧ s' = { s with
      restarts := s.restarts + 1
      server := Service.start
      past := s.past ++ s.server.observed }) ∨
    (∃ served server, event = .serves s.restarts served ∧
      Service.step crates exports axum (deployment.state s.restarts) s.server served =
          some server ∧
        s' = { s with
          server, handled := s.handled ++ (handledOf served).toList.map (Prod.mk s.restarts) }) ∨
    (∃ session response, event = .receives session response ∧ session ∈ s.running ∧
      ((∃ sessionKey, session.take crates deployment response = .ok sessionKey ∧
          s' = { s with
            running := s.running.filter fun other => other ≠ session
            accepted := s.accepted ++ [(session, sessionKey)] }) ∨
        (∃ message, session.take crates deployment response = .error message ∧
          s' = { s with running := s.running.filter fun other => other ≠ session }))) := by
  cases event with
  | asks session => exact .inl ⟨session, rfl, (Option.some.inj hStep).symm⟩
  | restarts => exact .inr (.inl ⟨rfl, (Option.some.inj hStep).symm⟩)
  | serves process served =>
      rw [step] at hStep
      split at hStep
      · rename_i hProcess
        subst hProcess
        obtain ⟨server, hServer, hState⟩ := Option.map_eq_some_iff.mp hStep
        exact .inr (.inr (.inl ⟨served, server, rfl, hServer, hState.symm⟩))
      · cases hStep
  | receives session response =>
      refine .inr (.inr (.inr ⟨session, response, rfl, ?_⟩))
      rw [step] at hStep
      split at hStep
      · rename_i hRunning
        refine ⟨hRunning, ?_⟩
        cases hTake : session.take crates deployment response with
        | ok sessionKey =>
            rw [hTake] at hStep
            exact .inl ⟨sessionKey, rfl, (Option.some.inj hStep).symm⟩
        | error message =>
            rw [hTake] at hStep
            exact .inr ⟨message, rfl, (Option.some.inj hStep).symm⟩
      · cases hStep

/-- What the running process does, it does in the system. -/
theorem step_serves {s : System} {served : Service.Event} {server : Service.Server}
    (hServer : Service.step crates exports axum (deployment.state s.restarts) s.server served =
      some server) :
    step crates exports axum deployment s (.serves s.restarts served) = some { s with
      server, handled := s.handled ++ (handledOf served).toList.map (Prod.mk s.restarts) } := by
  rw [step, if_pos rfl, hServer]
  rfl

/-- A running session takes an answer. -/
theorem step_receives {s : System} {session : Session} (hRunning : session ∈ s.running)
    {response : Except String Client.SessionKeyResponse} {sessionKey : String}
    (hTake : session.take crates deployment response = .ok sessionKey) :
    step crates exports axum deployment s (.receives session response) = some { s with
      running := s.running.filter fun other => other ≠ session
      accepted := s.accepted ++ [(session, sessionKey)] } := by
  rw [step, if_pos hRunning, hTake]

/-! ## The rules of the sessions -/

/-- What the events are to the sessions: a client draws its key, the server releases for it,
the client takes an answer. -/
def sessions (crates : Crates) (deployment : Deployment) :
    Correspondence.Sessions Event Session String where
  begins event session := event = .asks session
  serves event session := ∃ process served, event = .serves process served ∧
    Serves crates deployment process served session
  ends event session := ∃ response sessionKey, event = .receives session response ∧
    session.take crates deployment response = .ok sessionKey
  nonce session := session.nonce crates
  begins_one := by
    rintro _ session session' rfl hAsks
    exact Event.asks.inj hAsks
  serves_one := by
    rintro _ session session' ⟨process, served, rfl, handled, response, entry, hHandled, hReleased⟩
      ⟨_, _, hSame, handled', response', entry', hHandled', hReleased'⟩
    obtain ⟨rfl, rfl⟩ := Event.serves.inj hSame
    obtain rfl := Option.some.inj (hHandled.symm.trans hHandled')
    -- one body names one transport key
    obtain ⟨payload, hPayload, -, hNonce⟩ := hReleased.payload
    obtain ⟨payload', hPayload', -, hNonce'⟩ := hReleased'.payload
    obtain rfl := Option.some.inj (hPayload.symm.trans hPayload')
    exact hNonce.symm.trans hNonce'
  ends_one := by
    rintro _ session session' ⟨response, _, rfl, -⟩ ⟨response', _, hSame, -⟩
    exact (Event.receives.inj hSame).1
  apart := by
    rintro _ session session' rfl ⟨process, served, hSame, -⟩
    cases hSame

/-- A process of the server has made a release for the session. -/
def Served (crates : Crates) (deployment : Deployment) (system : System) (session : Session) :
    Prop :=
  ∃ entry ∈ system.handled, ∃ response signer,
    ReleasedFor crates (deployment.state entry.1).forRelease entry.2 response signer session.appId
      (session.nonce crates) session.pkesk

theorem used_mono {s s' : System} {nonce : String}
    (hBegun : ∀ session ∈ s.begun, session ∈ s'.begun)
    (hHandled : ∀ handled ∈ s.handled, handled ∈ s'.handled) (hUsed : Used crates s nonce) :
    Used crates s' nonce := by
  rcases hUsed with ⟨session, hMem, hNonce⟩ | ⟨handled, hMem, hPayload⟩
  · exact .inl ⟨session, hBegun session hMem, hNonce⟩
  · exact .inr ⟨handled, hHandled handled hMem, hPayload⟩

theorem mem_handledIn_iff {handled : List (ℕ × Handled)} {process : ℕ} {request : Handled} :
    request ∈ handledIn handled process ↔ (process, request) ∈ handled := by
  unfold handledIn
  simp only [List.mem_map, List.mem_filter, decide_eq_true_eq, Prod.exists, exists_eq_right]

/-- An answer that a session takes was made for it by one of the processes. -/
theorem served_of_take (hHex : HexLaws crates) (hJson : JsonLaws crates.json) {s : System}
    {session : Session} {response : Except String Client.SessionKeyResponse} {sessionKey : String}
    (hMeets : Meets crates deployment s (.receives session response))
    (hTake : session.take crates deployment response = .ok sessionKey) :
    Served crates deployment s session := by
  obtain ⟨answer, rfl, hCheck⟩ := take_eq_ok hTake
  obtain ⟨⟨process, hUnforged⟩, hCollision⟩ := hMeets answer rfl
  have hNone : NoCollision crates (handledIn s.handled process) session.pkesk := by
    intro handled hMem
    exact hCollision handled (List.mem_map.mpr ⟨_, mem_handledIn_iff.mp hMem, rfl⟩)
  have hKey : (deployment.state process).forRelease.quorumKey = deployment.quorumKey :=
    deployment.same process
  rw [← hKey] at hCheck
  obtain ⟨handled, hMem, released, entry, hReleased, -⟩ :=
    exists_releasedFor hHex hJson hUnforged hNone hCheck
  exact ⟨(process, handled), mem_handledIn_iff.mp hMem, released, entry, hReleased⟩

/-- Clients and server keep the rules, as long as the network keeps within its bounds. -/
theorem rules (hHex : HexLaws crates) (hJson : JsonLaws crates.json) :
    Rules (step crates exports axum deployment) (Meets crates deployment)
      (sessions crates deployment) (Used crates) (fun s session => session ∈ s.running)
      (Served crates deployment) where
  fresh := by
    rintro s _ s' session hMeets - rfl
    exact hMeets
  keeps := by
    intro s event s' nonce hStep hUsed
    rcases step_cases hStep with ⟨session, rfl, rfl⟩ | ⟨rfl, rfl⟩ | ⟨served, server, rfl, -, rfl⟩ |
      ⟨session, response, rfl, -, ⟨_, -, rfl⟩ | ⟨_, -, rfl⟩⟩
    · exact used_mono (s := s) (fun _ => List.mem_append_left _) (fun _ hMem => hMem) hUsed
    · exact used_mono (s := s) (fun _ hMem => hMem) (fun _ hMem => hMem) hUsed
    · exact used_mono (s := s) (fun _ hMem => hMem) (fun _ => List.mem_append_left _) hUsed
    · exact used_mono (s := s) (fun _ hMem => hMem) (fun _ hMem => hMem) hUsed
    · exact used_mono (s := s) (fun _ hMem => hMem) (fun _ hMem => hMem) hUsed
  usesBegun := by
    rintro s _ s' session hStep rfl
    obtain rfl := Option.some.inj hStep
    exact .inl ⟨session, List.mem_append_right _ (List.mem_singleton_self session), rfl⟩
  usesServed := by
    rintro s _ s' session hStep ⟨process, served, rfl, handled, response, entry, hHandled,
      hReleased⟩
    obtain ⟨payload, hPayload, -, hNonce⟩ := hReleased.payload
    rcases step_cases hStep with ⟨_, hSame, -⟩ | ⟨hSame, -⟩ | ⟨_, server, hSame, -, rfl⟩ |
      ⟨_, _, hSame, -⟩
    · cases hSame
    · cases hSame
    · obtain ⟨rfl, rfl⟩ := Event.serves.inj hSame
      refine .inr ⟨(s.restarts, handled), List.mem_append_right _ ?_, payload, hPayload, hNonce⟩
      rw [hHandled]
      exact List.mem_singleton_self _
    · cases hSame
  lives := by
    intro s event s' session hStep hLive
    rcases step_cases hStep with ⟨other, rfl, rfl⟩ | ⟨rfl, rfl⟩ | ⟨served, server, rfl, -, rfl⟩ |
      ⟨other, response, rfl, -, ⟨_, -, rfl⟩ | ⟨_, -, rfl⟩⟩
    · rcases List.mem_append.mp hLive with hBefore | hNew
      · refine .inl ⟨hBefore, ?_⟩
        rintro ⟨response, sessionKey, hSame, -⟩
        cases hSame
      · obtain rfl := List.mem_singleton.mp hNew
        exact .inr rfl
    · refine .inl ⟨hLive, ?_⟩
      rintro ⟨response, sessionKey, hSame, -⟩
      cases hSame
    · refine .inl ⟨hLive, ?_⟩
      rintro ⟨response, sessionKey, hSame, -⟩
      cases hSame
    all_goals
      obtain ⟨hBefore, hOther⟩ := List.mem_filter.mp hLive
      refine .inl ⟨hBefore, ?_⟩
      rintro ⟨response', sessionKey, hSame, -⟩
      exact of_decide_eq_true hOther (Event.receives.inj hSame).1.symm
  gets := by
    intro s event s' session hStep hServed
    rcases step_cases hStep with ⟨other, rfl, rfl⟩ | ⟨rfl, rfl⟩ | ⟨served, server, rfl, -, rfl⟩ |
      ⟨other, response, rfl, -, ⟨_, -, rfl⟩ | ⟨_, -, rfl⟩⟩
    · exact .inl hServed
    · exact .inl hServed
    · obtain ⟨entry, hMem, response, signer, hReleased⟩ := hServed
      rcases List.mem_append.mp hMem with hBefore | hNew
      · exact .inl ⟨entry, hBefore, response, signer, hReleased⟩
      · obtain ⟨handled, hHandled, rfl⟩ := List.mem_map.mp hNew
        exact .inr ⟨s.restarts, served, rfl, handled, response, signer,
          Option.mem_toList.mp hHandled, hReleased⟩
    · exact .inl hServed
    · exact .inl hServed
  closes := by
    rintro s _ s' session hMeets hStep ⟨response, sessionKey, rfl, hTake⟩
    refine ⟨?_, served_of_take hHex hJson hMeets hTake⟩
    rw [step] at hStep
    split at hStep
    · assumption
    · cases hStep

/-- In every run, each client that accepts an answer has a release of its own. -/
theorem agreement_of_run (hHex : HexLaws crates) (hJson : JsonLaws crates.json)
    {events : List Event} {s : System}
    (hRun : Run (step crates exports axum deployment) (Meets crates deployment) start events s) :
    Agreement (sessions crates deployment) events := by
  refine (rules hHex hJson).agreement ?_ ?_ hRun
  · intro session hLive
    cases hLive
  · rintro session ⟨entry, hMem, -⟩
    cases hMem

/-- What a released request was when it came. -/
theorem granted_of_serves {process : ℕ} {served : Service.Event} {session : Session}
    (hServes : Serves crates deployment process served session) :
    ∃ request now entropy response entry,
      served = .resolves request (some now) entropy ∧ request.path = "/session-key" ∧
        Granted crates (deployment.state process) (some now) entropy request response ∧
          ReleasedFor crates (deployment.state process).forRelease
            { body := request.body, now, entropy } response entry session.appId
              (session.nonce crates) session.pkesk := by
  obtain ⟨handled, response, entry, hHandled, hReleased⟩ := hServes
  unfold handledOf at hHandled
  split at hHandled
  · rename_i request now entropy
    split at hHandled
    · rename_i hRead
      obtain ⟨hPath, hMethod, hComplete, hShort⟩ := hRead
      obtain rfl := Option.some.inj hHandled
      exact ⟨request, now, entropy, response, entry, rfl, hPath,
        ⟨hMethod, hShort, hComplete, now, rfl, hReleased.released⟩, hReleased⟩
    · cases hHandled
  · cases hHandled

/-- What the clients and the server agree on: which event of the server was for which answer. -/
structure Agreed (crates : Crates) (deployment : Deployment) (events : List Event)
    (service : ℕ → ℕ) : Prop where
  /-- A session that took an answer has a release, which a process of the server made for it
  after it drew its key and before it took the answer. -/
  released : ∀ k session answer sessionKey, events[k]? = some (.receives session answer) →
    session.take crates deployment answer = .ok sessionKey →
      (∃ i < service k, events[i]? = some (.asks session)) ∧ service k < k ∧
        ∃ process request now entropy response entry,
          events[service k]? = some (.serves process (.resolves request (some now) entropy)) ∧
            Granted crates (deployment.state process) (some now) entropy request response ∧
              ReleasedFor crates (deployment.state process).forRelease
                { body := request.body, now, entropy } response entry session.appId
                  (session.nonce crates) session.pkesk
  /-- No two answers have one release between them. -/
  own : ∀ k k' session session' answer answer' sessionKey sessionKey',
    events[k]? = some (.receives session answer) →
      session.take crates deployment answer = .ok sessionKey →
        events[k']? = some (.receives session' answer') →
          session'.take crates deployment answer' = .ok sessionKey' →
            service k = service k' → k = k'

/-- Clients and server agree, whatever the network does and however often the server is
restarted: every client that takes an answer has a release of its own, for its app id,
transport key and PKESK and at the request of the holder of a key allowlisted then, which the
server made after the client had drawn its key and before it took the answer. -/
theorem sessions_agree (hHex : HexLaws crates) (hJson : JsonLaws crates.json)
    {events : List Event} {s : System}
    (hRun : Run (step crates exports axum deployment) (Meets crates deployment) start events s) :
    ∃ service, Agreed crates deployment events service := by
  obtain ⟨service, hService, hInjective⟩ := agreement_of_run hHex hJson hRun
  refine ⟨service, ?_, ?_⟩
  · intro k session answer sessionKey hEvent hTake
    obtain ⟨⟨i, hi, _, hAsks, rfl⟩, hBefore, _, hServed, process, served, rfl, hServes⟩ :=
      hService k session ⟨_, hEvent, answer, sessionKey, rfl, hTake⟩
    obtain ⟨request, now, entropy, response, entry, rfl, -, hGranted, hReleased⟩ :=
      granted_of_serves hServes
    exact ⟨⟨i, hi, hAsks⟩, hBefore, process, request, now, entropy, response, entry, hServed,
      hGranted, hReleased⟩
  · intro k k' session session' answer answer' sessionKey sessionKey' hEvent hTake hEvent' hTake'
    exact hInjective k k' session session' ⟨_, hEvent, answer, sessionKey, rfl, hTake⟩
      ⟨_, hEvent', answer', sessionKey', rfl, hTake'⟩

/-! ## What the metrics show of it -/

/-- The labels of an answer that carries a session key. -/
def grantedLabels : Metrics.Labels where
  method := "POST"
  path := "/session-key"
  status := "200"

/-- What the histograms of all processes have observed so far. -/
def System.observed (system : System) : List Metrics.Labels :=
  system.past ++ system.server.observed

/-- Whether a server event is counted as a released session key. -/
def countsGrant (crates : Crates) (exports : Team.ExportCrates) (axum : Axum)
    (deployment : Deployment) : Event → Bool
  | .serves process (.resolves request clock entropy) =>
      Service.labelsOf request
        (handle crates exports axum (deployment.state process) clock entropy request) =
          grantedLabels
  | _ => false

/-- Whether a client takes what it receives. -/
def takesAnswer (crates : Crates) (deployment : Deployment) : Event → Bool
  | .receives session response => (session.take crates deployment response).isOk
  | _ => false

/-- A release is counted as one. -/
theorem countsGrant_of_serves {event : Event} {session : Session}
    (hServes : (sessions crates deployment).serves event session) :
    countsGrant crates exports axum deployment event = true := by
  obtain ⟨process, served, rfl, hServed⟩ := hServes
  obtain ⟨request, now, entropy, response, _, rfl, hPath, hGranted, -⟩ :=
    granted_of_serves hServed
  refine decide_eq_true ?_
  rw [handle_of_granted hPath hGranted]
  have hNumber : (released crates response).status.code.code = 200 := rfl
  unfold Service.labelsOf Metrics.call Metrics.ResponseFuture.labels Request.line
  rw [hPath, hGranted.method, hNumber]
  decide

/-- What the histograms and the clients have come to, by the events that led there. -/
structure Tally (crates : Crates) (exports : Team.ExportCrates) (axum : Axum)
    (deployment : Deployment) (events : List Event) (s : System) : Prop where
  granted : s.observed.count grantedLabels =
    events.countP (countsGrant crates exports axum deployment)
  accepted : s.accepted.length = events.countP (takesAnswer crates deployment)

theorem tally_start : Tally crates exports axum deployment [] start := ⟨rfl, rfl⟩

/-- An event that neither releases nor takes a session key leaves the tally as it is. -/
theorem Tally.other {events : List Event} {s s' : System} {event : Event}
    (hTally : Tally crates exports axum deployment events s) (hObserved : s'.observed = s.observed)
    (hAccepted : s'.accepted = s.accepted)
    (hCounts : countsGrant crates exports axum deployment event = false)
    (hTakes : takesAnswer crates deployment event = false) :
    Tally crates exports axum deployment (events ++ [event]) s' := by
  constructor
  · rw [List.countP_append, List.countP_singleton, hCounts, hObserved, hTally.granted]
    rfl
  · rw [List.countP_append, List.countP_singleton, hTakes, hAccepted, hTally.accepted]
    rfl

/-- Every step keeps the tally. -/
theorem Tally.step {events : List Event} {s s' : System} {event : Event}
    (hTally : Tally crates exports axum deployment events s)
    (hStep : step crates exports axum deployment s event = some s') :
    Tally crates exports axum deployment (events ++ [event]) s' := by
  rcases step_cases hStep with ⟨session, rfl, rfl⟩ | ⟨rfl, rfl⟩ |
    ⟨served, server, rfl, hServer, rfl⟩ |
    ⟨session, response, rfl, -, ⟨sessionKey, hTake, rfl⟩ | ⟨message, hTake, rfl⟩⟩
  · exact hTally.other rfl rfl rfl rfl
  · -- what the process has observed is kept as past
    refine hTally.other ?_ rfl rfl rfl
    exact List.append_nil _
  · rcases Service.step_cases hServer with ⟨request, rfl, -, rfl⟩ | ⟨request, rfl, -, rfl⟩ |
      ⟨request, clock, entropy, rfl, -, rfl⟩ | ⟨request, rfl, -, rfl⟩
    · exact hTally.other rfl rfl rfl rfl
    · exact hTally.other rfl rfl rfl rfl
    · -- the handler is done, and its answer is observed
      constructor
      · rw [List.countP_append, ← hTally.granted]
        show (s.past ++ (s.server.observed ++ _)).count grantedLabels =
          (s.past ++ s.server.observed).count grantedLabels + _
        rw [← List.append_assoc, List.count_append, List.count_singleton, List.countP_singleton]
        simp [countsGrant]
      · rw [List.countP_append]
        exact hTally.accepted
    · exact hTally.other rfl rfl rfl rfl
  · constructor
    · rw [List.countP_append]
      exact hTally.granted
    · rw [List.countP_append, ← hTally.accepted, List.countP_singleton]
      show (s.accepted ++ _).length = _
      rw [List.length_append, takesAnswer, hTake]
      rfl
  · refine hTally.other rfl rfl rfl ?_
    rw [takesAnswer, hTake]
    rfl

/-- Session keys cannot be had behind the back of the metrics: in every run, whatever the
network does, no more answers are accepted by clients than the histograms have counted as
posts to `/session-key` answered with 200. -/
theorem accepted_are_counted (hHex : HexLaws crates) (hJson : JsonLaws crates.json)
    {events : List Event} {s : System}
    (hRun : Run (step crates exports axum deployment) (Meets crates deployment) start events s) :
    s.accepted.length ≤ s.observed.count grantedLabels := by
  have hTally : Tally crates exports axum deployment events s :=
    hRun.history tally_start fun _ _ _ _ hKept _ hStep => hKept.step hStep
  rw [hTally.accepted, hTally.granted]
  refine (agreement_of_run hHex hJson hRun).count_le ?_ ?_
  · intro event hTakes
    cases event with
    | receives session response =>
        cases hTake : session.take crates deployment response with
        | ok sessionKey => exact ⟨session, response, sessionKey, rfl, hTake⟩
        | error message =>
            rw [takesAnswer, hTake] at hTakes
            cases hTakes
    | asks session => cases hTakes
    | restarts => cases hTakes
    | serves process served => cases hTakes
  · intro event session hServes
    exact countsGrant_of_serves hServes

/-! ## A request that is sent twice -/

/-- The network sends a request of a session twice, each time to another process of the
server, and both handle it before the session takes an answer. -/
def sentTwice (session : Session) (request : Request) (now now' : UInt64)
    (answer : Client.SessionKeyResponse) : List Event :=
  [.asks session, .serves 0 (.comes request), .serves 0 (.resolves request (some now) []),
    .restarts, .serves 1 (.comes request), .serves 1 (.resolves request (some now') []),
    .receives session (.ok answer)]

/-- That is a run. -/
theorem run_sentTwice {session : Session} {request : Request} {now now' : UInt64}
    {handled handled' : Handled} {answer : Client.SessionKeyResponse} {sessionKey : String}
    (hPath : request.path ≠ Metrics.metricsPath)
    (hHandled : handledOf (.resolves request (some now) []) = some handled)
    (hHandled' : handledOf (.resolves request (some now') []) = some handled')
    (hTake : session.take crates deployment (.ok answer) = .ok sessionKey)
    (hUnforged : Unforged crates (deployment.state 0).forRelease [handled] answer)
    (hCollision : NoCollision crates [handled, handled'] session.pkesk) :
    ∃ s, Run (step crates exports axum deployment) (Meets crates deployment) start
        (sentTwice session request now now' answer) s ∧ s.accepted.length = 1 := by
  let process (restarts waiting : ℕ) (times : List UInt64) : Service.Server :=
    Service.repeated crates exports axum (deployment.state restarts) request waiting times
  let system (restarts waiting : ℕ) (times : List UInt64) (past : List Metrics.Labels)
      (read : List (ℕ × Handled)) : System := {
    restarts
    server := process restarts waiting times
    past
    handled := read
    begun := [session]
    running := [session]
    accepted := [] }
  have hComes (restarts : ℕ) (past : List Metrics.Labels) (read : List (ℕ × Handled)) :
      step crates exports axum deployment (system restarts 0 [] past read)
        (.serves restarts (.comes request)) = some (system restarts 1 [] past read) := by
    rw [step_serves (s := system restarts 0 [] past read)
      (Service.step_comes_repeated hPath 0 [])]
    exact congrArg (fun read => some (system restarts 1 [] past read)) (List.append_nil read)
  have hResolves (restarts : ℕ) (past : List Metrics.Labels) (read : List (ℕ × Handled))
      (at' : UInt64) (new : Handled)
      (hNew : handledOf (.resolves request (some at') []) = some new) :
      step crates exports axum deployment (system restarts 1 [] past read)
        (.serves restarts (.resolves request (some at') [])) =
          some (system restarts 0 [at'] past (read ++ [(restarts, new)])) := by
    rw [step_serves (s := system restarts 1 [] past read)
      (Service.step_resolves_repeated request 0 [] at'), hNew]
    rfl
  have hRestarts (times : List UInt64) (read : List (ℕ × Handled)) :
      step crates exports axum deployment (system 0 0 times [] read) .restarts =
        some (system 1 0 [] (process 0 0 times).observed read) := rfl
  have hFresh : ¬ Used crates start (session.nonce crates) := by
    rintro (⟨_, hMem, -⟩ | ⟨_, hMem, -⟩)
    · cases hMem
    · cases hMem
  have hLast := @step_receives crates exports axum deployment
    (system 1 0 [now'] (process 0 0 [now]).observed [(0, handled), (1, handled')]) session
    (List.mem_singleton_self session) _ _ hTake
  refine ⟨_, .snoc (.snoc (.snoc (.snoc (.snoc (.snoc (.snoc .nil hFresh ?_) trivial (hComes 0 [] []))
    trivial (hResolves 0 [] [] now handled hHandled)) trivial (hRestarts _ _)) trivial
    (hComes 1 _ _)) trivial (hResolves 1 _ _ now' handled' hHandled')) ?_ hLast, rfl⟩
  · rfl
  · intro taken hTaken
    obtain rfl := Except.ok.inj hTaken
    exact ⟨⟨0, hUnforged⟩, hCollision⟩

end Runs
end Sessions

namespace Reference

open Lib Lib.Fallible Lib.Runs Client Router Sessions

/-- The engineer's run as a session. -/
def deployedSession : Session where
  appId := "team app"
  transport := transport
  pkesk := pkeskBytes

/-- A server that is started again as it was. -/
def deployment : Deployment where
  state _ := serverState
  quorumKey := serverState.quorumKey
  same _ := rfl

/-- The engineer's request as the server handles it. -/
def deployedHandled (now : UInt64) : Handled where
  body := deployedBody 1500
  now := now
  entropy := []

theorem body_deployedHandled (now : UInt64) : (deployedHandled now).body = deployedBody 1500 := by
  rw [deployedHandled]

theorem handledOf_deployed (now : UInt64) :
    handledOf (.resolves (sessionKeyRequest (deployedBody 1500)) (some now) []) =
      some (deployedHandled now) := by
  unfold handledOf
  dsimp only [sessionKeyRequest]
  rw [if_pos ⟨rfl, rfl, rfl, deployedBody_fits 1500⟩]
  rfl

/-- The engineer's request is sent to two processes, and the answer of the first is taken. -/
theorem run_deployedTwice : ∃ answer s,
    Run (Sessions.step deployedCrates exportCrates axumTexts deployment)
        (Meets deployedCrates deployment) Sessions.start
        (sentTwice deployedSession (sessionKeyRequest (deployedBody 1500)) 1560 1700 answer) s ∧
      s.accepted.length = 1 := by
  have hClock : (((1560 : UInt64).toNat : Int) - ((1500 : UInt64).toNat : Int)).natAbs ≤ 300 := by
    decide
  obtain ⟨response, hRelease, hCheck, hOpen⟩ := release_deployed hClock []
  have hTake : deployedSession.take deployedCrates deployment (.ok (clientView response)) =
      .ok (toString (7 : UInt8) ++ ":" ++ Hex.encodeUpper sessionKey) := by
    unfold Session.take Client.accept
    show (Client.checkResponse deployedCrates (clientView response) ⟨[0x07]⟩ "team app"
      (Client.transportPublicKey deployedCrates transport) pkeskBytes >>= _) = _
    rw [hCheck, ok_bind]
    show (Client.openSessionKey deployedCrates transport (clientView response).wrappedSessionKey
      >>= _) = _
    rw [hOpen, ok_bind, sessionKeyString_cons]
  have hOutcome : (deployedHandled 1560).outcome deployedCrates serverState.forRelease =
      .ok response := by
    unfold Handled.outcome
    rw [body_deployedHandled]
    exact hRelease
  have hUnforged : Unforged deployedCrates (deployment.state 0).forRelease [deployedHandled 1560]
      (clientView response) := by
    intro _ _ _
    exact .inl ⟨deployedHandled 1560, List.mem_cons_self, response, hOutcome, rfl⟩
  have hCollision : NoCollision deployedCrates [deployedHandled 1560, deployedHandled 1700]
      deployedSession.pkesk := by
    intro handled hMem bytes hBytes _
    have hBody : handled.body = deployedBody 1500 := by
      rcases List.mem_cons.mp hMem with hFirst | hLast
      · rw [hFirst, body_deployedHandled]
      · rw [List.mem_singleton.mp hLast, body_deployedHandled]
    rw [hBody, pkeskBytesOf_deployedBody] at hBytes
    exact (Option.some.inj hBytes).symm
  have hPath : (sessionKeyRequest (deployedBody 1500)).path ≠ Metrics.metricsPath := by
    show "/session-key" ≠ "/metrics"
    decide
  obtain ⟨s, hRun, hOne⟩ := @run_sentTwice deployedCrates exportCrates axumTexts deployment
    deployedSession _ 1560 1700 _ _ _ _ hPath (handledOf_deployed 1560) (handledOf_deployed 1700)
    hTake hUnforged hCollision
  exact ⟨clientView response, s, hRun, hOne⟩

end Reference

namespace Sessions

open Reference

/-- Of a request that is sent to two processes and handled by both, one release is the
client's own. -/
theorem sessions_agree_deployedTwice : ∃ answer service,
    Agreed deployedCrates deployment (sentTwice deployedSession
      (sessionKeyRequest (deployedBody 1500)) 1560 1700 answer) service := by
  have hHex : HexLaws deployedCrates := hexLaws publishedByTeam
  obtain ⟨answer, s, hRun, -⟩ := run_deployedTwice
  exact ⟨answer, sessions_agree hHex jsonLaws hRun⟩

/-- One answer is taken of a request that is handled twice. -/
theorem accepted_are_counted_deployedTwice : ∃ s : System,
    s.accepted.length = 1 ∧ s.accepted.length ≤ s.observed.count grantedLabels := by
  have hHex : HexLaws deployedCrates := hexLaws publishedByTeam
  obtain ⟨answer, s, hRun, hOne⟩ := run_deployedTwice
  exact ⟨s, hOne, accepted_are_counted hHex jsonLaws hRun⟩

end Sessions
end TvcGpg
