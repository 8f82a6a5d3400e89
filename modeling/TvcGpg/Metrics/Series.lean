import Mathlib.Data.Finset.Prod
import Mathlib.Data.Finset.Card
import Mathlib.Order.Interval.Finset.Nat
import TvcGpg.Lib.Runs
import TvcGpg.Model.Metrics

/-!
# The series of the request histogram

A run of the server leaves behind exactly the label values of the requests that
were answered, and nothing takes them away again.  The paths that have a route
make a bounded number of series, whatever callers send.  A path without a route
goes into the histogram as it was sent: every method and path makes one series,
and the server without routes to it grows with every new one.
-/

namespace TvcGpg
namespace Metrics

open Lib.Runs

/-! ## One step -/

/-- What a step of the server can be, and what it leaves behind. -/
theorem step_cases {s s' : Server} {event : Event} (hStep : step s event = some s') :
    (∃ request, event = .comes request ∧ request.path = metricsPath ∧ s' = s) ∨
    (∃ request, event = .comes request ∧ request.path ≠ metricsPath ∧
      s' = { s with pending := s.pending ++ [call request] }) ∨
    (∃ future, (event = .resolves future none ∨ event = .dropped future) ∧
      future ∈ s.pending ∧ s' = { s with pending := s.pending.erase future }) ∨
    (∃ future status, event = .resolves future (some status) ∧ future ∈ s.pending ∧
      answers future.inner status = true ∧
      s' = ⟨insert (future.labels status) s.series, s.pending.erase future⟩) := by
  cases event with
  | comes request =>
      rw [step] at hStep
      split at hStep
      · rename_i hMetrics
        exact .inl ⟨request, rfl, hMetrics, (Option.some.inj hStep).symm⟩
      · rename_i hMetrics
        exact .inr (.inl ⟨request, rfl, hMetrics, (Option.some.inj hStep).symm⟩)
  | resolves future response =>
      simp only [step] at hStep
      split at hStep
      · rename_i hPending
        cases response with
        | none =>
            exact .inr (.inr (.inl ⟨future, .inl rfl, hPending, (Option.some.inj hStep).symm⟩))
        | some status =>
            dsimp only at hStep
            split at hStep
            · rename_i hAnswers
              exact .inr (.inr (.inr
                ⟨future, status, rfl, hPending, hAnswers, (Option.some.inj hStep).symm⟩))
            · cases hStep
      · cases hStep
  | dropped future =>
      rw [step] at hStep
      split at hStep
      · rename_i hPending
        exact .inr (.inr (.inl ⟨future, .inr rfl, hPending, (Option.some.inj hStep).symm⟩))
      · cases hStep

/-- No step takes a series away. -/
theorem series_subset_of_step {s s' : Server} {event : Event}
    (hStep : step s event = some s') : s.series ⊆ s'.series := by
  rcases step_cases hStep with ⟨_, _, _, rfl⟩ | ⟨_, _, _, rfl⟩ | ⟨_, _, _, rfl⟩ |
    ⟨future, status, _, _, _, rfl⟩
  · exact subset_rfl
  · exact subset_rfl
  · exact subset_rfl
  · exact Finset.subset_insert _ _

/-- A series lives for the rest of the process. -/
theorem series_subset_of_run {s s' : Server} {events : List Event}
    (hRun : Run step Any s events s') : s.series ⊆ s'.series := by
  induction hRun with
  | nil => exact subset_rfl
  | snoc earlier _ last ih => exact ih.trans (series_subset_of_step last)

/-! ## A run -/

/-- The request came in past the route `/metrics`, and was answered with the status. -/
structure Answered (events : List Event) (request : Request) (status : StatusCode) : Prop where
  came : .comes request ∈ events
  layered : request.path ≠ metricsPath
  resolved : .resolves (call request) (some status) ∈ events
  answer : answers request status = true

/-- What came in and was answered stays so. -/
theorem Answered.append {events : List Event} {request : Request} {status : StatusCode}
    (hAnswered : Answered events request status) (event : Event) :
    Answered (events ++ [event]) request status where
  came := List.mem_append_left _ hAnswered.came
  layered := hAnswered.layered
  resolved := List.mem_append_left _ hAnswered.resolved
  answer := hAnswered.answer

/-- The server's state is an account of the events that led to it. -/
structure Accounts (events : List Event) (s : Server) : Prop where
  /-- Every future has the labels of a request that came in. -/
  pending : ∀ future ∈ s.pending, ∃ request,
    .comes request ∈ events ∧ request.path ≠ metricsPath ∧ future = call request
  /-- Every answer is in the histogram. -/
  complete : ∀ future status, .resolves future (some status) ∈ events →
    future.labels status ∈ s.series
  /-- Every series is that of an answered request. -/
  sound : ∀ labels ∈ s.series, ∃ request status,
    Answered events request status ∧ labels = (call request).labels status

/-- The server starts with nothing. -/
theorem accounts_start : Accounts [] start where
  pending := by
    intro future hPending
    cases hPending
  complete := by
    intro future status hResolved
    cases hResolved
  sound := by
    intro labels hLabels
    cases Finset.notMem_empty labels hLabels

/-- A step that adds no answer keeps the account, if its futures are accounted for. -/
theorem Accounts.append {events : List Event} {s : Server} {event : Event}
    (hAccounts : Accounts events s) (hNot : ∀ future status, event ≠ .resolves future (some status))
    {pending : List ResponseFuture}
    (hPending : ∀ future ∈ pending, ∃ request, .comes request ∈ events ++ [event] ∧
      request.path ≠ metricsPath ∧ future = call request) :
    Accounts (events ++ [event]) { s with pending } where
  pending := hPending
  complete := by
    intro future status hResolved
    rcases List.mem_append.mp hResolved with hEarlier | hNow
    · exact hAccounts.complete future status hEarlier
    · cases hNot future status (List.mem_singleton.mp hNow).symm
  sound := by
    intro labels hLabels
    rcases hAccounts.sound labels hLabels with ⟨request, status, hAnswered, hEq⟩
    exact ⟨request, status, hAnswered.append event, hEq⟩

/-- The futures in flight stay accounted for. -/
theorem Accounts.pending_append {events : List Event} {s : Server}
    (hAccounts : Accounts events s) (event : Event) {future : ResponseFuture}
    (hFuture : future ∈ s.pending) : ∃ request, .comes request ∈ events ++ [event] ∧
      request.path ≠ metricsPath ∧ future = call request := by
  rcases hAccounts.pending future hFuture with ⟨request, hCame, hLayered, hCall⟩
  exact ⟨request, List.mem_append_left _ hCame, hLayered, hCall⟩

/-- Every step keeps the account. -/
theorem Accounts.step {events : List Event} {s s' : Server} {event : Event}
    (hAccounts : Accounts events s) (hStep : step s event = some s') :
    Accounts (events ++ [event]) s' := by
  rcases step_cases hStep with ⟨request, rfl, _, rfl⟩ | ⟨request, rfl, hLayered, rfl⟩ |
    ⟨future, hEvent, _, rfl⟩ | ⟨future, status, rfl, hPending, hAnswers, rfl⟩
  · apply hAccounts.append (by simp)
    intro future hFuture
    exact hAccounts.pending_append _ hFuture
  · apply hAccounts.append (by simp)
    intro future hFuture
    rcases List.mem_append.mp hFuture with hEarlier | hNew
    · exact hAccounts.pending_append _ hEarlier
    · exact ⟨request, by simp, hLayered, List.mem_singleton.mp hNew⟩
  · apply hAccounts.append
    · rcases hEvent with rfl | rfl <;> simp
    · intro future' hFuture
      exact hAccounts.pending_append _ (List.mem_of_mem_erase hFuture)
  · -- the answered request is the one whose future was in flight
    rcases hAccounts.pending_append (.resolves future (some status)) hPending with
      ⟨request, hCame, hLayered, rfl⟩
    refine ⟨?_, ?_, ?_⟩
    · intro future' hFuture
      exact hAccounts.pending_append _ (List.mem_of_mem_erase hFuture)
    · intro future' status' hResolved
      rcases List.mem_append.mp hResolved with hEarlier | hNow
      · exact Finset.mem_insert_of_mem (hAccounts.complete future' status' hEarlier)
      · cases List.mem_singleton.mp hNow
        exact Finset.mem_insert_self _ _
    · intro labels hLabels
      rcases Finset.mem_insert.mp hLabels with rfl | hEarlier
      · exact ⟨request, status, ⟨hCame, hLayered, by simp, hAnswers⟩, rfl⟩
      · rcases hAccounts.sound labels hEarlier with ⟨request', status', hAnswered, hEq⟩
        exact ⟨request', status', hAnswered.append _, hEq⟩

/-- Every run leaves a state that accounts for its events. -/
theorem accounts_of_run {events : List Event} {s : Server}
    (hRun : Run step Any start events s) : Accounts events s :=
  hRun.history accounts_start fun _ _ _ _ hAccounts _ hStep => hAccounts.step hStep

/-- The histogram holds the labels of the answered requests, and no others. -/
theorem mem_series_iff {events : List Event} {s : Server}
    (hRun : Run step Any start events s) (labels : Labels) :
    labels ∈ s.series ↔ ∃ request status,
      Answered events request status ∧ labels = (call request).labels status := by
  have hAccounts := accounts_of_run hRun
  constructor
  · intro hLabels
    exact hAccounts.sound labels hLabels
  · rintro ⟨request, status, hAnswered, rfl⟩
    exact hAccounts.complete _ _ hAnswered.resolved

/-! ## Paths with a route -/

/-- The router has a route for the path of the series. -/
def Served (labels : Labels) : Prop := labels.path ∈ routes.map Prod.fst

instance (labels : Labels) : Decidable (Served labels) :=
  inferInstanceAs (Decidable (labels.path ∈ routes.map Prod.fst))

/-- The standard methods. -/
def methods : Finset Method :=
  {.options, .get, .post, .put, .delete, .head, .trace, .connect, .patch}

theorem mem_methods {method : Method} (hStandard : method.isStandard = true) :
    method ∈ methods := by
  cases method with
  | extension name => cases hStandard
  | options | get | post | put | delete | head | trace | connect | patch => decide

/-- The name tells whether a method is a standard one. -/
theorem toString_mem_standardNames_iff (method : Method) :
    toString method ∈ standardNames ↔ method.isStandard = true := by
  cases method with
  | extension name => exact iff_of_false name.other Bool.false_ne_true
  | options | get | post | put | delete | head | trace | connect | patch => decide

/-- All requests that come have standard methods. -/
def StandardOnly (events : List Event) : Prop := ∀ event ∈ events, event.isStandard = true

instance (events : List Event) : Decidable (StandardOnly events) :=
  inferInstanceAs (Decidable (∀ event ∈ events, _))

/-- The label values a route can have: any standard method, its path, any status. -/
def servedLabels : Finset Labels :=
  (methods ×ˢ (routes.map Prod.fst).toFinset ×ˢ Finset.Icc 100 999).image
    fun values => ⟨toString values.1, values.2.1, toString values.2.2⟩

/-- How many series the routes can make. -/
def servedBound : Nat := 9 * (routes.length * 900)

/-- The bound depends on the routes only. -/
theorem card_servedLabels_le : servedLabels.card ≤ servedBound := by
  have hMethods : methods.card = 9 := by decide
  have hStatuses : (Finset.Icc 100 999).card = 900 := Nat.card_Icc 100 999
  have hPaths : (routes.map Prod.fst).toFinset.card ≤ routes.length :=
    (List.toFinset_card_le _).trans_eq (List.length_map _)
  calc servedLabels.card
    _ ≤ (methods ×ˢ (routes.map Prod.fst).toFinset ×ˢ Finset.Icc 100 999).card :=
        Finset.card_image_le
    _ = 9 * ((routes.map Prod.fst).toFinset.card * 900) := by
        rw [Finset.card_product, Finset.card_product, hMethods, hStatuses]
    _ ≤ servedBound := Nat.mul_le_mul_left 9 (Nat.mul_le_mul_right 900 hPaths)

/-- A series of a path with a route has label values of that route. -/
theorem mem_servedLabels {request : Request} {status : StatusCode}
    (hStandard : request.method.isStandard = true)
    (hServed : Served ((call request).labels status)) :
    (call request).labels status ∈ servedLabels := by
  apply Finset.mem_image.mpr
  refine ⟨(request.method, request.path, status.code), ?_, rfl⟩
  apply Finset.mem_product.mpr ⟨mem_methods hStandard, ?_⟩
  apply Finset.mem_product.mpr ⟨List.mem_toFinset.mpr hServed, ?_⟩
  exact Finset.mem_Icc.mpr status.valid

/-- The paths with a route make a bounded number of series. -/
theorem card_served_le {events : List Event} {s : Server} (hRun : Run step Any start events s)
    (hStandard : StandardOnly events) : (s.series.filter Served).card ≤ servedBound := by
  refine (Finset.card_le_card ?_).trans card_servedLabels_le
  intro labels hLabels
  rcases Finset.mem_filter.mp hLabels with ⟨hSeries, hServed⟩
  rcases (mem_series_iff hRun labels).mp hSeries with ⟨request, status, hAnswered, rfl⟩
  exact mem_servedLabels (hStandard _ hAnswered.came) hServed

/-! ## Paths without a route -/

/-- What the layer's path label has no route for, the router's lookup has none for. -/
theorem lookup_eq_none {path : String} (hUnserved : path ∉ routes.map Prod.fst) :
    routes.lookup path = none := by
  apply List.lookup_eq_none_iff.mpr
  intro route hRoute
  have hNe : path ≠ route.1 := by
    rintro rfl
    exact hUnserved (List.mem_map_of_mem hRoute)
  simpa using hNe

/-- The fallback answers a path without a route. -/
theorem answers_unserved {request : Request} (hUnserved : request.path ∉ routes.map Prod.fst)
    (status : StatusCode) : answers request status = decide (status.code = 404) := by
  rw [answers, lookup_eq_none hUnserved]

/-- The series of a path without a route are the methods and paths that were turned away,
each once. -/
theorem mem_series_unserved_iff {events : List Event} {s : Server}
    (hRun : Run step Any start events s) {labels : Labels} (hUnserved : ¬Served labels) :
    labels ∈ s.series ↔ ∃ request status, Answered events request status ∧
      labels = ⟨toString request.method, request.path, "404"⟩ := by
  rw [mem_series_iff hRun]
  have hLabels : ∀ request status, Answered events request status →
      request.path ∉ routes.map Prod.fst →
      (call request).labels status = ⟨toString request.method, request.path, "404"⟩ := by
    intro request status hAnswered hPath
    have hCode : status.code = 404 := by
      have hAnswer := hAnswered.answer
      rw [answers_unserved hPath] at hAnswer
      exact of_decide_eq_true hAnswer
    show Labels.mk _ _ (toString status.code) = _
    rw [hCode]
    rfl
  constructor
  · rintro ⟨request, status, hAnswered, rfl⟩
    exact ⟨request, status, hAnswered, hLabels request status hAnswered hUnserved⟩
  · rintro ⟨request, status, hAnswered, rfl⟩
    exact ⟨request, status, hAnswered, (hLabels request status hAnswered hUnserved).symm⟩

/-- In every run of requests with standard methods the paths with a route make no more series
than the routes allow; in every run at all a path without a route makes one series for every
method it was turned away with, and no series is taken away again. -/
theorem series_follow_requests {events : List Event} {s : Server}
    (hRun : Run step Any start events s) :
    (StandardOnly events → (s.series.filter Served).card ≤ servedBound) ∧
    (∀ labels, ¬Served labels → (labels ∈ s.series ↔ ∃ request status,
      Answered events request status ∧
      labels = ⟨toString request.method, request.path, "404"⟩)) ∧
    ∀ later s', Run step Any s later s' → s.series ⊆ s'.series := by
  refine ⟨fun hStandard => card_served_le hRun hStandard, ?_, ?_⟩
  · intro labels hUnserved
    exact mem_series_unserved_iff hRun hUnserved
  · intro later s' hLater
    exact series_subset_of_run hLater

/-- The fallback's status. -/
def notFound : StatusCode := ⟨404, by decide⟩

/-- A health check that is still in flight when a stray request is turned away. -/
def interleavedRun : List Event :=
  [.comes ⟨.get, "/health"⟩, .comes ⟨.put, "/stray"⟩,
    .resolves (call ⟨.put, "/stray"⟩) (some notFound),
    .resolves (call ⟨.get, "/health"⟩) (some ⟨200, by decide⟩)]

/-- The two requests make a series each, and only one of them counts against the routes. -/
theorem series_follow_requests_interleavedRun :
    ∃ s, Run step Any start interleavedRun s ∧ (s.series.filter Served).card ≤ servedBound ∧
      ⟨"PUT", "/stray", "404"⟩ ∈ s.series ∧ ⟨"GET", "/health", "200"⟩ ∈ s.series := by
  obtain ⟨s, hPlayed⟩ : ∃ s, execute step Any start interleavedRun = some s :=
    Option.isSome_iff_exists.mp (by decide)
  have hRun := run_of_execute hPlayed
  have hFollow := series_follow_requests hRun
  have hStray : Answered interleavedRun ⟨.put, "/stray"⟩ notFound :=
    ⟨by decide, by decide, by decide, by decide⟩
  have hHealth : Answered interleavedRun ⟨.get, "/health"⟩ ⟨200, by decide⟩ :=
    ⟨by decide, by decide, by decide, by decide⟩
  refine ⟨s, hRun, hFollow.1 (by decide), ?_, ?_⟩
  · exact (hFollow.2.1 _ (by decide)).mpr ⟨_, _, hStray, rfl⟩
  · exact (mem_series_iff hRun _).mpr ⟨_, _, hHealth, rfl⟩

/-! ## Stray requests -/

/-- A GET for a path of slashes and letters that no route has. -/
def stray (n : Nat) : Request where
  method := .get
  path := String.ofList ('/' :: List.replicate (n + 1) 'x')

/-- `n` stray requests, each turned away before the next. -/
def strayRun : Nat → List Event
  | 0 => []
  | n + 1 => strayRun n ++ [.comes (stray n)] ++ [.resolves (call (stray n)) (some notFound)]

/-- The server after them. -/
def strayServer (n : Nat) : Server where
  series := (Finset.range n).image fun k => (call (stray k)).labels notFound
  pending := []

/-- No stray path begins like a path of the server. -/
theorem stray_path_ne {n : Nat} {path : String} (hPath : path.toList[1]? ≠ some 'x') :
    (stray n).path ≠ path := by
  rintro rfl
  apply hPath
  rw [stray, String.toList_ofList]
  rfl

/-- No stray path has a route. -/
theorem stray_unserved (n : Nat) : (stray n).path ∉ routes.map Prod.fst := by
  intro hServed
  have hNone : ∀ path ∈ routes.map Prod.fst, path.toList[1]? ≠ some 'x' := by decide
  exact stray_path_ne (hNone _ hServed) rfl

/-- Different stray requests have different paths. -/
theorem stray_injective : Function.Injective fun n => (call (stray n)).labels notFound := by
  intro n m hLabels
  have hPath : (stray n).path = (stray m).path := congrArg Labels.path hLabels
  have hLists := String.ofList_injective hPath
  simpa using congrArg List.length hLists

/-- The stray requests run, and leave a series each. -/
theorem run_strayRun (n : Nat) : Run step Any start (strayRun n) (strayServer n) := by
  induction n with
  | zero => exact .nil
  | succ n ih =>
      have hComes : step (strayServer n) (.comes (stray n)) =
          some { strayServer n with pending := [call (stray n)] } :=
        if_neg (stray_path_ne (by decide))
      have hAnswers : answers (call (stray n)).inner notFound = true := by
        show answers (stray n) notFound = true
        rw [answers_unserved (stray_unserved n)]
        rfl
      have hResolves : step { strayServer n with pending := [call (stray n)] }
          (.resolves (call (stray n)) (some notFound)) = some (strayServer (n + 1)) := by
        simp only [step]
        rw [if_pos (List.mem_singleton_self _), if_pos hAnswers, List.erase_cons_head]
        rw [strayServer, strayServer, Finset.range_add_one, Finset.image_insert]
      exact .snoc (.snoc ih trivial hComes) trivial hResolves

/-- All stray requests are GETs. -/
theorem standardOnly_strayRun (n : Nat) : StandardOnly (strayRun n) := by
  induction n with
  | zero =>
      intro event hEvent
      cases hEvent
  | succ n ih =>
      intro event hEvent
      rw [strayRun, List.append_assoc] at hEvent
      rcases List.mem_append.mp hEvent with hEarlier | hNew
      · exact ih event hEarlier
      · rcases List.mem_cons.mp hNew with rfl | hLast
        · rfl
        · rw [List.mem_singleton.mp hLast]
          rfl

/-- Each of the stray requests has its own series. -/
theorem card_strayServer (n : Nat) : (strayServer n).series.card = n := by
  rw [strayServer, Finset.card_image_of_injective _ stray_injective, Finset.card_range]

/-- Callers can grow the histogram without a bound: every stray request adds a series, and
the series stay. -/
theorem stray_requests_grow_series :
    (¬∃ bound, ∀ events s, Run step Any start events s → StandardOnly events →
      s.series.card ≤ bound) ∧
    ∀ n, ∃ s, Run step Any start (strayRun n) s ∧ s.series.card = n ∧
      ∀ later s', Run step Any s later s' → s.series ⊆ s'.series := by
  constructor
  · rintro ⟨bound, hBound⟩
    have hCard := hBound _ _ (run_strayRun (bound + 1)) (standardOnly_strayRun (bound + 1))
    rw [card_strayServer] at hCard
    omega
  · intro n
    refine ⟨strayServer n, run_strayRun n, card_strayServer n, ?_⟩
    intro later s' hLater
    exact series_subset_of_run hLater

end Metrics
end TvcGpg
