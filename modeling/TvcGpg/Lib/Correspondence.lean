import TvcGpg.Lib.Runs
import Mathlib.Data.Finset.Card
import Mathlib.Data.Finset.Range

/-!
# Sessions that run through a machine

Some events of a machine belong to sessions: one begins a session, one serves it, one ends
it.  A session has a nonce, and what makes it a nonce is one condition on the events that
begin: nothing so far has used it.  `Rules` has what is to be shown of a single step, and
from it `Rules.agreement` concludes for whole runs that every session which ends has a
service of its own, after it began and before it ended, and that no two of them share one.
The nonces alone keep the services apart: a machine may serve any session any number of
times, and sessions nobody has begun.
-/

namespace Lib
namespace Correspondence

open Runs

variable {σ ε τ κ : Type*}

/-! ## Positions of a run -/

/-- The event at this position is of this kind. -/
def At (events : List ε) (k : ℕ) (kind : ε → Prop) : Prop :=
  ∃ event, events[k]? = some event ∧ kind event

variable {events : List ε} {event : ε} {kind : ε → Prop} {k : ℕ}

theorem At.lt_length (hAt : At events k kind) : k < events.length := by
  obtain ⟨event, hEvent, -⟩ := hAt
  exact (List.getElem?_eq_some_iff.mp hEvent).1

theorem at_concat_iff :
    At (events ++ [event]) k kind ↔ At events k kind ∨ k = events.length ∧ kind event := by
  unfold At
  rw [List.getElem?_append]
  rcases lt_trichotomy k events.length with hBefore | rfl | hAfter
  · simp [hBefore, Nat.ne_of_lt hBefore]
  · simp
  · have hZero : k - events.length ≠ 0 := by omega
    simp [hAfter.le, Nat.ne_of_gt hAfter, hZero]

theorem not_at_nil : ¬ At ([] : List ε) k kind := by
  rintro ⟨event, hEvent, -⟩
  cases hEvent

/-- The positions of a kind of event, counted. -/
theorem countP_eq_card (events : List ε) (counted : ε → Bool) :
    events.countP counted =
      {k ∈ Finset.range events.length | (events[k]?.map counted) = some true}.card := by
  induction events using List.reverseRecOn with
  | nil => rfl
  | append_singleton events event ih =>
      have hBefore : {k ∈ Finset.range events.length |
          (((events ++ [event])[k]?).map counted) = some true} =
            {k ∈ Finset.range events.length | (events[k]?.map counted) = some true} := by
        refine Finset.filter_congr fun k hk => ?_
        rw [List.getElem?_append_left (Finset.mem_range.mp hk)]
      have hLast : (events ++ [event])[events.length]? = some event := by simp
      rw [List.countP_append, List.length_append, List.length_singleton, Finset.range_add_one,
        Finset.filter_insert, hBefore, ih, hLast]
      cases hCounted : counted event with
      | true =>
          rw [Option.map_some, hCounted, if_pos rfl, Finset.card_insert_of_notMem (by simp)]
          simp [hCounted]
      | false =>
          rw [Option.map_some, hCounted, if_neg (by simp)]
          simp [hCounted]

/-! ## Sessions -/

/-- What the events of a machine are to the sessions that run through it. -/
structure Sessions (ε τ κ : Type*) where
  begins : ε → τ → Prop
  serves : ε → τ → Prop
  ends : ε → τ → Prop
  /-- What tells a session from the others. -/
  nonce : τ → κ
  begins_one : ∀ {event t t'}, begins event t → begins event t' → t = t'
  serves_one : ∀ {event t t'}, serves event t → serves event t' → nonce t = nonce t'
  ends_one : ∀ {event t t'}, ends event t → ends event t' → t = t'
  apart : ∀ {event t t'}, begins event t → ¬ serves event t'

/-- What a step of the machine does to its sessions: which nonces a state has seen, which
sessions are live in it, and which have been served. -/
structure Rules (step : σ → ε → Option σ) (meets : σ → ε → Prop) (sessions : Sessions ε τ κ)
    (used : σ → κ → Prop) (live served : σ → τ → Prop) : Prop where
  fresh : ∀ {s event s' t}, meets s event → step s event = some s' →
    sessions.begins event t → ¬ used s (sessions.nonce t)
  keeps : ∀ {s event s' n}, step s event = some s' → used s n → used s' n
  usesBegun : ∀ {s event s' t}, step s event = some s' → sessions.begins event t →
    used s' (sessions.nonce t)
  usesServed : ∀ {s event s' t}, step s event = some s' → sessions.serves event t →
    used s' (sessions.nonce t)
  lives : ∀ {s event s' t}, step s event = some s' → live s' t →
    live s t ∧ ¬ sessions.ends event t ∨ sessions.begins event t
  gets : ∀ {s event s' t}, step s event = some s' → served s' t →
    served s t ∨ sessions.serves event t
  closes : ∀ {s event s' t}, meets s event → step s event = some s' → sessions.ends event t →
    live s t ∧ served s t

/-- Every session that ends has a service of its own, between its beginning and its end. -/
def Agreement (sessions : Sessions ε τ κ) (events : List ε) : Prop :=
  ∃ service : ℕ → ℕ,
    (∀ k t, At events k (sessions.ends · t) →
      (∃ i < service k, At events i (sessions.begins · t)) ∧
        service k < k ∧ At events (service k) (sessions.serves · t)) ∧
    ∀ k k' t t', At events k (sessions.ends · t) → At events k' (sessions.ends · t') →
      service k = service k' → k = k'

/-- What a run preserves. -/
structure Kept (sessions : Sessions ε τ κ) (used : σ → κ → Prop) (live served : σ → τ → Prop)
    (events : List ε) (s : σ) : Prop where
  lives : ∀ t, live s t → ∃ i, At events i (sessions.begins · t)
  gets : ∀ t, served s t → ∃ j, At events j (sessions.serves · t)
  begun : ∀ i t, At events i (sessions.begins · t) → used s (sessions.nonce t)
  given : ∀ j t, At events j (sessions.serves · t) → used s (sessions.nonce t)
  /-- A nonce is begun with before it is served. -/
  order : ∀ i j t, At events i (sessions.begins · t) → At events j (sessions.serves · t) → i < j
  /-- No nonce is begun with twice. -/
  single : ∀ i i' t t', At events i (sessions.begins · t) → At events i' (sessions.begins · t') →
    sessions.nonce t = sessions.nonce t' → i = i'
  dead : ∀ k t, At events k (sessions.ends · t) → ¬ live s t
  once : ∀ k k' t, At events k (sessions.ends · t) → At events k' (sessions.ends · t) → k = k'
  ended : ∀ k t, At events k (sessions.ends · t) →
    (∃ i < k, At events i (sessions.begins · t)) ∧ ∃ j < k, At events j (sessions.serves · t)

section Rules

variable {step : σ → ε → Option σ} {meets : σ → ε → Prop} {sessions : Sessions ε τ κ}
  {used : σ → κ → Prop} {live served : σ → τ → Prop} {start s s' : σ}

theorem kept_start (hLive : ∀ t, ¬ live start t) (hServed : ∀ t, ¬ served start t) :
    Kept sessions used live served [] start where
  lives t hStart := absurd hStart (hLive t)
  gets t hStart := absurd hStart (hServed t)
  begun _ _ hAt := absurd hAt not_at_nil
  given _ _ hAt := absurd hAt not_at_nil
  order _ _ _ hAt := absurd hAt not_at_nil
  single _ _ _ _ hAt := absurd hAt not_at_nil
  dead _ _ hAt := absurd hAt not_at_nil
  once _ _ _ hAt := absurd hAt not_at_nil
  ended _ _ hAt := absurd hAt not_at_nil

/-- Every step keeps it. -/
theorem kept_step (hRules : Rules step meets sessions used live served)
    (hKept : Kept sessions used live served events s) (hMeets : meets s event)
    (hStep : step s event = some s') :
    Kept sessions used live served (events ++ [event]) s' := by
  -- a session that begins now is one of an unused nonce
  have hFresh : ∀ {t}, sessions.begins event t → ¬ used s (sessions.nonce t) :=
    fun hBegins => hRules.fresh hMeets hStep hBegins
  have hEnds : ∀ {t}, sessions.ends event t → live s t ∧ served s t :=
    fun hNow => hRules.closes hMeets hStep hNow
  constructor
  · intro t hLive
    rcases hRules.lives hStep hLive with ⟨hBefore, -⟩ | hBegins
    · obtain ⟨i, hAt⟩ := hKept.lives t hBefore
      exact ⟨i, at_concat_iff.mpr (.inl hAt)⟩
    · exact ⟨events.length, at_concat_iff.mpr (.inr ⟨rfl, hBegins⟩)⟩
  · intro t hServed
    rcases hRules.gets hStep hServed with hBefore | hServes
    · obtain ⟨j, hAt⟩ := hKept.gets t hBefore
      exact ⟨j, at_concat_iff.mpr (.inl hAt)⟩
    · exact ⟨events.length, at_concat_iff.mpr (.inr ⟨rfl, hServes⟩)⟩
  · intro i t hAt
    rcases at_concat_iff.mp hAt with hBefore | ⟨-, hBegins⟩
    · exact hRules.keeps hStep (hKept.begun i t hBefore)
    · exact hRules.usesBegun hStep hBegins
  · intro j t hAt
    rcases at_concat_iff.mp hAt with hBefore | ⟨-, hServes⟩
    · exact hRules.keeps hStep (hKept.given j t hBefore)
    · exact hRules.usesServed hStep hServes
  · intro i j t hBegun hGiven
    rcases at_concat_iff.mp hBegun with hBefore | ⟨rfl, hBegins⟩
    · rcases at_concat_iff.mp hGiven with hGivenBefore | ⟨rfl, -⟩
      · exact hKept.order i j t hBefore hGivenBefore
      · exact hBefore.lt_length
    · rcases at_concat_iff.mp hGiven with hGivenBefore | ⟨rfl, hServes⟩
      · exact absurd (hKept.given j t hGivenBefore) (hFresh hBegins)
      · exact absurd hServes (sessions.apart hBegins)
  · intro i i' t t' hBegun hBegun' hNonce
    rcases at_concat_iff.mp hBegun with hBefore | ⟨rfl, hBegins⟩ <;>
      rcases at_concat_iff.mp hBegun' with hBefore' | ⟨rfl, hBegins'⟩
    · exact hKept.single i i' t t' hBefore hBefore' hNonce
    · exact absurd (hNonce ▸ hKept.begun i t hBefore) (hFresh hBegins')
    · exact absurd (hNonce ▸ hKept.begun i' t' hBefore') (hFresh hBegins)
    · rfl
  · intro k t hAt hLive
    rcases hRules.lives hStep hLive with ⟨hBefore, hNot⟩ | hBegins
    · rcases at_concat_iff.mp hAt with hEnded | ⟨-, hNow⟩
      · exact hKept.dead k t hEnded hBefore
      · exact hNot hNow
    · rcases at_concat_iff.mp hAt with hEnded | ⟨-, hNow⟩
      · obtain ⟨⟨i, -, hBegun⟩, -⟩ := hKept.ended k t hEnded
        exact hFresh hBegins (hKept.begun i t hBegun)
      · obtain ⟨i, hBegun⟩ := hKept.lives t (hEnds hNow).1
        exact hFresh hBegins (hKept.begun i t hBegun)
  · intro k k' t hAt hAt'
    rcases at_concat_iff.mp hAt with hBefore | ⟨rfl, hNow⟩ <;>
      rcases at_concat_iff.mp hAt' with hBefore' | ⟨rfl, hNow'⟩
    · exact hKept.once k k' t hBefore hBefore'
    · exact absurd (hEnds hNow').1 (hKept.dead k t hBefore)
    · exact absurd (hEnds hNow).1 (hKept.dead k' t hBefore')
    · rfl
  · intro k t hAt
    rcases at_concat_iff.mp hAt with hBefore | ⟨rfl, hNow⟩
    · obtain ⟨⟨i, hi, hBegun⟩, j, hj, hGiven⟩ := hKept.ended k t hBefore
      exact ⟨⟨i, hi, at_concat_iff.mpr (.inl hBegun)⟩, j, hj, at_concat_iff.mpr (.inl hGiven)⟩
    · obtain ⟨hLive, hServed⟩ := hEnds hNow
      obtain ⟨i, hBegun⟩ := hKept.lives t hLive
      obtain ⟨j, hGiven⟩ := hKept.gets t hServed
      exact ⟨⟨i, hBegun.lt_length, at_concat_iff.mpr (.inl hBegun)⟩,
        j, hGiven.lt_length, at_concat_iff.mpr (.inl hGiven)⟩

/-- What is kept is enough for an agreement: two ends that share a service share a nonce, so
they end the one session that began with it. -/
theorem Kept.agreement (hKept : Kept sessions used live served events s) :
    Agreement sessions events := by
  classical
  have hServices : ∀ k, ∃ j, ∀ t, At events k (sessions.ends · t) →
      (∃ i < j, At events i (sessions.begins · t)) ∧ j < k ∧
        At events j (sessions.serves · t) := by
    intro k
    by_cases hEnds : ∃ t, At events k (sessions.ends · t)
    · obtain ⟨t, hAt⟩ := hEnds
      obtain ⟨⟨i, hi, hBegun⟩, j, hj, hGiven⟩ := hKept.ended k t hAt
      refine ⟨j, fun t' hAt' => ?_⟩
      obtain rfl : t = t' := by
        obtain ⟨event, hEvent, hNow⟩ := hAt
        obtain ⟨event', hEvent', hNow'⟩ := hAt'
        obtain rfl := Option.some.inj (hEvent.symm.trans hEvent')
        exact sessions.ends_one hNow hNow'
      exact ⟨⟨i, hKept.order i j t hBegun hGiven, hBegun⟩, hj, hGiven⟩
    · exact ⟨0, fun t hAt => absurd ⟨t, hAt⟩ hEnds⟩
  choose service hService using hServices
  refine ⟨service, hService, ?_⟩
  intro k k' t t' hAt hAt' hSame
  obtain ⟨⟨i, -, hBegun⟩, -, hGiven⟩ := hService k t hAt
  obtain ⟨⟨i', -, hBegun'⟩, -, hGiven'⟩ := hService k' t' hAt'
  obtain ⟨event, hEvent, hServes⟩ := hGiven
  obtain ⟨event', hEvent', hServes'⟩ := hGiven'
  rw [hSame] at hEvent
  obtain rfl := Option.some.inj (hEvent.symm.trans hEvent')
  obtain rfl := hKept.single i i' t t' hBegun hBegun' (sessions.serves_one hServes hServes')
  obtain ⟨begun, hFirst, hBegins⟩ := hBegun
  obtain ⟨begun', hFirst', hBegins'⟩ := hBegun'
  obtain rfl := Option.some.inj (hFirst.symm.trans hFirst')
  obtain rfl := sessions.begins_one hBegins hBegins'
  exact hKept.once k k' t hAt hAt'

/-- A machine that follows the rules comes to an agreement in every run. -/
theorem Rules.agreement (hRules : Rules step meets sessions used live served)
    (hLive : ∀ t, ¬ live start t) (hServed : ∀ t, ¬ served start t)
    (hRun : Run step meets start events s) : Agreement sessions events :=
  Kept.agreement (hRun.history (kept_start hLive hServed) fun _ _ _ _ hKept hMeets hStep =>
    kept_step hRules hKept hMeets hStep)

end Rules

/-- No more sessions end than there are services. -/
theorem Agreement.count_le {sessions : Sessions ε τ κ} (hAgreement : Agreement sessions events)
    {ending serving : ε → Bool}
    (hEnding : ∀ event, ending event = true → ∃ t, sessions.ends event t)
    (hServing : ∀ event t, sessions.serves event t → serving event = true) :
    events.countP ending ≤ events.countP serving := by
  obtain ⟨service, hService, hInjective⟩ := hAgreement
  have hAtEnd : ∀ k, (events[k]?.map ending) = some true →
      ∃ t, At events k (sessions.ends · t) := by
    intro k hk
    obtain ⟨event, hEvent, hEnds⟩ := Option.map_eq_some_iff.mp hk
    obtain ⟨t, hNow⟩ := hEnding event hEnds
    exact ⟨t, event, hEvent, hNow⟩
  rw [countP_eq_card, countP_eq_card]
  refine Finset.card_le_card_of_injOn service ?_ ?_
  · intro k hk
    obtain ⟨-, hEnds⟩ := Finset.mem_filter.mp hk
    obtain ⟨t, hAt⟩ := hAtEnd k hEnds
    obtain ⟨-, -, hServes⟩ := hService k t hAt
    obtain ⟨event, hEvent, hNow⟩ := hServes
    refine Finset.mem_filter.mpr ⟨Finset.mem_range.mpr (List.getElem?_eq_some_iff.mp hEvent).1, ?_⟩
    rw [hEvent, Option.map_some, hServing event t hNow]
  · intro k hk k' hk' hSame
    obtain ⟨t, hAt⟩ := hAtEnd k (Finset.mem_filter.mp hk).2
    obtain ⟨t', hAt'⟩ := hAtEnd k' (Finset.mem_filter.mp hk').2
    exact hInjective k k' t t' hAt hAt' hSame

end Correspondence
end Lib
