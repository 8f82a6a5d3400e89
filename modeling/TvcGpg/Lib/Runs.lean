import Mathlib.Data.List.Basic

/-!
# Runs of a machine

A machine is a step function: what an event makes of a state, or `none` where the
event cannot happen.  `Run step meets start events state` says that the events
lead from `start` to `state` and that each of them met a condition on the state
it happened in.  What every such step preserves holds in every state a run
reaches (`Run.invariant`), and a machine that can follow every step can follow the run
(`Run.simulation`).  `Reaches` says that some run leads from a state to a goal.
`execute` plays a list of events, so that a concrete run is an evaluation
(`run_of_execute`).
-/

namespace Lib
namespace Runs

variable {σ ε : Type*} {step : σ → ε → Option σ} {meets : σ → ε → Prop} {start : σ}

/-- The events lead from `start` to a state, and each of them meets the condition. -/
inductive Run (step : σ → ε → Option σ) (meets : σ → ε → Prop) (start : σ) :
    List ε → σ → Prop
  | nil : Run step meets start [] start
  | snoc {events : List ε} {s s' : σ} {event : ε} (earlier : Run step meets start events s)
      (met : meets s event) (last : step s event = some s') :
      Run step meets start (events ++ [event]) s'

/-- The condition that every step meets. -/
def Any (_ : σ) (_ : ε) : Prop := True

instance (s : σ) (event : ε) : Decidable (Any s event) := inferInstanceAs (Decidable True)

/-- What holds at the start and is preserved by every step holds of every run, also when it
speaks about the events so far. -/
theorem Run.history {Inv : List ε → σ → Prop} {events : List ε} {s : σ}
    (hRun : Run step meets start events s) (hStart : Inv [] start)
    (hStep : ∀ events s event s', Inv events s → meets s event → step s event = some s' →
      Inv (events ++ [event]) s') : Inv events s := by
  induction hRun with
  | nil => exact hStart
  | snoc earlier met last ih => exact hStep _ _ _ _ ih met last

/-- What holds at the start and is preserved by every step holds in every state reached. -/
theorem Run.invariant {Inv : σ → Prop} {events : List ε} {s : σ}
    (hRun : Run step meets start events s) (hStart : Inv start)
    (hStep : ∀ s event s', Inv s → meets s event → step s event = some s' → Inv s') :
    Inv s := by
  induction hRun with
  | nil => exact hStart
  | snoc earlier met last ih => exact hStep _ _ _ ih met last

/-- A run goes on where another one ends. -/
theorem Run.append {events events' : List ε} {s s' : σ}
    (hRun : Run step meets start events s) (hRun' : Run step meets s events' s') :
    Run step meets start (events ++ events') s' := by
  induction hRun' with
  | nil => rwa [List.append_nil]
  | snoc earlier met last ih =>
      rw [← List.append_assoc]
      exact .snoc ih met last

/-- A machine whose every step another machine can follow, by an event of its own and to a
related state, is followed along a whole run. -/
theorem Run.simulation {σ' ε' : Type*} {step' : σ' → ε' → Option σ'} {start' : σ'}
    {related : σ → σ' → Prop} {eventOf : ε → ε'} {events : List ε} {s : σ}
    (hRun : Run step meets start events s) (hStart : related start start')
    (hStep : ∀ s t event s', related s t → step s event = some s' →
      ∃ t', step' t (eventOf event) = some t' ∧ related s' t') :
    ∃ t, Run step' Any start' (events.map eventOf) t ∧ related s t := by
  induction hRun with
  | nil => exact ⟨start', .nil, hStart⟩
  | snoc earlier met last ih =>
      obtain ⟨t, hRun', hRelated⟩ := ih
      obtain ⟨t', hStep', hRelated'⟩ := hStep _ t _ _ hRelated last
      rw [List.map_append]
      exact ⟨t', .snoc hRun' trivial hStep', hRelated'⟩

/-- Some run from the state leads to the goal. -/
def Reaches (step : σ → ε → Option σ) (meets : σ → ε → Prop) (goal : σ → Prop) (s : σ) : Prop :=
  ∃ events s', Run step meets s events s' ∧ goal s'

theorem reaches_of_goal {goal : σ → Prop} {s : σ} (hGoal : goal s) : Reaches step meets goal s :=
  ⟨[], s, .nil, hGoal⟩

/-- What can be reached behind a step can be reached in front of it. -/
theorem reaches_of_step {goal : σ → Prop} {s s' : σ} {event : ε} (hMeets : meets s event)
    (hStep : step s event = some s') (hLater : Reaches step meets goal s') :
    Reaches step meets goal s := by
  obtain ⟨events, s'', hRun, hGoal⟩ := hLater
  have hFirst : Run step meets s ([] ++ [event]) s' := .snoc .nil hMeets hStep
  exact ⟨_, s'', hFirst.append hRun, hGoal⟩

/-- A run goes on to what its last state reaches. -/
theorem Run.reaches {goal : σ → Prop} {events : List ε} {s : σ}
    (hRun : Run step meets start events s) (hReaches : Reaches step meets goal s) :
    ∃ more s', Run step meets start (events ++ more) s' ∧ goal s' := by
  obtain ⟨more, s', hMore, hGoal⟩ := hReaches
  exact ⟨more, s', hRun.append hMore, hGoal⟩

/-- Play the events one after the other, as long as they meet the condition. -/
def execute (step : σ → ε → Option σ) (meets : σ → ε → Prop)
    [∀ s event, Decidable (meets s event)] : σ → List ε → Option σ
  | s, [] => some s
  | s, event :: events =>
      if meets s event then (step s event).bind fun s' => execute step meets s' events else none

/-- Events that can be played make a run. -/
theorem run_of_execute [∀ s event, Decidable (meets s event)] {events : List ε} {s : σ}
    (hPlayed : execute step meets start events = some s) : Run step meets start events s := by
  induction events generalizing start with
  | nil =>
      obtain rfl := Option.some.inj hPlayed
      exact .nil
  | cons event events ih =>
      rw [execute] at hPlayed
      split at hPlayed
      · rename_i hMeets
        obtain ⟨next, hNext, hRest⟩ := Option.bind_eq_some_iff.mp hPlayed
        have hFirst : Run step meets start ([] ++ [event]) next := .snoc .nil hMeets hNext
        exact hFirst.append (ih hRest)
      · cases hPlayed

end Runs
end Lib
