import Mathlib.Data.List.Basic

/-!
# Programs that stop at the first error

A function that returns early on error is a chain of steps in `Except`.  Three
steps occur in such chains: a call whose missing result becomes an error
(`okOr`), a condition whose failure is an error (`require`), and the rest of the
chain (`>>=`).  The lemmas here say when each of them succeeds and when it
fails, so that a proof takes a chain apart without unfolding it.  `OnlyFailsWith`
is for the stretch of a chain that hides which of its steps has failed, and `Alike`
for two chains that go the same way over different values.
-/

namespace Lib
namespace Fallible

universe u v

variable {ε : Type u} {α β : Type v}

/-- The value, or the given error when there is none. -/
def okOr (value : Option α) (error : ε) : Except ε α :=
  match value with
  | some a => .ok a
  | none => .error error

/-- Go on when the condition holds, and stop with the given error otherwise. -/
def require (condition : Prop) [Decidable condition] (error : ε) : Except ε Unit :=
  if condition then .ok () else .error error

@[simp]
theorem okOr_some (a : α) (error : ε) : okOr (some a) error = .ok a := rfl

@[simp]
theorem okOr_none (error : ε) : okOr (none : Option α) error = .error error := rfl

@[simp]
theorem okOr_eq_ok_iff {value : Option α} {error : ε} {a : α} :
    okOr value error = .ok a ↔ value = some a := by
  cases value with
  | none => simp
  | some b => simp

@[simp]
theorem okOr_eq_error_iff {value : Option α} {error error' : ε} :
    okOr value error = .error error' ↔ value = none ∧ error = error' := by
  cases value with
  | none => simp
  | some b => simp

/-- Another error makes no difference to a result. -/
theorem mapError_eq_ok_iff {ε' : Type*} {f : ε → ε'} {x : Except ε α} {a : α} :
    x.mapError f = .ok a ↔ x = .ok a := by
  cases x with
  | ok found => simp [Except.mapError]
  | error error => simp [Except.mapError]

@[simp]
theorem require_eq_ok_iff {condition : Prop} [Decidable condition] {error : ε} {u : Unit} :
    require condition error = .ok u ↔ condition := by
  by_cases hCondition : condition
  · simp [require, hCondition]
  · simp [require, hCondition]

@[simp]
theorem require_eq_error_iff {condition : Prop} [Decidable condition] {error error' : ε} :
    require condition error = .error error' ↔ ¬ condition ∧ error = error' := by
  by_cases hCondition : condition
  · simp [require, hCondition]
  · simp [require, hCondition]

/-- A required condition that holds leaves no trace in the chain. -/
theorem require_of {condition : Prop} [Decidable condition] (error : ε)
    (hCondition : condition) : require condition error = .ok () :=
  if_pos hCondition

theorem require_of_not {condition : Prop} [Decidable condition] (error : ε)
    (hCondition : ¬ condition) : require condition error = .error error :=
  if_neg hCondition

@[simp]
theorem ok_bind (a : α) (rest : α → Except ε β) : (Except.ok a >>= rest) = rest a := rfl

@[simp]
theorem error_bind (error : ε) (rest : α → Except ε β) :
    (Except.error error >>= rest) = .error error := rfl

/-- A chain succeeds exactly when its first step does and the rest does too. -/
theorem bind_eq_ok_iff {step : Except ε α} {rest : α → Except ε β} {b : β} :
    (step >>= rest) = .ok b ↔ ∃ a, step = .ok a ∧ rest a = .ok b := by
  cases step with
  | error e => simp
  | ok a => simp

/-- A chain fails in its first step or in the rest after it. -/
theorem bind_eq_error_iff {step : Except ε α} {rest : α → Except ε β} {error : ε} :
    (step >>= rest) = .error error ↔
      step = .error error ∨ ∃ a, step = .ok a ∧ rest a = .error error := by
  cases step with
  | error e => simp
  | ok a => simp

/-- A loop that stops at the first error succeeds when every round does. -/
theorem forM_eq_ok_iff {step : α → Except ε PUnit} {list : List α} :
    list.forM step = .ok ⟨⟩ ↔ ∀ a ∈ list, step a = .ok ⟨⟩ := by
  induction list with
  | nil => simp [pure, Except.pure]
  | cons a list ih =>
      show (step a >>= fun _ => list.forM step) = .ok ⟨⟩ ↔ _
      rw [bind_eq_ok_iff, List.forall_mem_cons, ← ih]
      constructor
      · rintro ⟨⟨⟩, hFirst, hRest⟩
        exact ⟨hFirst, hRest⟩
      · rintro ⟨hFirst, hRest⟩
        exact ⟨⟨⟩, hFirst, hRest⟩

/-! ## Chains with a single error -/

/-- Whatever fails here fails with one and the same error. -/
def OnlyFailsWith (step : Except ε α) (only : ε) : Prop :=
  ∀ error, step = .error error → error = only

theorem onlyFailsWith_ok (a : α) (only : ε) : OnlyFailsWith (.ok a) only :=
  fun _ hError => by cases hError

theorem onlyFailsWith_error (only : ε) : OnlyFailsWith (.error only : Except ε α) only :=
  fun _ hError => by cases hError; rfl

theorem onlyFailsWith_okOr (value : Option α) (only : ε) : OnlyFailsWith (okOr value only) only :=
  fun _ hError => (okOr_eq_error_iff.mp hError).2.symm

theorem onlyFailsWith_require (condition : Prop) [Decidable condition] (only : ε) :
    OnlyFailsWith (require condition only) only :=
  fun _ hError => (require_eq_error_iff.mp hError).2.symm

/-- A chain has a single error when each of its steps has it. -/
theorem OnlyFailsWith.bind {step : Except ε α} {rest : α → Except ε β} {only : ε}
    (hStep : OnlyFailsWith step only) (hRest : ∀ a, OnlyFailsWith (rest a) only) :
    OnlyFailsWith (step >>= rest) only := by
  intro error hError
  rcases bind_eq_error_iff.mp hError with hFirst | ⟨a, -, hLater⟩
  · exact hStep error hFirst
  · exact hRest a error hLater

/-- So has a loop, when each of its rounds has it. -/
theorem onlyFailsWith_foldlM {step : β → α → Except ε β} {only : ε}
    (hStep : ∀ b a, OnlyFailsWith (step b a) only) {b : β} {list : List α} :
    OnlyFailsWith (list.foldlM step b) only := by
  induction list generalizing b with
  | nil => exact onlyFailsWith_ok b only
  | cons a list ih =>
      rw [List.foldlM_cons]
      exact (hStep b a).bind fun b' => ih

/-- What does not succeed fails with the single error. -/
theorem OnlyFailsWith.eq_error {step : Except ε α} {only : ε} (hOnly : OnlyFailsWith step only)
    (hNot : ∀ a, step ≠ .ok a) : step = .error only := by
  cases step with
  | ok a => exact absurd rfl (hNot a)
  | error e => rw [hOnly e rfl]

/-! ## Two chains side by side -/

/-- Two chains that fail alike, and whose results are related when they do not fail. -/
inductive Alike (related : α → β → Prop) : Except ε α → Except ε β → Prop
  | error (error : ε) : Alike related (.error error) (.error error)
  | ok {a : α} {b : β} (hRelated : related a b) : Alike related (.ok a) (.ok b)

section Alike

variable {γ δ : Type v}

/-- Two chains are alike when their first steps and their rests are. -/
theorem Alike.bind {related : α → β → Prop} {related' : γ → δ → Prop} {step : Except ε α}
    {step' : Except ε β} {rest : α → Except ε γ} {rest' : β → Except ε δ}
    (hStep : Alike related step step')
    (hRest : ∀ a b, related a b → Alike related' (rest a) (rest' b)) :
    Alike related' (step >>= rest) (step' >>= rest') := by
  cases hStep with
  | error error => exact .error error
  | ok hRelated => exact hRest _ _ hRelated

/-- A step that both chains make. -/
theorem alike_bind {related' : γ → δ → Prop} (step : Except ε α) {rest : α → Except ε γ}
    {rest' : α → Except ε δ} (hRest : ∀ a, Alike related' (rest a) (rest' a)) :
    Alike related' (step >>= rest) (step >>= rest') := by
  cases step with
  | error error => exact .error error
  | ok a => exact hRest a

end Alike

end Fallible
end Lib
