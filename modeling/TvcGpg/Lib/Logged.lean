import Mathlib.Data.List.Infix

/-!
# Programs that keep a log

A program in `EStateM ε (List α)` notes down what it asks for as it goes, and what it has
noted stays where it stops with an error.  `Adds program entries` says that whatever comes
of a run, it adds to the log entries out of `entries` only, each at most as often as it
stands there and in the same order.  One rule for each construct of the program gives the
log of a whole run.

`resultOf` forgets the log.  It turns a program step by step into one in `Except`
(`resultOf_bind`), so that a program with a log can be compared with the same program
without one.
-/

namespace Lib
namespace Logged

variable {ε α β γ : Type}

/-- The log that a run ends with. -/
def logOf : EStateM.Result ε (List α) β → List α
  | .ok _ log => log
  | .error _ log => log

@[simp]
theorem logOf_ok (value : β) (log : List α) :
    logOf (.ok value log : EStateM.Result ε (List α) β) = log := rfl

@[simp]
theorem logOf_error (error : ε) (log : List α) :
    logOf (.error error log : EStateM.Result ε (List α) β) = log := rfl

/-- What a run ends with, without its log. -/
def resultOf : EStateM.Result ε (List α) β → Except ε β
  | .ok value _ => .ok value
  | .error error _ => .error error

/-- Note an entry down, whatever comes of the step. -/
def note (entry : α) (result : Except ε β) : EStateM ε (List α) β := fun log =>
  match result with
  | .ok value => .ok value (log ++ [entry])
  | .error error => .error error (log ++ [entry])

/-! ## Steps of a run -/

section Steps

variable {program : EStateM ε (List α) β} {rest : β → EStateM ε (List α) γ}
  {log mid after : List α}

theorem bind_of_ok {value : β} (hFirst : program log = .ok value mid) :
    (program >>= rest) log = rest value mid := by
  simp only [bind, EStateM.bind, hFirst]

theorem bind_of_error {error : ε} (hFirst : program log = .error error mid) :
    (program >>= rest) log = .error error mid := by
  simp only [bind, EStateM.bind, hFirst]

/-- A program of two steps ends with a value when both steps do. -/
theorem bind_eq_ok_iff {value : γ} :
    (program >>= rest) log = .ok value after ↔
      ∃ first mid, program log = .ok first mid ∧ rest first mid = .ok value after := by
  cases hFirst : program log with
  | ok first mid =>
      rw [bind_of_ok hFirst]
      constructor
      · intro hRest
        exact ⟨first, mid, rfl, hRest⟩
      · rintro ⟨_, _, hSame, hRest⟩
        cases hSame
        exact hRest
  | error error mid =>
      rw [bind_of_error hFirst]
      constructor
      · intro hNone
        cases hNone
      · rintro ⟨_, _, hNone, -⟩
        cases hNone

/-- A step that asks for nothing succeeds with its value and leaves the log alone. -/
theorem liftExcept_eq_ok_iff {result : Except ε β} {value : β} :
    (liftExcept result : EStateM ε (List α) β) log = .ok value after ↔
      result = .ok value ∧ after = log := by
  cases result with
  | ok found =>
      show EStateM.Result.ok found log = .ok value after ↔ _
      rw [EStateM.Result.ok.injEq, Except.ok.injEq, eq_comm (a := log)]
  | error error =>
      show EStateM.Result.error error log = .ok value after ↔ _
      simp

/-- Without the log, a program of two steps is the two steps without their logs. -/
theorem resultOf_bind : resultOf ((program >>= rest) log) =
    resultOf (program log) >>= fun value => resultOf (rest value (logOf (program log))) := by
  cases hFirst : program log with
  | ok value mid =>
      rw [bind_of_ok hFirst]
      rfl
  | error error mid =>
      rw [bind_of_error hFirst]
      rfl

theorem liftExcept_ok_bind (value : β) :
    ((liftExcept (.ok value : Except ε β) : EStateM ε (List α) β) >>= rest) log =
      rest value log := rfl

theorem liftExcept_error_bind (error : ε) :
    ((liftExcept (.error error : Except ε β) : EStateM ε (List α) β) >>= rest) log =
      .error error log := rfl

theorem note_ok_bind (entry : α) (value : β) :
    (note entry (.ok value : Except ε β) >>= rest) log = rest value (log ++ [entry]) := rfl

theorem note_error_bind (entry : α) (error : ε) :
    (note entry (.error error : Except ε β) >>= rest) log = .error error (log ++ [entry]) := rfl

theorem resultOf_liftExcept (result : Except ε β) (log : List α) :
    resultOf ((liftExcept result : EStateM ε (List α) β) log) = result := by
  cases result with
  | ok value => rfl
  | error error => rfl

theorem resultOf_note (entry : α) (result : Except ε β) (log : List α) :
    resultOf (note entry result log) = result := by
  cases result with
  | ok value => rfl
  | error error => rfl

end Steps

/-! ## What a program adds to its log -/

/-- Whatever comes of a run, it adds to the log a part of `entries`, in their order. -/
def Adds (program : EStateM ε (List α) β) (entries : List α) : Prop :=
  ∀ log, ∃ part, part.Sublist entries ∧ logOf (program log) = log ++ part

theorem adds_liftExcept (result : Except ε β) :
    Adds (liftExcept result : EStateM ε (List α) β) [] := by
  intro log
  refine ⟨[], List.Sublist.refl _, ?_⟩
  cases result with
  | ok value => exact (List.append_nil log).symm
  | error error => exact (List.append_nil log).symm

/-- One program after the other. -/
theorem Adds.bind {program : EStateM ε (List α) β} {rest : β → EStateM ε (List α) γ}
    {front back : List α} (hProgram : Adds program front)
    (hRest : ∀ value, Adds (rest value) back) : Adds (program >>= rest) (front ++ back) := by
  intro log
  obtain ⟨first, hFirst, hLog⟩ := hProgram log
  cases hRun : program log with
  | error error mid =>
      rw [hRun, logOf_error] at hLog
      refine ⟨first, hFirst.trans (List.sublist_append_left front back), ?_⟩
      rw [bind_of_error hRun, logOf_error, hLog]
  | ok value mid =>
      rw [hRun, logOf_ok] at hLog
      obtain ⟨second, hSecond, hAfter⟩ := hRest value mid
      refine ⟨first ++ second, hFirst.append hSecond, ?_⟩
      rw [bind_of_ok hRun, hAfter, hLog, List.append_assoc]

/-- A program that asks for nothing, behind another. -/
theorem Adds.bind_nil {program : EStateM ε (List α) β} {rest : β → EStateM ε (List α) γ}
    {entries : List α} (hProgram : Adds program entries)
    (hRest : ∀ value, Adds (rest value) []) : Adds (program >>= rest) entries := by
  have hBoth := hProgram.bind hRest
  rwa [List.append_nil] at hBoth

end Logged
end Lib
