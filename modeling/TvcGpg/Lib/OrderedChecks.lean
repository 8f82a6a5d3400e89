import Mathlib.Order.WellFounded

/-!
# Ordered checks

A gate makes a sequence of checks and reports the first one that fails.  The
checks are the elements of a well ordered type; `FirstFailure` is the least
check that does not hold, and `Follows` says of an outcome that it accepts when
every check holds and otherwise gives the reason of the first failure.

Since exactly one of the two cases applies, the two implications of `Follows`
already determine the outcome: `Follows.ok_iff` and `Follows.error_iff`.
-/

namespace Lib
namespace OrderedChecks

variable {C R A : Type*} [LinearOrder C] {holds : C → Prop}

/-- The first check that fails. -/
def FirstFailure (holds : C → Prop) (c : C) : Prop :=
  ¬ holds c ∧ ∀ earlier < c, holds earlier

/-- Every check up to and including `c` holds. -/
def PassesThrough (holds : C → Prop) (c : C) : Prop :=
  ∀ earlier ≤ c, holds earlier

/-- When some check fails, one of them fails first. -/
theorem exists_firstFailure [WellFoundedLT C] (hFails : ∃ c, ¬ holds c) :
    ∃ c, FirstFailure holds c := by
  obtain ⟨c, hc, hLeast⟩ :=
    (@wellFounded_lt C _ _).has_min { c | ¬ holds c } hFails
  refine ⟨c, hc, fun earlier hEarlier => ?_⟩
  by_contra hNot
  exact hLeast earlier hNot hEarlier

/-- Only one check fails first. -/
theorem FirstFailure.unique {c d : C} (hc : FirstFailure holds c) (hd : FirstFailure holds d) :
    c = d := by
  rcases lt_trichotomy c d with hlt | heq | hgt
  · exact absurd (hd.2 c hlt) hc.1
  · exact heq
  · exact absurd (hc.2 d hgt) hd.1

/-- A request that does not pass through `c` fails first at `c` or before it. -/
theorem exists_firstFailure_le [WellFoundedLT C] {c : C} (hNot : ¬ PassesThrough holds c) :
    ∃ d ≤ c, FirstFailure holds d := by
  unfold PassesThrough at hNot
  push Not at hNot
  obtain ⟨earlier, hEarlier, hFails⟩ := hNot
  obtain ⟨d, hd⟩ := exists_firstFailure ⟨earlier, hFails⟩
  refine ⟨d, le_of_not_gt fun hLater => ?_, hd⟩
  exact hFails (hd.2 earlier (lt_of_le_of_lt hEarlier hLater))

/-- The outcome accepts when every check holds, and otherwise is the reason of
the first check that fails. -/
structure Follows (holds : C → Prop) (reason : C → R) (outcome : Except R A) : Prop where
  accepts : (∀ c, holds c) → ∃ a, outcome = .ok a
  rejects : ∀ c, FirstFailure holds c → outcome = .error (reason c)

namespace Follows

variable [WellFoundedLT C] {reason : C → R} {outcome : Except R A}

theorem ok_iff (hFollows : Follows holds reason outcome) :
    (∃ a, outcome = .ok a) ↔ ∀ c, holds c := by
  constructor
  · intro hOk
    rcases hOk with ⟨a, hOk⟩
    by_contra hNot
    push Not at hNot
    obtain ⟨c, hc⟩ := exists_firstFailure hNot
    rw [hFollows.rejects c hc] at hOk
    cases hOk
  · exact hFollows.accepts

theorem error_iff (hFollows : Follows holds reason outcome) {r : R} :
    outcome = .error r ↔ ∃ c, FirstFailure holds c ∧ reason c = r := by
  constructor
  · intro hError
    by_cases hAll : ∀ c, holds c
    · obtain ⟨a, hOk⟩ := hFollows.accepts hAll
      rw [hOk] at hError
      cases hError
    · push Not at hAll
      obtain ⟨c, hc⟩ := exists_firstFailure hAll
      rw [hFollows.rejects c hc] at hError
      exact ⟨c, hc, by simpa using hError⟩
  · intro hFirst
    rcases hFirst with ⟨c, hc, rfl⟩
    exact hFollows.rejects c hc

end Follows

end OrderedChecks
end Lib
