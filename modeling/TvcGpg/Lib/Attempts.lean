import Mathlib.Data.List.Basic

/-!
# Attempts in turn

A search asks for one candidate after the other until one is not turned down.  What
comes of a candidate, `none` where it is turned down, may depend on what was asked
before.  `search` returns what the search ended with and everything it asked for.

The first candidate that is not turned down decides (`search_eq_some_iff`,
`search_eq_none_iff`), and the search asks for that one and for those in front of
it, each once and in their order.
-/

namespace Lib
namespace Attempts

variable {α β : Type*}

/-- Ask for the candidates in turn, until one is not turned down. -/
def search (answer : List α → α → Option β) (asked : List α) : List α → Option β × List α
  | [] => (none, asked)
  | candidate :: rest =>
      match answer asked candidate with
      | some result => (some result, asked ++ [candidate])
      | none => search answer (asked ++ [candidate]) rest

/-- Every one of the candidates is turned down when they are asked for in turn. -/
def RejectsAll (answer : List α → α → Option β) (asked : List α) : List α → Prop
  | [] => True
  | candidate :: rest =>
      answer asked candidate = none ∧ RejectsAll answer (asked ++ [candidate]) rest

variable {answer : List α → α → Option β} {asked : List α}

/-- A search passes over the candidates that are turned down. -/
theorem search_append {front : List α} (hFront : RejectsAll answer asked front) (rest : List α) :
    search answer asked (front ++ rest) = search answer (asked ++ front) rest := by
  induction front generalizing asked with
  | nil => rw [List.nil_append, List.append_nil]
  | cons candidate front ih =>
      obtain ⟨hReject, hFront⟩ := hFront
      rw [List.cons_append, search, hReject]
      dsimp only
      rw [ih hFront, List.append_assoc, List.singleton_append]

/-- It stops at the one behind them. -/
theorem search_of_first {front : List α} (hFront : RejectsAll answer asked front)
    {candidate : α} {result : β} (hAnswer : answer (asked ++ front) candidate = some result)
    (back : List α) :
    search answer asked (front ++ candidate :: back) =
      (some result, asked ++ front ++ [candidate]) := by
  rw [search_append hFront, search, hAnswer]

theorem search_of_rejectsAll {candidates : List α} (hAll : RejectsAll answer asked candidates) :
    search answer asked candidates = (none, asked ++ candidates) := by
  have hEnd := search_append hAll []
  rwa [List.append_nil] at hEnd

/-- Either all candidates are turned down, or there is a first one that is not. -/
theorem rejectsAll_or_first (answer : List α → α → Option β) (asked candidates : List α) :
    RejectsAll answer asked candidates ∨
      ∃ front candidate back result, candidates = front ++ candidate :: back ∧
        RejectsAll answer asked front ∧ answer (asked ++ front) candidate = some result := by
  induction candidates generalizing asked with
  | nil => exact Or.inl trivial
  | cons first rest ih =>
      cases hFirst : answer asked first with
      | some result =>
          exact Or.inr ⟨[], first, rest, result, rfl, trivial, by rwa [List.append_nil]⟩
      | none =>
          rcases ih (asked ++ [first]) with
            hRest | ⟨front, candidate, back, result, rfl, hFront, hAnswer⟩
          · exact Or.inl ⟨hFirst, hRest⟩
          · refine Or.inr ⟨first :: front, candidate, back, result, rfl, ⟨hFirst, hFront⟩, ?_⟩
            rwa [List.append_assoc, List.singleton_append] at hAnswer

/-- A search comes to nothing when every candidate is turned down, and has then asked for
all of them. -/
theorem search_eq_none_iff {candidates after : List α} :
    search answer asked candidates = (none, after) ↔
      RejectsAll answer asked candidates ∧ after = asked ++ candidates := by
  constructor
  · intro hSearch
    rcases rejectsAll_or_first answer asked candidates with
      hAll | ⟨front, candidate, back, result, rfl, hFront, hAnswer⟩
    · rw [search_of_rejectsAll hAll] at hSearch
      exact ⟨hAll, (Prod.mk.inj hSearch).2.symm⟩
    · rw [search_of_first hFront hAnswer] at hSearch
      cases (Prod.mk.inj hSearch).1
  · rintro ⟨hAll, rfl⟩
    exact search_of_rejectsAll hAll

/-- A search ends with what comes of the first candidate that is not turned down. -/
theorem search_eq_some_iff {candidates after : List α} {result : β} :
    search answer asked candidates = (some result, after) ↔
      ∃ front candidate back, candidates = front ++ candidate :: back ∧
        RejectsAll answer asked front ∧ answer (asked ++ front) candidate = some result ∧
          after = asked ++ front ++ [candidate] := by
  constructor
  · intro hSearch
    rcases rejectsAll_or_first answer asked candidates with
      hAll | ⟨front, candidate, back, found, rfl, hFront, hAnswer⟩
    · rw [search_of_rejectsAll hAll] at hSearch
      cases (Prod.mk.inj hSearch).1
    · rw [search_of_first hFront hAnswer] at hSearch
      obtain ⟨hFound, rfl⟩ := Prod.mk.inj hSearch
      obtain rfl := Option.some.inj hFound
      exact ⟨front, candidate, back, rfl, hFront, hAnswer, rfl⟩
  · rintro ⟨front, candidate, back, rfl, hFront, hAnswer, rfl⟩
    exact search_of_first hFront hAnswer back

/-- A search asks for candidates from the front of the list, in their order. -/
theorem exists_asked (answer : List α → α → Option β) (asked candidates : List α) :
    ∃ front, front <+: candidates ∧ (search answer asked candidates).2 = asked ++ front := by
  rcases rejectsAll_or_first answer asked candidates with
    hAll | ⟨front, candidate, back, result, rfl, hFront, hAnswer⟩
  · rw [search_of_rejectsAll hAll]
    exact ⟨candidates, List.prefix_rfl, rfl⟩
  · rw [search_of_first hFront hAnswer]
    exact ⟨front ++ [candidate], ⟨back, List.append_cons _ _ _ |>.symm⟩, List.append_assoc _ _ _⟩

/-! ## Numbered candidates -/

section Numbered

variable {attempt : Nat → α} {count : Nat}

theorem rejectsAll_concat_iff {front : List α} {candidate : α} :
    RejectsAll answer asked (front ++ [candidate]) ↔
      RejectsAll answer asked front ∧ answer (asked ++ front) candidate = none := by
  induction front generalizing asked with
  | nil => simp [RejectsAll]
  | cons first front ih =>
      rw [List.cons_append, RejectsAll, RejectsAll, ih, List.append_assoc, List.singleton_append,
        and_assoc]

/-- The attempts with the numbers below `count`. -/
theorem rejectsAll_range_iff :
    RejectsAll answer asked ((List.range count).map attempt) ↔
      ∀ n < count, answer (asked ++ (List.range n).map attempt) (attempt n) = none := by
  induction count with
  | zero => simp [RejectsAll]
  | succ count ih =>
      rw [List.range_succ, List.map_append, List.map_singleton, rejectsAll_concat_iff, ih]
      constructor
      · rintro ⟨hEarlier, hLast⟩ n hn
        rcases Nat.lt_succ_iff_lt_or_eq.mp hn with hLess | rfl
        · exact hEarlier n hLess
        · exact hLast
      · intro hAll
        exact ⟨fun n hn => hAll n (Nat.lt_succ_of_lt hn), hAll count (Nat.lt_succ_self count)⟩

/-- Where a candidate stands decides its number and what is in front of it. -/
theorem map_range_eq_append_cons {front back : List α} {candidate : α}
    (hSplit : (List.range count).map attempt = front ++ candidate :: back) :
    front.length < count ∧ front = (List.range front.length).map attempt ∧
      candidate = attempt front.length := by
  have hLength : front.length < count := by
    have hLengths := congrArg List.length hSplit
    rw [List.length_map, List.length_range, List.length_append, List.length_cons] at hLengths
    omega
  refine ⟨hLength, ?_, ?_⟩
  · have hTake := congrArg (List.take front.length) hSplit
    rw [List.take_left, ← List.map_take, List.take_range,
      Nat.min_eq_left (Nat.le_of_lt hLength)] at hTake
    exact hTake.symm
  · have hGet := congrArg (fun list => list[front.length]?) hSplit
    simpa [hLength] using hGet.symm

/-- A search through numbered attempts ends with the first one that is not turned down. -/
theorem search_range_eq_some_iff {after : List α} {result : β} :
    search answer asked ((List.range count).map attempt) = (some result, after) ↔
      ∃ n < count,
        (∀ m < n, answer (asked ++ (List.range m).map attempt) (attempt m) = none) ∧
          answer (asked ++ (List.range n).map attempt) (attempt n) = some result ∧
            after = asked ++ (List.range (n + 1)).map attempt := by
  rw [search_eq_some_iff]
  constructor
  · rintro ⟨front, candidate, back, hSplit, hFront, hAnswer, rfl⟩
    obtain ⟨hLength, hNumbered, rfl⟩ := map_range_eq_append_cons hSplit
    rw [hNumbered, rejectsAll_range_iff] at hFront
    rw [hNumbered] at hAnswer
    refine ⟨front.length, hLength, ?_, ?_, ?_⟩
    · simpa using hFront
    · simpa using hAnswer
    · rw [List.range_succ, List.map_append, List.map_singleton, ← hNumbered, List.append_assoc]
  · rintro ⟨n, hn, hEarlier, hAnswer, rfl⟩
    obtain ⟨more, rfl⟩ : ∃ more, count = n + (more + 1) := ⟨count - n - 1, by omega⟩
    have hNumbers : List.range (n + (more + 1)) =
        List.range n ++ n :: List.range' (n + 1) more := by
      rw [List.range_eq_range', List.range_eq_range', ← List.range'_succ, ← List.range'_append_1,
        Nat.zero_add]
    refine ⟨(List.range n).map attempt, attempt n, (List.range' (n + 1) more).map attempt, ?_,
      rejectsAll_range_iff.mpr hEarlier, hAnswer, ?_⟩
    · rw [hNumbers, List.map_append, List.map_cons]
    · rw [List.range_succ, List.map_append, List.map_singleton, List.append_assoc]

end Numbered

end Attempts
end Lib
