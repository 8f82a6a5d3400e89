import Mathlib.Data.List.Induction
import Mathlib.Data.List.Pairwise
import Mathlib.Data.List.Sort
import Mathlib.Order.Lattice

/-!
# Scans over lists

The loops a systems program runs over a sequence, as functions on lists:

* `splitOn` cuts a sequence at every occurrence of a separator, left to right
  and without overlap;
* `maxByKey` keeps the last of the elements whose key is greatest;
* `keepFirst` is one round of a loop that keeps the first element of each key,
  and `firstsBy` is what the whole loop keeps.

Lists that are put together from the same parts in the same order are compared at the end.
-/

namespace Lib
namespace Scans

/-! ## Cutting at a separator -/

/-- The scan behind `splitOn`: `skip` elements of a separator are still to be
passed over, and `piece` is the reverse of the piece read so far. -/
def splitOnFrom {α : Type*} [DecidableEq α] (separator : List α) :
    Nat → List α → List α → List (List α)
  | _, piece, [] => [piece.reverse]
  | skip + 1, piece, _ :: rest => splitOnFrom separator skip piece rest
  | 0, piece, a :: rest =>
      if separator.isPrefixOf (a :: rest) then
        piece.reverse :: splitOnFrom separator (separator.length - 1) [] rest
      else
        splitOnFrom separator 0 (a :: piece) rest

/-- The pieces of a sequence between the occurrences of a nonempty separator. -/
def splitOn {α : Type*} [DecidableEq α] (separator text : List α) : List (List α) :=
  splitOnFrom separator 0 [] text

/-! ## The last greatest element -/

/-- One round of `maxByKey`: a later element wins a tie. -/
def keepMax {α κ : Type*} [LinearOrder κ] (key : α → κ) (best : Option α) (a : α) : Option α :=
  match best with
  | none => some a
  | some b => if key b ≤ key a then some a else some b

/-- The element with the greatest key, the last of them when several tie. -/
def maxByKey {α κ : Type*} [LinearOrder κ] (key : α → κ) (list : List α) : Option α :=
  list.foldl (keepMax key) none

/-- Of two different elements of a list one stands behind the other. -/
theorem mem_of_splits {α : Type*} {front back front' back' : List α} {a b : α}
    (hSame : front ++ a :: back = front' ++ b :: back') (hNe : a ≠ b) :
    (b ∈ back ∧ a ∈ front') ∨ (b ∈ front ∧ a ∈ back') := by
  rcases List.append_eq_append_iff.mp hSame with ⟨gap, rfl, hTail⟩ | ⟨gap, rfl, hTail⟩
  · cases gap with
    | nil => exact absurd (List.cons.inj hTail).1 hNe
    | cons c gap =>
        obtain ⟨rfl, rfl⟩ := List.cons.inj hTail
        exact Or.inl ⟨by simp, by simp⟩
  · cases gap with
    | nil => exact absurd (List.cons.inj hTail).1.symm hNe
    | cons c gap =>
        obtain ⟨rfl, rfl⟩ := List.cons.inj hTail
        exact Or.inr ⟨by simp, by simp⟩

section MaxByKey

variable {α β κ : Type*} [LinearOrder κ]

theorem maxByKey_concat (key : α → κ) (list : List α) (last : α) :
    maxByKey key (list ++ [last]) = keepMax key (maxByKey key list) last := by
  simp [maxByKey]

theorem maxByKey_eq_none_iff {key : α → κ} {list : List α} :
    maxByKey key list = none ↔ list = [] := by
  rcases List.eq_nil_or_concat list with rfl | ⟨list, last, rfl⟩
  · simp [maxByKey]
  · rw [List.concat_eq_append, maxByKey_concat]
    cases maxByKey key list with
    | none => simp [keepMax]
    | some best => by_cases hLe : key best ≤ key last <;> simp [keepMax, hLe]

/-- `a` stands in the list with nothing greater before it and only smaller elements
behind it. -/
def LastGreatest (key : α → κ) (list : List α) (a : α) : Prop :=
  ∃ before after, list = before ++ a :: after ∧ (∀ b ∈ before, key b ≤ key a) ∧
    ∀ b ∈ after, key b < key a

theorem LastGreatest.mem {key : α → κ} {list : List α} {a : α}
    (hLast : LastGreatest key list a) : a ∈ list := by
  obtain ⟨before, after, rfl, -, -⟩ := hLast
  simp

theorem LastGreatest.le {key : α → κ} {list : List α} {a b : α}
    (hLast : LastGreatest key list a) (hb : b ∈ list) : key b ≤ key a := by
  obtain ⟨before, after, rfl, hBefore, hAfter⟩ := hLast
  rw [List.mem_append, List.mem_cons] at hb
  rcases hb with hb | rfl | hb
  · exact hBefore b hb
  · exact le_refl _
  · exact le_of_lt (hAfter b hb)

/-- The last element wins exactly when it is not smaller than the others. -/
theorem lastGreatest_concat_iff {key : α → κ} {list : List α} {last a : α} :
    LastGreatest key (list ++ [last]) a ↔
      (a = last ∧ ∀ b ∈ list, key b ≤ key last) ∨
        (LastGreatest key list a ∧ key last < key a) := by
  constructor
  · intro hLast
    rcases hLast with ⟨before, after, hList, hBefore, hAfter⟩
    rcases List.eq_nil_or_concat after with rfl | ⟨after, b, rfl⟩
    · obtain ⟨rfl, hSame⟩ := List.append_inj' hList rfl
      obtain rfl : last = a := by simpa using hSame
      exact Or.inl ⟨rfl, hBefore⟩
    · rw [List.concat_eq_append, ← List.cons_append, ← List.append_assoc] at hList
      obtain ⟨rfl, hSame⟩ := List.append_inj' hList rfl
      obtain rfl : last = b := by simpa using hSame
      refine Or.inr ⟨⟨before, after, rfl, hBefore, ?_⟩, hAfter last (by simp)⟩
      intro c hc
      exact hAfter c (by simp [hc])
  · intro hCases
    rcases hCases with ⟨rfl, hBefore⟩ | ⟨⟨before, after, rfl, hBefore, hAfter⟩, hLess⟩
    · exact ⟨list, [], rfl, hBefore, by simp⟩
    · refine ⟨before, after ++ [last], by simp, hBefore, ?_⟩
      intro b hb
      rcases List.mem_append.mp hb with hb | hb
      · exact hAfter b hb
      · obtain rfl := List.mem_singleton.mp hb
        exact hLess

/-- The fold keeps the last greatest element of what it has read. -/
theorem maxByKey_eq_some_iff {key : α → κ} {list : List α} {a : α} :
    maxByKey key list = some a ↔ LastGreatest key list a := by
  induction list using List.reverseRecOn generalizing a with
  | nil => simp [maxByKey, LastGreatest]
  | append_singleton list last ih =>
      rw [maxByKey_concat, lastGreatest_concat_iff, ← ih]
      cases hBest : maxByKey key list with
      | none =>
          obtain rfl := maxByKey_eq_none_iff.mp hBest
          simp [keepMax, eq_comm]
      | some best =>
          have hGreatest : (∀ b ∈ list, key b ≤ key last) ↔ key best ≤ key last := by
            have hLast := ih.mp hBest
            exact ⟨fun hAll => hAll best hLast.mem, fun hLe b hb => (hLast.le hb).trans hLe⟩
          rw [hGreatest]
          by_cases hLe : key best ≤ key last
          · have hNotLess : ¬ key last < key best := not_lt_of_ge hLe
            simp only [keepMax, hLe, if_true, Option.some.injEq, and_true]
            grind
          · have hLess : key last < key best := lt_of_not_ge hLe
            simp only [keepMax, hLe, if_false, Option.some.injEq, and_false, false_or]
            grind

/-- Leaving elements out does not matter as long as the one found is kept. -/
theorem LastGreatest.filter {key : α → κ} {list : List α} {a : α}
    (hLast : LastGreatest key list a) {test : α → Bool} (hKept : test a = true) :
    LastGreatest key (list.filter test) a := by
  obtain ⟨before, after, rfl, hBefore, hAfter⟩ := hLast
  refine ⟨before.filter test, after.filter test, ?_, ?_, ?_⟩
  · rw [List.filter_append, List.filter_cons_of_pos hKept]
  · intro b hb
    exact hBefore b (List.mem_filter.mp hb).1
  · intro b hb
    exact hAfter b (List.mem_filter.mp hb).1

theorem LastGreatest.unique {key : α → κ} {list : List α} {a b : α}
    (ha : LastGreatest key list a) (hb : LastGreatest key list b) : a = b := by
  rw [← maxByKey_eq_some_iff] at ha hb
  exact Option.some.inj (ha.symm.trans hb)

theorem LastGreatest.map {key : β → κ} {list : List α} {a : α} (f : α → β)
    (hLast : LastGreatest (fun x => key (f x)) list a) : LastGreatest key (list.map f) (f a) := by
  obtain ⟨before, after, rfl, hBefore, hAfter⟩ := hLast
  refine ⟨before.map f, after.map f, by simp, ?_, ?_⟩
  · simpa using hBefore
  · simpa using hAfter

end MaxByKey

/-! ## Keeping what passes a test -/

/-- A stricter test that agrees on what it keeps makes a sublist. -/
theorem filterMap_sublist_filterMap {α β : Type*} {strict loose : α → Option β} {list : List α}
    (hLoose : ∀ a ∈ list, ∀ b, strict a = some b → loose a = some b) :
    (list.filterMap strict).Sublist (list.filterMap loose) := by
  induction list with
  | nil => simp
  | cons a list ih =>
      have hRest := ih fun b hb => hLoose b (List.mem_cons_of_mem _ hb)
      rw [List.filterMap_cons]
      cases hStrict : strict a with
      | none =>
          rw [List.filterMap_cons]
          cases loose a with
          | none => exact hRest
          | some c => exact hRest.cons c
      | some b =>
          rw [List.filterMap_cons, hLoose a List.mem_cons_self b hStrict]
          exact hRest.cons_cons b

/-! ## Keeping the first element of each key -/

section FirstsBy

variable {α κ : Type*} (key : α → κ)

/-- `a` stands somewhere in the list with nothing of its key before it. -/
def FirstOfKey (list : List α) (a : α) : Prop :=
  ∃ before after, list = before ++ a :: after ∧ ∀ b ∈ before, key b ≠ key a

/-- Appending an element adds it to the first ones exactly when its key is new. -/
theorem firstOfKey_concat_iff (list : List α) (last a : α) :
    FirstOfKey key (list ++ [last]) a ↔
      FirstOfKey key list a ∨ (a = last ∧ ∀ b ∈ list, key b ≠ key last) := by
  constructor
  · intro hFirst
    rcases hFirst with ⟨before, after, hList, hBefore⟩
    -- either `a` is the last element itself, or it stood there before
    rcases List.eq_nil_or_concat after with rfl | ⟨after, x, rfl⟩
    · obtain ⟨rfl, hLast⟩ := List.append_inj' hList rfl
      obtain rfl : last = a := by simpa using hLast
      exact Or.inr ⟨rfl, hBefore⟩
    · rw [List.concat_eq_append, ← List.cons_append, ← List.append_assoc] at hList
      obtain ⟨rfl, -⟩ := List.append_inj' hList rfl
      exact Or.inl ⟨before, after, rfl, hBefore⟩
  · intro hFirst
    rcases hFirst with ⟨before, after, rfl, hBefore⟩ | ⟨rfl, hNew⟩
    · exact ⟨before, after ++ [last], by simp, hBefore⟩
    · exact ⟨list, [], rfl, hNew⟩

theorem FirstOfKey.mem {key : α → κ} {list : List α} {a : α} (hFirst : FirstOfKey key list a) :
    a ∈ list := by
  obtain ⟨before, after, rfl, -⟩ := hFirst
  exact List.mem_append_right _ List.mem_cons_self

/-- The first of its key in two lists is the first in the one, or in the other if the one has
nothing of its key. -/
theorem firstOfKey_append_iff {key : α → κ} {front back : List α} {a : α} :
    FirstOfKey key (front ++ back) a ↔
      FirstOfKey key front a ∨ ((∀ b ∈ front, key b ≠ key a) ∧ FirstOfKey key back a) := by
  constructor
  · rintro ⟨before, after, hList, hBefore⟩
    rcases List.append_eq_append_iff.mp hList with ⟨gap, rfl, rfl⟩ | ⟨gap, rfl, hTail⟩
    · refine .inr ⟨fun b hb => hBefore b (List.mem_append_left _ hb), gap, after, rfl, ?_⟩
      exact fun b hb => hBefore b (List.mem_append_right _ hb)
    · cases gap with
      | nil =>
          rw [List.append_nil]
          exact .inr ⟨hBefore, [], after, hTail.symm, fun b hb => by cases hb⟩
      | cons b gap =>
          obtain ⟨rfl, -⟩ := List.cons.inj hTail
          exact .inl ⟨before, gap, rfl, hBefore⟩
  · rintro (⟨before, after, rfl, hBefore⟩ | ⟨hNone, before, after, rfl, hBefore⟩)
    · exact ⟨before, after ++ back, by rw [List.append_assoc, List.cons_append], hBefore⟩
    · refine ⟨front ++ before, after, by rw [List.append_assoc], ?_⟩
      intro b hb
      rcases List.mem_append.mp hb with hb | hb
      · exact hNone b hb
      · exact hBefore b hb

/-- Elements of other keys before and between make no difference: what is the first of its key
in some of the groups is the first in all of them. -/
theorem FirstOfKey.flatMap_of_filter {γ : Type*} {key : α → κ} {groups : List γ}
    {elements : γ → List α} {keep : γ → Bool} {a : α}
    (hFirst : FirstOfKey key ((groups.filter keep).flatMap elements) a)
    (hOthers : ∀ group ∈ groups, keep group = false → ∀ b ∈ elements group, key b ≠ key a) :
    FirstOfKey key (groups.flatMap elements) a := by
  induction groups with
  | nil => exact hFirst
  | cons group groups ih =>
      have hLater : ∀ other ∈ groups, keep other = false →
          ∀ b ∈ elements other, key b ≠ key a :=
        fun other hOther => hOthers other (List.mem_cons_of_mem _ hOther)
      rw [List.flatMap_cons, firstOfKey_append_iff]
      cases hKeep : keep group with
      | true =>
          rw [List.filter_cons_of_pos hKeep, List.flatMap_cons, firstOfKey_append_iff] at hFirst
          rcases hFirst with hHere | ⟨hNone, hRest⟩
          · exact .inl hHere
          · exact .inr ⟨hNone, ih hRest hLater⟩
      | false =>
          rw [List.filter_cons_of_neg (by rw [hKeep]; exact Bool.false_ne_true)] at hFirst
          exact .inr ⟨hOthers group List.mem_cons_self hKeep, ih hFirst hLater⟩

/-- And what is the first of its key in all groups is the first in some of them, if it stands
in none of the others. -/
theorem FirstOfKey.filter_of_flatMap {γ : Type*} {key : α → κ} {groups : List γ}
    {elements : γ → List α} {keep : γ → Bool} {a : α}
    (hFirst : FirstOfKey key (groups.flatMap elements) a)
    (hOthers : ∀ group ∈ groups, keep group = false → a ∉ elements group) :
    FirstOfKey key ((groups.filter keep).flatMap elements) a := by
  induction groups with
  | nil => exact hFirst
  | cons group groups ih =>
      have hLater : ∀ other ∈ groups, keep other = false → a ∉ elements other :=
        fun other hOther => hOthers other (List.mem_cons_of_mem _ hOther)
      rw [List.flatMap_cons, firstOfKey_append_iff] at hFirst
      cases hKeep : keep group with
      | true =>
          rw [List.filter_cons_of_pos hKeep, List.flatMap_cons, firstOfKey_append_iff]
          rcases hFirst with hHere | ⟨hNone, hRest⟩
          · exact .inl hHere
          · exact .inr ⟨hNone, ih hRest hLater⟩
      | false =>
          rw [List.filter_cons_of_neg (by rw [hKeep]; exact Bool.false_ne_true)]
          rcases hFirst with hHere | ⟨-, hRest⟩
          · exact absurd hHere.mem (hOthers group List.mem_cons_self hKeep)
          · exact ih hRest hLater

/-- The lists agree, except that an element behind the first of its key may have been replaced
in the second. -/
inductive LaterReplaced (replaced : α → α → Prop) : List α → List α → Prop
  | nil : LaterReplaced replaced [] []
  | same {list list' : List α} (before : LaterReplaced replaced list list') (a : α) :
      LaterReplaced replaced (list ++ [a]) (list' ++ [a])
  | later {list list' : List α} (before : LaterReplaced replaced list list') {a a' : α}
      (copy : ∃ b ∈ list, key b = key a) (other : replaced a a') :
      LaterReplaced replaced (list ++ [a]) (list' ++ [a'])

theorem LaterReplaced.length_eq {key : α → κ} {replaced : α → α → Prop} {list list' : List α}
    (hReplaced : LaterReplaced key replaced list list') : list'.length = list.length := by
  induction hReplaced with
  | nil => rfl
  | same before a ih => rw [List.length_append, List.length_append, ih]
  | later before copy other ih =>
      rw [List.length_append, List.length_append, ih]
      rfl

variable [DecidableEq κ]

/-- One round: the keys seen so far, and the elements kept so far. -/
def keepFirst (state : List κ × List α) (a : α) : List κ × List α :=
  if key a ∈ state.1 then state else (state.1 ++ [key a], state.2 ++ [a])

/-- The whole loop: the first element of each key, in order. -/
def firstsBy (list : List α) : List α :=
  (list.foldl (keepFirst key) ([], [])).2

/-- What the loop has seen and kept after any list: the keys seen are those of
the elements kept, the elements kept are the first ones of their keys, and no
two of them share a key. -/
theorem foldl_keepFirst_spec (list : List α) :
    let state := list.foldl (keepFirst key) ([], [])
    state.1 = state.2.map key ∧ (∀ k, k ∈ state.1 ↔ ∃ b ∈ list, key b = k) ∧
      (∀ a, a ∈ state.2 ↔ FirstOfKey key list a) ∧
      state.2.Pairwise fun a b => key a ≠ key b := by
  induction list using List.reverseRecOn with
  | nil => simp [FirstOfKey]
  | append_singleton list last ih =>
      obtain ⟨hSeen, hKeys, hKept, hPairs⟩ := ih
      rw [List.foldl_append, List.foldl_cons, List.foldl_nil]
      generalize list.foldl (keepFirst key) ([], []) = state at *
      obtain ⟨seen, kept⟩ := state
      simp only at hSeen hKeys hKept hPairs
      -- the round asks whether the key was seen, the statement whether it occurred
      have hNew : (∀ b ∈ list, key b ≠ key last) ↔ key last ∉ seen := by
        simp [hKeys]
      by_cases hLast : key last ∈ seen
      · simp only [keepFirst, hLast, if_pos]
        refine ⟨hSeen, fun k => ?_, fun a => ?_, hPairs⟩
        · rw [hKeys k]
          constructor
          · rintro ⟨b, hb, rfl⟩
            exact ⟨b, List.mem_append_left _ hb, rfl⟩
          · rintro ⟨b, hb, rfl⟩
            rcases List.mem_append.mp hb with hb | hb
            · exact ⟨b, hb, rfl⟩
            · obtain rfl := List.mem_singleton.mp hb
              exact (hKeys _).mp hLast
        · rw [hKept a, firstOfKey_concat_iff, hNew]
          simp [hLast]
      · simp only [keepFirst, hLast, if_neg, not_false_eq_true]
        refine ⟨by simp [hSeen], fun k => ?_, fun a => ?_, ?_⟩
        · simp only [List.mem_append, hKeys k, List.mem_singleton]
          constructor
          · rintro (⟨b, hb, rfl⟩ | rfl)
            · exact ⟨b, Or.inl hb, rfl⟩
            · exact ⟨last, Or.inr rfl, rfl⟩
          · rintro ⟨b, hb | rfl, rfl⟩
            · exact Or.inl ⟨b, hb, rfl⟩
            · exact Or.inr rfl
        · rw [List.mem_append, hKept a, firstOfKey_concat_iff, hNew]
          simp [hLast]
        · refine List.pairwise_append.mpr ⟨hPairs, List.pairwise_singleton _ _, ?_⟩
          intro a ha b hb hEq
          obtain rfl := List.mem_singleton.mp hb
          exact hLast (hEq ▸ hSeen ▸ List.mem_map_of_mem ha)

/-- An element is kept exactly when it is the first one of its key. -/
theorem mem_firstsBy_iff {list : List α} {a : α} :
    a ∈ firstsBy key list ↔ FirstOfKey key list a :=
  (foldl_keepFirst_spec key list).2.2.1 a

/-- Two kept elements of the same key are the same element. -/
theorem eq_of_mem_firstsBy {list : List α} {a b : α} (ha : a ∈ firstsBy key list)
    (hb : b ∈ firstsBy key list) (hKey : key a = key b) : a = b := by
  by_contra hNe
  have hSymm : Std.Symm fun a b : α => key a ≠ key b := ⟨fun _ _ h => Ne.symm h⟩
  have hPairs := (foldl_keepFirst_spec key list).2.2.2
  exact hPairs.forall ha hb hNe hKey

/-- What replaces a later element under the same key is not kept either. -/
theorem LaterReplaced.firstsBy_eq {key : α → κ} {replaced : α → α → Prop} {list list' : List α}
    (hReplaced : LaterReplaced key replaced list list')
    (hKey : ∀ a a', replaced a a' → key a' = key a) : firstsBy key list' = firstsBy key list := by
  have hStates : list'.foldl (keepFirst key) ([], []) = list.foldl (keepFirst key) ([], []) := by
    induction hReplaced with
    | nil => rfl
    | same before a ih =>
        rw [List.foldl_append, List.foldl_append, ih]
    | @later list list' before a a' copy other ih =>
        -- the key has been seen, so neither of the two is kept
        have hSeen : key a ∈ (list.foldl (keepFirst key) ([], [])).1 :=
          ((foldl_keepFirst_spec key list).2.1 (key a)).mpr copy
        have hSeen' : key a' ∈ (list.foldl (keepFirst key) ([], [])).1 := by
          rwa [hKey a a' other]
        rw [List.foldl_append, List.foldl_append, ih, List.foldl_cons, List.foldl_cons,
          List.foldl_nil, List.foldl_nil, keepFirst, keepFirst, if_pos hSeen, if_pos hSeen']
  exact congrArg Prod.snd hStates

end FirstsBy

/-! ## Sorting -/

/-- Where no two elements of a list tie, there is one order to sort it in. -/
theorem eq_insertionSort_of_perm {α : Type*} {r : α → α → Prop} [DecidableRel r] [Std.Total r]
    [IsTrans α r] {sorted list : List α} (hSorted : sorted.Pairwise r)
    (hPerm : sorted.Perm list) (hTies : ∀ a ∈ list, ∀ b ∈ list, r a b → r b a → a = b) :
    sorted = list.insertionSort r := by
  have hSort : (list.insertionSort r).Perm list := List.perm_insertionSort r list
  refine List.Perm.eq_of_pairwise ?_ hSorted (List.pairwise_insertionSort r list)
    (hPerm.trans hSort.symm)
  intro a b ha hb hab hba
  exact hTies a (hPerm.mem_iff.mp ha) b (hSort.mem_iff.mp hb) hab hba

end Scans
end Lib
