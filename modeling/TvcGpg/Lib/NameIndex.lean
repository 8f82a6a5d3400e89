import Mathlib.Data.List.AList
import Mathlib.Data.List.Induction

/-!
# An index by name and by short name

Elements are found by a name that tells them apart, or by a short name that
several of them may share.  The index is filled by a loop that overwrites: a
later element replaces an earlier one of its name, and its name replaces the one
its short name led to.  Whenever a short name changes the name it leads to, it is
noted as ambiguous, and the ambiguous short names are erased at the end.

`Covers` is the invariant of that loop, as a relation between the elements
entered so far and the index.  It is kept by every round (`Covers.enter`), hence
holds after any run (`covers_foldl`), and it determines what can be looked up:
a short name leads somewhere after the erasure exactly when all elements that
carry it have one name (`Covers.lookup_eraseAll_iff`).
-/

namespace Lib
namespace NameIndex

variable {α κ ι : Type*} [DecidableEq κ] [DecidableEq ι]

/-- The index while it is being filled. -/
structure Index (α κ ι : Type*) where
  byName : AList fun _ : κ => α
  byShort : AList fun _ : ι => κ
  ambiguous : List ι

/-- The index of nothing. -/
def empty : Index α κ ι :=
  { byName := ∅, byShort := ∅, ambiguous := [] }

section Entering

variable (name : α → κ) (short : α → ι)

/-- One round: enter `a` under its name and its short name. -/
def enter (index : Index α κ ι) (a : α) : Index α κ ι where
  byName := index.byName.insert (name a) a
  byShort := index.byShort.insert (short a) (name a)
  ambiguous :=
    match index.byShort.lookup (short a) with
    | some other =>
        if other ≠ name a then index.ambiguous ++ [short a] else index.ambiguous
    | none => index.ambiguous

/-- Some element named `n` carries the short name `i`. -/
def Carries (list : List α) (i : ι) (n : κ) : Prop :=
  ∃ a ∈ list, short a = i ∧ name a = n

/-- The short name `i` is carried under two names. -/
def Ambiguous (list : List α) (i : ι) : Prop :=
  ∃ n m, Carries name short list i n ∧ Carries name short list i m ∧ n ≠ m

/-- What an index says about the elements entered into it. -/
structure Covers (list : List α) (index : Index α κ ι) : Prop where
  mem_of_byName : ∀ {n a}, index.byName.lookup n = some a → a ∈ list ∧ name a = n
  byName_of_mem : ∀ {a}, a ∈ list → (index.byName.lookup (name a)).isSome
  carries_of_byShort : ∀ {i n}, index.byShort.lookup i = some n → Carries name short list i n
  byShort_of_mem : ∀ {a}, a ∈ list → (index.byShort.lookup (short a)).isSome
  ambiguous_iff : ∀ {i}, i ∈ index.ambiguous ↔ Ambiguous name short list i

variable {name short}

omit [DecidableEq κ] [DecidableEq ι] in
theorem carries_concat_iff {list : List α} {last : α} {i : ι} {n : κ} :
    Carries name short (list ++ [last]) i n ↔
      Carries name short list i n ∨ (short last = i ∧ name last = n) := by
  unfold Carries
  constructor
  · intro hMem
    rcases hMem with ⟨a, ha, hShort, hName⟩
    rcases List.mem_append.mp ha with ha | ha
    · exact Or.inl ⟨a, ha, hShort, hName⟩
    · obtain rfl := List.mem_singleton.mp ha
      exact Or.inr ⟨hShort, hName⟩
  · intro hMem
    rcases hMem with ⟨a, ha, hShort, hName⟩ | ⟨hShort, hName⟩
    · exact ⟨a, List.mem_append_left _ ha, hShort, hName⟩
    · exact ⟨last, by simp, hShort, hName⟩

theorem covers_empty : Covers name short [] (empty : Index α κ ι) where
  mem_of_byName hLookup := by simp [empty] at hLookup
  byName_of_mem ha := by cases ha
  carries_of_byShort hLookup := by simp [empty] at hLookup
  byShort_of_mem ha := by cases ha
  ambiguous_iff := by simp [empty, Ambiguous, Carries]

/-- A short name becomes ambiguous with the last element exactly when it was
before, or when the last element changes the name it leads to. -/
theorem Covers.ambiguous_concat_iff {list : List α} {index : Index α κ ι}
    (hCovers : Covers name short list index) (last : α) (i : ι) :
    Ambiguous name short (list ++ [last]) i ↔
      Ambiguous name short list i ∨
        (short last = i ∧ ∃ n, index.byShort.lookup i = some n ∧ n ≠ name last) := by
  constructor
  · -- the last element may be on either side of the two names
    have hLast {m : κ} (hm : Carries name short list (short last) m) (hNe : m ≠ name last) :
        Ambiguous name short list (short last) ∨
          ∃ n, index.byShort.lookup (short last) = some n ∧ n ≠ name last := by
      obtain ⟨a, ha, hShort, -⟩ := id hm
      obtain ⟨n, hn⟩ := Option.isSome_iff_exists.mp (hCovers.byShort_of_mem ha)
      rw [hShort] at hn
      by_cases hSame : n = name last
      · exact Or.inl ⟨m, n, hm, hCovers.carries_of_byShort hn, hSame ▸ hNe⟩
      · exact Or.inr ⟨n, hn, hSame⟩
    intro hAmbiguous
    rcases hAmbiguous with ⟨n, m, hn, hm, hNe⟩
    rcases carries_concat_iff.mp hn with hn | ⟨hi, rfl⟩
    · rcases carries_concat_iff.mp hm with hm | ⟨hi, rfl⟩
      · exact Or.inl ⟨n, m, hn, hm, hNe⟩
      · subst hi
        exact (hLast hn hNe).imp_right fun hChanged => ⟨rfl, hChanged⟩
    · subst hi
      rcases carries_concat_iff.mp hm with hm | ⟨-, rfl⟩
      · exact (hLast hm (Ne.symm hNe)).imp_right fun hChanged => ⟨rfl, hChanged⟩
      · exact absurd rfl hNe
  · intro hAmbiguous
    rcases hAmbiguous with ⟨n, m, hn, hm, hNe⟩ | ⟨rfl, n, hn, hNe⟩
    · exact ⟨n, m, carries_concat_iff.mpr (Or.inl hn), carries_concat_iff.mpr (Or.inl hm), hNe⟩
    · exact ⟨n, name last, carries_concat_iff.mpr (Or.inl (hCovers.carries_of_byShort hn)),
        carries_concat_iff.mpr (Or.inr ⟨rfl, rfl⟩), hNe⟩

/-- Every round keeps the invariant. -/
theorem Covers.enter {list : List α} {index : Index α κ ι}
    (hCovers : Covers name short list index) (last : α) :
    Covers name short (list ++ [last]) (enter name short index last) where
  mem_of_byName {n a} hLookup := by
    by_cases hName : n = name last
    · subst hName
      simp only [NameIndex.enter, AList.lookup_insert, Option.some.injEq] at hLookup
      subst hLookup
      exact ⟨by simp, rfl⟩
    · simp only [NameIndex.enter, AList.lookup_insert_ne hName] at hLookup
      obtain ⟨ha, hEq⟩ := hCovers.mem_of_byName hLookup
      exact ⟨List.mem_append_left _ ha, hEq⟩
  byName_of_mem {a} ha := by
    by_cases hName : name a = name last
    · rw [hName, NameIndex.enter, AList.lookup_insert]
      rfl
    · simp only [NameIndex.enter, AList.lookup_insert_ne hName]
      rcases List.mem_append.mp ha with ha | ha
      · exact hCovers.byName_of_mem ha
      · exact absurd (congrArg name (List.mem_singleton.mp ha)) hName
  carries_of_byShort {i n} hLookup := by
    by_cases hShort : i = short last
    · subst hShort
      simp only [NameIndex.enter, AList.lookup_insert, Option.some.injEq] at hLookup
      exact carries_concat_iff.mpr (Or.inr ⟨rfl, hLookup⟩)
    · simp only [NameIndex.enter, AList.lookup_insert_ne hShort] at hLookup
      exact carries_concat_iff.mpr (Or.inl (hCovers.carries_of_byShort hLookup))
  byShort_of_mem {a} ha := by
    by_cases hShort : short a = short last
    · rw [hShort, NameIndex.enter, AList.lookup_insert]
      rfl
    · simp only [NameIndex.enter, AList.lookup_insert_ne hShort]
      rcases List.mem_append.mp ha with ha | ha
      · exact hCovers.byShort_of_mem ha
      · exact absurd (congrArg short (List.mem_singleton.mp ha)) hShort
  ambiguous_iff {i} := by
    -- the round adds the short name exactly when it changes the name it leads to
    rw [hCovers.ambiguous_concat_iff last i, ← hCovers.ambiguous_iff]
    simp only [NameIndex.enter]
    split
    · rename_i other hOther
      split
      · rename_i hNe
        rw [List.mem_append, List.mem_singleton]
        refine or_congr_right ⟨fun hi => ⟨hi.symm, other, hi ▸ hOther, hNe⟩, fun hi => hi.1.symm⟩
      · rename_i hEq
        refine ⟨Or.inl, fun hCases => hCases.resolve_right ?_⟩
        intro hHolds
        rcases hHolds with ⟨rfl, n, hn, hNe⟩
        rw [hOther] at hn
        obtain rfl := Option.some.inj hn
        exact hEq hNe
    · rename_i hNone
      refine ⟨Or.inl, fun hCases => hCases.resolve_right ?_⟩
      intro hHolds
      rcases hHolds with ⟨rfl, n, hn, -⟩
      rw [hNone] at hn
      cases hn

/-- So does every run. -/
theorem covers_foldl (list : List α) :
    Covers name short list (list.foldl (NameIndex.enter name short) empty) := by
  induction list using List.reverseRecOn with
  | nil => exact covers_empty
  | append_singleton list last ih =>
      rw [List.foldl_append, List.foldl_cons, List.foldl_nil]
      exact ih.enter last

/-- A name is known exactly when an element of that name was entered. -/
theorem Covers.byName_isSome_iff {list : List α} {index : Index α κ ι}
    (hCovers : Covers name short list index) {n : κ} :
    (index.byName.lookup n).isSome ↔ ∃ a ∈ list, name a = n := by
  constructor
  · intro hSome
    obtain ⟨a, ha⟩ := Option.isSome_iff_exists.mp hSome
    exact ⟨a, hCovers.mem_of_byName ha⟩
  · intro hMem
    rcases hMem with ⟨a, ha, rfl⟩
    exact hCovers.byName_of_mem ha

end Entering

/-! ## Erasing the ambiguous short names -/

/-- A map without the given keys. -/
def eraseAll (keys : List ι) (map : AList fun _ : ι => κ) : AList fun _ : ι => κ :=
  keys.foldl (fun map key => map.erase key) map

omit [DecidableEq κ] in
theorem lookup_eraseAll (keys : List ι) (map : AList fun _ : ι => κ) (i : ι) :
    (eraseAll keys map).lookup i = if i ∈ keys then none else map.lookup i := by
  unfold eraseAll
  induction keys generalizing map with
  | nil => simp
  | cons key keys ih =>
      rw [List.foldl_cons, ih]
      by_cases hKey : i = key
      · subst hKey
        simp
      · simp [hKey, AList.lookup_erase_ne hKey]

/-- After the erasure a short name leads to the one name it is carried under, if
it is carried under one name only. -/
theorem Covers.lookup_eraseAll_iff {name : α → κ} {short : α → ι} {list : List α}
    {index : Index α κ ι} (hCovers : Covers name short list index) {i : ι} {n : κ} :
    (eraseAll index.ambiguous index.byShort).lookup i = some n ↔
      Carries name short list i n ∧ ∀ m, Carries name short list i m → m = n := by
  rw [lookup_eraseAll]
  by_cases hAmbiguous : i ∈ index.ambiguous
  · obtain ⟨m, m', hm, hm', hNe⟩ := hCovers.ambiguous_iff.mp hAmbiguous
    rw [if_pos hAmbiguous]
    constructor
    · intro hNone
      cases hNone
    · intro hBoth
      rcases hBoth with ⟨-, hOnly⟩
      exact absurd ((hOnly m hm).trans (hOnly m' hm').symm) hNe
  · have hOnly {m m' : κ} (hm : Carries name short list i m) (hm' : Carries name short list i m') :
        m = m' := by
      by_contra hNe
      exact hAmbiguous (hCovers.ambiguous_iff.mpr ⟨m, m', hm, hm', hNe⟩)
    rw [if_neg hAmbiguous]
    constructor
    · intro hLookup
      have hn := hCovers.carries_of_byShort hLookup
      exact ⟨hn, fun m hm => hOnly hm hn⟩
    · intro hKnown
      rcases hKnown with ⟨hn, -⟩
      obtain ⟨a, ha, rfl, -⟩ := id hn
      obtain ⟨m, hm⟩ := Option.isSome_iff_exists.mp (hCovers.byShort_of_mem ha)
      rw [hm, hOnly (hCovers.carries_of_byShort hm) hn]

end NameIndex
end Lib
