import Mathlib.Data.List.Basic
import TvcGpg.Lib.Text

/-!
# Lines of a byte stream

A line reader hands out a stream piece by piece, each piece up to and with the
next line feed; the last piece may lack one.  `rawLines` are these pieces, and
`content` is what such a reader leaves of a piece: neither the line feed nor a
carriage return in front of it.
-/

namespace Lib
namespace Lines

/-- The pieces of a stream, each with its line feed. -/
def rawLines : Bytes → List Bytes
  | [] => []
  | byte :: rest =>
      if byte = 0x0A then [byte] :: rawLines rest
      else
        match rawLines rest with
        | [] => [[byte]]
        | raw :: raws => (byte :: raw) :: raws

/-- A piece without its terminator. -/
def content (raw : Bytes) : Bytes :=
  if raw.getLast? = some 0x0A then
    if raw.dropLast.getLast? = some 0x0D then raw.dropLast.dropLast else raw.dropLast
  else raw

/-- The lines of a stream, without their terminators. -/
def streamLines (stream : Bytes) : List Bytes := (rawLines stream).map content

theorem rawLines_flatten (stream : Bytes) : (rawLines stream).flatten = stream := by
  induction stream with
  | nil => rfl
  | cons byte rest ih =>
      rw [rawLines]
      split
      · rw [List.flatten_cons, ih, List.singleton_append]
      · cases hRest : rawLines rest with
        | nil =>
            rw [hRest] at ih
            rw [← ih]
            rfl
        | cons raw raws =>
            rw [hRest] at ih
            rw [← ih]
            rfl

/-- No piece is empty. -/
theorem ne_nil_of_mem_rawLines {stream raw : Bytes} (hRaw : raw ∈ rawLines stream) : raw ≠ [] := by
  induction stream generalizing raw with
  | nil => cases hRaw
  | cons byte rest ih =>
      rw [rawLines] at hRaw
      split at hRaw
      · rcases List.mem_cons.mp hRaw with rfl | hRaw
        · exact List.cons_ne_nil _ _
        · exact ih hRaw
      · cases hRest : rawLines rest with
        | nil =>
            rw [hRest] at hRaw
            obtain rfl := List.mem_singleton.mp hRaw
            exact List.cons_ne_nil _ _
        | cons first raws =>
            rw [hRest] at hRaw ih
            rcases List.mem_cons.mp hRaw with rfl | hRaw
            · exact List.cons_ne_nil _ _
            · exact ih (List.mem_cons_of_mem _ hRaw)

theorem ne_nil_of_rawLines_cons {stream raw : Bytes} {raws : List Bytes}
    (hRaws : rawLines stream = raw :: raws) : raw ≠ [] := by
  apply ne_nil_of_mem_rawLines
  rw [hRaws]
  exact List.mem_cons_self

/-- Nothing is left over only where there is no piece. -/
theorem flatten_eq_nil_iff_of_rawLines {stream : Bytes} {front back : List Bytes}
    (hRaws : rawLines stream = front ++ back) : back.flatten = [] ↔ back = [] := by
  constructor
  · intro hNil
    cases back with
    | nil => rfl
    | cons raw back =>
        have hRaw : raw ∈ rawLines stream := by
          rw [hRaws]
          simp
        have hEmpty := List.flatten_eq_nil_iff.mp hNil raw (by simp)
        exact absurd hEmpty (ne_nil_of_mem_rawLines hRaw)
  · rintro rfl
    rfl

/-- Only the last piece can lack its line feed. -/
theorem ends_or_last_of_rawLines {stream raw : Bytes} {raws : List Bytes}
    (hRaws : rawLines stream = raw :: raws) : raw.getLast? = some 0x0A ∨ raws = [] := by
  induction stream generalizing raw raws with
  | nil => cases hRaws
  | cons byte rest ih =>
      rw [rawLines] at hRaws
      split at hRaws
      · rename_i hFeed
        obtain ⟨rfl, rfl⟩ := List.cons.inj hRaws
        exact Or.inl (congrArg some hFeed)
      · cases hRest : rawLines rest with
        | nil =>
            rw [hRest] at hRaws
            obtain ⟨rfl, rfl⟩ := List.cons.inj hRaws
            exact Or.inr rfl
        | cons first raws' =>
            rw [hRest] at hRaws ih
            obtain ⟨rfl, rfl⟩ := List.cons.inj hRaws
            rw [List.getLast?_cons_of_ne_nil (ne_nil_of_rawLines_cons hRest)]
            exact ih rfl

/-- A piece with its line feed is the first one whatever else is still to come. -/
theorem rawLines_append {stream raw : Bytes} {raws : List Bytes}
    (hRaws : rawLines stream = raw :: raws) (hEnds : raw.getLast? = some 0x0A) (more : Bytes) :
    rawLines (stream ++ more) = raw :: rawLines (raws.flatten ++ more) := by
  induction stream generalizing raw raws with
  | nil => cases hRaws
  | cons byte rest ih =>
      rw [rawLines] at hRaws
      rw [List.cons_append, rawLines]
      split at hRaws
      · rename_i hFeed
        obtain ⟨rfl, rfl⟩ := List.cons.inj hRaws
        rw [if_pos hFeed, rawLines_flatten]
      · rename_i hOther
        rw [if_neg hOther]
        cases hRest : rawLines rest with
        | nil =>
            rw [hRest] at hRaws
            obtain ⟨rfl, rfl⟩ := List.cons.inj hRaws
            exact absurd (Option.some.inj hEnds) hOther
        | cons first raws' =>
            rw [hRest] at hRaws
            obtain ⟨rfl, rfl⟩ := List.cons.inj hRaws
            rw [List.getLast?_cons_of_ne_nil (ne_nil_of_rawLines_cons hRest)] at hEnds
            rw [ih hRest hEnds]

/-- Behind the first piece the others are the pieces. -/
theorem rawLines_tail {stream raw : Bytes} {raws : List Bytes}
    (hRaws : rawLines stream = raw :: raws) : rawLines raws.flatten = raws := by
  rcases ends_or_last_of_rawLines hRaws with hEnds | rfl
  · have hAll := rawLines_append hRaws hEnds []
    rw [List.append_nil, List.append_nil, hRaws] at hAll
    exact (List.cons.inj hAll).2.symm
  · rfl

end Lines
end Lib
