import Mathlib.Data.List.DropRight
import Mathlib.Data.List.Infix
import TvcGpg.Lib.Scans

/-!
# Pieces between separators

`splitOn` cuts a sequence at every occurrence of a separator of several elements,
from the left and without overlap.  Where the occurrences are known, so are the
pieces: `splitOn_append_separator` cuts off the first one, and `splitOn_of_free`
ends the scan.

What is left is to know the occurrences of a concatenation.  An occurrence that
reaches over the seam contains the two elements at the seam, next to each other.
So none is made where the separator has no such pair (`Free.append`), and none is
cut where it does not have the element in front of the seam
(`noneStarts_of_lineEnd`).
-/

namespace Lib
namespace Separators

open Scans

variable {α : Type*}

/-! ## Occurrences -/

/-- A sequence without an occurrence of `separator`. -/
def Free (separator text : List α) : Prop := ¬ separator <:+: text

instance [DecidableEq α] (separator text : List α) : Decidable (Free separator text) :=
  inferInstanceAs (Decidable (¬ separator <:+: text))

/-- No occurrence of `separator` in `piece ++ rest` starts within `piece`. -/
def NoneStarts (separator piece rest : List α) : Prop :=
  ∀ front back, piece ++ rest = front ++ separator ++ back → piece.length ≤ front.length

theorem Free.left {separator text rest : List α} (hFree : Free separator (text ++ rest)) :
    Free separator text := by
  intro hOccurs
  exact hFree (hOccurs.trans (List.prefix_append text rest).isInfix)

/-- Two elements next to each other make a pair of the list with its own tail. -/
theorem mem_zip_tail_of_isInfix {text : List α} {a b : α} (hOccurs : [a, b] <:+: text) :
    (a, b) ∈ text.zip text.tail := by
  obtain ⟨front, back, rfl⟩ := hOccurs
  induction front with
  | nil => simp
  | cons c front ih =>
      cases front with
      | nil => exact List.mem_cons_of_mem _ ih
      | cons d front => exact List.mem_cons_of_mem _ ih

/-- What a sequence starts with has its first element. -/
theorem mem_of_prefix_cons {text right : List α} {c : α} (hSome : text ≠ [])
    (hStarts : text <+: c :: right) : c ∈ text := by
  cases text with
  | nil => exact absurd rfl hSome
  | cons first text =>
      obtain ⟨rfl, -⟩ := List.cons_prefix_cons.mp hStarts
      exact List.mem_cons_self

/-- A seam makes no occurrence when its two elements do not stand next to each other in the
separator. -/
theorem Free.append {separator left right : List α} {a b : α}
    (hLeft : Free separator (left ++ [a])) (hRight : Free separator (b :: right))
    (hPair : Free [a, b] separator) : Free separator (left ++ [a] ++ b :: right) := by
  intro hOccurs
  rcases List.infix_append_iff_ne_nil.mp hOccurs with
    hInLeft | hInRight | ⟨head, tail, hHead, hTail, rfl, hEnds, hStarts⟩
  · exact hLeft hInLeft
  · exact hRight hInRight
  · -- the occurrence reaches over the seam, and has the elements on both its sides
    cases tail with
    | nil => exact hTail rfl
    | cons first tail =>
        obtain ⟨rfl, -⟩ := List.cons_prefix_cons.mp hStarts
        obtain ⟨head, last, rfl⟩ := (List.eq_nil_or_concat head).resolve_left hHead
        obtain ⟨before, hBefore⟩ := hEnds
        rw [List.concat_eq_append, ← List.append_assoc] at hBefore
        obtain rfl : last = a := by simpa using (List.append_inj' hBefore rfl).2
        exact hPair ⟨head, tail, by simp⟩

/-- An element the separator does not have makes no occurrence. -/
theorem Free.append_cons {separator left right : List α} {c : α}
    (hLeft : Free separator left) (hRight : Free separator right) (hNot : c ∉ separator) :
    Free separator (left ++ c :: right) := by
  intro hOccurs
  rcases List.infix_append_iff_ne_nil.mp hOccurs with
    hInLeft | hInRight | ⟨head, tail, -, hTail, rfl, -, hStarts⟩
  · exact hLeft hInLeft
  · rcases List.infix_cons_iff.mp hInRight with hStarts | hBehind
    · have hSome : separator ≠ [] := by
        rintro rfl
        exact hLeft (List.nil_infix)
      exact hNot (mem_of_prefix_cons hSome hStarts)
    · exact hRight hBehind
  · exact hNot (List.mem_append_right head (mem_of_prefix_cons hTail hStarts))

/-- Behind an element the separator does not have a new occurrence starts. -/
theorem noneStarts_of_lineEnd {separator piece rest : List α} (hFree : Free separator piece)
    (hEnd : piece = [] ∨ ∃ front c, piece = front ++ [c] ∧ c ∉ separator) :
    NoneStarts separator piece rest := by
  intro front back hSame
  rcases hEnd with rfl | ⟨line, c, rfl, hNot⟩
  · exact Nat.zero_le _
  · by_contra hInside
    rcases List.append_eq_append_iff.mp hSame with ⟨extra, hExtra, -⟩ | ⟨after, hEnds, -⟩
    · rcases List.append_eq_append_iff.mp hExtra with ⟨gap, hGap, hSeparator⟩ | ⟨head, hHead, -⟩
      · rcases List.eq_nil_or_concat gap with rfl | ⟨gap, last, rfl⟩
        · rw [hGap, List.append_nil] at hInside
          exact hInside le_rfl
        · -- the occurrence starts in front of the seam and reaches to it
          rw [List.concat_eq_append, ← List.append_assoc] at hGap
          obtain ⟨-, hLast⟩ := List.append_inj' hGap rfl
          obtain rfl : c = last := by simpa using hLast
          exact hNot (by rw [hSeparator]; simp)
      · rw [hHead] at hInside
        exact hInside (by simp)
    · exact hFree ⟨front, after, hEnds.symm⟩

/-! ## The scan -/

variable [DecidableEq α]

theorem splitOnFrom_skip {separator text piece : List α} {skip : Nat}
    (hSkip : skip ≤ text.length) :
    splitOnFrom separator skip piece text = splitOnFrom separator 0 piece (text.drop skip) := by
  induction skip generalizing text with
  | zero => rfl
  | succ skip ih =>
      cases text with
      | nil => simp at hSkip
      | cons a text =>
          rw [splitOnFrom, List.drop_succ_cons]
          exact ih (by simpa using hSkip)

/-- Where no occurrence starts the scan reads on. -/
theorem splitOnFrom_append {separator piece rest read : List α}
    (hNone : NoneStarts separator piece rest) :
    splitOnFrom separator 0 read (piece ++ rest) =
      splitOnFrom separator 0 (piece.reverse ++ read) rest := by
  induction piece generalizing read with
  | nil => rfl
  | cons a piece ih =>
      have hHere : separator.isPrefixOf (a :: (piece ++ rest)) = false := by
        rw [Bool.eq_false_iff, ne_eq, List.isPrefixOf_iff_prefix]
        intro hStarts
        obtain ⟨back, hBack⟩ := hStarts
        have hLe := hNone [] back (by rw [List.nil_append, hBack, List.cons_append])
        simp at hLe
      have hRest : NoneStarts separator piece rest := by
        intro front back hSame
        have hLe := hNone (a :: front) back (by rw [List.cons_append, hSame]; simp)
        simpa using hLe
      rw [List.cons_append, splitOnFrom, hHere, if_neg Bool.false_ne_true, ih hRest,
        List.reverse_cons, List.append_assoc]
      rfl

/-- The first piece stands before the first occurrence. -/
theorem splitOn_append_separator {separator piece rest : List α} (hSome : separator ≠ [])
    (hNone : NoneStarts separator piece (separator ++ rest)) :
    splitOn separator (piece ++ (separator ++ rest)) = piece :: splitOn separator rest := by
  unfold splitOn
  rw [splitOnFrom_append hNone]
  cases separator with
  | nil => exact absurd rfl hSome
  | cons a separator =>
      have hHere : (a :: separator).isPrefixOf (a :: (separator ++ rest)) = true := by
        rw [List.isPrefixOf_iff_prefix, ← List.cons_append]
        exact List.prefix_append _ _
      rw [List.cons_append, splitOnFrom, hHere, if_pos rfl, List.length_cons,
        Nat.add_sub_cancel, splitOnFrom_skip (by simp), List.drop_left]
      simp

/-- Without an occurrence there is one piece. -/
theorem splitOn_of_free {separator text : List α} (hFree : Free separator text) :
    splitOn separator text = [text] := by
  have hNone : NoneStarts separator text [] := by
    intro front back hSame
    exact absurd ⟨front, back, by rw [← hSame, List.append_nil]⟩ hFree
  have hScan : splitOnFrom separator 0 [] (text ++ []) = _ := splitOnFrom_append hNone
  rw [List.append_nil, List.append_nil] at hScan
  unfold splitOn
  rw [hScan, splitOnFrom, List.reverse_reverse]

/-! ## Trimming -/

omit [DecidableEq α] in
/-- Trimming the end stops at an element that is kept. -/
theorem rdropWhile_append (test : α → Bool) (left right : List α) {a : α} (hKept : test a = false) :
    (left ++ [a] ++ right).rdropWhile test = left ++ [a] ++ right.rdropWhile test := by
  unfold List.rdropWhile
  rw [List.reverse_append, List.dropWhile_append]
  split
  · rename_i hAll
    rw [List.isEmpty_iff.mp hAll]
    simp [hKept]
  · simp

end Separators
end Lib
