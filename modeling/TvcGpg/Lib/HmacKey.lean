import Mathlib.Data.List.GetD
import TvcGpg.Lib.Text

/-!
# Keys of a keyed hash

HMAC works on whole blocks.  A key longer than a block is hashed first, and what is
shorter than a block is filled up with zero bytes.  So keys that differ in zero bytes at
their ends only are one and the same key to it, and these are the only keys of at most a
block that it cannot tell apart (`hmacKey_eq_iff`).
-/

namespace Lib
namespace HmacKey

/-- A key filled up with zero bytes to a whole block. -/
def zeroPad (block : Nat) (key : Bytes) : Bytes :=
  key ++ List.replicate (block - key.length) 0

/-- The block HMAC makes of a key. -/
def hmacKey (hash : Bytes → Bytes) (block : Nat) (key : Bytes) : Bytes :=
  zeroPad block (if block < key.length then hash key else key)

variable {hash : Bytes → Bytes} {block : Nat}

theorem hmacKey_of_le {key : Bytes} (hKey : key.length ≤ block) :
    hmacKey hash block key = zeroPad block key := by
  unfold hmacKey
  rw [if_neg (Nat.not_lt.mpr hKey)]

theorem length_zeroPad {key : Bytes} (hKey : key.length ≤ block) :
    (zeroPad block key).length = block := by
  rw [zeroPad, List.length_append, List.length_replicate, Nat.add_sub_of_le hKey]

/-- Filling up a key shows at no position, when what is behind its end counts as zero. -/
theorem getD_zeroPad (key : Bytes) (position : Nat) :
    (zeroPad block key).getD position 0 = key.getD position 0 := by
  unfold zeroPad
  rcases Nat.lt_or_ge position key.length with hInside | hBehind
  · rw [List.getD_append _ _ _ _ hInside]
  · rw [List.getD_append_right _ _ _ _ hBehind, List.getD_eq_default _ _ hBehind,
      List.getD_eq_getElem?_getD, List.getElem?_getD_replicate_default_eq]

/-- Keys of at most a block are the same to HMAC exactly when they differ in zero bytes at
their ends only. -/
theorem hmacKey_eq_iff {first second : Bytes} (hFirst : first.length ≤ block)
    (hSecond : second.length ≤ block) :
    hmacKey hash block first = hmacKey hash block second ↔
      ∀ position, first.getD position 0 = second.getD position 0 := by
  rw [hmacKey_of_le hFirst, hmacKey_of_le hSecond]
  constructor
  · intro hPadded position
    calc first.getD position 0
        = (zeroPad block first).getD position 0 := (getD_zeroPad first position).symm
      _ = (zeroPad block second).getD position 0 := by rw [hPadded]
      _ = second.getD position 0 := getD_zeroPad second position
  · intro hSame
    refine List.ext_getElem (by rw [length_zeroPad hFirst, length_zeroPad hSecond]) ?_
    intro position hLeft hRight
    have hRead :
        (zeroPad block first).getD position 0 = (zeroPad block second).getD position 0 := by
      rw [getD_zeroPad, getD_zeroPad, hSame position]
    rwa [List.getD_eq_getElem _ _ hLeft, List.getD_eq_getElem _ _ hRight] at hRead

end HmacKey
end Lib
