import Mathlib.Data.List.Infix

/-!
# Text buffers that grow

A growing text lives in memory reserved for it.  Text that does not fit in there any more
is moved to a larger piece of memory, and a copy of what was written so far is left behind
in the old one.  A buffer here keeps those copies, so that a program can be said to leave
none.

All that is written in turn fits when it fits as a whole, and then the buffer is not moved
on the way (`pushAll_withCapacity`).
-/

namespace Lib
namespace Buffers

/-- A text in the memory reserved for it, with the copies left behind elsewhere. -/
structure TextBuffer where
  text : String
  capacity : Nat
  copies : List String
  fits : text.utf8ByteSize ≤ capacity
  deriving DecidableEq

namespace TextBuffer

/-- An empty text with memory reserved for it. -/
def withCapacity (capacity : Nat) : TextBuffer :=
  { text := "", capacity, copies := [], fits := Nat.zero_le capacity }

/-- What is reserved when `needed` bytes do not fit: twice as much, or as much as is needed,
and never less than eight bytes. -/
def grownCapacity (capacity needed : Nat) : Nat :=
  max (max (2 * capacity) needed) 8

/-- Write a piece of text behind the text. -/
def push (buffer : TextBuffer) (piece : String) : TextBuffer :=
  if hFits : (buffer.text ++ piece).utf8ByteSize ≤ buffer.capacity then
    { buffer with text := buffer.text ++ piece, fits := hFits }
  else
    { text := buffer.text ++ piece
      capacity := grownCapacity buffer.capacity (buffer.text ++ piece).utf8ByteSize
      copies := buffer.copies ++ [buffer.text]
      fits := (Nat.le_max_right _ _).trans (Nat.le_max_left _ _) }

/-- Write some pieces of text in turn. -/
def pushAll (buffer : TextBuffer) (pieces : List String) : TextBuffer :=
  pieces.foldl push buffer

variable {buffer : TextBuffer} {piece : String} {pieces : List String}

@[simp]
theorem text_push : (buffer.push piece).text = buffer.text ++ piece := by
  unfold push
  split
  · rfl
  · rfl

theorem push_of_fits (hFits : (buffer.text ++ piece).utf8ByteSize ≤ buffer.capacity) :
    (buffer.push piece).capacity = buffer.capacity ∧
      (buffer.push piece).copies = buffer.copies := by
  unfold push
  rw [dif_pos hFits]
  exact ⟨rfl, rfl⟩

theorem pushAll_append (front back : List String) :
    buffer.pushAll (front ++ back) = (buffer.pushAll front).pushAll back :=
  List.foldl_append

@[simp]
theorem text_pushAll : (buffer.pushAll pieces).text = buffer.text ++ String.join pieces := by
  induction pieces generalizing buffer with
  | nil => rw [String.join_nil, String.append_empty]; rfl
  | cons piece pieces ih =>
      show ((buffer.push piece).pushAll pieces).text = _
      rw [ih, text_push, String.join_cons, String.append_assoc]

/-- Pieces that fit as a whole do not move the buffer. -/
theorem pushAll_of_fits
    (hFits : (buffer.text ++ String.join pieces).utf8ByteSize ≤ buffer.capacity) :
    (buffer.pushAll pieces).capacity = buffer.capacity ∧
      (buffer.pushAll pieces).copies = buffer.copies := by
  induction pieces generalizing buffer with
  | nil => exact ⟨rfl, rfl⟩
  | cons piece pieces ih =>
      rw [String.join_cons, ← String.append_assoc] at hFits
      have hPiece : (buffer.text ++ piece).utf8ByteSize ≤ buffer.capacity := by
        rw [String.utf8ByteSize_append] at hFits
        omega
      obtain ⟨hCapacity, hCopies⟩ := push_of_fits hPiece
      rw [← hCapacity, ← hCopies]
      exact ih (by rwa [text_push, hCapacity])

/-- Where all of the pieces fit in what is reserved, so do the first ones of them, and the
buffer is the reserved one throughout. -/
theorem pushAll_withCapacity {capacity : Nat}
    (hFits : (String.join pieces).utf8ByteSize ≤ capacity) {written : List String}
    (hWritten : written <+: pieces) :
    ((withCapacity capacity).pushAll written).text.utf8ByteSize ≤ capacity ∧
      ((withCapacity capacity).pushAll written).capacity = capacity ∧
        ((withCapacity capacity).pushAll written).copies = [] := by
  obtain ⟨rest, rfl⟩ := hWritten
  have hPart : ("" ++ String.join written).utf8ByteSize ≤ capacity := by
    rw [String.join_append, String.utf8ByteSize_append] at hFits
    rw [String.empty_append]
    omega
  refine ⟨?_, pushAll_of_fits hPart⟩
  rw [text_pushAll]
  exact hPart

end TextBuffer
end Buffers
end Lib
