import Mathlib.Data.Nat.Init
import Mathlib.Data.List.Basic

/-!
# Lists cut into chunks

A list is sent in chunks of at most `size` elements. `chunk size xs i` is the chunk number `i` and
`chunkCount size xs` how many there are; the receiver that has appended the first `i` chunks holds
`xs.take (i * size)`.
-/

namespace MeowFrp.Lib

open List

universe u
variable {α : Type u} {size i : Nat} {xs : List α}

/-- The chunk number `i`. -/
def chunk (size : Nat) (xs : List α) (i : Nat) : List α := (xs.drop (i * size)).take size

/-- The number of chunks: the length divided by the size, rounded up. -/
def chunkCount (size : Nat) (xs : List α) : Nat := (xs.length + size - 1) / size

/-- Appending a chunk to the chunks before it. -/
lemma take_append_chunk : xs.take (i * size) ++ chunk size xs i = xs.take ((i + 1) * size) := by
  unfold chunk
  rw [Nat.add_one_mul, take_add]

/-- All chunks together are the list. -/
lemma take_chunkCount (pos : 0 < size) : xs.take (chunkCount size xs * size) = xs := by
  refine take_of_length_le ?_
  unfold chunkCount
  have quotient := Nat.div_add_mod (xs.length + size - 1) size
  have rest := Nat.mod_lt (xs.length + size - 1) pos
  rw [Nat.mul_comm] at quotient
  omega

lemma length_chunk_le : (chunk size xs i).length ≤ size := length_take_le _ _

/-- No chunk is empty. -/
lemma chunk_ne_nil (pos : 0 < size) (h : i < chunkCount size xs) : chunk size xs i ≠ [] := by
  have within : (i + 1) * size ≤ xs.length + size - 1 := (Nat.le_div_iff_mul_le pos).mp h
  rw [Nat.add_one_mul] at within
  refine ne_nil_of_length_pos ?_
  rw [chunk, length_take, length_drop]
  omega

end MeowFrp.Lib
