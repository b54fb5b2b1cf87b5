import Mathlib.Data.List.Basic

/-!
# Memory

A block of memory as a list, read and written at offsets; a write that would leave the block is refused. Each operation has
its rule for a block that is cut at the offset.
-/

namespace Mediasoup.Lib.Memory

open List

variable {β : Type*}

def slice (m : List β) (i n : Nat) : List β := (m.drop i).take n

def write (m : List β) (i : Nat) (bytes : List β) : Option (List β) :=
  if i + bytes.length ≤ m.length then some (m.take i ++ (bytes ++ m.drop (i + bytes.length))) else none

/-- `memmove` of the `n` bytes at `src`. -/
def move (m : List β) (dst : Int) (src n : Nat) : Option (List β) :=
  if 0 ≤ dst ∧ src + n ≤ m.length then write m dst.toNat (slice m src n) else none

variable {a b c bytes : List β} {m m' : List β} {i n : Nat}

theorem slice_append_left : slice (a ++ (b ++ c)) a.length b.length = b := by
  rw [slice, drop_left, take_left]

theorem slice_append_add : slice (a ++ c) (a.length + i) n = slice c i n := by
  rw [slice, slice, ← drop_drop, drop_left]

theorem getD_append_add {d : β} : (a ++ c).getD (a.length + i) d = c.getD i d := by
  rw [getD_eq_getElem?_getD, List.getElem?_append_right (Nat.le_add_right _ _), Nat.add_sub_cancel_left, getD_eq_getElem?_getD]

theorem getElem?_slice {j : Nat} (h : j < n) : (slice m i n)[j]? = m[i + j]? := by
  rw [slice, List.getElem?_take_of_lt h, List.getElem?_drop]

theorem write_append (h : b.length = bytes.length) : write (a ++ (b ++ c)) a.length bytes = some (a ++ (bytes ++ c)) := by
  have hfits : a.length + bytes.length ≤ (a ++ (b ++ c)).length := by
    simp only [length_append]
    omega
  rw [write, if_pos hfits, take_left, ← drop_drop, drop_left, ← h, drop_left]

theorem length_slice (h : i + n ≤ m.length) : (slice m i n).length = n := by
  rw [slice, length_take, length_drop]
  omega

theorem move_eq_some_iff {d : Nat} : move m d i n = some m' ↔
    (i + n ≤ m.length ∧ d + n ≤ m.length) ∧ m' = m.take d ++ (slice m i n ++ m.drop (d + n)) := by
  rw [move, Int.toNat_natCast, write]
  by_cases hsrc : i + n ≤ m.length
  · rw [length_slice hsrc, if_pos ⟨Int.natCast_nonneg d, hsrc⟩, Option.ite_none_right_eq_some, Option.some_inj]
    simp only [hsrc, true_and, eq_comm]
  · rw [if_neg fun h => hsrc h.2]
    simp [hsrc]

theorem move_append {d : Nat} (hfits : d + b.length ≤ (a ++ (b ++ c)).length) : move (a ++ (b ++ c)) d a.length b.length =
      some ((a ++ (b ++ c)).take d ++ (b ++ (a ++ (b ++ c)).drop (d + b.length))) := by
  have hsrc : a.length + b.length ≤ (a ++ (b ++ c)).length := by
    simp only [length_append]
    omega
  rw [move, if_pos ⟨Int.natCast_nonneg d, hsrc⟩, slice_append_left, Int.toNat_natCast, write, if_pos hfits]

end Mediasoup.Lib.Memory
