import Mathlib.Data.List.Basic

/-!
# Batches

A list cut into batches of at most `max` elements, as a loop does that opens a new batch once the current one is full. No
element is lost between the batches (`flatten_batches`).
-/

namespace Mediasoup.Lib

open List

variable {α : Type*} {max : Nat}

/-- The elements after `batch`, which is the batch being filled. -/
def batchesFrom (max : Nat) : List α → List α → List (List α)
  | batch, [] => [batch]
  | batch, a :: as => if batch.length = max then batch :: batchesFrom max [a] as else batchesFrom max (batch ++ [a]) as

def batches (max : Nat) : List α → List (List α)
  | [] => []
  | a :: as => batchesFrom max [a] as

theorem flatten_batchesFrom (as batch : List α) : (batchesFrom max batch as).flatten = batch ++ as := by
  induction as generalizing batch with
  | nil => simp [batchesFrom]
  | cons a as ih =>
    rw [batchesFrom]
    split
    · rw [flatten_cons, ih, singleton_append]
    · rw [ih, append_assoc, singleton_append]

theorem flatten_batches (as : List α) : (batches max as).flatten = as := by
  cases as with
  | nil => rfl
  | cons a as => exact flatten_batchesFrom as [a]

theorem length_le_of_mem_batchesFrom (hmax : 0 < max) {as b : List α} (batch : List α) (hbatch : batch.length ≤ max)
    (hb : b ∈ batchesFrom max batch as) : b.length ≤ max := by
  induction as generalizing batch with
  | nil =>
    rw [batchesFrom, mem_singleton] at hb
    rw [hb]
    exact hbatch
  | cons a as ih =>
    rw [batchesFrom] at hb
    split at hb
    · rcases mem_cons.mp hb with rfl | hb
      · exact hbatch
      · exact ih [a] hmax hb
    · refine ih _ ?_ hb
      rw [length_append, length_singleton]
      omega

theorem length_le_of_mem_batches (hmax : 0 < max) {as b : List α} (hb : b ∈ batches max as) : b.length ≤ max := by
  cases as with
  | nil => cases hb
  | cons a as => exact length_le_of_mem_batchesFrom hmax [a] hmax hb

theorem length_batchesFrom (hmax : 0 < max) (as batch : List α) (hbatch : batch ≠ []) (hfits : batch.length ≤ max) :
    (batchesFrom max batch as).length = (batch.length + as.length - 1) / max + 1 := by
  have hpos := length_pos_of_ne_nil hbatch
  induction as generalizing batch with
  | nil =>
    rw [length_nil, Nat.add_zero, Nat.div_eq_of_lt (by omega)]
    rfl
  | cons a as ih =>
    rw [batchesFrom]
    split
    · rename_i hfull
      have hrest := ih [a] (cons_ne_nil _ _) hmax (Nat.succ_pos 0)
      rw [length_singleton, Nat.add_sub_cancel_left] at hrest
      rw [length_cons, length_cons, hfull, show max + (as.length + 1) - 1 = as.length + max by omega,
        Nat.add_div_right _ hmax, hrest]
    have hrest := ih (batch ++ [a]) (append_ne_nil_of_right_ne_nil _ (cons_ne_nil _ _))
      (by rw [length_append, length_singleton]; omega) (by rw [length_append, length_singleton]; omega)
    rw [length_append, length_singleton] at hrest
    rw [length_cons, show batch.length + (as.length + 1) - 1 = batch.length + 1 + as.length - 1 by omega]
    exact hrest

theorem length_batches (hmax : 0 < max) (as : List α) : (batches max as).length = (as.length + max - 1) / max := by
  cases as with
  | nil =>
    rw [length_nil, Nat.zero_add, Nat.div_eq_of_lt (by omega)]
    rfl
  | cons a as =>
    have h := length_batchesFrom hmax as [a] (cons_ne_nil _ _) hmax
    rw [length_singleton, Nat.add_sub_cancel_left] at h
    rw [length_cons, show as.length + 1 + max - 1 = as.length + max by omega, Nat.add_div_right _ hmax]
    exact h

end Mediasoup.Lib
