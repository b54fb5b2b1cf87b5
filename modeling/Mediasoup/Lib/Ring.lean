import Mathlib.Data.Nat.ModEq
import Mathlib.Data.List.Nodup
import Mathlib.Data.List.Perm.Subperm

/-!
# Ring buffers

A buffer of fixed length used in a circle: `contents d buffer i k` are the `k` items from the position `i` on, the newest first. A
new item is written behind them or the newest one overwritten (`contents_push`), and the oldest one leaves when the start moves on
(`contents_succ_oldest`, `contents_set_oldest`).

`round n p k` are the next `k` positions after `p`; a round of `n` comes to each position once (`nodup_round`, `mem_round`).
-/

namespace Mediasoup.Lib.Ring

open List

variable {α : Type*} (d : α)

def contents (buffer : List α) (i : Nat) : Nat → List α
  | 0 => []
  | k + 1 => buffer.getD ((i + k) % buffer.length) d :: contents buffer i k

variable {d} {buffer : List α} {i k p : Nat} {x : α}

@[simp] theorem length_contents : (contents d buffer i k).length = k := by
  induction k with
  | zero => rfl
  | succ k ih => rw [contents, length_cons, ih]

theorem add_mod_inj {n a j k : Nat} (hj : j < n) (hk : k < n) (h : (a + j) % n = (a + k) % n) : j = k :=
  (Nat.ModEq.add_left_cancel' a h).eq_of_lt_of_lt hj hk

theorem contents_set_of_ne (h : ∀ j < k, (i + j) % buffer.length ≠ p) :
    contents d (buffer.set p x) i k = contents d buffer i k := by
  induction k with
  | zero => rfl
  | succ k ih =>
    rw [contents, contents, ih fun j hj => h j (Nat.lt_succ_of_lt hj), length_set, getD_eq_getElem?_getD,
      List.getElem?_set_ne (h k (Nat.lt_succ_self k)).symm, getD_eq_getElem?_getD]

theorem contents_push (hk : k < buffer.length) :
    contents d (buffer.set ((i + k) % buffer.length) x) i (k + 1) = x :: contents d buffer i k := by
  have hpos : (i + k) % buffer.length < buffer.length := Nat.mod_lt _ (Nat.zero_lt_of_lt hk)
  have helse : ∀ j < k, (i + j) % buffer.length ≠ (i + k) % buffer.length := fun j hj heq =>
    absurd (add_mod_inj (Nat.lt_trans hj hk) hk heq) (Nat.ne_of_lt hj)
  rw [contents, length_set, contents_set_of_ne helse, getD_eq_getElem?_getD, List.getElem?_set_self hpos]
  rfl

theorem contents_succ_oldest : contents d buffer i (k + 1) =
    contents d buffer (i + 1) k ++ [buffer.getD (i % buffer.length) d] := by
  induction k with
  | zero => rfl
  | succ k ih => rw [contents, ih, contents, cons_append, Nat.add_right_comm i 1 k, Nat.add_assoc]

theorem contents_set_oldest (hk : k < buffer.length) :
    contents d (buffer.set (i % buffer.length) x) (i + 1) k = contents d buffer (i + 1) k := by
  refine contents_set_of_ne fun j hj heq => ?_
  rw [Nat.add_assoc] at heq
  have hzero : (i + (1 + j)) % buffer.length = (i + 0) % buffer.length := heq
  have := add_mod_inj (by omega) (by omega) hzero
  omega

theorem contents_mod : contents d buffer (i % buffer.length) k = contents d buffer i k := by
  induction k with
  | zero => rfl
  | succ k ih => rw [contents, contents, ih, Nat.mod_add_mod]

theorem contents_push_full (hn : 0 < buffer.length) : contents d (buffer.set (i % buffer.length) x) (i + 1) buffer.length =
      (x :: contents d buffer i buffer.length).take buffer.length := by
  obtain ⟨m, hm⟩ := Nat.exists_eq_succ_of_ne_zero hn.ne'
  have hpos : (i + 1 + m) % buffer.length = i % buffer.length := by
    rw [Nat.add_assoc, Nat.add_comm 1 m, ← Nat.succ_eq_add_one, ← hm, Nat.add_mod_right]
  have hpush := contents_push (d := d) (i := i + 1) (x := x) (show m < buffer.length by omega)
  rw [hpos] at hpush
  rw [hm] at hpush ⊢
  rw [hpush, take_succ_cons, contents_succ_oldest, take_left' length_contents]

theorem getD_contents {j : Nat} (hj : j < k) :
    (contents d buffer i k).getD j d = buffer.getD ((i + (k - 1 - j)) % buffer.length) d := by
  induction k generalizing j with
  | zero => omega
  | succ k ih =>
    rw [contents]
    cases j with
    | zero => rfl
    | succ j =>
      rw [getD_cons_succ, ih (by omega), show k + 1 - 1 - (j + 1) = k - 1 - j by omega]

/-! ## Rounds -/

def round (n p : Nat) : Nat → List Nat
  | 0 => []
  | k + 1 => (p + 1) % n :: round n ((p + 1) % n) k

variable {n q : Nat}

theorem round_eq_map (n p k : Nat) : round n p k = (List.range k).map fun j => (p + 1 + j) % n := by
  induction k generalizing p with
  | zero => rfl
  | succ k ih =>
    rw [round, ih, range_succ_eq_map, map_cons, map_map]
    refine cons_eq_cons.mpr ⟨rfl, map_congr_left fun j _ => ?_⟩
    rw [Function.comp_apply, Nat.succ_eq_add_one, Nat.add_assoc, Nat.mod_add_mod]
    congr 1
    omega

theorem nodup_round (p : Nat) (hk : k ≤ n) : (round n p k).Nodup := by
  rw [round_eq_map]
  refine List.Nodup.map_on ?_ nodup_range
  intro i hi j hj heq
  rw [mem_range] at hi hj
  exact add_mod_inj (by omega) (by omega) heq

/-- **A whole round** comes to every position. -/
theorem mem_round (p : Nat) (hn : 0 < n) : q ∈ round n p n ↔ q < n := by
  have hsub : round n p n ⊆ List.range n := by
    intro x hx
    rw [round_eq_map] at hx
    obtain ⟨j, -, rfl⟩ := mem_map.mp hx
    exact mem_range.mpr (Nat.mod_lt _ hn)
  have hperm : (round n p n).Perm (List.range n) := by
    refine ((nodup_round p (Nat.le_refl n)).subperm hsub).perm_of_length_le ?_
    rw [round_eq_map, length_map]
  rw [hperm.mem_iff, mem_range]

end Mediasoup.Lib.Ring
