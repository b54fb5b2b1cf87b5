import Mathlib.Algebra.Order.Ring.Nat
import Mathlib.Data.List.Basic

/-!
# Samples counted in slots of time

Samples, each with a size and a time, are counted in slots: a sample goes into the newest slot if that one is less than `s` old,
and otherwise into one of its own (`add`). Slots leave in the order of their times (`expire`). From the first time that `expire`
has not reached on, what the slots of later times count lies between the samples of later times and those at least `s` later
(`Brackets`).
-/

namespace Mediasoup.Lib

open List

structure Slot where
  count : Nat := 0
  time : Nat := 0
  deriving DecidableEq

namespace Slots

def total (slots : List Slot) : Nat := (slots.map (·.count)).sum

def expire (θ : Nat) (slots : List Slot) : List Slot := slots.filter (θ < ·.time)

def add (s t size : Nat) : List Slot → List Slot
  | [] => [⟨size, t⟩]
  | x :: slots => if x.time + s ≤ t then ⟨size, t⟩ :: x :: slots else { x with count := x.count + size } :: slots

def Spaced (s : Nat) (slots : List Slot) : Prop := slots.Pairwise fun x y => y.time + s ≤ x.time

variable {s t h θ : Nat} {slots : List Slot}

@[simp] theorem total_nil : total [] = 0 := rfl

@[simp] theorem total_cons (x : Slot) (slots : List Slot) : total (x :: slots) = x.count + total slots := sum_cons

@[simp] theorem total_append (slots slots' : List Slot) : total (slots ++ slots') = total slots + total slots' := by
  rw [total, map_append, sum_append]
  rfl

theorem total_add (s t size : Nat) (slots : List Slot) : total (add s t size slots) = total slots + size := by
  cases slots with
  | nil => simp [add]
  | cons x slots =>
    rw [add]
    split
    · simp only [total_cons]
      omega
    · simp only [total_cons]
      omega

theorem total_expire_le (θ : Nat) (slots : List Slot) : total (expire θ slots) ≤ total slots := by
  induction slots with
  | nil => exact Nat.le_refl _
  | cons x slots ih =>
    rw [expire, filter_cons]
    split
    · exact Nat.add_le_add_left ih _
    · exact Nat.le_add_left_of_le ih

theorem Spaced.add (hs : Spaced s slots) (t size : Nat) : Spaced s (add s t size slots) := by
  cases slots with
  | nil => exact pairwise_singleton _ _
  | cons x slots =>
    obtain ⟨hx, hslots⟩ := pairwise_cons.mp hs
    rw [Slots.add]
    split
    · rename_i hold
      refine pairwise_cons.mpr ⟨fun y hy => ?_, hs⟩
      rcases mem_cons.mp hy with rfl | hy
      · exact hold
      · have := hx y hy
        show y.time + s ≤ t
        omega
    · exact pairwise_cons.mpr ⟨hx, hslots⟩

theorem Spaced.length_mul_le {x : Slot} (hs : Spaced s (x :: slots)) (hθ : ∀ y ∈ x :: slots, θ < y.time) :
    θ + 1 + slots.length * s ≤ x.time := by
  induction slots generalizing x with
  | nil =>
    have := hθ x mem_cons_self
    simp only [length_nil]
    omega
  | cons y slots ih =>
    obtain ⟨hx, hslots⟩ := pairwise_cons.mp hs
    have hle := ih hslots fun z hz => hθ z (mem_cons_of_mem _ hz)
    have hxy := hx y mem_cons_self
    rw [length_cons, Nat.succ_mul]
    omega

theorem expire_append_of_le {x : Slot} (hx : x.time ≤ θ) (slots : List Slot) : expire θ (slots ++ [x]) = expire θ slots := by
  rw [expire, filter_append, filter_cons_of_neg (by simpa using hx), filter_nil, append_nil]
  rfl

theorem Spaced.expire_of_lt {x : Slot} (hs : Spaced s (slots ++ [x])) (hx : θ < x.time) :
    Slots.expire θ (slots ++ [x]) = slots ++ [x] := by
  refine filter_eq_self.mpr fun y hy => decide_eq_true ?_
  rcases mem_append.mp hy with hy | hy
  · have := (pairwise_append.mp hs).2.2 y hy x mem_cons_self
    omega
  · rw [mem_singleton.mp hy]
    exact hx

theorem Spaced.expire_of_newest_le {x : Slot} (hs : Spaced s (x :: slots)) (hx : x.time ≤ θ) :
    Slots.expire θ (x :: slots) = [] := by
  refine filter_eq_nil_iff.mpr fun y hy => ?_
  rcases mem_cons.mp hy with rfl | hy
  · simpa using hx
  · have := (pairwise_cons.mp hs).1 y hy
    simp only [decide_eq_true_eq]
    omega

theorem expire_expire {θ θ' : Nat} (hle : θ ≤ θ') (slots : List Slot) : expire θ' (expire θ slots) = expire θ' slots := by
  rw [expire, expire, filter_filter]
  refine filter_congr fun x _ => ?_
  rw [Bool.and_eq_left_iff_imp]
  intro hx
  simp only [decide_eq_true_eq] at hx ⊢
  omega

/-! ## Samples -/

def sizes (p : Nat → Bool) (samples : List (Nat × Nat)) : Nat := ((samples.filter (p ·.2)).map (·.1)).sum

theorem sizes_append (p : Nat → Bool) (samples samples' : List (Nat × Nat)) :
    sizes p (samples ++ samples') = sizes p samples + sizes p samples' := by
  rw [sizes, filter_append, map_append, sum_append]
  rfl

theorem sizes_singleton (p : Nat → Bool) (size t : Nat) : sizes p [(size, t)] = if p t then size else 0 := by
  rw [sizes, filter_cons, filter_nil]
  cases p t <;> rfl

def Brackets (s h : Nat) (slots : List Slot) (samples : List (Nat × Nat)) : Prop :=
  ∀ θ, h ≤ θ → sizes (θ + s ≤ ·) samples ≤ total (expire θ slots) ∧ total (expire θ slots) ≤ sizes (θ < ·) samples

theorem brackets_nil (s h : Nat) : Brackets s h [] [] := fun _ _ => ⟨Nat.le_refl _, Nat.le_refl _⟩

theorem Brackets.expire {samples : List (Nat × Nat)} (hb : Brackets s h slots samples) (hθ : h ≤ θ) :
    Brackets s θ (Slots.expire θ slots) samples := by
  intro θ' hle
  rw [expire_expire hle]
  exact hb θ' (Nat.le_trans hθ hle)

/-- The time of the slot into which a sample goes. -/
def timeOf (s t : Nat) : List Slot → Nat
  | [] => t
  | x :: _ => if x.time + s ≤ t then t else x.time

theorem timeOf_bounds (hs : 0 < s) (ht : ∀ x ∈ slots, x.time ≤ t) : timeOf s t slots ≤ t ∧ t < timeOf s t slots + s := by
  cases slots with
  | nil =>
    show t ≤ t ∧ t < t + s
    omega
  | cons x slots =>
    have hx := ht x mem_cons_self
    rw [timeOf]
    split <;> omega

theorem total_expire_add (s t size : Nat) (slots : List Slot) (θ : Nat) : total (expire θ (add s t size slots)) =
    total (expire θ slots) + if θ < timeOf s t slots then size else 0 := by
  cases slots with
  | nil =>
    rw [add, expire, filter_cons, timeOf]
    by_cases hθ : θ < t <;> simp [hθ, expire]
  | cons x slots =>
    rw [add, timeOf]
    by_cases hnew : x.time + s ≤ t
    · rw [if_pos hnew, if_pos hnew, expire, filter_cons]
      by_cases hθ : θ < t
      · rw [if_pos (decide_eq_true hθ), if_pos hθ, total_cons, Nat.add_comm]
        rfl
      · rw [if_neg (by simpa using hθ), if_neg hθ]
        rfl
    rw [if_neg hnew, if_neg hnew, expire, expire, filter_cons, filter_cons]
    by_cases hθ : θ < x.time
    · rw [if_pos (decide_eq_true hθ), if_pos (decide_eq_true hθ), if_pos hθ, total_cons, total_cons, Nat.add_right_comm]
    · rw [if_neg (by simpa using hθ), if_neg (by simpa using hθ), if_neg hθ, Nat.add_zero]

theorem Brackets.add {samples : List (Nat × Nat)} (hb : Brackets s h slots samples) (hs : 0 < s)
    (ht : ∀ x ∈ slots, x.time ≤ t) (size : Nat) :
    Brackets s h (Slots.add s t size slots) (samples ++ [(size, t)]) := by
  intro θ hθ
  obtain ⟨hlower, hupper⟩ := hb θ hθ
  obtain ⟨hle, hlt⟩ := timeOf_bounds hs ht
  rw [total_expire_add, sizes_append, sizes_append, sizes_singleton, sizes_singleton]
  simp only [decide_eq_true_eq]
  constructor
  · by_cases hge : θ + s ≤ t
    · rw [if_pos hge, if_pos (by omega)]
      omega
    · rw [if_neg hge]
      omega
  · by_cases hin : θ < timeOf s t slots
    · rw [if_pos hin, if_pos (Nat.lt_of_lt_of_le hin hle)]
      omega
    · rw [if_neg hin]
      omega

end Slots

end Mediasoup.Lib
