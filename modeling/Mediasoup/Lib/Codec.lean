import Mathlib.Algebra.Order.Ring.Nat
import Mathlib.Data.List.Basic

/-!
# Values that are read one after the other

The loop of a parser of variable length: a value is read at a cursor, the cursor moves by its size, and the loop ends at the first
refusal (`readMany`). What was written value by value is read back exactly when every value is read back in front of those that
follow it (`readMany_eq_iff`), and what is read lies within the data (`sum_size_readMany_le`).
-/

namespace Mediasoup.Lib

open List

variable {α β : Type}

def readMany (parse : List β → Option α) (size : α → Nat) : Nat → List β → List α
  | 0, _ => []
  | n + 1, data =>
    match parse data with
    | none => []
    | some a => a :: readMany parse size n (data.drop (size a))

def ReadsBack (parse : List β → Option α) (serialize : α → List β) (tail : List β) : List α → Prop
  | [] => True
  | a :: as => parse (serialize a ++ (as.flatMap serialize ++ tail)) = some a ∧ ReadsBack parse serialize tail as

section

variable {parse : List β → Option α} {size : α → Nat} {serialize : α → List β} {tail : List β}

theorem readMany_of_none {n : Nat} {data : List β} (h : parse data = none) : readMany parse size n data = [] := by
  cases n with
  | zero => rfl
  | succ n => simp only [readMany, h]

theorem readMany_of_some {n : Nat} {data : List β} {a : α} (h : parse data = some a) :
    readMany parse size (n + 1) data = a :: readMany parse size n (data.drop (size a)) := by
  simp only [readMany, h]

variable (parse size) in
theorem length_readMany_le (n : Nat) (data : List β) : (readMany parse size n data).length ≤ n := by
  induction n generalizing data with
  | zero => exact Nat.le_refl 0
  | succ n ih =>
    cases hp : parse data with
    | none =>
      rw [readMany_of_none hp]
      exact Nat.zero_le _
    | some a =>
      rw [readMany_of_some hp]
      exact Nat.succ_le_succ (ih _)

variable (size) in
theorem readMany_eq_nil_iff {n : Nat} {data : List β} : readMany parse size (n + 1) data = [] ↔ parse data = none := by
  constructor
  · intro h
    cases hp : parse data with
    | none => rfl
    | some a =>
      simp [readMany_of_some hp] at h
  · exact readMany_of_none

/-- Where every value takes something of the data, more rounds than the data is long change nothing. -/
theorem readMany_eq_of_le (hpos : ∀ data a, parse data = some a → 0 < size a) (hnil : parse [] = none) {n m : Nat}
    {data : List β} (hn : data.length ≤ n) (hm : data.length ≤ m) :
    readMany parse size n data = readMany parse size m data := by
  induction n generalizing m data with
  | zero =>
    rw [length_eq_zero_iff.mp (Nat.le_zero.mp hn), readMany_of_none hnil, readMany_of_none hnil]
  | succ n ih =>
    cases hp : parse data with
    | none => rw [readMany_of_none hp, readMany_of_none hp]
    | some a =>
      have ha := hpos data a hp
      cases m with
      | zero =>
        simp [length_eq_zero_iff.mp (Nat.le_zero.mp hm), hnil] at hp
      | succ m =>
        rw [readMany_of_some hp, readMany_of_some hp]
        rw [@ih m (data.drop (size a)) (by rw [length_drop]; omega) (by rw [length_drop]; omega)]

variable (hsize : ∀ a, (serialize a).length = size a)
include hsize

theorem readMany_append {as : List α} (hback : ReadsBack parse serialize tail as) (n : Nat) :
    readMany parse size (as.length + n) (as.flatMap serialize ++ tail) = as ++ readMany parse size n tail := by
  induction as with
  | nil => simp
  | cons a as ih =>
    rw [length_cons, Nat.add_right_comm, flatMap_cons, append_assoc, readMany_of_some hback.1,
      ← hsize, drop_left, ih hback.2, cons_append]

theorem readMany_eq_iff (as : List α) {n : Nat} (hend : readMany parse size n tail = []) :
    readMany parse size (as.length + n) (as.flatMap serialize ++ tail) = as ↔ ReadsBack parse serialize tail as := by
  constructor
  · induction as with
    | nil => exact fun _ => trivial
    | cons a as ih =>
      intro h
      rw [length_cons, Nat.add_right_comm, flatMap_cons, append_assoc] at h
      cases hp : parse (serialize a ++ (as.flatMap serialize ++ tail)) with
      | none =>
        simp [readMany_of_none hp] at h
      | some b =>
        rw [readMany_of_some hp, List.cons.injEq] at h
        obtain ⟨rfl, h⟩ := h
        rw [← hsize, drop_left] at h
        exact ⟨hp, ih h⟩
  · intro hback
    rw [readMany_append hsize hback, hend, append_nil]

omit hsize

variable (serialize) in
theorem length_le_length_flatMap (hpos : ∀ a, 0 < (serialize a).length) (as : List α) :
    as.length ≤ (as.flatMap serialize).length := by
  induction as with
  | nil => exact Nat.le_refl _
  | cons a as ih =>
    have ha := hpos a
    rw [flatMap_cons, length_append, length_cons]
    omega

variable (parse size) in
/-- The values read take no more than the data, where sizes and data come in units of `u`. -/
theorem sum_size_readMany_le {u : Nat} (hstep : ∀ data a, u ∣ data.length → parse data = some a →
    size a ≤ data.length ∧ u ∣ size a) (n : Nat) (data : List β) (hdata : u ∣ data.length) :
    ((readMany parse size n data).map size).sum ≤ data.length := by
  induction n generalizing data with
  | zero => exact Nat.zero_le _
  | succ n ih =>
    cases hp : parse data with
    | none =>
      rw [readMany_of_none hp]
      exact Nat.zero_le _
    | some a =>
      obtain ⟨hle, hunit⟩ := hstep data a hdata hp
      have hrest := ih (data.drop (size a)) (by rw [length_drop]; exact Nat.dvd_sub hdata hunit)
      rw [readMany_of_some hp, map_cons, sum_cons]
      rw [length_drop] at hrest
      omega

end

end Mediasoup.Lib
