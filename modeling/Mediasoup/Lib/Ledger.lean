import Mathlib.Data.List.Basic

/-!
# Ledgers of what is added and removed

Announcements that something is added or removed, in the order they are made. `held` is what is there after them: a removal of
what is not there is an error. Over a whole ledger, the additions of a value are its removals and what is left of it
(`count_added`).
-/

namespace Mediasoup.Lib

open List

inductive Entry (α : Type*)
  | added (a : α)
  | removed (a : α)
  deriving DecidableEq

namespace Ledger

variable {α : Type*} [DecidableEq α]

variable (l : List α)

def hold : Entry α → Option (List α)
  | .added a => some (a :: l)
  | .removed a => if a ∈ l then some (l.erase a) else none

def held (l : List α) : List (Entry α) → Option (List α)
  | [] => some l
  | e :: es => (hold l e).bind fun l' => held l' es

@[simp] theorem held_nil : held l [] = some l := rfl

@[simp] theorem held_added (a : α) (es : List (Entry α)) : held l (.added a :: es) = held (a :: l) es := rfl

theorem held_removed {l : List α} {a : α} (h : a ∈ l) (es : List (Entry α)) :
    held l (.removed a :: es) = held (l.erase a) es := by
  rw [held, hold, if_pos h]
  rfl

theorem held_removed_second (b a : α) (es : List (Entry α)) : held [b, a] (.removed a :: es) = held [b] es := by
  have herase : [b, a].erase a = [b] := by
    by_cases heq : b = a
    · rw [heq, erase_cons_head]
    · rw [erase_cons_tail (by simpa using heq), erase_cons_head]
  rw [held_removed (mem_cons_of_mem b mem_cons_self), herase]

theorem held_append (es fs : List (Entry α)) : held l (es ++ fs) = (held l es).bind fun l' => held l' fs := by
  induction es generalizing l with
  | nil => rfl
  | cons e es ih =>
    rw [cons_append, held, held]
    cases hold l e with
    | none => rfl
    | some l' => exact ih l'

theorem held_append_of_some {l l' : List α} {es : List (Entry α)} (h : held l es = some l') (fs : List (Entry α)) :
    held l (es ++ fs) = held l' fs := by
  rw [held_append, h]
  rfl

theorem held_removed_all : held l (l.map .removed) = some [] := by
  induction l with
  | nil => rfl
  | cons a l ih => rw [map_cons, held_removed mem_cons_self, erase_cons_head, ih]

theorem count_added {l l' : List α} {es : List (Entry α)} (h : held l es = some l') (a : α) :
    es.count (.added a) + l.count a = es.count (.removed a) + l'.count a := by
  induction es generalizing l with
  | nil =>
    cases h
    rfl
  | cons e es ih =>
    cases e with
    | added b =>
      have hrest := ih h
      simp only [count_cons, Entry.added.injEq, beq_iff_eq, reduceCtorEq, if_false] at hrest ⊢
      omega
    | removed b =>
      by_cases hb : b ∈ l
      · rw [held_removed hb] at h
        have hrest := ih h
        have hcount : l.count a = (l.erase b).count a + if b = a then 1 else 0 := by
          by_cases hab : b = a
          · subst hab
            have hpos := count_pos_iff.mpr hb
            rw [count_erase_self, if_pos rfl]
            omega
          · rw [count_erase_of_ne (fun h => hab h.symm), if_neg hab, Nat.add_zero]
        simp only [count_cons, Entry.removed.injEq, beq_iff_eq, reduceCtorEq, if_false] at hrest ⊢
        omega
      · simp [held, hold, if_neg hb] at h

end Ledger

end Mediasoup.Lib
