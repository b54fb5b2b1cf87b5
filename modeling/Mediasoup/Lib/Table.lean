import Mathlib.Data.List.AList

/-!
# Hash tables

A hash table is an association list without duplicate keys (`AList`). What the list does not give is the order in which
a hash table is walked: it is unspecified and may change with every insertion, so that code which walks a table takes an
`Order`.
-/

namespace Mediasoup.Lib

open List

abbrev Table (κ α : Type) := AList fun _ : κ => α

structure Order (α : Type) where
  arrange : List α → List α
  perm : ∀ l, (arrange l).Perm l

instance {α : Type} : Inhabited (Order α) := ⟨⟨id, fun l => List.Perm.refl l⟩⟩

namespace Table

variable {κ α : Type}

def values (t : Table κ α) : List α := t.entries.map Sigma.snd

def walk (t : Table κ α) (order : Order α) : List α := order.arrange t.values

def withoutValue [DecidableEq α] (t : Table κ α) (a : α) : Table κ α :=
  ⟨t.entries.filter fun e => e.2 ≠ a, t.nodupKeys.sublist filter_sublist⟩

variable [DecidableEq κ]

def insertAll (t : Table κ α) (entries : List (κ × α)) : Table κ α := entries.foldl (fun t e => t.insert e.1 e.2) t

variable {t : Table κ α} {a : α}

theorem mem_values : a ∈ t.values ↔ ∃ k, t.lookup k = some a := by
  constructor
  · intro h
    obtain ⟨⟨k, b⟩, hmem, rfl⟩ := mem_map.mp h
    exact ⟨k, AList.mem_lookup_iff.mpr hmem⟩
  · rintro ⟨k, h⟩
    exact mem_map.mpr ⟨⟨k, a⟩, AList.mem_lookup_iff.mp h, rfl⟩

theorem mem_walk {order : Order α} : a ∈ t.walk order ↔ ∃ k, t.lookup k = some a := by
  rw [walk, (order.perm t.values).mem_iff, mem_values]

theorem lookup_insert_iff {k k' : κ} {a b : α} :
    (t.insert k a).lookup k' = some b ↔ (k' = k ∧ a = b) ∨ (k' ≠ k ∧ t.lookup k' = some b) := by
  by_cases h : k' = k
  · subst h
    simp
  · simp [h]

theorem lookup_insert_of_fresh {k k' : κ} {a b : α} (hnew : t.lookup k = none)
    (h : t.lookup k' = some b) : (t.insert k a).lookup k' = some b := by
  refine lookup_insert_iff.mpr (.inr ⟨?_, h⟩)
  rintro rfl
  simp [hnew] at h

variable {k : κ}

theorem lookup_withoutValue [DecidableEq α] {a b : α} : (t.withoutValue a).lookup k = some b ↔ t.lookup k = some b ∧ b ≠ a := by
  have hmem : ∀ (t : Table κ α), t.lookup k = some b ↔ (⟨k, b⟩ : Sigma fun _ : κ => α) ∈ t.entries :=
    fun t => AList.mem_lookup_iff
  rw [hmem, hmem]
  simp [withoutValue]

theorem withoutValue_eq_self [DecidableEq α] (h : ∀ k, t.lookup k ≠ some a) : t.withoutValue a = t := by
  refine AList.ext (filter_eq_self.mpr ?_)
  rintro ⟨k, b⟩ hmem
  rw [decide_eq_true_eq]
  rintro rfl
  exact h k (AList.mem_lookup_iff.mpr hmem)

theorem withoutValue_insert [DecidableEq α] (h : t.lookup k = none) : withoutValue (t.insert k a) a = t.withoutValue a := by
  have hentries : (t.insert k a).entries = ⟨k, a⟩ :: t.entries :=
    AList.entries_insert_of_notMem (AList.lookup_eq_none.mp h)
  refine AList.ext ?_
  simp only [withoutValue, hentries]
  exact filter_cons_of_neg (by simp)

variable {entries : List (κ × α)}

theorem of_lookup_insertAll
    (h : (t.insertAll entries).lookup k = some a) : (k, a) ∈ entries ∨ t.lookup k = some a := by
  induction entries generalizing t with
  | nil => exact .inr h
  | cons e entries ih =>
    rcases ih h with hlater | hhere
    · exact .inl (mem_cons_of_mem _ hlater)
    · rcases lookup_insert_iff.mp hhere with ⟨rfl, rfl⟩ | ⟨-, hold⟩
      · exact .inl mem_cons_self
      · exact .inr hold

theorem lookup_insertAll_of_notMem (h : k ∉ entries.map Prod.fst) : (t.insertAll entries).lookup k = t.lookup k := by
  induction entries generalizing t with
  | nil => rfl
  | cons e entries ih =>
    rw [map_cons, mem_cons, not_or] at h
    exact (ih h.2).trans (AList.lookup_insert_ne h.1)

theorem lookup_insertAll_of_mem
    (hkeys : (entries.map Prod.fst).Nodup) (h : (k, a) ∈ entries) : (t.insertAll entries).lookup k = some a := by
  induction entries generalizing t with
  | nil => cases h
  | cons e entries ih =>
    rw [map_cons, nodup_cons] at hkeys
    rcases mem_cons.mp h with rfl | hlater
    · exact (lookup_insertAll_of_notMem hkeys.1).trans (AList.lookup_insert t)
    · exact ih hkeys.2 hlater

end Table

end Mediasoup.Lib
