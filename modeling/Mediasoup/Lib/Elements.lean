import Mathlib.Data.List.TakeWhile

/-!
# Elements with padding between them

A block of tagged elements one behind the other, with padding between them. `scan` walks the block with a cursor: there an element
with a key is found, or something to skip, or the walk ends; then the padding behind it is skipped. The walk gives each key with
the offset of its element. An element lies within the block (`of_mem_scan`), and what was written element by element is found
where it was written (`scan_flatMap`).
-/

namespace Mediasoup.Lib

open List

/-- What stands at the cursor: an element with its key or something without one, and its length; or the end. -/
structure Elements (β κ : Type*) where
  next : List β → Option (Option κ × Nat)
  pad : β → Bool
  next_pos : ∀ {s k n}, next s = some (k, n) → 0 < n
  next_le : ∀ {s k n}, next s = some (k, n) → n ≤ s.length

namespace Elements

variable {α β κ : Type*} (g : Elements β κ)

def scan (pos : Nat) (s : List β) : List (κ × Nat) :=
  match _h : g.next s with
  | none => []
  | some (key, n) =>
    let rest := (s.drop n).dropWhile g.pad
    (key.map fun k => (k, pos)).toList ++ scan (pos + (s.length - rest.length)) rest
termination_by s.length
decreasing_by
  have hpos := g.next_pos _h
  have hle := g.next_le _h
  have hrest := (dropWhile_sublist g.pad (l := s.drop n)).length_le
  rw [length_drop] at hrest
  omega

variable {g} {pos : Nat} {s : List β} {key : Option κ} {n : Nat}

theorem scan_of_none (h : g.next s = none) : g.scan pos s = [] := by
  rw [scan]
  split
  · rfl
  · rename_i key n hn
    simp [h] at hn

theorem scan_of_some (h : g.next s = some (key, n)) : g.scan pos s = (key.map fun k => (k, pos)).toList ++
      g.scan (pos + (s.length - ((s.drop n).dropWhile g.pad).length)) ((s.drop n).dropWhile g.pad) := by
  rw [scan]
  split
  · rename_i hnone
    simp [h] at hnone
  rename_i key' n' hn
  rw [h] at hn
  cases hn
  rfl

variable (g) in
theorem next_nil : g.next [] = none := by
  cases h : g.next [] with
  | none => rfl
  | some r => exact absurd (g.next_le h) (Nat.not_le_of_lt (g.next_pos h))

/-- **Every element lies within the block**, since one found at the cursor does not reach beyond the end. -/
theorem of_mem_scan {k : κ} {o : Nat} (h : (k, o) ∈ g.scan pos s) :
    ∃ before after n, s = before ++ after ∧ o = pos + before.length ∧ g.next after = some (some k, n) := by
  fun_induction scan g pos s with
  | case1 pos s hnone => cases h
  | case2 pos s key n hn rest ih =>
    rcases mem_append.mp h with hhere | hlater
    · cases key with
      | none => cases hhere
      | some k' =>
        cases mem_singleton.mp hhere
        exact ⟨[], s, n, rfl, rfl, hn⟩
    obtain ⟨before, after, m, hrest, ho, hnext⟩ := ih hlater
    have hsuffix : rest <:+ s := (dropWhile_suffix g.pad).trans (drop_suffix n s)
    obtain ⟨skipped, hs⟩ := hsuffix
    have hlen : s.length - rest.length = skipped.length := by
      rw [← hs, length_append]
      omega
    refine ⟨skipped ++ before, after, m, ?_, ?_, hnext⟩
    · rw [append_assoc, ← hrest, hs]
    · rw [ho, hlen, length_append]
      omega

def offsets (encode : α → List β) (key : α → κ) : Nat → List α → List (κ × Nat)
  | _, [] => []
  | pos, a :: as => (key a, pos) :: offsets encode key (pos + (encode a).length) as

section

variable {encode : α → List β} {keyOf : α → κ}

variable (encode keyOf pos) in
theorem map_fst_offsets (as : List α) : (offsets encode keyOf pos as).map Prod.fst = as.map keyOf := by
  induction as generalizing pos with
  | nil => rfl
  | cons a as ih => rw [offsets, map_cons, map_cons, ih]

variable (encode keyOf pos) in
theorem of_mem_offsets {as : List α} {a : α} (h : a ∈ as) : ∃ before after, as.flatMap encode = before ++ encode a ++ after ∧
      (keyOf a, pos + before.length) ∈ offsets encode keyOf pos as := by
  induction as generalizing pos with
  | nil => cases h
  | cons b as ih =>
    rcases mem_cons.mp h with rfl | hlater
    · exact ⟨[], as.flatMap encode, rfl, mem_cons_self⟩
    obtain ⟨before, after, heq, hmem⟩ := ih (pos + (encode b).length) hlater
    refine ⟨encode b ++ before, after, ?_, ?_⟩
    · rw [flatMap_cons, heq]
      simp only [append_assoc]
    · rw [offsets, length_append, ← Nat.add_assoc]
      exact mem_cons_of_mem _ hmem

/-- **Written and found**: the elements of a block are those written, in front of padding. -/
theorem scan_flatMap {as : List α} {tail : List β} (htail : ∀ b ∈ tail, g.pad b = true) (hempty : as = [] → tail = [])
    (hnext : ∀ a ∈ as, ∀ t, g.next (encode a ++ t) = some (some (keyOf a), (encode a).length))
    (hhead : ∀ a ∈ as, ∀ t, (encode a ++ t).dropWhile g.pad = encode a ++ t) :
    g.scan pos (as.flatMap encode ++ tail) = offsets encode keyOf pos as := by
  induction as generalizing pos with
  | nil =>
    rw [hempty rfl]
    exact scan_of_none g.next_nil
  | cons a as ih =>
    rw [flatMap_cons, append_assoc, scan_of_some (hnext a mem_cons_self _), drop_left, offsets]
    cases as with
    | nil =>
      -- behind the last element there is only padding
      have hskip : ([].flatMap encode ++ tail).dropWhile g.pad = [] := dropWhile_eq_nil_iff.mpr htail
      rw [hskip, scan_of_none g.next_nil]
      rfl
    | cons b as =>
      have hskip : ((b :: as).flatMap encode ++ tail).dropWhile g.pad = (b :: as).flatMap encode ++ tail := by
        rw [flatMap_cons, append_assoc]
        exact hhead b (mem_cons_of_mem _ mem_cons_self) _
      have hmoved : (encode a ++ ((b :: as).flatMap encode ++ tail)).length - ((b :: as).flatMap encode ++ tail).length =
          (encode a).length := by
        rw [length_append, Nat.add_sub_cancel_right]
      rw [hskip, hmoved]
      rw [ih (nofun) (fun a ha => hnext a (mem_cons_of_mem _ ha)) (fun a ha => hhead a (mem_cons_of_mem _ ha))]
      rfl

end

end Elements

end Mediasoup.Lib
