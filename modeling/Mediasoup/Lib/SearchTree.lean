import Mathlib.Data.List.Induction

/-!
# Ordered sets searched through a tree of unknown shape

An ordered container finds a position by walking down a search tree. If the comparison is no strict weak order, the end of a walk
depends on the shape of the tree, so the container is modelled by its entries in iteration order and a `Shape`: any way to arrange
a list as a binary tree with that traversal. On a list that is partitioned by the comparison the shape does not matter (`pos_eq`).
-/

namespace Mediasoup.Lib

open List

inductive Tree (α : Type*)
  | nil
  | node (left : Tree α) (a : α) (right : Tree α)

namespace Tree

variable {α : Type*}

def toList : Tree α → List α
  | nil => []
  | node l a r => l.toList ++ a :: r.toList

/-- Walks down to a leaf and returns the number of entries left of it. -/
def walk (goLeft : α → Bool) : Tree α → Nat
  | nil => 0
  | node l a r => if goLeft a then l.walk goLeft else l.toList.length + 1 + r.walk goLeft

/-- **Where a walk ends**: at a place whose left neighbour sent it right and whose right neighbour sent it left. -/
theorem walk_spec (goLeft : α → Bool) : ∀ t : Tree α, ∃ pre post, t.toList = pre ++ post ∧
    t.walk goLeft = pre.length ∧ (∀ x ∈ pre.getLast?, goLeft x = false) ∧ (∀ x ∈ post.head?, goLeft x = true)
  | nil => ⟨[], [], rfl, rfl, by simp, by simp⟩
  | node l a r => by
    by_cases ha : goLeft a
    · obtain ⟨pre, post, hl, hw, hpre, hpost⟩ := walk_spec goLeft l
      refine ⟨pre, post ++ a :: r.toList, by simp [toList, hl], by simp [walk, ha, hw], hpre, ?_⟩
      cases post with
      | nil => simpa using ha
      | cons b post => simpa using hpost
    obtain ⟨pre, post, hr, hw, hpre, hpost⟩ := walk_spec goLeft r
    refine ⟨l.toList ++ a :: pre, post, by simp [toList, hr], by simp [walk, ha, hw]; omega, ?_, hpost⟩
    cases pre using List.reverseRecOn with
    | nil => simpa using ha
    | append_singleton pre b =>
      rw [← cons_append, ← append_assoc, List.getLast?_concat]
      simpa using hpre

end Tree

structure Shape (α : Type*) where
  tree : List α → Tree α
  toList_tree : ∀ l, (tree l).toList = l

/-- The degenerate arrangement: every left subtree is empty. -/
def Shape.spine {α : Type*} : Shape α where
  tree l := l.foldr (fun a t => .node .nil a t) .nil
  toList_tree l := by
    induction l with
    | nil => rfl
    | cons a l ih => simpa [Tree.toList] using ih

namespace Shape

variable {α κ : Type*} (sh : Shape α)

/-- The place in the list where a walk ends. -/
def pos (goLeft : α → Bool) (l : List α) : Nat := (sh.tree l).walk goLeft

theorem pos_spec (goLeft : α → Bool) (l : List α) : ∃ pre post, l = pre ++ post ∧ sh.pos goLeft l = pre.length ∧
    (∀ x ∈ pre.getLast?, goLeft x = false) ∧ (∀ x ∈ post.head?, goLeft x = true) := by
  simpa only [pos, sh.toList_tree] using Tree.walk_spec goLeft (sh.tree l)

theorem pos_eq {goLeft : α → Bool} {pre post : List α} (hpre : ∀ x ∈ pre, goLeft x = false)
    (hpost : ∀ x ∈ post, goLeft x = true) : sh.pos goLeft (pre ++ post) = pre.length := by
  obtain ⟨pre', post', happ, hpos, hlast, hhead⟩ := sh.pos_spec goLeft (pre ++ post)
  rw [hpos]
  rcases append_eq_append_iff.mp happ with ⟨mid, hp, hq⟩ | ⟨mid, hp, hq⟩
  · -- the walk went past the partition point: its last right turn was at an entry of `post`
    cases mid using List.reverseRecOn with
    | nil => simp [hp]
    | append_singleton mid b =>
      have hb := hlast b (by simp [hp, List.getLast?_append])
      rw [hpost b (by simp [hq])] at hb
      cases hb
  cases mid with
  | nil => simp [hp]
  | cons b mid =>
    have hb := hhead b (by simp [hq])
    rw [hpre b (by simp [hp])] at hb
    cases hb

section Operations

variable (key : α → κ) (lt : κ → κ → Bool)

/-- The first entry not less than `k` on the walk. -/
def lowerBound (l : List α) (k : κ) : Nat := sh.pos (fun e => !lt (key e) k) l

/-- The first entry greater than `k` on the walk. -/
def upperBound (l : List α) (k : κ) : Nat := sh.pos (fun e => lt k (key e)) l

def find (l : List α) (k : κ) : Option α :=
  match l[sh.lowerBound key lt l k]? with
  | some e => if lt k (key e) then none else some e
  | none => none

/-- Inserts at the end of the walk, unless the entry before that place is not less than the new one. -/
def insert (l : List α) (e : α) : List α :=
  let p := sh.upperBound key lt l (key e)
  match (l.take p).getLast? with
  | some d => if lt (key d) (key e) then l.take p ++ e :: l.drop p else l
  | none => l.take p ++ e :: l.drop p

/-- Inserts where the walk of `find` ends, unless `find` finds an entry there. -/
def insertUnique (l : List α) (e : α) : List α :=
  let p := sh.lowerBound key lt l (key e)
  match sh.find key lt l (key e) with
  | some _ => l
  | none => l.take p ++ e :: l.drop p

variable {key lt}

theorem lowerBound_le (l : List α) (k : κ) : sh.lowerBound key lt l k ≤ l.length := by
  obtain ⟨pre, post, hl, hpos, -, -⟩ := sh.pos_spec (fun e => !lt (key e) k) l
  rw [lowerBound, hpos, hl, length_append]
  omega

variable {l : List α} {e : α} {k : κ}

theorem find_some (h : sh.find key lt l k = some e) : e ∈ l ∧ lt (key e) k = false ∧ lt k (key e) = false := by
  obtain ⟨pre, post, hl, hpos, -, hhead⟩ := sh.pos_spec (fun e => !lt (key e) k) l
  rw [find, lowerBound, hpos, hl, List.getElem?_append_right (Nat.le_refl _), Nat.sub_self] at h
  cases post with
  | nil => simp at h
  | cons d post =>
    by_cases hd : lt k (key d)
    · simp [hd] at h
    · obtain rfl : d = e := by simpa [hd] using h
      exact ⟨by simp [hl], by simpa using hhead d rfl, by simpa using hd⟩

/-- On a list partitioned around an entry that compares equal to the key, `find` finds it. -/
theorem find_eq_some {pre post : List α} (hpre : ∀ x ∈ pre, lt (key x) k = true)
    (he : lt (key e) k = false) (hk : lt k (key e) = false) (hpost : ∀ x ∈ post, lt (key x) k = false) :
    sh.find key lt (pre ++ e :: post) k = some e := by
  have hpos : sh.lowerBound key lt (pre ++ e :: post) k = pre.length := by
    refine sh.pos_eq (by simpa using hpre) ?_
    simpa [he] using hpost
  rw [find, hpos]
  simp [hk]

variable (key lt) in
/-- Insertion adds the entry between two neighbours, or leaves the list alone because of an entry that the comparison
cannot tell from the new one. -/
theorem insert_cases (l : List α) (e : α) : (∃ pre post, l = pre ++ post ∧ sh.insert key lt l e = pre ++ e :: post ∧
      (∀ x ∈ pre.getLast?, lt (key x) (key e) = true) ∧ (∀ x ∈ post.head?, lt (key e) (key x) = true)) ∨
    (∃ d ∈ l, sh.insert key lt l e = l ∧ lt (key d) (key e) = false ∧ lt (key e) (key d) = false) := by
  obtain ⟨pre, post, hl, hpos, hlast, hhead⟩ := sh.pos_spec (fun d => lt (key e) (key d)) l
  have htake : l.take pre.length = pre := by simp [hl]
  have hdrop : l.drop pre.length = post := by simp [hl]
  cases hg : pre.getLast? with
  | none => exact .inl ⟨pre, post, hl, by simp [insert, upperBound, hpos, htake, hg, hdrop], by simp [hg], hhead⟩
  | some d =>
    have hd : d ∈ l := by rw [hl]; exact mem_append_left _ (mem_of_getLast? hg)
    by_cases hlt : lt (key d) (key e)
    · refine .inl ⟨pre, post, hl, by simp [insert, upperBound, hpos, htake, hg, hlt, hdrop], ?_, hhead⟩
      simpa [hg] using hlt
    · exact .inr ⟨d, hd, by simp [insert, upperBound, hpos, htake, hg, hlt], by simpa using hlt, hlast d hg⟩

theorem insertUnique_of_find_eq_none (h : sh.find key lt l (key e) = none) :
    ∃ pre post, l = pre ++ post ∧ sh.insertUnique key lt l e = pre ++ e :: post := by
  refine ⟨_, _, (take_append_drop (sh.lowerBound key lt l (key e)) l).symm, ?_⟩
  simp only [insertUnique, h]

/-! ## Sorted lists -/

variable {f : α → Nat}

/-- Where the comparison is that of a rank `f`, insertion keeps a list sorted by rank. -/
theorem insert_sorted (hl : l.Pairwise fun a b => f a < f b)
    (hlt : ∀ d ∈ l, (lt (key d) (key e) = true → f d < f e) ∧ (lt (key e) (key d) = true → f e < f d)) :
    (sh.insert key lt l e).Pairwise fun a b => f a < f b := by
  rcases sh.insert_cases key lt l e with ⟨pre, post, rfl, hins, hlast, hhead⟩ | ⟨_, _, hins, -, -⟩
  · rw [hins]
    obtain ⟨hpre, hpost, hcross⟩ := pairwise_append.mp hl
    have hbelow : ∀ a ∈ pre, f a < f e := by
      intro a ha
      cases pre using List.reverseRecOn with
      | nil => simp at ha
      | append_singleton pre z =>
        have hz : f z < f e := (hlt z (by simp)).1 (hlast z (by simp))
        rcases mem_append.mp ha with ha | ha
        · exact Nat.lt_trans ((pairwise_append.mp hpre).2.2 a ha z (by simp)) hz
        · rwa [mem_singleton.mp ha]
    have habove : ∀ b ∈ post, f e < f b := by
      intro b hb
      cases post with
      | nil => simp at hb
      | cons z post =>
        have hz : f e < f z := (hlt z (by simp)).2 (hhead z rfl)
        rcases mem_cons.mp hb with rfl | hb
        · exact hz
        · exact Nat.lt_trans hz ((pairwise_cons.mp hpost).1 b hb)
    refine pairwise_append.mpr ⟨hpre, pairwise_cons.mpr ⟨habove, hpost⟩, ?_⟩
    intro a ha b hb
    rcases mem_cons.mp hb with rfl | hb
    · exact hbelow a ha
    · exact hcross a ha b hb
  · rw [hins]
    exact hl

theorem exists_split {p : α → Bool} : ∀ {l : List α}, l.Pairwise (fun a b => p b = true → p a = true) →
    ∃ pre post, l = pre ++ post ∧ (∀ x ∈ pre, p x = true) ∧ ∀ x ∈ post, p x = false
  | [], _ => ⟨[], [], rfl, by simp, by simp⟩
  | a :: l, h => by
    obtain ⟨ha, hl⟩ := pairwise_cons.mp h
    by_cases hp : p a = true
    · obtain ⟨pre, post, rfl, hpre, hpost⟩ := exists_split hl
      refine ⟨a :: pre, post, rfl, ?_, hpost⟩
      intro x hx
      rcases mem_cons.mp hx with rfl | hx
      · exact hp
      · exact hpre x hx
    refine ⟨[], a :: l, rfl, by simp, ?_⟩
    intro x hx
    rcases mem_cons.mp hx with rfl | hx
    · exact Bool.eq_false_iff.mpr hp
    · exact Bool.eq_false_iff.mpr fun hpx => hp (ha x hx hpx)

theorem lowerBound_spec (h : l.Pairwise fun a b => lt (key b) k = true → lt (key a) k = true) :
    ∃ pre post, l = pre ++ post ∧ sh.lowerBound key lt l k = pre.length ∧ (∀ x ∈ pre, lt (key x) k = true) ∧
      ∀ x ∈ post, lt (key x) k = false := by
  obtain ⟨pre, post, rfl, hpre, hpost⟩ := exists_split (p := fun e => lt (key e) k) h
  refine ⟨pre, post, rfl, ?_, hpre, hpost⟩
  exact sh.pos_eq (by simpa using hpre) (by simpa using hpost)

theorem getElem?_of_find (h : sh.find key lt l k = some e) : l[sh.lowerBound key lt l k]? = some e := by
  unfold find at h
  split at h
  · rename_i d hd
    split at h
    · cases h
    · cases h
      exact hd
  · cases h

theorem find_of_mem (hasymm : ∀ a b, lt a b = true → lt b a = false)
    (hl : l.Pairwise fun a b => lt (key a) (key b) = true) (he : e ∈ l) :
    sh.find key lt l (key e) = some e := by
  obtain ⟨pre, post, rfl⟩ := append_of_mem he
  obtain ⟨-, hpost, hcross⟩ := pairwise_append.mp hl
  have hirrefl : lt (key e) (key e) = false := by
    refine Bool.eq_false_iff.mpr fun htrue => ?_
    simp [hasymm _ _ htrue] at htrue
  exact sh.find_eq_some (fun x hx => hcross x hx e mem_cons_self) hirrefl hirrefl
    fun x hx => hasymm _ _ ((pairwise_cons.mp hpost).1 x hx)

theorem insertUnique_last (h : ∀ x ∈ l, lt (key x) (key e) = true) : sh.insertUnique key lt l e = l ++ [e] := by
  have hpos : sh.lowerBound key lt l (key e) = l.length := by
    have hpos : sh.pos (fun d => !lt (key d) (key e)) (l ++ []) = l.length := sh.pos_eq (by simpa using h) (by simp)
    rwa [append_nil] at hpos
  have hfind : sh.find key lt l (key e) = none := by
    rw [find, hpos, List.getElem?_eq_none (Nat.le_refl _)]
  simp only [insertUnique, hfind, hpos, take_length, drop_length]

variable (key lt) in
/-- Where the comparison is that of a rank `f`, `insertUnique` keeps a list sorted by rank, and an entry of the rank of the
new one is in it. -/
theorem insertUnique_ranked (hl : l.Pairwise fun a b => f a < f b)
    (hlt : ∀ d ∈ l, (lt (key d) (key e) = true ↔ f d < f e) ∧ (lt (key e) (key d) = true ↔ f e < f d)) :
    (sh.insertUnique key lt l e).Pairwise (fun a b => f a < f b) ∧
      (∀ x ∈ sh.insertUnique key lt l e, x = e ∨ x ∈ l) ∧ (∀ x ∈ l, x ∈ sh.insertUnique key lt l e) ∧
      ∃ x ∈ sh.insertUnique key lt l e, f x = f e := by
  cases hfind : sh.find key lt l (key e) with
  | some d =>
    obtain ⟨hd, h1, h2⟩ := sh.find_some hfind
    simp only [insertUnique, hfind]
    refine ⟨hl, fun x hx => Or.inr hx, fun x hx => hx, d, hd, ?_⟩
    have hge : ¬ f d < f e := fun hlt' => by rw [(hlt d hd).1.mpr hlt'] at h1; cases h1
    have hle : ¬ f e < f d := fun hlt' => by rw [(hlt d hd).2.mpr hlt'] at h2; cases h2
    omega
  | none =>
    have hclosed : l.Pairwise fun a b => lt (key b) (key e) = true → lt (key a) (key e) = true := by
      refine hl.imp_of_mem ?_
      intro a b ha hb hab hb'
      exact (hlt a ha).1.mpr (Nat.lt_trans hab ((hlt b hb).1.mp hb'))
    obtain ⟨pre, post, rfl, hpos, hpre, hpost⟩ := sh.lowerBound_spec hclosed
    have hins : sh.insertUnique key lt (pre ++ post) e = pre ++ e :: post := by
      simp only [insertUnique, hfind, hpos, take_left', drop_left']
    obtain ⟨hsorted, hsorted', hcross⟩ := pairwise_append.mp hl
    -- the entry after the place of the new one is greater, or `find` would have found it
    have habove : ∀ x ∈ post, f e < f x := by
      intro x hx
      cases post with
      | nil => cases hx
      | cons y post =>
        have hy : f e < f y := by
          refine (hlt y (by simp)).2.mp ?_
          by_contra hne
          rw [find, hpos, List.getElem?_append_right (Nat.le_refl _), Nat.sub_self] at hfind
          simp [hne] at hfind
        rcases mem_cons.mp hx with rfl | hx
        · exact hy
        · exact Nat.lt_trans hy ((pairwise_cons.mp hsorted').1 x hx)
    rw [hins]
    refine ⟨pairwise_append.mpr ⟨hsorted, pairwise_cons.mpr ⟨habove, hsorted'⟩, ?_⟩, ?_, ?_, e, by simp, rfl⟩
    · intro a ha b hb
      rcases mem_cons.mp hb with rfl | hb
      · exact (hlt a (mem_append_left _ ha)).1.mp (hpre a ha)
      · exact hcross a ha b hb
    · intro x hx
      simp only [mem_append, mem_cons] at hx ⊢
      tauto
    · intro x hx
      simp only [mem_append, mem_cons] at hx ⊢
      tauto

end Operations

end Shape

end Mediasoup.Lib
