import Mediasoup.Lib.Run
import Mediasoup.Seq.Manager

/-!
# Numbers of a window, in any order

After `Sync` or `Input` of its lowest number, the manager is given numbers of a window of at most `MaxValue / 3` numbers, in any
order and repeatedly. `dist w low x` is the place of `x` in the window that starts at `low`; inside it the circular comparison is
that of places (`isSeqLowerThan_iff_dist`).

An input that finds no drop ahead leaves `dropped` and `base` alone and counts exactly the drops older than it (`countP_counted`).
In a run of such inputs every output follows from the final set (`Inv.results`).
-/

namespace Mediasoup.Seq

open Lib List SeqManager

/-! ## Places in a window -/

def dist (w low x : Nat) : Nat := if low ≤ x then x - low else x + 2 ^ w - low

/-- `x` is a number of the window of `size` numbers that starts at `low`. -/
def InWindow (w low size x : Nat) : Prop := x < 2 ^ w ∧ dist w low x < size

instance (w low size x : Nat) : Decidable (InWindow w low size x) := inferInstanceAs (Decidable (_ ∧ _))

section Window

variable {w low size x y : Nat}

theorem dist_cases (w low x : Nat) : (low ≤ x ∧ dist w low x = x - low) ∨ (x < low ∧ dist w low x = x + 2 ^ w - low) := by
  unfold dist
  split <;> omega

theorem cast_dist (hlow : low < 2 ^ w) : ((dist w low x : Nat) : ZMod (2 ^ w)) = x - low := by
  unfold dist
  split
  · rw [Nat.cast_sub ‹_›]
  · rw [Nat.cast_sub (by omega), Nat.cast_add, ZMod.natCast_self, add_zero]

theorem eq_of_dist_eq (hlow : low < 2 ^ w) (hx : x < 2 ^ w) (hy : y < 2 ^ w) (h : dist w low x = dist w low y) : x = y := by
  have := dist_cases w low x
  have := dist_cases w low y
  omega

theorem isSeqLowerThan_iff_dist (hlow : low < 2 ^ w) (hsize : size ≤ maxValue w / 3 + 1) (hx : InWindow w low size x)
    (hy : InWindow w low size y) : isSeqLowerThan w x y = true ↔ dist w low x < dist w low y := by
  have hM := two_pow_eq_maxValue_succ w
  obtain ⟨hx, hdx⟩ := hx
  obtain ⟨hy, hdy⟩ := hy
  have := dist_cases w low x
  have := dist_cases w low y
  simp only [isSeqLowerThan, decide_eq_true_eq]
  omega

theorem counted_iff_dist (hlow : low < 2 ^ w) (hsize : size ≤ maxValue w / 3 + 1) (hx : InWindow w low size x)
    (hy : InWindow w low size y) (hwrap : y < x → isSeqLowerThan w y x = true) :
    counted w x y = true ↔ dist w low y < dist w low x := by
  rw [isSeqLowerThan_iff_dist hlow hsize hy hx] at hwrap
  rw [counted_iff]
  have hM := two_pow_eq_maxValue_succ w
  obtain ⟨hx, hdx⟩ := hx
  obtain ⟨hy, hdy⟩ := hy
  have := dist_cases w low x
  have := dist_cases w low y
  omega

theorem lower_of_cast_add {o p k : Nat} (ho : o < 2 ^ w) (hp : p < 2 ^ w) (hk : 0 < k) (hk' : k ≤ maxValue w / 2)
    (h : (p : ZMod (2 ^ w)) = o + k) : isSeqLowerThan w o p = true := by
  have hM := two_pow_eq_maxValue_succ w
  have hcases : p = o + k ∨ p + 2 ^ w = o + k := by
    rcases Nat.lt_or_ge (o + k) (2 ^ w) with hlt | hge
    · exact .inl (eq_of_cast_eq hp hlt (by rw [h]; push_cast; rfl))
    have : p = o + k - 2 ^ w := by
      refine eq_of_cast_eq hp (by omega) ?_
      rw [h, Nat.cast_sub hge, ZMod.natCast_self]
      push_cast
      ring
    omega
  simp only [isSeqLowerThan, decide_eq_true_eq]
  omega

theorem length_le_of_between {l : List Nat} (hl : l.Nodup) {a b : Nat} (h : ∀ d ∈ l, a < d ∧ d < b) : l.length ≤ b - a - 1 := by
  have hsub : l ⊆ List.range' (a + 1) (b - a - 1) := by
    intro d hd
    have := h d hd
    rw [mem_range'_1]
    omega
  simpa using (hl.subperm hsub).length_le

end Window

/-! ## Runs in a window -/

/-- A call with a number of the window. -/
inductive Call
  | input (sh : Shape Nat) (x : Nat)
  | drop (sh : Shape Nat) (x : Nat)

structure InWindowRun where
  manager : SeqManager
  results : List (Nat × Option Nat) := []

namespace InWindowRun

variable (w low size : Nat)

/-- The run starts with `Input` of the lowest number on a fresh manager, or with `Sync` to it on any manager. -/
inductive Start : InWindowRun → Prop
  | input (sh : Shape Nat) : Start ⟨(({} : SeqManager).input w sh low).1, [(low, (({} : SeqManager).input w sh low).2)]⟩
  | sync (m : SeqManager) : Start ⟨m.sync w low, []⟩

def step (r : InWindowRun) : Call → Except Empty InWindowRun
  | .input sh x => .ok ⟨(r.manager.input w sh x).1, r.results ++ [(x, (r.manager.input w sh x).2)]⟩
  | .drop sh x => .ok ⟨r.manager.drop w sh x, r.results⟩

def CallInWindow (_ : InWindowRun) : Call → Prop
  | .input _ x => InWindow w low size x
  | .drop _ x => InWindow w low size x

def newMaxInput (r : InWindowRun) (x : Nat) : Nat :=
  if r.manager.started && !isSeqHigherThan w x r.manager.maxInput then r.manager.maxInput else x

/-- An input that is not itself held finds no held drop ahead of the newest input, itself included, and no held drop
that is numerically lower but newer. -/
def NoDropAhead (r : InWindowRun) : Call → Prop
  | .input _ x => x ∈ r.manager.dropped ∨ ∀ d ∈ r.manager.dropped,
      isSeqHigherThan w d (r.newMaxInput w x) = false ∧ (d < x → isSeqLowerThan w d x = true)
  | .drop _ _ => True

/-- Equal inputs have equal results, different ones different outputs, and the outputs are ordered as the inputs. -/
def Faithful (r : InWindowRun) : Prop :=
  ∀ a ∈ r.results, ∀ b ∈ r.results, (a.1 = b.1 → a.2 = b.2) ∧
    ∀ o ∈ a.2, ∀ p ∈ b.2, (a.1 ≠ b.1 → o ≠ p) ∧ isSeqLowerThan w o p = isSeqLowerThan w a.1 b.1

instance (r : InWindowRun) : ∀ c, Decidable (r.CallInWindow w low size c)
  | .input _ x => inferInstanceAs (Decidable (InWindow w low size x))
  | .drop _ x => inferInstanceAs (Decidable (InWindow w low size x))

instance (r : InWindowRun) : ∀ c, Decidable (r.NoDropAhead w c)
  | .input _ _ => inferInstanceAs (Decidable (_ ∨ _))
  | .drop _ _ => isTrue trivial

instance (r : InWindowRun) : Decidable (r.Faithful w) := inferInstanceAs (Decidable (∀ a ∈ _, ∀ b ∈ _, _))

/-! ## The invariant -/

def older (m : SeqManager) (x : Nat) : Nat := m.dropped.countP fun d => dist w low d < dist w low x

/-- What the manager returned for `x`, in terms of the drops it holds now. -/
def ResultOf (m : SeqManager) (x : Nat) : Option Nat → Prop
  | none => x ∈ m.dropped
  | some o => x ∉ m.dropped ∧ dist w low x ≤ dist w low m.maxInput ∧ o < 2 ^ w ∧
      (o : ZMod (2 ^ w)) = x + (m.base - older w low m x)

structure Inv (r : InWindowRun) : Prop where
  sorted : r.manager.dropped.Pairwise fun a b => dist w low a < dist w low b
  inWindow : ∀ d ∈ r.manager.dropped, InWindow w low size d
  maxInput : InWindow w low size r.manager.maxInput
  started : r.manager.started = false → r.manager.maxInput = low
  results : ∀ a ∈ r.results, InWindow w low size a.1 ∧ ResultOf w low r.manager a.1 a.2

variable {w low size}

theorem clearDropped_eq_self {m : SeqManager} {sh : Shape Nat}
    (h : ∀ d ∈ m.dropped, isSeqHigherThan w d m.maxInput = false) : m.clearDropped w sh = m := by
  have hit : sh.upperBound id (isSeqLowerThan w) m.dropped m.maxInput = m.dropped.length := by
    have hpos : sh.pos (fun d => isSeqLowerThan w m.maxInput (id d)) (m.dropped ++ []) = m.dropped.length :=
      sh.pos_eq (fun d hd => h d hd) (by simp)
    rwa [append_nil] at hpos
  unfold clearDropped
  simp only [hit, if_true, ite_self]

theorem find_of_mem {l : List Nat} {sh : Shape Nat} {x : Nat} (hlow : low < 2 ^ w) (hsize : size ≤ maxValue w / 3 + 1)
    (hl : l.Pairwise fun a b => dist w low a < dist w low b) (hw : ∀ d ∈ l, InWindow w low size d) (hx : x ∈ l) :
    sh.find id (isSeqLowerThan w) l x = some x := by
  obtain ⟨pre, post, rfl⟩ := append_of_mem hx
  obtain ⟨-, hpost, hcross⟩ := pairwise_append.mp hl
  have hxw := hw x hx
  refine sh.find_eq_some ?_ (isSeqLowerThan_irrefl w x) (isSeqLowerThan_irrefl w x) ?_
  · intro a ha
    rw [id, isSeqLowerThan_iff_dist hlow hsize (hw a (by simp [ha])) hxw]
    exact hcross a ha x (by simp)
  · intro b hb
    refine isSeqLowerThan_asymm ?_
    rw [id, isSeqLowerThan_iff_dist hlow hsize hxw (hw b (by simp [hb]))]
    exact (pairwise_cons.mp hpost).1 b hb

/-! ## Inputs -/

variable {r : InWindowRun} {sh : Shape Nat} {x : Nat}

theorem newMaxInput_spec (hlow : low < 2 ^ w) (hsize : size ≤ maxValue w / 3 + 1) (h : r.Inv w low size)
    (hx : InWindow w low size x) : InWindow w low size (r.newMaxInput w x) ∧
      dist w low r.manager.maxInput ≤ dist w low (r.newMaxInput w x) ∧
      dist w low x ≤ dist w low (r.newMaxInput w x) := by
  have hhigher : isSeqHigherThan w x r.manager.maxInput = true ↔ dist w low r.manager.maxInput < dist w low x := by
    rw [isSeqHigherThan_eq, isSeqLowerThan_iff_dist hlow hsize h.maxInput hx]
  unfold newMaxInput
  by_cases hs : r.manager.started = true
  · by_cases hh : isSeqHigherThan w x r.manager.maxInput = true
    · simpa [hs, hh, hx] using (hhigher.mp hh).le
    have hle : dist w low x ≤ dist w low r.manager.maxInput := by
      rw [hhigher] at hh
      omega
    simpa [hs, hh, h.maxInput] using hle
  · have hmax := h.started (by simpa using hs)
    have : dist w low r.manager.maxInput = 0 := by simp [hmax, dist]
    simp [hs, hx, this]

theorem countP_counted {m : SeqManager} (hlow : low < 2 ^ w) (hsize : size ≤ maxValue w / 3 + 1)
    (hw : ∀ d ∈ m.dropped, InWindow w low size d) (hx : InWindow w low size x)
    (hwrap : ∀ d ∈ m.dropped, d < x → isSeqLowerThan w d x = true) :
    m.dropped.countP (counted w x) = older w low m x := by
  refine countP_congr fun d hd => ?_
  rw [counted_iff_dist hlow hsize hx (hw d hd) (hwrap d hd), decide_eq_true_iff]

theorem ResultOf.updateMax {m : SeqManager} {y o : Nat} {ρ : Option Nat} (h : ResultOf w low m y ρ)
    (hmax : dist w low m.maxInput ≤ dist w low (m.updateMax w x o).maxInput) :
    ResultOf w low (m.updateMax w x o) y ρ := by
  cases ρ with
  | none => simpa [ResultOf] using h
  | some q =>
    obtain ⟨hy, hle, hq, hcast⟩ := h
    exact ⟨by simpa using hy, hle.trans hmax, hq, by simpa [older] using hcast⟩

theorem step_input (hlow : low < 2 ^ w) (hsize : size ≤ maxValue w / 3 + 1) (h : r.Inv w low size)
    (hx : InWindow w low size x) (hno : r.NoDropAhead w (.input sh x)) :
    ∃ r', r.step w (.input sh x) = .ok r' ∧ r'.Inv w low size := by
  by_cases hmem : x ∈ r.manager.dropped
  · -- a held number: nothing changes and `Input` returns false
    have hin : r.manager.input w sh x = (r.manager, none) := by
      simp [SeqManager.input, find_of_mem hlow hsize h.sorted h.inWindow hmem]
    refine ⟨⟨r.manager, r.results ++ [(x, none)]⟩, by simp only [step, hin], h.sorted, h.inWindow, h.maxInput, h.started, ?_⟩
    intro a ha
    rcases mem_append.mp ha with ha | ha
    · exact h.results a ha
    · rw [mem_singleton.mp ha]
      exact ⟨hx, hmem⟩
  · have hno := hno.resolve_left hmem
    obtain ⟨m', o, hin, ho, hcast, hm'⟩ := input_of_not_mem (w := w) sh hmem
    have hnew : (r.manager.updateMax w x o).maxInput = r.newMaxInput w x := updateMax_maxInput
    have hclear : m' = r.manager.updateMax w x o := by
      rw [hm']
      refine clearDropped_eq_self fun d hd => ?_
      rw [hnew]
      exact (hno d (by simpa using hd)).1
    obtain ⟨hmaxw, hmaxle, hxle⟩ := newMaxInput_spec hlow hsize h hx
    rw [countP_counted hlow hsize h.inWindow hx fun d hd => (hno d hd).2] at hcast
    refine ⟨⟨m', r.results ++ [(x, some o)]⟩, by simp only [step, hin], ?_, ?_, ?_, ?_, ?_⟩
    · simpa [hclear] using h.sorted
    · simpa [hclear] using h.inWindow
    · simpa [hclear, hnew] using hmaxw
    · simp [hclear]
    · intro a ha
      simp only [hclear]
      rcases mem_append.mp ha with ha | ha
      · exact ⟨(h.results a ha).1, (h.results a ha).2.updateMax (by rw [hnew]; exact hmaxle)⟩
      · rw [mem_singleton.mp ha]
        refine ⟨hx, by simpa using hmem, by rw [hnew]; exact hxle, ho, ?_⟩
        simpa [older] using hcast

/-! ## Drops -/

theorem mem_insert {l : List Nat} {d : Nat} (h : d ∈ sh.insert id (isSeqLowerThan w) l x) : d = x ∨ d ∈ l := by
  rcases sh.insert_cases id (isSeqLowerThan w) l x with ⟨pre, post, rfl, hins, -, -⟩ | ⟨_, _, hins, -, -⟩
  · rw [hins] at h
    simp only [mem_append, mem_cons] at h ⊢
    tauto
  · rw [hins] at h
    exact .inr h

theorem subset_insert {l : List Nat} : l ⊆ sh.insert id (isSeqLowerThan w) l x := by
  rcases sh.insert_cases id (isSeqLowerThan w) l x with ⟨pre, post, rfl, hins, -, -⟩ | ⟨_, _, hins, -, -⟩
  · rw [hins]
    intro d hd
    simp only [mem_append, mem_cons] at hd ⊢
    tauto
  · rw [hins]
    exact List.Subset.refl _

theorem countP_insert {l : List Nat} {f : Nat → Bool} (hf : f x = false) :
    (sh.insert id (isSeqLowerThan w) l x).countP f = l.countP f := by
  rcases sh.insert_cases id (isSeqLowerThan w) l x with ⟨pre, post, rfl, hins, -, -⟩ | ⟨_, _, hins, -, -⟩
  · rw [hins]
    simp [countP_append, hf]
  · rw [hins]

theorem step_drop (hlow : low < 2 ^ w) (hsize : size ≤ maxValue w / 3 + 1) (h : r.Inv w low size)
    (hx : InWindow w low size x) : ∃ r', r.step w (.drop sh x) = .ok r' ∧ r'.Inv w low size := by
  refine ⟨_, rfl, ?_⟩
  by_cases hh : isSeqHigherThan w x r.manager.maxInput = true
  · have hlt : dist w low r.manager.maxInput < dist w low x := by
      rwa [isSeqHigherThan_eq, isSeqLowerThan_iff_dist hlow hsize h.maxInput hx] at hh
    simp only [SeqManager.drop, hh, if_true]
    refine ⟨?_, ?_, h.maxInput, h.started, ?_⟩
    · refine sh.insert_sorted h.sorted fun d hd => ?_
      simp only [id, isSeqLowerThan_iff_dist hlow hsize (h.inWindow d hd) hx,
        isSeqLowerThan_iff_dist hlow hsize hx (h.inWindow d hd), imp_self, and_self]
    · intro d hd
      rcases mem_insert hd with rfl | hd
      · exact hx
      · exact h.inWindow d hd
    · intro a ha
      obtain ⟨haw, hres⟩ := h.results a ha
      refine ⟨haw, ?_⟩
      cases hρ : a.2 with
      | none =>
        rw [hρ] at hres
        exact subset_insert hres
      | some o =>
        rw [hρ] at hres
        obtain ⟨hnot, hle, ho, hcast⟩ := hres
        refine ⟨fun hmem => ?_, hle, ho, ?_⟩
        · rcases mem_insert hmem with heq | hmem
          · rw [heq] at hle
            omega
          · exact hnot hmem
        · -- the new drop is newer than every number input so far
          rw [older, countP_insert (by simpa using by omega)]
          exact hcast
  · simpa only [SeqManager.drop, hh, if_false, Bool.false_eq_true] using h

/-! ## The map from inputs to outputs -/

theorem countP_lt_split (f : Nat → Nat) {a b : Nat} (hab : a ≤ b) : ∀ l : List Nat,
    l.countP (fun d => f d < b) = l.countP (fun d => f d < a) + l.countP fun d => a ≤ f d ∧ f d < b
  | [] => rfl
  | d :: l => by
    have ih := countP_lt_split f hab l
    simp only [countP_cons, ih, decide_eq_true_eq]
    split <;> split <;> split <;> omega

theorem older_lt (hlow : low < 2 ^ w) (h : r.Inv w low size) {y : Nat} (hx : x ∉ r.manager.dropped)
    (hxw : x < 2 ^ w) (hxy : dist w low x < dist w low y) :
    older w low r.manager x ≤ older w low r.manager y ∧
      older w low r.manager y - older w low r.manager x < dist w low y - dist w low x := by
  have hsplit := countP_lt_split (dist w low) hxy.le r.manager.dropped
  have hlen : r.manager.dropped.countP (fun d => dist w low x ≤ dist w low d ∧ dist w low d < dist w low y) ≤
      dist w low y - dist w low x - 1 := by
    rw [countP_eq_length_filter, ← length_map (f := dist w low)]
    refine length_le_of_between ?_ ?_
    · rw [nodup_iff_pairwise_ne, pairwise_map]
      exact (h.sorted.filter _).imp fun hab => by omega
    · intro e he
      obtain ⟨d, hd, rfl⟩ := mem_map.mp he
      obtain ⟨hmem, hd⟩ := mem_filter.mp hd
      have hne : dist w low x ≠ dist w low d := fun e =>
        hx ((eq_of_dist_eq hlow hxw (h.inWindow d hmem).1 e) ▸ hmem)
      simp only [decide_eq_true_eq] at hd
      omega
  simp only [older] at hsplit ⊢
  omega

theorem output_ahead (hlow : low < 2 ^ w) (h : r.Inv w low size) {y o p : Nat} (hx : x < 2 ^ w)
    (ho : ResultOf w low r.manager x (some o)) (hp : ResultOf w low r.manager y (some p))
    (hxy : dist w low x < dist w low y) :
    ∃ k, 0 < k ∧ k ≤ dist w low y - dist w low x ∧ (p : ZMod (2 ^ w)) = o + (k : Nat) := by
  obtain ⟨hxn, -, -, hocast⟩ := ho
  obtain ⟨-, -, -, hpcast⟩ := hp
  obtain ⟨hle, hlt⟩ := older_lt hlow h hxn hx hxy
  refine ⟨dist w low y - dist w low x - (older w low r.manager y - older w low r.manager x), by omega, by omega, ?_⟩
  rw [hocast, hpcast, Nat.cast_sub hlt.le, Nat.cast_sub hxy.le, Nat.cast_sub hle, cast_dist hlow, cast_dist hlow]
  ring

theorem output_lower (hlow : low < 2 ^ w) (hsize : size ≤ maxValue w / 3 + 1) (h : r.Inv w low size) {y o p : Nat}
    (hx : InWindow w low size x) (hy : InWindow w low size y) (ho : ResultOf w low r.manager x (some o))
    (hp : ResultOf w low r.manager y (some p)) (hxy : dist w low x < dist w low y) :
    isSeqLowerThan w o p = true := by
  obtain ⟨k, hpos, hk, hcast⟩ := output_ahead hlow h hx.1 ho hp hxy
  have hyd := hy.2
  exact lower_of_cast_add ho.2.2.1 hp.2.2.1 hpos (by omega) hcast

theorem faithful_of_inv (hlow : low < 2 ^ w) (hsize : size ≤ maxValue w / 3 + 1) (h : r.Inv w low size) : r.Faithful w := by
  rintro ⟨x, ρ⟩ ha ⟨y, τ⟩ hb
  obtain ⟨hxw, hx⟩ := h.results _ ha
  obtain ⟨hyw, hy⟩ := h.results _ hb
  refine ⟨?_, ?_⟩
  · rintro rfl
    cases ρ with
    | none =>
      cases τ with
      | none => rfl
      | some p => exact absurd hx hy.1
    | some o =>
      cases τ with
      | none => exact absurd hy hx.1
      | some p =>
        have hop : o = p := eq_of_cast_eq hx.2.2.1 hy.2.2.1 (hx.2.2.2.trans hy.2.2.2.symm)
        rw [hop]
  · rintro o ⟨⟩ p ⟨⟩
    rcases Nat.lt_trichotomy (dist w low x) (dist w low y) with hlt | heq | hgt
    · have hop := output_lower hlow hsize h hxw hyw hx hy hlt
      have hxy := (isSeqLowerThan_iff_dist hlow hsize hxw hyw).mpr hlt
      refine ⟨?_, hop.trans hxy.symm⟩
      rintro - rfl
      simp [isSeqLowerThan_irrefl] at hop
    · obtain rfl := eq_of_dist_eq hlow hxw.1 hyw.1 heq
      have hop : o = p := eq_of_cast_eq hx.2.2.1 hy.2.2.1 (hx.2.2.2.trans hy.2.2.2.symm)
      rw [hop, isSeqLowerThan_irrefl, isSeqLowerThan_irrefl]
      exact ⟨fun hne => absurd rfl hne, rfl⟩
    have hpo := output_lower hlow hsize h hyw hxw hy hx hgt
    have hyx := (isSeqLowerThan_iff_dist hlow hsize hyw hxw).mpr hgt
    refine ⟨?_, (isSeqLowerThan_asymm hpo).trans (isSeqLowerThan_asymm hyx).symm⟩
    rintro - rfl
    simp [isSeqLowerThan_irrefl] at hpo

theorem start_inv (hlow : low < 2 ^ w) (hpos : 0 < size) (h : Start w low r) : r.Inv w low size := by
  have hloww : InWindow w low size low := ⟨hlow, by simpa [dist] using hpos⟩
  cases h with
  | sync m => exact ⟨by simp [SeqManager.sync], by simp [SeqManager.sync], hloww, fun _ => rfl, by simp⟩
  | input sh =>
    obtain ⟨m', o, hin, ho, hcast, hm'⟩ :=
      input_of_not_mem (w := w) sh (m := {}) (x := low) (by simp)
    have hm : m' = { started := true, base := 0, maxOutput := o, maxInput := low, dropped := [] } := by
      simp [hm', updateMax, clearDropped]
    rw [hin, hm]
    refine ⟨by simp, by simp, hloww, by simp, ?_⟩
    intro a ha
    rw [mem_singleton.mp ha]
    exact ⟨hloww, by simp, Nat.le_refl _, ho, by simpa [older] using hcast⟩

end InWindowRun

/-- **Runs in a window** whose inputs find no drop ahead: every state reached has stable, distinct and equally ordered
outputs. -/
theorem safe_of_noDropAhead (w low size : Nat) (hlow : low < 2 ^ w) (hpos : 0 < size) (hsize : size ≤ maxValue w / 3)
    (r : InWindowRun) (hr : InWindowRun.Start w low r) (calls : List Call)
    (hwin : Along (InWindowRun.step w) (InWindowRun.CallInWindow w low size) r calls)
    (hno : Along (InWindowRun.step w) (InWindowRun.NoDropAhead w) r calls) :
    Safe (InWindowRun.step w) (InWindowRun.Faithful w) r calls := by
  have hsize := Nat.le_succ_of_le hsize
  refine safe_of_along (I := InWindowRun.Inv w low size) ?_ (fun _ h => InWindowRun.faithful_of_inv hlow hsize h)
    calls r (InWindowRun.start_inv hlow hpos hr) (along_and.mpr ⟨hwin, hno⟩)
  intro s c hI hC
  cases c with
  | input sh x => exact InWindowRun.step_input hlow hsize hI hC.1 hC.2
  | drop sh x => exact InWindowRun.step_drop hlow hsize hI hC.1

theorem safe_window_across_wrap : Safe (InWindowRun.step 8) (InWindowRun.Faithful 8) ⟨({} : SeqManager).sync 8 250, []⟩
      [.input .spine 250, .drop .spine 252, .input .spine 253, .input .spine 251, .input .spine 3, .input .spine 253] :=
  safe_of_noDropAhead 8 250 20 (by decide) (by decide) (by decide) _ (.sync {}) _ (by decide) (by decide)

/-- Eight bits: after `Input(0)` and `Drop(5)`, the inputs 1 and 2 get the same output 1. -/
theorem drop_ahead_repeats_output :
    InWindowRun.Start 8 0 ⟨(({} : SeqManager).input 8 .spine 0).1, [(0, (({} : SeqManager).input 8 .spine 0).2)]⟩ ∧
      Along (InWindowRun.step 8) (InWindowRun.CallInWindow 8 0 85)
        ⟨(({} : SeqManager).input 8 .spine 0).1, [(0, (({} : SeqManager).input 8 .spine 0).2)]⟩
        [.drop .spine 5, .input .spine 1, .input .spine 2] ∧
      ¬ Safe (InWindowRun.step 8) (InWindowRun.Faithful 8)
        ⟨(({} : SeqManager).input 8 .spine 0).1, [(0, (({} : SeqManager).input 8 .spine 0).2)]⟩
        [.drop .spine 5, .input .spine 1, .input .spine 2] :=
  ⟨.input .spine, by decide, by decide⟩

end Mediasoup.Seq
