import Mathlib.Data.Nat.Choose.Basic
import Mathlib.Tactic.Zify
import Mediasoup.Lib.Ring
import Mediasoup.Lib.Run

/-!
# Speakers

A `Speaker` of `ActiveSpeakerObserver` keeps the levels of the last second in a ring buffer, one for every 20 ms, and scores the
speech of its producer by them. `ComputeImmediates` passes a level only if it is above the noise (`minLevel`) by a subunit; that
sum may wrap in `int8_t` (`immediates_iff`). The score has a binomial coefficient. The square root by which `minLevel` rises is
any value between the two levels.
-/

namespace Mediasoup.Observer

open List Lib Ring

def n1 : Nat := 13
def n2 : Nat := 5
def n3 : Nat := 10
def longCount : Nat := 1
def maxLevel : Nat := 127
def minLevel : Nat := 0
def minLevelWindowLen : Nat := 15 * 1000 / 20
def subunitLengthN1 : Nat := (maxLevel - minLevel + n1 - 1) / n1
def immediateBuffLen : Nat := longCount * n3 * n2
def levelsBuffLen : Nat := longCount * n3 * n2

structure Speaker where
  lastLevelChangeTime : Nat
  minLevel : Nat := Observer.minLevel
  nextMinLevel : Nat := Observer.minLevel
  nextMinLevelWindowLen : Nat := 0
  immediates : List Nat := replicate immediateBuffLen 0
  levels : List Nat := replicate levelsBuffLen 0
  nextLevelIndex : Nat := 0

/-- `std::sqrt` of the product of two levels, as far as it is known. -/
structure Mean where
  sqrt : Nat → Nat → Nat
  min_le : ∀ a b, min a b ≤ sqrt a b
  le_max : ∀ a b, sqrt a b ≤ max a b

namespace Speaker

variable (mean : Mean) (s : Speaker)

def updateMinLevel (level : Nat) : Speaker :=
  if level = Observer.minLevel then s
  else if s.minLevel = Observer.minLevel ∨ s.minLevel > level then
    { s with minLevel := level, nextMinLevel := Observer.minLevel, nextMinLevelWindowLen := 0 }
  else if s.nextMinLevel = Observer.minLevel then { s with nextMinLevel := level, nextMinLevelWindowLen := 1 }
  else
    let nextMinLevel := min s.nextMinLevel level
    let nextMinLevelWindowLen := s.nextMinLevelWindowLen + 1
    if nextMinLevelWindowLen ≥ minLevelWindowLen then
      { s with
        minLevel := min (mean.sqrt s.minLevel nextMinLevel) maxLevel
        nextMinLevel := Observer.minLevel
        nextMinLevelWindowLen := 0 }
    else { s with nextMinLevel, nextMinLevelWindowLen }

def writeLevels (level : Nat) : Nat → Speaker → Speaker
  | 0, s => s
  | n + 1, s => writeLevels level n
    { s with
      levels := s.levels.set s.nextLevelIndex level
      nextLevelIndex := (s.nextLevelIndex + 1) % levelsBuffLen }

def levelChanged (level now : Nat) : Speaker :=
  if s.lastLevelChangeTime ≤ now then
    let elapsed := now - s.lastLevelChangeTime
    let b := min level maxLevel
    -- the quotient is converted to `uint32_t` first
    let intervalsUpdated := min (max (elapsed / 20 % 2 ^ 32) 1) levelsBuffLen
    updateMinLevel mean (writeLevels b intervalsUpdated { s with lastLevelChangeTime := now }) b
  else s

def levelIndex (i : Nat) : Nat :=
  if s.nextLevelIndex ≥ i + 1 then s.nextLevelIndex - i - 1 else s.nextLevelIndex + levelsBuffLen - i - 1

/-- An immediate; the level that it has to reach is an `int8_t`. -/
def immediate (i : Nat) : Nat :=
  let level := s.levels.getD (s.levelIndex i) 0
  let level := if (level : Int) < Int.bmod (s.minLevel + subunitLengthN1 : Nat) 256 then Observer.minLevel else level
  level / subunitLengthN1

def computeImmediates : Speaker × Bool :=
  let immediates := (range immediateBuffLen).map s.immediate
  ({ s with immediates }, decide (s.immediates ≠ immediates))

end Speaker

/-! ## The history of a speaker -/

structure LevelCall where
  level : Fin (maxLevel + 1)
  now : Nat

def run (mean : Mean) (s : Speaker) (calls : List LevelCall) : Speaker :=
  calls.foldl (fun s c => s.levelChanged mean c.level c.now) s

def samples (last : Nat) : List LevelCall → List Nat
  | [] => []
  | c :: calls => samples c.now calls ++ replicate (min (max ((c.now - last) / 20) 1) levelsBuffLen) c.level.val

def Timely (last : Nat) : List LevelCall → Prop
  | [] => True
  | c :: calls => (last ≤ c.now ∧ (c.now - last) / 20 < 2 ^ 32) ∧ Timely c.now calls

/-- The immediates are those of the samples. -/
def Gated (s : Speaker) (samples : List Nat) : Prop :=
  ∀ i < immediateBuffLen, (s.computeImmediates.1.immediates).getD i 0 =
    if samples.getD i 0 < s.minLevel + subunitLengthN1 then 0 else samples.getD i 0 / subunitLengthN1

/-- The ring holds the newest samples up to the time `last`, and all levels are in range. -/
structure Holds (last : Nat) (s : Speaker) (samples : List Nat) : Prop where
  time : s.lastLevelChangeTime = last
  length : s.levels.length = levelsBuffLen
  index : s.nextLevelIndex < levelsBuffLen
  ring : contents 0 s.levels s.nextLevelIndex levelsBuffLen = (samples ++ replicate levelsBuffLen 0).take levelsBuffLen
  le : ∀ x ∈ samples, x ≤ maxLevel
  minLevel : s.minLevel ≤ maxLevel

variable {mean : Mean} {s : Speaker} {xs : List Nat} {last level : Nat}

theorem Holds.write (h : Holds last s xs) (hl : level ≤ maxLevel) : Holds last { s with
      levels := s.levels.set s.nextLevelIndex level
      nextLevelIndex := (s.nextLevelIndex + 1) % levelsBuffLen } (level :: xs) where
  time := h.time
  length := length_set.trans h.length
  index := Nat.mod_lt _ (by decide)
  ring := by
    have hpos : 0 < levelsBuffLen := by decide
    have hlen : (s.levels.set s.nextLevelIndex level).length = levelsBuffLen := length_set.trans h.length
    have hfull : 0 < s.levels.length := h.length ▸ hpos
    have hpush := contents_push_full (d := 0) (i := s.nextLevelIndex) (x := level) hfull
    rw [h.length, Nat.mod_eq_of_lt h.index, h.ring] at hpush
    conv_lhs => rw [← hlen]
    rw [contents_mod, hlen, hpush, cons_append, take_cons hpos, take_cons hpos, take_take,
      Nat.min_eq_left (Nat.sub_le _ _)]
  le := forall_mem_cons.mpr ⟨hl, h.le⟩
  minLevel := h.minLevel

theorem Holds.writeLevels (hl : level ≤ maxLevel) : ∀ {n : Nat} {s : Speaker} {xs : List Nat}, Holds last s xs →
    Holds last (s.writeLevels level n) (replicate n level ++ xs)
  | 0, _, _, h => h
  | n + 1, _, xs, h => by
    have hrest := Holds.writeLevels hl (n := n) (h.write hl)
    rwa [append_cons, ← replicate_succ'] at hrest

theorem Holds.updateMinLevel (h : Holds last s xs) (hl : level ≤ maxLevel) : Holds last (s.updateMinLevel mean level) xs := by
  unfold Speaker.updateMinLevel
  simp only
  split_ifs
  · exact h
  · exact { h with minLevel := hl }
  · exact { h with }
  · exact { h with minLevel := Nat.min_le_right _ _ }
  · exact { h with }

theorem Holds.levelChanged (h : Holds last s xs) {c : LevelCall} (hle : last ≤ c.now)
    (hlong : (c.now - last) / 20 < 2 ^ 32) :
    Holds c.now (s.levelChanged mean c.level c.now)
      (replicate (min (max ((c.now - last) / 20) 1) levelsBuffLen) c.level.val ++ xs) := by
  have hl : c.level.val ≤ maxLevel := Nat.le_of_lt_succ c.level.isLt
  rw [← h.time] at hle hlong ⊢
  rw [Speaker.levelChanged, if_pos hle]
  simp only [Nat.mod_eq_of_lt hlong, Nat.min_eq_left hl]
  have hnow : Holds c.now { s with lastLevelChangeTime := c.now } xs := { h with time := rfl }
  exact (hnow.writeLevels hl).updateMinLevel hl

theorem Holds.run (mean : Mean) : ∀ {calls : List LevelCall} {last : Nat} {s : Speaker} {xs : List Nat}, Holds last s xs →
    Timely last calls → ∃ last', Holds last' (run mean s calls) (samples last calls ++ xs)
  | [], last, _, _, h, _ => ⟨last, h⟩
  | c :: calls, last, s, xs, h, ht => by
    rw [samples, append_assoc]
    exact (h.levelChanged ht.1.1 ht.1.2).run mean ht.2

theorem Holds.new (last : Nat) : Holds last { lastLevelChangeTime := last } [] where
  time := rfl
  length := length_replicate
  index := (by decide : 0 < levelsBuffLen)
  ring := (by decide : contents 0 (replicate levelsBuffLen 0) 0 levelsBuffLen = replicate levelsBuffLen 0)
  le := nofun
  minLevel := Nat.zero_le _

theorem Holds.getD_levels (h : Holds last s xs) {i : Nat} (hi : i < levelsBuffLen) :
    s.levels.getD (s.levelIndex i) 0 = xs.getD i 0 := by
  have hget : (contents 0 s.levels s.nextLevelIndex levelsBuffLen).getD i 0 = _ := getD_contents hi
  have hindex : (s.nextLevelIndex + (levelsBuffLen - 1 - i)) % s.levels.length = s.levelIndex i := by
    have := h.index
    rw [h.length, Speaker.levelIndex]
    split
    · rw [Nat.mod_eq_sub_mod (by omega), Nat.mod_eq_of_lt] <;> omega
    · rw [Nat.mod_eq_of_lt] <;> omega
  rw [← hindex, ← hget, h.ring, getD_eq_getElem?_getD, getD_eq_getElem?_getD, getElem?_take_of_lt hi]
  rcases Nat.lt_or_ge i xs.length with hlt | hge
  · rw [getElem?_append_left hlt]
  · rw [getElem?_append_right hge, getElem?_replicate, getElem?_eq_none hge]
    split <;> rfl

theorem Holds.getD_immediates (h : Holds last s xs) {i : Nat} (hi : i < immediateBuffLen) :
    s.computeImmediates.1.immediates.getD i 0 =
      (if ((xs.getD i 0 : Nat) : Int) < Int.bmod (s.minLevel + subunitLengthN1 : Nat) 256 then 0 else xs.getD i 0) /
        subunitLengthN1 := by
  rw [getD_eq_getElem?_getD, Speaker.computeImmediates, getElem?_map, getElem?_range hi, Option.map_some, Option.getD_some,
    Speaker.immediate, h.getD_levels hi]
  rfl

theorem Holds.getD_le (h : Holds last s xs) (i : Nat) : xs.getD i 0 ≤ maxLevel := by
  rw [getD_eq_getElem?_getD]
  cases hx : xs[i]? with
  | none => exact Nat.zero_le _
  | some x => exact h.le x (mem_of_getElem? hx)

/-- **The immediates of every history** are right exactly if the noise gate does not wrap, or all samples are below a
subunit. -/
theorem immediates_iff (mean : Mean) (created : Nat) (calls : List LevelCall) (h : Timely created calls) :
    Gated (run mean { lastLevelChangeTime := created } calls) (samples created calls) ↔
      (run mean { lastLevelChangeTime := created } calls).minLevel + subunitLengthN1 ≤ maxLevel ∨
        ∀ i < immediateBuffLen, (samples created calls).getD i 0 < subunitLengthN1 := by
  obtain ⟨last, hs⟩ := (Holds.new created).run mean h
  rw [append_nil] at hs
  generalize run mean { lastLevelChangeTime := created } calls = s at hs ⊢
  generalize samples created calls = xs at hs ⊢
  have hmin : s.minLevel ≤ 127 := hs.minLevel
  show Gated s xs ↔ s.minLevel + 10 ≤ 127 ∨ ∀ i < immediateBuffLen, xs.getD i 0 < 10
  by_cases hgate : s.minLevel + 10 ≤ 127
  · refine iff_of_true (fun i hi => ?_) (.inl hgate)
    have hbmod : Int.bmod (s.minLevel + 10 : Nat) 256 = (s.minLevel + 10 : Nat) := by
      rw [Int.bmod_eq_of_le] <;> omega
    rw [hs.getD_immediates hi, show subunitLengthN1 = 10 from rfl, hbmod]
    simp only [Int.ofNat_lt]
    split <;> rfl
  -- the sum is negative as an `int8_t`, while every sample is below it
  rw [or_iff_right hgate]
  refine forall₂_congr fun i hi => ?_
  have hle : xs.getD i 0 ≤ 127 := hs.getD_le i
  have hbmod : Int.bmod (s.minLevel + 10 : Nat) 256 < 0 := by
    rw [Int.bmod_def]
    omega
  rw [hs.getD_immediates hi, show subunitLengthN1 = 10 from rfl, if_neg (by omega), if_pos (by omega)]
  omega

def lowerMean : Mean := ⟨min, fun _ _ => Nat.le_refl _, fun a b => Nat.le_trans (Nat.min_le_left a b) (Nat.le_max_left a b)⟩

theorem immediates_of_speech :
    Gated (run lowerMean { lastLevelChangeTime := 0 } [⟨50, 20⟩, ⟨100, 60⟩]) (samples 0 [⟨50, 20⟩, ⟨100, 60⟩]) :=
  (immediates_iff lowerMean 0 [⟨50, 20⟩, ⟨100, 60⟩] (by simp [Timely])).mpr (.inl (by decide))

/-- The first level is the loudest one: 137 is no `int8_t`, and the level that should be taken for noise is passed. -/
theorem gate_wraps : ¬ Gated (run lowerMean { lastLevelChangeTime := 0 } [⟨127, 20⟩]) (samples 0 [⟨127, 20⟩]) :=
  fun h => absurd (h 0 (by decide)) (by decide)

/-! ## Binomial coefficients -/

structure Product where
  t : Int
  i : Int
  j : Int

/-- The product does not fit `int64_t`. -/
inductive Overflow
  | overflow

/-- `t = t * i / j` -/
def Product.round (p : Product) (_ : Unit) : Except Overflow Product :=
  if -2 ^ 63 ≤ p.t * p.i ∧ p.t * p.i < 2 ^ 63 then
    .ok { t := (p.t * p.i).tdiv p.j, i := p.i - 1, j := p.j + 1 }
  else .error .overflow

def rounds (n r : Int) : List Unit := replicate (n - max r (n - r)).toNat ()

def binomialCoefficient (n r : Int) : Except Overflow Int :=
  ((rounds n r).foldlM Product.round { t := 1, i := n, j := 1 }).map Product.t

variable {n r k : Nat}

theorem choose_le_choose_of_le_half {a b : Nat} (hab : a ≤ b) (hb : b ≤ n / 2) : n.choose a ≤ n.choose b := by
  induction b, hab using Nat.le_induction with
  | base => exact Nat.le_refl _
  | succ b _ ih => exact (ih (by omega)).trans (Nat.choose_le_succ_of_lt_half_left (by omega))

theorem choose_min (hr : r ≤ n) : n.choose (min r (n - r)) = n.choose r := by
  rcases Nat.le_total r (n - r) with h | h
  · rw [Nat.min_eq_left h]
  · rw [Nat.min_eq_right h, Nat.choose_symm hr]

theorem choose_mul_le (hr : r ≤ n) (hk : k < min r (n - r)) : n.choose k * (n - k) ≤ n.choose r * min r (n - r) := by
  rw [← Nat.choose_succ_right_eq, ← choose_min hr]
  exact Nat.mul_le_mul (choose_le_choose_of_le_half hk (by omega)) hk

def Product.choose (n k : Nat) : Product := { t := n.choose k, i := n - k, j := k + 1 }

theorem Product.mul_choose (hk : k ≤ n) : (choose n k).t * (choose n k).i = (n.choose (k + 1) : Int) * (choose n k).j := by
  have hnat := Nat.choose_succ_right_eq n k
  zify [hk] at hnat
  exact hnat.symm

theorem Product.round_choose (hk : k < n) (hfits : n.choose k * (n - k) < 2 ^ 63) :
    (choose n k).round () = .ok (choose n (k + 1)) := by
  have hprod := mul_choose hk.le
  have hpos : 0 < (choose n k).j := Int.natCast_pos.mpr k.succ_pos
  have hnonneg := Int.mul_nonneg (Int.natCast_nonneg (n.choose (k + 1))) hpos.le
  zify [hk.le] at hfits
  rw [round, if_pos ⟨by omega, hfits⟩, hprod, Int.mul_tdiv_cancel _ hpos.ne', choose, choose]
  simp only [Nat.cast_succ, Int.sub_sub]

theorem rounds_choose (hr : r ≤ n) (hfits : n.choose r * min r (n - r) < 2 ^ 63) : ∀ {m k : Nat}, k + m = min r (n - r) →
      Safe Product.round (fun p => p.j ∣ p.t * p.i) (Product.choose n k) (replicate m ()) ∧
        (replicate m ()).foldlM Product.round (Product.choose n k) = .ok (Product.choose n (k + m))
  | 0, k, _ => ⟨trivial, rfl⟩
  | m + 1, k, hm => by
    have hround := Product.round_choose (n := n) (k := k) (by omega)
      (Nat.lt_of_le_of_lt (choose_mul_le hr (by omega)) hfits)
    obtain ⟨hsafe, hrun⟩ := rounds_choose hr hfits (m := m) (k := k + 1) (by omega)
    rw [replicate_succ, safe_cons_ok hround, foldlM_cons, hround]
    refine ⟨⟨Dvd.intro_left _ (Product.mul_choose (by omega)).symm, hsafe⟩, ?_⟩
    rw [← Nat.add_assoc, Nat.add_right_comm]
    exact hrun

/-- **`BinomialCoefficient`**: no product overflows, every division is exact (the first one is by 1), and the result is the
coefficient. -/
theorem binomialCoefficient_eq (n r : Nat) (hr : r ≤ n) (hfits : n.choose r * min r (n - r) < 2 ^ 63) :
    binomialCoefficient n r = .ok (n.choose r) ∧
      Safe Product.round (fun p => p.j ∣ p.t * p.i) { t := 1, i := n, j := 1 } (rounds n r) := by
  have hstart : ({ t := 1, i := n, j := 1 } : Product) = Product.choose n 0 := by simp [Product.choose]
  have hrounds : rounds n r = replicate (min r (n - r)) () := by
    rw [rounds]
    congr 1
    omega
  obtain ⟨hsafe, hrun⟩ := rounds_choose hr hfits (m := min r (n - r)) (k := 0) (Nat.zero_add _)
  rw [binomialCoefficient, hstart, hrounds, hrun, Nat.zero_add]
  exact ⟨congrArg (fun x : Nat => Except.ok (x : Int)) (choose_min hr), hsafe⟩

theorem binomialCoefficient_thirteen : binomialCoefficient 13 6 = .ok 1716 :=
  (binomialCoefficient_eq 13 6 (by decide) (by decide)).1

end Mediasoup.Observer
