import Mathlib.Data.ZMod.Basic
import Mathlib.Tactic.Ring
import Mediasoup.Lib.SearchTree

/-!
# The sequence number manager

`SeqManager<T, N>` renumbers a stream of `N`-bit sequence numbers from which some are dropped, so that the receiver sees no gap. A
number is a `Nat` below `2 ^ w`, where `w` is `N` or, for `N = 0`, the width of `T`. `dropped` is a `std::set` ordered by the
circular comparison `SeqLowerThan`, which is not transitive: each call takes the `Shape` of the search tree at that moment.
-/

namespace Mediasoup.Seq

open Lib

/-! ## Circular comparison -/

def maxValue (w : Nat) : Nat := 2 ^ w - 1

def isSeqLowerThan (w lhs rhs : Nat) : Bool :=
  decide ((rhs > lhs ∧ rhs - lhs ≤ maxValue w / 2) ∨ (lhs > rhs ∧ lhs - rhs > maxValue w / 2))

def isSeqHigherThan (w lhs rhs : Nat) : Bool :=
  decide ((lhs > rhs ∧ lhs - rhs ≤ maxValue w / 2) ∨ (rhs > lhs ∧ rhs - lhs > maxValue w / 2))

def subMask (w a b : Nat) : Nat := (a + (2 ^ w - b % 2 ^ w)) % 2 ^ w

theorem isSeqHigherThan_eq (w a b : Nat) : isSeqHigherThan w a b = isSeqLowerThan w b a := rfl

theorem eq_of_not_lower {w a b : Nat} (hab : isSeqLowerThan w a b = false) (hba : isSeqLowerThan w b a = false) : a = b := by
  simp only [isSeqLowerThan, decide_eq_false_iff_not] at hab hba
  omega

theorem isSeqLowerThan_irrefl (w a : Nat) : isSeqLowerThan w a a = false := by
  simp [isSeqLowerThan]

theorem isSeqLowerThan_asymm {w a b : Nat} (h : isSeqLowerThan w a b = true) : isSeqLowerThan w b a = false := by
  simp only [isSeqLowerThan, decide_eq_true_eq, decide_eq_false_iff_not] at h ⊢
  omega

theorem two_pow_eq_maxValue_succ (w : Nat) : 2 ^ w = maxValue w + 1 := by
  have : 0 < 2 ^ w := Nat.two_pow_pos w
  simp only [maxValue]
  omega

theorem mod_lt_two_pow (w a : Nat) : a % 2 ^ w < 2 ^ w := Nat.mod_lt _ (Nat.two_pow_pos w)

theorem cast_subMask (w a b : Nat) : ((subMask w a b : Nat) : ZMod (2 ^ w)) = a - b := by
  have hlt := mod_lt_two_pow w b
  rw [subMask, ZMod.natCast_mod, Nat.cast_add, Nat.cast_sub hlt.le, ZMod.natCast_mod, ZMod.natCast_self]
  ring

theorem eq_of_cast_eq {w a b : Nat} (ha : a < 2 ^ w) (hb : b < 2 ^ w) (h : (a : ZMod (2 ^ w)) = b) : a = b := by
  rw [ZMod.natCast_eq_natCast_iff'] at h
  rwa [Nat.mod_eq_of_lt ha, Nat.mod_eq_of_lt hb] at h

/-! ## The manager -/

structure SeqManager where
  started : Bool := false
  base : Nat := 0
  maxOutput : Nat := 0
  maxInput : Nat := 0
  dropped : List Nat := []
  deriving DecidableEq

namespace SeqManager

variable (w : Nat) (sh : Shape Nat)

def sync (m : SeqManager) (input : Nat) : SeqManager :=
  { m with base := subMask w m.maxOutput input, maxInput := input, dropped := [] }

def drop (m : SeqManager) (input : Nat) : SeqManager :=
  if isSeqHigherThan w input m.maxInput then { m with dropped := sh.insert id (isSeqLowerThan w) m.dropped input }
  else m

/-- The values `ClearDropped` erases between its two iterators (given as places in the list). -/
def eraseBetween (dropped : List Nat) (it1 it2 : Nat) : List Nat :=
  -- a single value in the range
  if it1 = it2 then dropped.eraseIdx it1
  -- `it2` is out of range, only `it1` is within the range
  else if it2 < it1 then dropped.eraseIdx it1
  else dropped.take it1 ++ dropped.drop it2

def clearDropped (m : SeqManager) : SeqManager :=
  if m.dropped = [] then m
  else
    let threshold := (m.maxInput + maxValue w / 3) % 2 ^ w
    let it1 := sh.upperBound id (isSeqLowerThan w) m.dropped m.maxInput
    let it2 := sh.lowerBound id (isSeqLowerThan w) m.dropped threshold
    -- there is no dropped value greater than `maxInput`
    if it1 = m.dropped.length then m
    else
      let dropped := eraseBetween m.dropped it1 it2
      { m with dropped := dropped, base := subMask w m.base (m.dropped.length - dropped.length) }

/-- Whether `Input` counts a dropped value: lower than the input, or taken for one of a previous cycle. -/
def counted (input value : Nat) : Bool :=
  isSeqLowerThan w value input || decide ((value > input ∧ value - input > maxValue w / 3) ∨
    (value < input ∧ input - value > maxValue w / 3))

/-- The base for one input: less one for every dropped value that counts. -/
def inputBase (m : SeqManager) (input : Nat) : Nat :=
  if m.dropped = [] then m.base else subMask w m.base (m.dropped.countP (counted w input))

def updateMax (m : SeqManager) (input output : Nat) : SeqManager :=
  if !m.started then { m with started := true, maxInput := input, maxOutput := output }
  else
    { m with
      maxInput := if isSeqHigherThan w input m.maxInput then input else m.maxInput
      maxOutput := if isSeqHigherThan w output m.maxOutput then output else m.maxOutput }

/-- `Input` returns the output, or `none` where the source returns `false`. -/
def input (m : SeqManager) (input : Nat) : SeqManager × Option Nat :=
  if (sh.find id (isSeqLowerThan w) m.dropped input).isSome then (m, none)
  else
    let output := (input + m.inputBase w input) % 2 ^ w
    ((m.updateMax w input output).clearDropped w sh, some output)

/-! ## What the functions do to the set -/

variable {w} {sh} {m : SeqManager}

theorem eraseBetween_sublist (l : List Nat) (it1 it2 : Nat) : (eraseBetween l it1 it2).Sublist l := by
  unfold eraseBetween
  split
  · exact l.eraseIdx_sublist it1
  split
  · exact l.eraseIdx_sublist it1
  have hle : it1 ≤ it2 := by omega
  calc (l.take it1 ++ l.drop it2).Sublist (l.take it1 ++ l.drop it1) :=
        (List.drop_sublist_drop_left l hle).append_left _
    _ = l := List.take_append_drop it1 l

theorem find_eq_none_of_not_mem {x : Nat} (h : x ∉ m.dropped) : sh.find id (isSeqLowerThan w) m.dropped x = none := by
  cases hf : sh.find id (isSeqLowerThan w) m.dropped x with
  | none => rfl
  | some e =>
    obtain ⟨hmem, hlt, hgt⟩ := sh.find_some hf
    have hex : e = x := eq_of_not_lower hlt hgt
    exact absurd (hex ▸ hmem) h

variable (sh) in
theorem insert_of_not_mem {l : List Nat} {x : Nat} (h : x ∉ l) :
    ∃ pre post, l = pre ++ post ∧ sh.insert id (isSeqLowerThan w) l x = pre ++ x :: post ∧
      (∀ d ∈ pre.getLast?, isSeqLowerThan w d x = true) ∧ (∀ d ∈ post.head?, isSeqLowerThan w x d = true) := by
  rcases sh.insert_cases id (isSeqLowerThan w) l x with hins | ⟨d, hd, -, hlt, hgt⟩
  · exact hins
  · have hdx : d = x := eq_of_not_lower hlt hgt
    exact absurd (hdx ▸ hd) h

theorem counted_iff {x d : Nat} : counted w x d = true ↔ d < x ∨ x < d ∧ maxValue w / 3 < d - x := by
  simp only [counted, isSeqLowerThan, Bool.or_eq_true, decide_eq_true_eq]
  omega

@[simp] theorem clearDropped_started : (m.clearDropped w sh).started = m.started := by
  unfold clearDropped
  split
  · rfl
  · simp only []
    split <;> rfl

@[simp] theorem clearDropped_maxInput : (m.clearDropped w sh).maxInput = m.maxInput := by
  unfold clearDropped
  split
  · rfl
  · simp only []
    split <;> rfl

theorem clearDropped_sublist : (m.clearDropped w sh).dropped.Sublist m.dropped := by
  unfold clearDropped
  split
  · exact List.Sublist.refl _
  simp only []
  split
  · exact List.Sublist.refl _
  · exact eraseBetween_sublist _ _ _

@[simp] theorem updateMax_dropped {x o : Nat} : (m.updateMax w x o).dropped = m.dropped := by
  unfold updateMax
  split <;> rfl

@[simp] theorem updateMax_base {x o : Nat} : (m.updateMax w x o).base = m.base := by
  unfold updateMax
  split <;> rfl

@[simp] theorem updateMax_started {x o : Nat} : (m.updateMax w x o).started = true := by
  unfold updateMax
  split
  · rfl
  · rename_i h
    simpa using h

theorem updateMax_maxInput {x o : Nat} : (m.updateMax w x o).maxInput =
    if m.started && !isSeqHigherThan w x m.maxInput then m.maxInput else x := by
  unfold updateMax
  by_cases hs : m.started = true <;> by_cases hh : isSeqHigherThan w x m.maxInput = true <;> simp [hs, hh]

/-! ## The offset of a manager -/

variable (w) in
/-- What an output adds to its input once every held drop is counted. -/
def offset (m : SeqManager) : ZMod (2 ^ w) := m.base - m.dropped.length

@[simp] theorem offset_clearDropped : (m.clearDropped w sh).offset w = m.offset w := by
  unfold clearDropped
  split
  · rfl
  simp only []
  split
  · rfl
  have hle := (eraseBetween_sublist m.dropped (sh.upperBound id (isSeqLowerThan w) m.dropped m.maxInput)
    (sh.lowerBound id (isSeqLowerThan w) m.dropped ((m.maxInput + maxValue w / 3) % 2 ^ w))).length_le
  rw [offset, offset, cast_subMask, Nat.cast_sub hle]
  ring

@[simp] theorem offset_updateMax {x o : Nat} : (m.updateMax w x o).offset w = m.offset w := by
  simp [offset]

theorem offset_drop {x : Nat} (hx : isSeqHigherThan w x m.maxInput = true) (hmem : x ∉ m.dropped) :
    (m.drop w sh x).offset w = m.offset w - 1 := by
  obtain ⟨pre, post, hl, hins, -, -⟩ := insert_of_not_mem (w := w) sh hmem
  have hlen : (pre ++ x :: post).length = m.dropped.length + 1 := by
    rw [hl, List.length_append, List.length_append, List.length_cons]
    omega
  rw [drop, if_pos hx, offset, offset, hins, hlen]
  push_cast
  ring

theorem cast_inputBase (x : Nat) : ((m.inputBase w x : Nat) : ZMod (2 ^ w)) = m.base - m.dropped.countP (counted w x) := by
  unfold inputBase
  split
  · rename_i h
    simp [h]
  · exact cast_subMask w _ _

variable (sh) in
/-- **One input.** If the number is not held, the output is the input plus the base, less the held drops that count. -/
theorem input_of_not_mem {x : Nat} (hmem : x ∉ m.dropped) : ∃ m' o, m.input w sh x = (m', some o) ∧ o < 2 ^ w ∧
      (o : ZMod (2 ^ w)) = x + (m.base - m.dropped.countP (counted w x)) ∧
      m' = (m.updateMax w x o).clearDropped w sh := by
  refine ⟨_, (x + m.inputBase w x) % 2 ^ w, by simp [input, find_eq_none_of_not_mem hmem], mod_lt_two_pow w _, ?_, rfl⟩
  rw [ZMod.natCast_mod, Nat.cast_add, cast_inputBase]

end SeqManager

end Mediasoup.Seq
