import Mediasoup.Lib.Run
import Mediasoup.Seq.Manager

/-!
# Numbers in order

A stream gives the manager the numbers `s`, `s + 1`, ... (modulo `2 ^ w`), each once, to `Input` or to `Drop`. Every drop is
either held in `dropped` or already taken from `base`, so the manager is right as long as `Input` counts every held drop: as long
as none is numerically between the input and the input plus a third of the range (`safe_of_notStale`). A drop of the previous
cycle can be there, as `ClearDropped` need not purge it in time (`stale_drop_skips_output`).
-/

namespace Mediasoup.Seq

open Lib SeqManager

/-- What is done with the next number. -/
inductive Op
  | input (sh : Shape Nat)
  | drop (sh : Shape Nat)

/-- A manager that is given consecutive numbers: the next number, what the calls of `Input` returned, and the number of
drops since the last one. -/
structure InOrder where
  manager : SeqManager
  next : Nat
  outputs : List (Option Nat)
  drops : Nat
  deriving DecidableEq

namespace InOrder

variable (w : Nat)

def start (sh : Shape Nat) (s : Nat) : InOrder :=
  let (manager, output) := ({} : SeqManager).input w sh s
  ⟨manager, (s + 1) % 2 ^ w, [output], 0⟩

def step (r : InOrder) : Op → Except Empty InOrder
  | .input sh =>
    let (manager, output) := r.manager.input w sh r.next
    .ok ⟨manager, (r.next + 1) % 2 ^ w, r.outputs ++ [output], 0⟩
  | .drop sh => .ok ⟨r.manager.drop w sh r.next, (r.next + 1) % 2 ^ w, r.outputs, r.drops + 1⟩

/-- Every `Input` returned true, and successive outputs are consecutive. -/
def Consecutive (r : InOrder) : Prop :=
  (∀ o ∈ r.outputs, o.isSome) ∧ r.outputs.IsChain fun a b => b = a.map fun o => (o + 1) % 2 ^ w

instance (r : InOrder) : Decidable (r.Consecutive w) := inferInstanceAs (Decidable (_ ∧ _))

/-- There are fewer than `MaxValue / 3` drops between two inputs. -/
def FewDrops (r : InOrder) : Op → Prop
  | .input _ => r.drops < maxValue w / 3
  | .drop _ => True

/-- No held drop is within a third of the range above an input, and a number that is dropped is not held already. -/
def NotStale (r : InOrder) : Op → Prop
  | .input _ => ∀ d ∈ r.manager.dropped, ¬ (r.next ≤ d ∧ d - r.next ≤ maxValue w / 3)
  | .drop _ => r.next ∉ r.manager.dropped

instance (r : InOrder) : ∀ op, Decidable (r.FewDrops w op)
  | .input _ => inferInstanceAs (Decidable (_ < _))
  | .drop _ => isTrue trivial

instance (r : InOrder) : ∀ op, Decidable (r.NotStale w op)
  | .input _ => inferInstanceAs (Decidable (∀ d ∈ _, _))
  | .drop _ => inferInstanceAs (Decidable (_ ∉ _))

/-! ## The invariant -/

/-- The next number is `drops + 1` after the newest input, and its output will be the one after the last output. -/
structure Tracking (r : InOrder) : Prop where
  started : r.manager.started = true
  next_lt : r.next < 2 ^ w
  maxInput_lt : r.manager.maxInput < 2 ^ w
  next_eq : r.next = r.manager.maxInput + r.drops + 1 ∨ r.next + 2 ^ w = r.manager.maxInput + r.drops + 1
  output : ∃ o, r.outputs.getLast? = some (some o) ∧ ((o + 1 : Nat) : ZMod (2 ^ w)) = r.next + r.manager.offset w

structure Inv (r : InOrder) : Prop where
  consecutive : r.Consecutive w
  tracking : r.drops < maxValue w / 3 → r.Tracking w

variable {w}

theorem Tracking.higher {r : InOrder} (h : r.Tracking w) (hd : r.drops < maxValue w / 3) :
    isSeqHigherThan w r.next r.manager.maxInput = true := by
  have hM := two_pow_eq_maxValue_succ w
  have := h.next_eq
  simp only [isSeqHigherThan, decide_eq_true_eq]
  omega

theorem cast_succ_mod (w n : Nat) : (((n + 1) % 2 ^ w : Nat) : ZMod (2 ^ w)) = n + 1 := by
  rw [ZMod.natCast_mod]
  push_cast
  rfl

theorem succ_mod_cases {w n : Nat} (h : n < 2 ^ w) :
    (n + 1 < 2 ^ w ∧ (n + 1) % 2 ^ w = n + 1) ∨ (n + 1 = 2 ^ w ∧ (n + 1) % 2 ^ w = 0) := by
  rcases Nat.lt_or_ge (n + 1) (2 ^ w) with hlt | hge
  · exact .inl ⟨hlt, Nat.mod_eq_of_lt hlt⟩
  · have heq : n + 1 = 2 ^ w := by omega
    exact .inr ⟨heq, by rw [heq, Nat.mod_self]⟩

theorem input_notStale {m : SeqManager} (sh : Shape Nat) {x : Nat}
    (h : ∀ d ∈ m.dropped, ¬ (x ≤ d ∧ d - x ≤ maxValue w / 3)) :
    ∃ m' o, m.input w sh x = (m', some o) ∧ o < 2 ^ w ∧ (o : ZMod (2 ^ w)) = x + m.offset w ∧
      m' = (m.updateMax w x o).clearDropped w sh := by
  have hmem : x ∉ m.dropped := fun hx => h x hx ⟨Nat.le_refl x, by omega⟩
  have hcount : m.dropped.countP (counted w x) = m.dropped.length := by
    rw [List.countP_eq_length]
    intro d hd
    have := h d hd
    rw [counted_iff]
    omega
  obtain ⟨m', o, hin, ho, hcast, hm'⟩ := input_of_not_mem (w := w) sh hmem
  rw [hcount] at hcast
  exact ⟨m', o, hin, ho, hcast, hm'⟩

theorem step_input {r : InOrder} {sh : Shape Nat} (h : r.Inv w) (hfew : r.FewDrops w (.input sh))
    (hs : r.NotStale w (.input sh)) : ∃ r', r.step w (.input sh) = .ok r' ∧ r'.Inv w := by
  have ht := h.tracking hfew
  obtain ⟨m', o, hin, ho, hcast, hm'⟩ := input_notStale sh hs
  obtain ⟨p, hlast, hp⟩ := ht.output
  have hop : o = (p + 1) % 2 ^ w := by
    refine eq_of_cast_eq ho (mod_lt_two_pow w _) ?_
    rw [hcast, ← hp, ZMod.natCast_mod]
  have hmax : m'.maxInput = r.next := by
    simp [hm', updateMax_maxInput, ht.higher hfew]
  refine ⟨⟨m', (r.next + 1) % 2 ^ w, r.outputs ++ [some o], 0⟩, by simp only [step, hin],
    ⟨⟨?_, ?_⟩, fun _ => ⟨?_, ?_, ?_, ?_, o, ?_, ?_⟩⟩⟩
  · intro q hq
    rcases List.mem_append.mp hq with hq | hq
    · exact h.consecutive.1 q hq
    · simp [List.mem_singleton.mp hq]
  · refine List.isChain_append.mpr ⟨h.consecutive.2, by simp, ?_⟩
    simp [hlast, hop]
  · simp [hm']
  · exact mod_lt_two_pow w _
  · rw [hmax]
    exact ht.next_lt
  · rcases succ_mod_cases ht.next_lt with ⟨_, he⟩ | ⟨_, he⟩
    · exact .inl (by simp only [he, hmax])
    · exact .inr (by simp only [he, hmax]; omega)
  · simp
  · simp only [cast_succ_mod, hm', offset_clearDropped, offset_updateMax]
    push_cast
    rw [hcast]
    ring

theorem step_drop {r : InOrder} {sh : Shape Nat} (h : r.Inv w) (hs : r.NotStale w (.drop sh)) :
    ∃ r', r.step w (.drop sh) = .ok r' ∧ r'.Inv w := by
  refine ⟨_, rfl, ⟨h.consecutive, fun hd => ?_⟩⟩
  replace hd : r.drops + 1 < maxValue w / 3 := hd
  have hd' : r.drops < maxValue w / 3 := by omega
  have ht := h.tracking hd'
  have hh := ht.higher hd'
  have hmax : (r.manager.drop w sh r.next).maxInput = r.manager.maxInput := by
    unfold SeqManager.drop
    split <;> rfl
  have hstarted : (r.manager.drop w sh r.next).started = r.manager.started := by
    unfold SeqManager.drop
    split <;> rfl
  obtain ⟨o, hlast, ho⟩ := ht.output
  refine ⟨hstarted.trans ht.started, mod_lt_two_pow w _, ?_, ?_, o, hlast, ?_⟩
  · rw [hmax]
    exact ht.maxInput_lt
  · have hM := two_pow_eq_maxValue_succ w
    have hlt := ht.maxInput_lt
    have hnext := ht.next_eq
    rcases succ_mod_cases ht.next_lt with ⟨_, he⟩ | ⟨_, he⟩
    · simp only [he]
      omega
    · exact .inr (by simp only [he]; omega)
  · rw [offset_drop hh hs, cast_succ_mod, ho]
    ring

theorem start_inv (sh : Shape Nat) {s : Nat} (hs : s < 2 ^ w) : (start w sh s).Inv w := by
  obtain ⟨m', o, hin, ho, hcast, hm'⟩ := input_notStale (w := w) (m := {}) sh (x := s) (by simp)
  have hstart : start w sh s = ⟨m', (s + 1) % 2 ^ w, [some o], 0⟩ := by simp only [start, hin]
  have hmax : m'.maxInput = s := by simp [hm', updateMax_maxInput]
  rw [hstart]
  refine ⟨⟨by simp, by simp⟩, fun _ => ⟨?_, mod_lt_two_pow w _, ?_, ?_, o, rfl, ?_⟩⟩
  · simp [hm']
  · rw [hmax]
    exact hs
  · rcases succ_mod_cases hs with ⟨_, he⟩ | ⟨_, he⟩
    · exact .inl (by simp only [he, hmax])
    · exact .inr (by simp only [he, hmax]; omega)
  · simp only [cast_succ_mod, hm', offset_clearDropped, offset_updateMax]
    push_cast
    rw [hcast]
    ring

end InOrder

/-- **Runs of any length.** If the numbers from `s` on come in order, with fewer than `MaxValue / 3` drops between two inputs,
and no step finds a stale drop, every `Input` returns true and successive outputs are consecutive. -/
theorem safe_of_notStale (w s : Nat) (hs : s < 2 ^ w) (sh : Shape Nat) (ops : List Op)
    (hfew : Along (InOrder.step w) (InOrder.FewDrops w) (InOrder.start w sh s) ops)
    (hstale : Along (InOrder.step w) (InOrder.NotStale w) (InOrder.start w sh s) ops) :
    (InOrder.start w sh s).Consecutive w ∧ Safe (InOrder.step w) (InOrder.Consecutive w) (InOrder.start w sh s) ops := by
  have hstart := InOrder.start_inv sh hs
  refine ⟨hstart.consecutive, safe_of_along (I := InOrder.Inv w) ?_ (fun _ h => h.consecutive) ops _ hstart
    (along_and.mpr ⟨hfew, hstale⟩)⟩
  intro r op hI hC
  cases op with
  | input sh => exact InOrder.step_input hI hC.1 hC.2
  | drop sh => exact InOrder.step_drop hI hC.2

theorem safe_across_wrap : (InOrder.start 16 .spine 65533).Consecutive 16 ∧ Safe (InOrder.step 16) (InOrder.Consecutive 16)
      (InOrder.start 16 .spine 65533) [.input .spine, .drop .spine, .input .spine, .input .spine] :=
  safe_of_notStale 16 65533 (by decide) .spine _ (by decide) (by decide)

/-- Three bits: 4 and 1 are dropped, and the drop of 4 is still held when 2 comes round and is not counted. -/
theorem stale_drop_skips_output : Along (InOrder.step 3) (InOrder.FewDrops 3) (InOrder.start 3 .spine 3)
        [.drop .spine, .input .spine, .input .spine, .input .spine, .input .spine, .drop .spine, .input .spine] ∧
      ¬ Safe (InOrder.step 3) (InOrder.Consecutive 3) (InOrder.start 3 .spine 3)
        [.drop .spine, .input .spine, .input .spine, .input .spine, .input .spine, .drop .spine, .input .spine] := by
  decide

end Mediasoup.Seq
