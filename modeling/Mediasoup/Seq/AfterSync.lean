import Mediasoup.Seq.Window

/-!
# After `Sync`

`Sync(s - 1)` lets the outputs go on from `maxOutput`: it is as if `s - 1` had been an input with this output, so the outputs that
follow keep their order with it as in any window. They are ahead of it by at most a third of the range, and thus ahead of the
earlier outputs that are not too far behind it (`newer_after_sync`).
-/

namespace Mediasoup.Seq

open Lib SeqManager

inductive Reached (w : Nat) : SeqManager → Prop
  | start : Reached w {}
  | input {m : SeqManager} (hm : Reached w m) (sh : Shape Nat) (x : Nat) : Reached w (m.input w sh x).1
  | drop {m : SeqManager} (hm : Reached w m) (sh : Shape Nat) (x : Nat) : Reached w (m.drop w sh x)
  | sync {m : SeqManager} (hm : Reached w m) (x : Nat) : Reached w (m.sync w x)

theorem SeqManager.clearDropped_maxOutput {w : Nat} {m : SeqManager} {sh : Shape Nat} :
    (m.clearDropped w sh).maxOutput = m.maxOutput := by
  unfold clearDropped
  split
  · rfl
  · simp only []
    split <;> rfl

theorem Reached.maxOutput_lt {w : Nat} {m : SeqManager} (h : Reached w m) : m.maxOutput < 2 ^ w := by
  induction h with
  | start => exact Nat.two_pow_pos w
  | @input m _ sh x ih =>
    unfold SeqManager.input
    split
    · exact ih
    simp only [clearDropped_maxOutput, updateMax]
    split
    · exact mod_lt_two_pow w _
    · split
      · exact mod_lt_two_pow w _
      · exact ih
  | drop _ sh x ih =>
    unfold SeqManager.drop
    split <;> exact ih
  | sync _ x ih => exact ih

namespace InWindowRun

/-- The number of the call is newer than `low`, by at most `MaxValue / 3`. -/
def CallNewer (w low : Nat) (_ : InWindowRun) : Call → Prop
  | .input _ x => InWindow w low (maxValue w / 3 + 1) x ∧ x ≠ low
  | .drop _ x => InWindow w low (maxValue w / 3 + 1) x ∧ x ≠ low

instance (w low : Nat) (r : InWindowRun) : ∀ c, Decidable (r.CallNewer w low c)
  | .input _ _ => inferInstanceAs (Decidable (_ ∧ _))
  | .drop _ _ => inferInstanceAs (Decidable (_ ∧ _))

/-- Every output is newer than the numbers that are at most `MaxValue / 2 - MaxValue / 3` behind `maxOutput`. -/
def Newer (w maxOutput : Nat) (r : InWindowRun) : Prop :=
  ∀ a ∈ r.results, ∀ p ∈ a.2, ∀ o < 2 ^ w, dist w o maxOutput ≤ maxValue w / 2 - maxValue w / 3 → isSeqLowerThan w o p = true

def withSync (low maxOutput : Nat) (r : InWindowRun) : InWindowRun := ⟨r.manager, (low, some maxOutput) :: r.results⟩

variable {w low maxOutput : Nat} {r : InWindowRun}

theorem newer_of_inv (hlow : low < 2 ^ w) (h : (r.withSync low maxOutput).Inv w low (maxValue w / 3 + 1))
    (hne : ∀ a ∈ r.results, a.1 ≠ low) : r.Newer w maxOutput := by
  rintro ⟨y, _⟩ ha p rfl o ho hnear
  obtain ⟨-, hmax⟩ := h.results (low, some maxOutput) List.mem_cons_self
  obtain ⟨hyw, hy⟩ := h.results (y, some p) (List.mem_cons_of_mem _ ha)
  simp only at hyw hy
  have hzero : dist w low low = 0 := by simp [dist]
  have hlt : dist w low low < dist w low y := by
    rw [hzero, Nat.pos_iff_ne_zero]
    exact fun hy0 => hne _ ha (eq_of_dist_eq hlow hyw.1 hlow (hy0.trans hzero.symm))
  obtain ⟨k, hpos, hk, hcast⟩ := output_ahead hlow h hlow hmax hy hlt
  have hyd : dist w low y < maxValue w / 3 + 1 := hyw.2
  refine lower_of_cast_add ho hy.2.2.1 (k := dist w o maxOutput + k) (by omega) (by omega) ?_
  rw [hcast, Nat.cast_add, cast_dist ho]
  ring

theorem inv_withSync (m : SeqManager) (hlow : low < 2 ^ w) (hmax : m.maxOutput < 2 ^ w) :
    (withSync low m.maxOutput ⟨m.sync w low, []⟩).Inv w low (maxValue w / 3 + 1) := by
  have hloww : InWindow w low (maxValue w / 3 + 1) low := ⟨hlow, by simp [dist]⟩
  refine ⟨.nil, fun _ h => absurd h List.not_mem_nil, hloww, fun _ => rfl, ?_⟩
  rintro a ha
  rw [List.mem_singleton.mp ha]
  refine ⟨hloww, List.not_mem_nil, Nat.le_refl _, hmax, ?_⟩
  simp [withSync, SeqManager.sync, older, cast_subMask]

end InWindowRun

open InWindowRun in
/-- **After `Sync(s - 1)`**, `Input(s)` returns `maxOutput + 1`, and every output of a run of calls with newer numbers, whose
inputs find no drop ahead, is newer than `maxOutput` and than the outputs not far behind it. -/
theorem newer_after_sync (w : Nat) (m : SeqManager) (hm : Reached w m) (s : Nat) (calls : List Call)
    (hnewer : Along (step w) (CallNewer w (subMask w s 1)) ⟨m.sync w (subMask w s 1), []⟩ calls)
    (hno : Along (step w) (NoDropAhead w) ⟨m.sync w (subMask w s 1), []⟩ calls) :
    (∀ sh, ((m.sync w (subMask w s 1)).input w sh s).2 = some ((m.maxOutput + 1) % 2 ^ w)) ∧
      Safe (step w) (Newer w m.maxOutput) ⟨m.sync w (subMask w s 1), []⟩ calls := by
  have hlow : subMask w s 1 < 2 ^ w := mod_lt_two_pow w _
  constructor
  · intro sh
    obtain ⟨m', o, hin, ho, hcast, -⟩ :=
      input_of_not_mem (w := w) sh (m := m.sync w (subMask w s 1)) (x := s) List.not_mem_nil
    have hout : o = (m.maxOutput + 1) % 2 ^ w := by
      refine eq_of_cast_eq ho (mod_lt_two_pow w _) ?_
      simp only [hcast, SeqManager.sync, List.countP_nil, cast_subMask, ZMod.natCast_mod, Nat.cast_add]
      push_cast
      ring
    rw [hin, hout]
  · refine safe_of_along
      (I := fun r => (r.withSync (subMask w s 1) m.maxOutput).Inv w (subMask w s 1) (maxValue w / 3 + 1) ∧
        ∀ a ∈ r.results, a.1 ≠ subMask w s 1)
      ?_ (fun r hr => newer_of_inv hlow hr.1 hr.2) calls _ ⟨inv_withSync m hlow hm.maxOutput_lt, List.forall_mem_nil _⟩
      (along_and.mpr ⟨hnewer, hno⟩)
    rintro r c ⟨hinv, hne⟩ ⟨hc, hnoDrop⟩
    cases c with
    | input sh x =>
      obtain ⟨r', hstep, hinv'⟩ := step_input hlow (Nat.le_refl _) hinv hc.1 hnoDrop
      cases hstep
      refine ⟨_, rfl, hinv', fun a ha => ?_⟩
      rcases List.mem_append.mp ha with ha | ha
      · exact hne a ha
      · rw [List.mem_singleton.mp ha]
        exact hc.2
    | drop sh x =>
      obtain ⟨r', hstep, hinv'⟩ : ∃ r', (_ : InWindowRun).step w (.drop sh x) = .ok r' ∧ _ :=
        step_drop hlow (Nat.le_refl _) hinv hc.1
      cases hstep
      exact ⟨_, rfl, hinv', hne⟩

theorem newer_across_wrap : ((((({} : SeqManager).input 8 .spine 7).1.sync 8 255).input 8 .spine 0).2 = some 8) ∧
      Safe (InWindowRun.step 8) (InWindowRun.Newer 8 7) ⟨(({} : SeqManager).input 8 .spine 7).1.sync 8 255, []⟩
        [.input .spine 1, .drop .spine 2, .input .spine 4, .input .spine 0] :=
  have hrun := newer_after_sync 8 _ (.input .start .spine 7) 0
    [.input .spine 1, .drop .spine 2, .input .spine 4, .input .spine 0] (by decide) (by decide)
  ⟨hrun.1 .spine, hrun.2⟩

/-- After the outputs 0, 100 and 200, the output after a `Sync` is 201, which is not newer than 0. After the output 5,
`Sync(9)` and drops of 11, 12 and 13, the inputs 10 and 11 get the outputs 6 and 4. -/
theorem older_after_sync : let far := ((({} : SeqManager).input 8 .spine 0).1.input 8 .spine 100).1.input 8 .spine 200
    let dropped := (((({} : SeqManager).input 8 .spine 5).1.sync 8 9).drop 8 .spine 11).drop 8 .spine 12 |>.drop 8 .spine 13
    (far.2 = some 200 ∧ ((far.1.sync 8 9).input 8 .spine 10).2 = some 201 ∧ isSeqLowerThan 8 0 201 = false) ∧
      (dropped.input 8 .spine 10).2 = some 6 ∧ ((dropped.input 8 .spine 10).1.input 8 .spine 11).2 = some 4 ∧
      isSeqLowerThan 8 5 4 = false := by
  decide

end Mediasoup.Seq
