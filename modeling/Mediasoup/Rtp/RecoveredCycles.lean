import Mediasoup.Rtp.NackHistory

/-!
# The cycle of a recovered packet

`recoveredList` holds 16-bit numbers, and old ones are removed only when another packet is recovered ahead of `lastSeq`.
`CycleTrace` is a generator with the position of `lastSeq`, counted on over the wraps, and those of the packets recovered ahead of
it. An entry that is not removed is found again a cycle later (`recovered_cycle_ago`). Where no entry is that old, numbers are
left out of the NACK list rightly (`justified_of_fresh`).
-/

namespace Mediasoup.Rtp

open Lib Mediasoup.Seq NackGenerator
open NackTrace (arrivals lossAndRecovery)

structure CycleTrace where
  generator : NackGenerator
  /-- of `lastSeq`, since the last `Reset` -/
  position : Nat := 0
  /-- the positions of the packets recovered ahead of `lastSeq`, with the position of `lastSeq` at that time -/
  recovered : List (Nat × Nat) := []
  deriving DecidableEq

namespace CycleTrace

def newer (s : CycleTrace) (seq : Nat) : Bool :=
  s.generator.started && decide (seq ≠ s.generator.lastSeq) && !isSeqLowerThan 16 seq s.generator.lastSeq

def place (s : CycleTrace) (seq : Nat) : Nat := s.position + age seq s.generator.lastSeq

def step (s : CycleTrace) : NackEvent → Except Fault CycleTrace
  | .packet t nowMs seq isKeyFrame isRecovered => do
    let (g, _, _) ← s.generator.receivePacket t nowMs seq.toNat isKeyFrame isRecovered
    return {
      generator := g
      position := s.place g.lastSeq
      recovered :=
        if isRecovered && s.newer seq.toNat then (s.place seq.toNat, s.position) :: s.recovered else s.recovered }
  | .timer nowMs => .ok { s with generator := (s.generator.onTimer nowMs).1 }
  | .updateRtt rtt => .ok { s with generator := s.generator.updateRtt rtt }
  | .reset => .ok { generator := s.generator.reset }

/-- The number at `position` is one that `AddPacketsToNackList` finds in `recoveredList`. -/
def LeavesOut (s : CycleTrace) (t : Trees) (seq position : Nat) : Prop :=
  s.position < position ∧ position < s.place seq ∧
    (t.recoveredList.find id (isSeqLowerThan 16) s.generator.recoveredList (position % 2 ^ 16)).isSome

/-- Every skipped number that is left out was recovered, at its own position and while `lastSeq` was within `MaxPacketAge`. -/
def Justified (s : CycleTrace) : NackEvent → Prop
  | .packet t _ seq _ false => s.newer seq.toNat = true → ∀ position, s.LeavesOut t seq.toNat position →
    ∃ last, (position, last) ∈ s.recovered ∧ position ≤ last + maxPacketAge
  | _ => True

/-- A packet recovered ahead of `lastSeq` is within `MaxPacketAge`; when another packet advances `lastSeq`, every entry of
`recoveredList` stands for a packet at most one cycle before the new position. -/
def Fresh (s : CycleTrace) : NackEvent → Prop
  | .packet _ _ seq _ true => s.newer seq.toNat = true → age seq.toNat s.generator.lastSeq ≤ maxPacketAge
  | .packet _ _ seq _ false => s.newer seq.toNat = true → ∀ r ∈ s.generator.recoveredList,
    ∃ e ∈ s.recovered, e.1 % 2 ^ 16 = r ∧ s.place seq.toNat ≤ e.1 + 2 ^ 16
  | _ => True

instance : ∀ (s : CycleTrace) (e : NackEvent), Decidable (s.Fresh e)
  | _, .packet _ _ _ _ true => inferInstanceAs (Decidable (_ → _ ≤ _))
  | s, .packet _ _ _ _ false =>
    inferInstanceAs (Decidable (_ → ∀ r ∈ s.generator.recoveredList, ∃ e ∈ s.recovered, _ ∧ _))
  | _, .timer _ | _, .updateRtt _ | _, .reset => .isTrue trivial

structure Inv (s : CycleTrace) : Prop where
  generator : s.generator.Inv
  last : s.position % 2 ^ 16 = s.generator.lastSeq
  near : ∀ e ∈ s.recovered, e.2 ≤ s.position ∧ e.1 ≤ e.2 + maxPacketAge

variable {s : CycleTrace} {e : NackEvent}

theorem Inv.justified (h : Inv s) (hfresh : s.Fresh e) : s.Justified e := by
  cases e with
  | packet t nowMs seq isKeyFrame isRecovered =>
    cases isRecovered with
    | true => trivial
    | false =>
      rintro hnewer position ⟨hafter, hbefore, hfound⟩
      obtain ⟨r, hr⟩ := Option.isSome_iff_exists.mp hfound
      obtain ⟨hmem, hle, hge⟩ := t.recoveredList.find_some hr
      obtain ⟨⟨q, last⟩, hq, hmod, hcycle⟩ := hfresh hnewer r hmem
      obtain ⟨hlast, hage⟩ := h.near _ hq
      have hsame : q % 2 ^ 16 = position % 2 ^ 16 := hmod.trans (eq_of_not_lower hle hge)
      dsimp only [maxPacketAge] at hmod hcycle hlast hage
      obtain rfl : q = position := by omega
      exact ⟨last, hq, hage⟩
  | timer nowMs => trivial
  | updateRtt rtt => trivial
  | reset => trivial

theorem place_mod (h : Inv s) {seq : Nat} (hseq : seq < 2 ^ 16) : s.place seq % 2 ^ 16 = seq := by
  have hlast := h.last
  unfold place age
  omega

theorem Inv.step (h : Inv s) (hfresh : s.Fresh e) {s' : CycleTrace} (hstep : s.step e = .ok s') : Inv s' := by
  cases e with
  | packet t nowMs seq isKeyFrame isRecovered =>
    obtain ⟨g, nacked, requests, hreceive, heffect⟩ :=
      receivePacket_effect (t := t) h.generator seq.toNat_lt nowMs isKeyFrame isRecovered
    rw [CycleTrace.step, hreceive] at hstep
    cases hstep
    have hinv := heffect.inv h.generator seq.toNat_lt
    have hkept : ∀ e ∈ s.recovered, e.2 ≤ s.place g.lastSeq ∧ e.1 ≤ e.2 + maxPacketAge := fun e he =>
      ⟨(h.near e he).1.trans (Nat.le_add_right _ _), (h.near e he).2⟩
    refine ⟨hinv, place_mod h hinv.lastSeq_lt, ?_⟩
    split
    · rename_i hahead
      obtain ⟨rfl, hnewer⟩ := Bool.and_eq_true_iff.mp hahead
      exact List.forall_mem_cons.mpr ⟨⟨Nat.le_add_right _ _, Nat.add_le_add_left (hfresh hnewer) _⟩, hkept⟩
    · exact hkept
  | timer nowMs =>
    cases hstep
    refine ⟨h.generator.onTimer nowMs, ?_, h.near⟩
    obtain ⟨timerActive, heq⟩ := onTimer_eq s.generator nowMs
    rw [heq]
    exact h.last
  | updateRtt rtt =>
    cases hstep
    exact ⟨⟨h.generator.lastSeq_lt, h.generator.window, h.generator.idle⟩, h.last, h.near⟩
  | reset =>
    cases hstep
    exact ⟨inv_reset s.generator, rfl, by simp⟩

/-- In every run of a new generator without packets recovered too far ahead or entries older than a cycle, each number that
`AddPacketsToNackList` leaves out was recovered at its own position. -/
theorem justified_of_fresh (sendNackDelayMs : Nat) (events : List NackEvent)
    (h : Along step Fresh { generator := { sendNackDelayMs := sendNackDelayMs } } events) :
    Along step Justified { generator := { sendNackDelayMs := sendNackDelayMs } } events := by
  refine along_of_along (I := Inv) (fun s e hs hfresh => ⟨hs.justified hfresh, fun s' => hs.step hfresh⟩) events _ ?_ h
  exact ⟨inv_reset { sendNackDelayMs := sendNackDelayMs }, rfl, by simp⟩

theorem justified_lossAndRecovery :
    Along step Fresh { generator := {} } lossAndRecovery ∧ Along step Justified { generator := {} } lossAndRecovery := by
  have hfresh : Along step Fresh { generator := {} } lossAndRecovery := by decide +kernel
  exact ⟨hfresh, justified_of_fresh 0 lossAndRecovery hfresh⟩

def aroundTheCycle : List NackEvent := arrivals [(0, false), (5, true), (10, false), (30000, false), (60000, false), (3, false)]

/-- When 10 arrives again, the number 5 at position 65541 is left out, which was not received in this cycle. -/
theorem recovered_cycle_ago : ∃ s, aroundTheCycle.foldlM step { generator := {} } = .ok s ∧
      ¬ s.Justified (.packet ⟨.spine, .spine, .spine⟩ 1000 10 false false) := by
  refine ⟨⟨{ recoveredList := [5], started := true, lastSeq := 3, timerActive := true }, 65539, [(5, 0)]⟩,
    by decide +kernel, fun hjust => ?_⟩
  obtain ⟨last, hmem, -⟩ := hjust rfl 65541 ⟨by decide, by decide, by decide⟩
  simp at hmem

end CycleTrace

end Mediasoup.Rtp
