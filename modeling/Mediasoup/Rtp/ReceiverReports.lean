import Mediasoup.Rtp.ExpectedPackets
import Mediasoup.Rtp.StreamRecv

/-!
# Receiver Reports

`GetRtcpReceiverReport` of `RtpStreamRecv` and of `RtxStream`: the packets expected and received since the last report. A stream
that restarts begins to count the expected ones again, whereas the number of the last report stays: the differences are right
exactly if no restart loses packets (`expected_iff`). The fraction lost may wrap (`fraction_wraps`). The jitter and the time since
the last Sender Report are left out.
-/

namespace Mediasoup.Rtp

open Lib SequenceState

structure Receiver extends SequenceState where
  /-- The packets of `mediaTransmissionCounter`, or `packetsCount` of an RTX stream. -/
  packetCount : Nat := 0
  expectedPrior : Nat := 0
  receivedPrior : Nat := 0
  packetsLost : Nat := 0
  fractionLost : Nat := 0
  reportedPacketLost : Nat := 0
  deriving DecidableEq

/-- The part of a Receiver Report about lost packets. -/
structure LossReport where
  totalLost : Nat
  fractionLost : Nat
  lastSeq : Nat
  deriving DecidableEq

namespace Receiver

def sub32 (a b : Nat) : Nat := (a + 2 ^ 32 - b % 2 ^ 32) % 2 ^ 32

variable (r : Receiver)

def expectedInterval : Nat := sub32 r.getExpectedPackets r.expectedPrior

def receivedInterval : Nat := sub32 r.packetCount r.receivedPrior

def lostInterval : Int :=
  let lost := sub32 r.expectedInterval r.receivedInterval
  if lost < 2 ^ 31 then lost else lost - 2 ^ 32

def shiftedLost : Int := (256 * r.lostInterval + 2 ^ 31) % 2 ^ 32 - 2 ^ 31

/-- `std::round` of the quotient, taken for exact, and converted to `uint8_t`. -/
def newFractionLost : Nat :=
  if r.expectedInterval = 0 ∨ r.lostInterval ≤ 0 then 0
  else
    (r.shiftedLost.sign * ((2 * r.shiftedLost.natAbs + r.expectedInterval) / (2 * r.expectedInterval) : Nat) % 256).toNat

def newPacketsLost : Nat :=
  if r.getExpectedPackets > r.packetCount then r.getExpectedPackets - r.packetCount else 0

def newlyReported (worstRemoteFractionLost : Nat) : Nat :=
  if worstRemoteFractionLost ≤ r.newFractionLost then sub32 r.newPacketsLost r.packetsLost
  else worstRemoteFractionLost * r.expectedInterval % 2 ^ 32 / 256

def setPrior (expected received packetsLost fractionLost reportedPacketLost : Nat) : Receiver :=
  { r with packetsLost, expectedPrior := expected, receivedPrior := received, fractionLost, reportedPacketLost }

/-- `GetRtcpReceiverReport`. An RTX stream has no worst remote fraction lost. -/
def getRtcpReceiverReport (worstRemoteFractionLost : Nat) : Receiver × LossReport :=
  let reported := (r.reportedPacketLost + r.newlyReported worstRemoteFractionLost) % 2 ^ 32
  (r.setPrior r.getExpectedPackets (r.packetCount % 2 ^ 32) r.newPacketsLost r.newFractionLost reported,
    ⟨reported, max worstRemoteFractionLost r.newFractionLost, r.lastSeq⟩)

inductive Call
  | packet (packet : Packet) (nowMs : Nat)
  /-- The original packet of an RTX packet, which is not counted. -/
  | original (packet : Packet) (nowMs : Nat)
  | report (worstRemoteFractionLost : Nat)
  deriving DecidableEq

def apply : Call → Receiver
  | .packet packet nowMs =>
    let received := r.toSequenceState.receive packet nowMs
    { r with toSequenceState := received.1, packetCount := if received.2 then r.packetCount + 1 else r.packetCount }
  | .original packet nowMs => { r with toSequenceState := (r.updateSeq packet nowMs).1 }
  | .report worstRemoteFractionLost => (r.getRtcpReceiverReport worstRemoteFractionLost).1

def step (c : Call) : Except Empty Receiver := .ok (r.apply c)

/-- The producer passes an RTX packet to a stream only after a packet of the stream itself. -/
def Routed : Call → Prop
  | .original _ _ => r.started = true
  | .packet _ _ | .report _ => True

instance (r : Receiver) : (c : Call) → Decidable (r.Routed c)
  | .original _ _ => inferInstanceAs (Decidable (r.started = true))
  | .packet _ _ | .report _ => isTrue trivial

/-- The packets expected do not become fewer, and a report takes the true difference to the last one. -/
def Grows (c : Call) (r' : Receiver) : Prop :=
  r.getExpectedPackets ≤ r'.getExpectedPackets ∧
    ∀ worst, c = .report worst → (r.expectedInterval : Int) = r.getExpectedPackets - r.expectedPrior

end Receiver

namespace SequenceState

/-- A packet does not take expected packets away: the number stays below `2 ^ 32`, and the stream restarts only where its highest
number is not above its base. -/
def Proceeds (s : SequenceState) (packet : Packet) : Prop :=
  if s.udelta packet < maxDropout then s.getExpectedPackets + s.udelta packet < 2 ^ 32
  else s.udelta packet ≤ rtpSeqMod - maxMisorder ∧ packet.sequenceNumber.toNat = s.badSeq →
    s.maxSeq = s.baseSeq ∨ s.maxSeq < s.baseSeq ∧ rtpSeqMod ≤ s.cycles

instance (s : SequenceState) (packet : Packet) : Decidable (s.Proceeds packet) :=
  by unfold Proceeds; infer_instance

end SequenceState

namespace Receiver

def Proceeds (r : Receiver) : Call → Prop
  | .packet packet _ => r.started = false ∨ r.toSequenceState.Proceeds packet
  | .original packet _ => r.toSequenceState.Proceeds packet
  | .report _ => True

instance (r : Receiver) : (c : Call) → Decidable (r.Proceeds c)
  | .packet packet _ => inferInstanceAs (Decidable (_ ∨ SequenceState.Proceeds _ packet))
  | .original packet _ => inferInstanceAs (Decidable (r.toSequenceState.Proceeds packet))
  | .report _ => isTrue trivial

end Receiver

namespace SequenceState

variable {s : SequenceState} {packet : Packet}

/-- The ranges of the numbers, and that the expected packets have not wrapped around to none. -/
structure Ranged (s : SequenceState) : Prop where
  base : s.baseSeq < 2 ^ 16
  max : s.maxSeq < 2 ^ 16
  cycles : s.cycles < 2 ^ 32
  whole : s.cycles % 2 ^ 16 = 0
  pos : 1 ≤ s.getExpectedPackets

structure SameNumbers (s t : SequenceState) : Prop where
  base : t.baseSeq = s.baseSeq
  max : t.maxSeq = s.maxSeq
  cycles : t.cycles = s.cycles

theorem SameNumbers.expected {t : SequenceState} (h : SameNumbers s t) : t.getExpectedPackets = s.getExpectedPackets := by
  rw [getExpectedPackets, h.base, h.max, h.cycles]
  rfl

theorem SameNumbers.ranged {t : SequenceState} (h : SameNumbers s t) (hs : s.Ranged) : t.Ranged :=
  ⟨h.base ▸ hs.base, h.max ▸ hs.max, h.cycles ▸ hs.cycles, h.cycles ▸ hs.whole, h.expected ▸ hs.pos⟩

theorem updateSeq_eq (s : SequenceState) (packet : Packet) (nowMs : Nat) : s.updateSeq packet nowMs =
    if s.udelta packet < maxDropout then
      ({ s with
        cycles := if packet.sequenceNumber.toNat < s.maxSeq then (s.cycles + rtpSeqMod) % 2 ^ 32 else s.cycles
        maxSeq := packet.sequenceNumber.toNat }, true)
    else if s.udelta packet ≤ rtpSeqMod - maxMisorder then
      if packet.sequenceNumber.toNat = s.badSeq then
        ({ s.initSeq packet.sequenceNumber.toNat with maxPacketTs := packet.timestamp.toNat, maxPacketMs := nowMs }, true)
      else
        ({ s with badSeq := (packet.sequenceNumber.toNat + 1) % rtpSeqMod, packetsDiscarded := s.packetsDiscarded + 1 }, false)
    else (s, true) := rfl

theorem updateSeq_proceeds (hs : s.Ranged) (packet : Packet) (nowMs : Nat) :
    (s.getExpectedPackets ≤ (s.updateSeq packet nowMs).1.getExpectedPackets ↔ s.Proceeds packet) ∧
      (s.Proceeds packet → (s.updateSeq packet nowMs).1.Ranged) := by
  have hseq := packet.sequenceNumber.toNat_lt
  obtain ⟨hbase, hmax, hcycles, hwhole, hpos⟩ := hs
  have hnow : s.getExpectedPackets = (s.cycles + s.maxSeq + 2 ^ 32 - s.baseSeq + 1) % 2 ^ 32 := rfl
  by_cases hahead : s.udelta packet < maxDropout
  · -- ahead of the highest number
    have hout : (s.updateSeq packet nowMs).1 = { s with
        cycles := if packet.sequenceNumber.toNat < s.maxSeq then (s.cycles + rtpSeqMod) % 2 ^ 32 else s.cycles
        maxSeq := packet.sequenceNumber.toNat } := by
      rw [updateSeq_eq, if_pos hahead]
    have hexpected : (s.updateSeq packet nowMs).1.getExpectedPackets = (s.getExpectedPackets + s.udelta packet) % 2 ^ 32 := by
      rw [hout, hnow, getExpectedPackets, udelta]
      unfold rtpSeqMod
      dsimp only
      split <;> omega
    rw [Proceeds, if_pos hahead, hexpected]
    unfold maxDropout at hahead
    refine ⟨by omega, fun hlt => ?_⟩
    refine ⟨?_, ?_, ?_, ?_, by rw [hexpected]; omega⟩
    · rw [hout]
      exact hbase
    · rw [hout]
      exact hseq
    · rw [hout]
      dsimp only
      split <;> omega
    · rw [hout]
      unfold rtpSeqMod
      dsimp only
      split <;> omega
  · rw [Proceeds, if_neg hahead]
    by_cases hjump : s.udelta packet ≤ rtpSeqMod - maxMisorder
    · by_cases hbad : packet.sequenceNumber.toNat = s.badSeq
      · -- the stream restarts
        have hout : (s.updateSeq packet nowMs).1 =
            { s.initSeq packet.sequenceNumber.toNat with maxPacketTs := packet.timestamp.toNat, maxPacketMs := nowMs } := by
          rw [updateSeq_eq, if_neg hahead, if_pos hjump, if_pos hbad]
        have hexpected : (s.updateSeq packet nowMs).1.getExpectedPackets = s.cycles + 1 := by
          rw [hout, getExpectedPackets, initSeq]
          dsimp only
          omega
        unfold rtpSeqMod at *
        refine ⟨⟨fun hle _ => by omega, fun hcond => ?_⟩, fun _ => ?_⟩
        · omega
        · refine ⟨?_, ?_, ?_, ?_, by rw [hexpected]; omega⟩ <;> rw [hout]
          · exact hseq
          · exact hseq
          · exact hcycles
          · exact hwhole
      · -- refused
        have hsame : s.SameNumbers (s.updateSeq packet nowMs).1 := by
          rw [updateSeq_eq, if_neg hahead, if_pos hjump, if_neg hbad]
          exact ⟨rfl, rfl, rfl⟩
        rw [hsame.expected]
        exact ⟨iff_of_true (Nat.le_refl _) fun h => absurd h.2 hbad, fun _ => hsame.ranged ⟨hbase, hmax, hcycles, hwhole, hpos⟩⟩
    · -- a little behind
      have hsame : s.SameNumbers (s.updateSeq packet nowMs).1 := by
        rw [updateSeq_eq, if_neg hahead, if_neg hjump]
        exact ⟨rfl, rfl, rfl⟩
      rw [hsame.expected]
      exact ⟨iff_of_true (Nat.le_refl _) fun h => absurd h.1 hjump, fun _ => hsame.ranged ⟨hbase, hmax, hcycles, hwhole, hpos⟩⟩

theorem updateSeq_started (s : SequenceState) (packet : Packet) (nowMs : Nat) :
    (s.updateSeq packet nowMs).1.started = s.started := by
  rw [updateSeq_eq]
  split
  · rfl
  · split
    · split <;> rfl
    · rfl

theorem receive_started (hs : s.started = true) (packet : Packet) (nowMs : Nat) :
    SameNumbers (s.updateSeq packet nowMs).1 (s.receive packet nowMs).1 ∧ (s.receive packet nowMs).1.started = true := by
  have hstarted := (updateSeq_started s packet nowMs).trans hs
  simp only [receive, hs, if_true]
  split
  · rename_i st hst
    rw [hst] at hstarted ⊢
    exact ⟨⟨rfl, rfl, rfl⟩, hstarted⟩
  · rename_i st hst
    rw [hst] at hstarted ⊢
    split <;> exact ⟨⟨rfl, rfl, rfl⟩, hstarted⟩

theorem receive_initial (packet : Packet) (nowMs : Nat) :
    (({} : SequenceState).receive packet nowMs).1.Ranged ∧ (({} : SequenceState).receive packet nowMs).1.started = true := by
  have hseq := packet.sequenceNumber.toNat_lt
  have hmaxSeq : (beforeFirst packet nowMs).maxSeq = (packet.sequenceNumber.toNat + 2 ^ 16 - 1) % 2 ^ 16 := rfl
  have hdelta : (beforeFirst packet nowMs).udelta packet < maxDropout := by
    rw [udelta, hmaxSeq, maxDropout]
    omega
  obtain ⟨-, hstarted, hbase, hmax, hcycles⟩ := receive_ahead nowMs rfl hdelta
  rw [receive_first]
  have hbase' : (beforeFirst packet nowMs).baseSeq = packet.sequenceNumber.toNat := rfl
  have hcycles' : ((beforeFirst packet nowMs).receive packet nowMs).1.cycles = 0 ∨
      ((beforeFirst packet nowMs).receive packet nowMs).1.cycles = 2 ^ 16 := by
    rw [hcycles, show (beforeFirst packet nowMs).cycles = 0 from rfl, rtpSeqMod]
    split
    · exact .inr rfl
    · exact .inl rfl
  refine ⟨⟨?_, ?_, by omega, by omega, ?_⟩, hstarted⟩
  · rw [hbase]
    exact hseq
  · rw [hmax]
    exact hseq
  · rw [getExpectedPackets, hbase, hmax]
    omega

end SequenceState

namespace Receiver

structure Counting (r : Receiver) : Prop where
  ranged : r.toSequenceState.Ranged
  unstarted : r.started = false → r.toSequenceState = {}
  prior : r.expectedPrior ≤ r.getExpectedPackets

theorem counting_new : Counting {} := ⟨⟨by decide, by decide, by decide, rfl, by decide⟩, fun _ => rfl, by decide⟩

theorem Counting.interval {r : Receiver} (h : r.Counting) : (r.expectedInterval : Int) = r.getExpectedPackets - r.expectedPrior := by
  have hprior := h.prior
  have hlt : r.getExpectedPackets < 2 ^ 32 := Nat.mod_lt _ (by decide)
  have hle : r.expectedInterval = r.getExpectedPackets - r.expectedPrior := by
    unfold expectedInterval sub32
    omega
  omega

theorem apply_packet (r : Receiver) (packet : Packet) (nowMs : Nat) :
    (r.apply (.packet packet nowMs)).toSequenceState = (r.toSequenceState.receive packet nowMs).1 ∧
      (r.apply (.packet packet nowMs)).expectedPrior = r.expectedPrior := ⟨rfl, rfl⟩

theorem apply_original (r : Receiver) (packet : Packet) (nowMs : Nat) :
    (r.apply (.original packet nowMs)).toSequenceState = (r.updateSeq packet nowMs).1 ∧
      (r.apply (.original packet nowMs)).expectedPrior = r.expectedPrior := ⟨rfl, rfl⟩

theorem setPrior_fields (r : Receiver) (a b c d e : Nat) :
    (r.setPrior a b c d e).toSequenceState = r.toSequenceState ∧ (r.setPrior a b c d e).expectedPrior = a := ⟨rfl, rfl⟩

theorem apply_report (r : Receiver) (worst : Nat) : (r.apply (.report worst)).toSequenceState = r.toSequenceState ∧
    (r.apply (.report worst)).expectedPrior = r.getExpectedPackets := by
  have heq : ∃ b c d e, r.apply (.report worst) = r.setPrior r.getExpectedPackets b c d e := ⟨_, _, _, _, rfl⟩
  obtain ⟨b, c, d, e, heq⟩ := heq
  exact setPrior_fields r _ b c d e

theorem Counting.next {r r' : Receiver} {st : SequenceState} (hseq : r'.toSequenceState = st) (hranged : st.Ranged)
    (hstarted : st.started = true) (hprior : r'.expectedPrior = r.expectedPrior) (h : r.Counting)
    (hle : r.getExpectedPackets ≤ st.getExpectedPackets) : r'.Counting := by
  subst hseq
  refine ⟨hranged, fun hf => ?_, ?_⟩
  · rw [hstarted] at hf
    cases hf
  · rw [hprior]
    exact Nat.le_trans h.prior hle

theorem Counting.apply {r : Receiver} (h : r.Counting) (c : Call) (hrouted : r.Routed c) :
    (r.Grows c (r.apply c) ↔ r.Proceeds c) ∧ (r.Proceeds c → (r.apply c).Counting) := by
  cases c with
  | packet packet nowMs =>
    obtain ⟨hseq, hprior⟩ := apply_packet r packet nowMs
    have hgrows : r.Grows (.packet packet nowMs) (r.apply (.packet packet nowMs)) ↔
        r.getExpectedPackets ≤ (r.toSequenceState.receive packet nowMs).1.getExpectedPackets := by
      exact and_iff_left fun _ hc => nomatch hc
    rw [hgrows]
    cases hstarted : r.started with
    | false =>
      obtain ⟨hranged, hnow⟩ := SequenceState.receive_initial packet nowMs
      have hone : ({} : SequenceState).getExpectedPackets = 1 := by decide
      rw [← h.unstarted hstarted] at hranged hnow hone
      have hle := hranged.pos
      rw [← hone] at hle
      exact ⟨iff_of_true hle (.inl hstarted), fun _ => Counting.next hseq hranged hnow hprior h hle⟩
    | true =>
      obtain ⟨hsame, hnow⟩ := SequenceState.receive_started hstarted packet nowMs
      obtain ⟨hiff, hranged⟩ := SequenceState.updateSeq_proceeds h.ranged packet nowMs
      rw [← hsame.expected] at hiff
      have hproceeds : r.Proceeds (.packet packet nowMs) ↔ r.toSequenceState.Proceeds packet :=
        or_iff_right (by rw [hstarted]; decide)
      rw [hproceeds]
      exact ⟨hiff, fun hp => Counting.next hseq (hsame.ranged (hranged hp)) hnow hprior h (hiff.mpr hp)⟩
  | original packet nowMs =>
    obtain ⟨hseq, hprior⟩ := apply_original r packet nowMs
    have hgrows : r.Grows (.original packet nowMs) (r.apply (.original packet nowMs)) ↔
        r.getExpectedPackets ≤ (r.updateSeq packet nowMs).1.getExpectedPackets := by
      exact and_iff_left fun _ hc => nomatch hc
    obtain ⟨hiff, hranged⟩ := SequenceState.updateSeq_proceeds h.ranged packet nowMs
    rw [hgrows]
    exact ⟨hiff, fun hp => Counting.next hseq (hranged hp)
      ((SequenceState.updateSeq_started _ packet nowMs).trans hrouted) hprior h (hiff.mpr hp)⟩
  | report worst =>
    obtain ⟨hseq, hprior⟩ := apply_report r worst
    refine ⟨iff_of_true ⟨?_, fun _ _ => h.interval⟩ trivial, fun _ => ⟨?_, ?_, ?_⟩⟩
    · rw [hseq]
    · rw [hseq]
      exact h.ranged
    · rw [hseq]
      exact h.unstarted
    · rw [hprior, hseq]

end Receiver

/-- **Every run** of packets, original packets and reports: the packets expected never become fewer, and every report takes the true
difference, if and only if every packet proceeds. -/
theorem expected_iff (calls : List Receiver.Call) (hrouted : Along Receiver.step Receiver.Routed {} calls) :
    EachStep Receiver.step Receiver.Grows {} calls ↔ Along Receiver.step Receiver.Proceeds {} calls := by
  refine eachStep_iff_along (I := Receiver.Counting) (fun r c hI hA => ?_) calls {} Receiver.counting_new hrouted
  obtain ⟨hiff, hnext⟩ := hI.apply c hA
  exact ⟨r.apply c, rfl, hiff, hnext⟩

theorem expected_grows : EachStep Receiver.step Receiver.Grows {}
    (([65534, 1].map fun n => .packet (arrival n).packet 0) ++
      [.report 0, .original (arrival 65535).packet 0, .packet (arrival 2).packet 0, .report 0]) :=
  (expected_iff _ (by decide)).mpr (by decide)

theorem expected_wraps : ¬ EachStep Receiver.step Receiver.Grows {}
      [.packet (arrival 1000).packet 0, .packet (arrival 1001).packet 0, .report 0,
        .packet (arrival 40000).packet 0, .packet (arrival 40001).packet 0, .report 0] ∧
    ([.packet (arrival 1000).packet 0, .packet (arrival 1001).packet 0, .report 0,
      .packet (arrival 40000).packet 0, .packet (arrival 40001).packet 0].foldl
      Receiver.apply {}).expectedInterval = 4294967295 := by
  refine ⟨fun hgrows => ?_, by decide⟩
  have hle := hgrows.2.2.2.2.1.1
  exact absurd hle (by decide)

/-! ## The fraction lost -/

namespace Receiver

/-- The fraction lost of the interval in 1/256, rounded, and at most 255. -/
def exactFractionLost (r : Receiver) : Nat :=
  if r.expectedInterval = 0 ∨ r.lostInterval ≤ 0 then 0
  else min 255 ((2 * (256 * r.lostInterval.toNat) + r.expectedInterval) / (2 * r.expectedInterval))

/-- A report without a worse remote fraction lost stores and tells the exact one. -/
def FractionExact (r : Receiver) (c : Call) (r' : Receiver) : Prop :=
  ∀ worst, c = .report worst → worst ≤ r.newFractionLost →
    r'.fractionLost = r.exactFractionLost ∧ (r.getRtcpReceiverReport worst).2.fractionLost = r.exactFractionLost

/-- At a report, not nearly all of the packets of the interval are lost, and the number of the lost ones fits 23 bits. -/
def FewLost (r : Receiver) : Call → Prop
  | .report _ => r.expectedInterval = 0 ∨ r.lostInterval ≤ 0 ∨
      r.lostInterval < 2 ^ 23 ∧ 512 * r.lostInterval < 511 * r.expectedInterval
  | .packet _ _ | .original _ _ => True

instance (r : Receiver) : (c : Call) → Decidable (r.FewLost c)
  | .report _ => inferInstanceAs (Decidable (_ ∨ _))
  | .packet _ _ | .original _ _ => isTrue trivial

theorem newFractionLost_eq {r : Receiver} {worst : Nat} (h : r.FewLost (.report worst)) :
    r.newFractionLost = r.exactFractionLost := by
  unfold newFractionLost exactFractionLost
  split
  · rfl
  rename_i hlost
  obtain ⟨hexpected, hpos⟩ := not_or.mp hlost
  obtain ⟨hsmall, hfew⟩ := (h.resolve_left hexpected).resolve_left hpos
  have hshifted : r.shiftedLost = 256 * r.lostInterval := by
    unfold shiftedLost
    omega
  have hlt : (2 * (256 * r.lostInterval.toNat) + r.expectedInterval) / (2 * r.expectedInterval) < 256 :=
    Nat.div_lt_of_lt_mul (by omega)
  have hnat : (256 * r.lostInterval).natAbs = 256 * r.lostInterval.toNat := by omega
  rw [hshifted, Int.sign_eq_one_of_pos (by omega), one_mul, hnat]
  generalize (2 * (256 * r.lostInterval.toNat) + r.expectedInterval) / (2 * r.expectedInterval) = fraction at hlt ⊢
  omega

end Receiver

/-- **Every run** of packets, original packets and reports in which at every report few enough packets are lost: the fraction lost is
exact, and does not wrap. -/
theorem fraction_exact_of_fewLost (calls : List Receiver.Call) (hfew : Along Receiver.step Receiver.FewLost {} calls) :
    EachStep Receiver.step Receiver.FractionExact {} calls := by
  refine eachStep_of_along (I := fun _ => True) ?_ calls _ trivial hfew
  rintro r _ _ - hfew ⟨⟩
  refine ⟨?_, trivial⟩
  rintro worst rfl hworst
  have hexact := Receiver.newFractionLost_eq hfew
  exact ⟨hexact, (max_eq_right hworst).trans hexact⟩

theorem fraction_exact_many_lost : EachStep Receiver.step Receiver.FractionExact {}
    [.packet (arrival 1).packet 0, .report 0, .packet (arrival 512).packet 0, .report 0] :=
  fraction_exact_of_fewLost _ (by decide)

/-- All but one of 512 packets are lost: the fraction is rounded to 256, and told as 0. -/
theorem fraction_wraps : ¬ EachStep Receiver.step Receiver.FractionExact {}
    [.packet (arrival 1).packet 0, .report 0, .packet (arrival 513).packet 0, .report 0] := by
  intro hexact
  have htold := (hexact.2.2.2.1 0 rfl (by decide)).2
  exact absurd htold (by decide)

/-! ## The streams -/

namespace RtpStreamRecv

variable {isKeyFrame : List UInt8 → Bool} {t : Trees} {s s' : RtpStreamRecv} {packet : Packet} {nowMs : Nat}
  {requests : List NackRequest} {r : Receiver}

/-- A packet changes the sequence numbers of a stream as it does those of its `Receiver`. -/
theorem receivePacket_toSequenceState {valid : Bool} (hr : r.toSequenceState = s.toSequenceState)
    (h : s.receivePacket isKeyFrame t packet nowMs = .ok (s', valid, requests)) :
    s'.toSequenceState = (r.apply (.packet packet nowMs)).toSequenceState := by
  obtain ⟨-, g', n, rfl, -⟩ := receivePacket_cases h
  rw [(r.apply_packet packet nowMs).1, hr, RtpStreamRecv.change]

/-- An RTX packet leaves the sequence numbers as they are, or is the call with its original packet. -/
theorem receiveRtxPacket_toSequenceState {original : Option Packet} (hr : r.toSequenceState = s.toSequenceState)
    (h : s.receiveRtxPacket isKeyFrame t packet nowMs = .ok (s', original, requests)) :
    s'.toSequenceState = s.toSequenceState ∨ ∃ original, s'.toSequenceState = (r.apply (.original original nowMs)).toSequenceState := by
  obtain ⟨st, rtx, g', n, m, rfl, -, -, hst, -⟩ := receiveRtxPacket_cases h
  rcases hst with rfl | ⟨original, rfl⟩
  · exact .inl rfl
  · refine .inr ⟨original, ?_⟩
    rw [(r.apply_original original nowMs).1, hr, RtpStreamRecv.change]

end RtpStreamRecv

end Mediasoup.Rtp
