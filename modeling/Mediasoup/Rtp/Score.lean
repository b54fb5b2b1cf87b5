import Mathlib.Tactic.Positivity
import Mediasoup.Rtp.ReceiverReports
import Mediasoup.Rtp.StreamSend

/-!
# Scores

A stream gets a score from 0 to 10 for the packets since the last score. `UpdateScore` takes the differences of its counters, fits
the lost and the repaired packets to each other, and computes the ratio of the delivered packets (`Deliveries`).

The `float` and `double` operations are taken for exact. A ratio without divisor, or of more lost packets than there are, is a
fault. The counters of the last score are kept whole, as only a difference modulo `2 ^ 32` is taken of them, except for
`sentPriorScore`.
-/

namespace Mediasoup.Rtp

/-! ## The ratio -/

structure Deliveries where
  /-- received or sent -/
  total : Nat
  lost : Nat
  repaired : Nat
  retransmitted : Nat
  deriving DecidableEq

inductive ScoreFault
  /-- "repaired packets cannot be more than retransmitted ones" -/
  | moreRepairedThanRetransmitted
  /-- a ratio of nothing, or below 0 -/
  | noRatio
  deriving DecidableEq

namespace Deliveries

def repairedWeight (d : Deliveries) : ℚ :=
  (1 / ((d.repaired : ℚ) / d.total + 1)) ^ 4 * if 0 < d.retransmitted then (d.repaired : ℚ) / d.retransmitted else 1

/-- `lost -= repaired * repairedWeight`, where the result is rounded toward zero -/
def newLost (d : Deliveries) : Nat := ((d.lost : ℚ) - d.repaired * d.repairedWeight).floor.toNat

def deliveredRatio (d : Deliveries) : ℚ := ((d.total - d.newLost : Nat) : ℚ) / d.total

/-- `std::round(std::pow(deliveredRatio, 4) * 10)` -/
def score (d : Deliveries) : Nat := (d.deliveredRatio ^ 4 * 10 + 1 / 2).floor.toNat

def updateScore (d : Deliveries) : Except ScoreFault Nat :=
  if d.retransmitted < d.repaired then .error .moreRepairedThanRetransmitted
  else if d.total = 0 ∨ d.total < d.newLost then .error .noRatio
  else .ok d.score

/-- The assertion holds, the divisor is positive, and no more is lost than there is. -/
structure Sound (d : Deliveries) : Prop where
  repaired_le : d.repaired ≤ d.retransmitted
  total_pos : 0 < d.total
  newLost_le : d.newLost ≤ d.total

instance (d : Deliveries) : Decidable d.Sound :=
  decidable_of_iff (_ ≤ _ ∧ 0 < _ ∧ _ ≤ _) ⟨fun ⟨h₁, h₂, h₃⟩ => ⟨h₁, h₂, h₃⟩, fun ⟨h₁, h₂, h₃⟩ => ⟨h₁, h₂, h₃⟩⟩

variable {d : Deliveries}

theorem repairedWeight_nonneg (d : Deliveries) : 0 ≤ d.repairedWeight := by
  unfold repairedWeight
  split_ifs
  · positivity
  · positivity

theorem newLost_le_lost (d : Deliveries) : d.newLost ≤ d.lost := by
  have hrepaired : 0 ≤ (d.repaired : ℚ) * d.repairedWeight := mul_nonneg (Nat.cast_nonneg _) d.repairedWeight_nonneg
  have hle : (d.lost : ℚ) - d.repaired * d.repairedWeight ≤ ((d.lost : Int) : ℚ) := by
    exact sub_le_self _ hrepaired
  have hfloor : ((d.lost : ℚ) - d.repaired * d.repairedWeight).floor ≤ (d.lost : Int) := by
    have h := Rat.floor_monotone hle
    rwa [Rat.floor_intCast] at h
  exact Int.toNat_le.mpr hfloor

theorem sound_iff (hrepaired : d.repaired ≤ d.retransmitted) (hlost : d.lost ≤ d.total) : d.Sound ↔ 0 < d.total :=
  ⟨Sound.total_pos, fun h => ⟨hrepaired, h, Nat.le_trans d.newLost_le_lost hlost⟩⟩

end Deliveries

/-! ## The average -/

def scoreHistogramLength : Nat := 24

def pushScore (scores : List Nat) (score : Nat) : List Nat :=
  (if scores.length = scoreHistogramLength then scores.drop 1 else scores) ++ [score]

/-- The average, in which every score has one more weight than the one before it, rounded. -/
def averageScore (scores : List Nat) : Nat :=
  let samples := (scores.mapIdx fun i _ => i + 1).sum
  let totalScore := (scores.mapIdx fun i score => (i + 1) * score).sum
  (2 * totalScore + samples) / (2 * samples)

/-! ## Received streams -/

structure ScoredRecv where
  stream : RtpStreamRecv
  /-- `mediaTransmissionCounter.GetPacketCount()` -/
  mediaPacketCount : Nat := 0
  inactive : Bool := false
  scores : List Nat := []
  expectedPriorScore : Nat := 0
  receivedPriorScore : Nat := 0
  repairedPriorScore : Nat := 0
  retransmittedPriorScore : Nat := 0
  deriving DecidableEq

namespace ScoredRecv

def create (params : RtpStreamParams) (sendNackDelayMs : Nat) : ScoredRecv := { stream := .create params sendNackDelayMs }

variable (s : ScoredRecv)

/-! ### The packets since the last score -/

def expected : Nat := Receiver.sub32 s.stream.getExpectedPackets s.expectedPriorScore

def received : Nat := Receiver.sub32 s.mediaPacketCount s.receivedPriorScore

def repaired : Nat := Receiver.sub32 s.stream.packetsRepaired s.repairedPriorScore

def retransmitted : Nat := Receiver.sub32 s.stream.packetsRetransmitted s.retransmittedPriorScore

/-- No more packets are taken for lost than were received. -/
def lost : Nat :=
  let lost := if s.expected < s.received then 0 else s.expected - s.received
  if lost > s.received then s.received else lost

def deliveries : Option Deliveries :=
  if s.inactive ∨ s.expected = 0 then none
  else if s.repaired > s.lost then
    if s.stream.hasRtx then
      let repaired := s.lost
      -- nothing is subtracted, as `repaired` has its new value already
      some ⟨s.received, s.lost, repaired, s.retransmitted - (repaired - s.lost)⟩
    else some ⟨s.received, s.repaired, s.repaired, s.retransmitted⟩
  else some ⟨s.received, s.lost, s.repaired, s.retransmitted⟩

/-! ### Calls -/

def setPriorScores : ScoredRecv :=
  { s with
    expectedPriorScore := s.stream.getExpectedPackets
    receivedPriorScore := s.mediaPacketCount
    repairedPriorScore := s.stream.packetsRepaired
    retransmittedPriorScore := s.stream.packetsRetransmitted }

def setScore (score nowMs : Nat) : ScoredRecv :=
  { s with stream := { s.stream with toStreamScore := s.stream.setScore score nowMs } }

def addScore (score nowMs : Nat) : ScoredRecv :=
  let scores := pushScore s.scores score
  { s.setScore (averageScore scores) nowMs with scores }

def resetScore (score nowMs : Nat) : ScoredRecv := { s.setScore score nowMs with scores := [] }

def updateScore (nowMs : Nat) : Except ScoreFault ScoredRecv :=
  match s.deliveries with
  | none => .ok (if s.inactive then s.setPriorScores else s.setPriorScores.addScore 10 nowMs)
  | some d => d.updateScore.map fun score => s.setPriorScores.addScore score nowMs

def activate (nowMs : Nat) : ScoredRecv := if s.inactive then { s.resetScore 10 nowMs with inactive := false } else s

inductive Call
  | packet (packet : Packet) (trees : Trees) (nowMs : Nat)
  | rtxPacket (packet : Packet) (trees : Trees) (nowMs : Nat)
  | setRtx (payloadType : UInt8) (ssrc : UInt32)
  | senderReport (report : SenderReport) (nowMs : Nat)
  | inactivityTimer (nowMs : Nat)
  | nackTimer (nowMs : Nat)
  | rtt (rtt : Nat)
  | pause

inductive CallFault
  | stream (f : Fault)
  | score (f : ScoreFault)
  deriving DecidableEq

end ScoredRecv

def ScoredRecv.step (isKeyFrame : List UInt8 → Bool) (s : ScoredRecv) : Call → Except CallFault ScoredRecv
  | .packet packet trees nowMs => do
    let (stream, valid, _) ← (s.stream.receivePacket isKeyFrame trees packet nowMs).mapError .stream
    let s := { s with stream }
    return if valid then { s with mediaPacketCount := s.mediaPacketCount + 1 }.activate nowMs else s
  | .rtxPacket packet trees nowMs =>
    -- the producer knows the RTX SSRC of a stream only after `SetRtx`
    if s.stream.hasRtx then do
      let (stream, original, _) ← (s.stream.receiveRtxPacket isKeyFrame trees packet nowMs).mapError .stream
      let s := { s with stream }
      return if original.isSome then s.activate nowMs else s
    else .ok s
  | .setRtx payloadType ssrc => .ok { s with stream := s.stream.setRtx payloadType ssrc }
  | .senderReport report nowMs =>
    let s := { s with stream := s.stream.receiveRtcpSenderReport report s.stream.score nowMs }
    (s.updateScore nowMs).mapError .score
  | .inactivityTimer nowMs => .ok { s.resetScore 0 nowMs with inactive := true }
  | .nackTimer nowMs => .ok { s with stream := (s.stream.onNackTimer nowMs).1 }
  | .rtt rtt => .ok { s with stream := s.stream.updateRtt rtt }
  | .pause => .ok { s with stream := s.stream.pause }

/-! ## Sent streams -/

structure ScoredSend where
  stream : RtpStreamSend
  /-- `transmissionCounter.GetPacketCount()` -/
  packetCount : Nat := 0
  scores : List Nat := []
  sentPriorScore : Nat := 0
  lostPriorScore : Nat := 0
  repairedPriorScore : Nat := 0
  retransmittedPriorScore : Nat := 0
  deriving DecidableEq

namespace ScoredSend

def create (params : RtpStreamParams) (type : MimeType.Kind) : ScoredSend := { stream := .create params type }

variable (s : ScoredSend)

/-- The packets since the last score. `sentPriorScore` is a `uint32_t`, the difference a `size_t`. -/
def sent : Nat := s.packetCount - s.sentPriorScore % 2 ^ 32

def repaired : Nat := Receiver.sub32 s.stream.packetsRepaired s.repairedPriorScore

def retransmitted : Nat := Receiver.sub32 s.stream.packetsRetransmitted s.retransmittedPriorScore

/-- At most the packets sent. `totalLost` is the number of the Receiver Report. -/
def lost (totalLost : Int) : Nat :=
  let lost := if totalLost.toNat < s.lostPriorScore then 0 else totalLost.toNat - s.lostPriorScore
  if lost > s.sent then s.sent else lost

def deliveries (totalLost : Int) : Option Deliveries :=
  if s.sent = 0 then none
  else
    some ⟨s.sent, s.lost totalLost, if s.repaired > s.lost totalLost then s.lost totalLost else s.repaired, s.retransmitted⟩

def setPriorScores (totalLost : Int) : ScoredSend :=
  { s with
    sentPriorScore := s.packetCount
    lostPriorScore := totalLost.toNat
    repairedPriorScore := s.stream.packetsRepaired
    retransmittedPriorScore := s.stream.packetsRetransmitted }

def addScore (score nowMs : Nat) : ScoredSend :=
  let scores := pushScore s.scores score
  { s with scores, stream := { s.stream with toStreamScore := s.stream.setScore (averageScore scores) nowMs } }

def updateScore (totalLost : Int) (nowMs : Nat) : Except ScoreFault ScoredSend :=
  match s.deliveries totalLost with
  | none => .ok ((s.setPriorScores totalLost).addScore 10 nowMs)
  | some d => d.updateScore.map fun score => (s.setPriorScores totalLost).addScore score nowMs

/-- The clones are shared with other streams, and may be others in every call. -/
inductive Call
  | packet (shared : SharedPackets) (packet : Packet) (size nowMs : Nat)
  | nack (clones : List Packet) (items : List NackItem) (nowMs : Nat)
  | receiverReport (totalLost : Int) (rtt : Option Nat) (nowMs : Nat)
  | setRtx (payloadType : UInt8) (ssrc : UInt32) (rtxSeq : UInt16)
  | pause

inductive CallFault
  | stream (f : SendFault)
  | score (f : ScoreFault)
  deriving DecidableEq

def step : Call → Except CallFault ScoredSend
  | .packet shared packet size nowMs => do
    let (stream, _, valid) ← (s.stream.receivePacket shared packet size nowMs).mapError .stream
    return { s with stream, packetCount := if valid then s.packetCount + 1 else s.packetCount }
  | .nack clones items nowMs => .ok { s with stream := (s.stream.receiveNack clones nowMs items).stream }
  | .receiverReport totalLost rtt nowMs =>
    let s := { s with stream := { s.stream with rtt } }
    (s.updateScore totalLost nowMs).mapError .score
  | .setRtx payloadType ssrc rtxSeq => .ok { s with stream := s.stream.setRtx payloadType ssrc rtxSeq }
  | .pause => .ok { s with stream := s.stream.clearBuffer }

end ScoredSend

end Mediasoup.Rtp
