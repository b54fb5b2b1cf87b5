import Mediasoup.Rtcp.CompoundPacket
import Mediasoup.Rtp.ReceiverReports
import Mediasoup.Rtp.RoundTripTime

/-!
# Sending Receiver Reports

`Producer::GetRtcp` asks every stream and its RTX stream for a Receiver Report and adds the reports to a compound packet.
`Transport::SendRtcp` asks one producer after the other; where the reports of one do not fit, it sends the packet and asks again
with a new one. A stream takes the report that did not fit for its last one, so this is harmless just where there is nothing new
to report (`unaffected_iff`).
-/

namespace Mediasoup.Rtp

open Rtcp

namespace Receiver

/-- Nothing has changed since the last report, which was of no loss. -/
structure Settled (r : Receiver) : Prop where
  expected : r.expectedPrior = r.getExpectedPackets
  received : r.receivedPrior = r.packetCount % 2 ^ 32
  lost : r.packetsLost = r.getExpectedPackets - r.packetCount
  fraction : r.fractionLost = 0

theorem sub32_self (a : Nat) : sub32 a a = 0 := by
  unfold sub32
  omega

theorem newPacketsLost_eq (r : Receiver) : r.newPacketsLost = r.getExpectedPackets - r.packetCount := by
  unfold newPacketsLost
  split_ifs
  · rfl
  · omega

section

variable {r : Receiver} (h : r.expectedPrior = r.getExpectedPackets)

include h

theorem expectedInterval_of_prior : r.expectedInterval = 0 := by
  rw [expectedInterval, h, sub32_self]

theorem newFractionLost_of_prior : r.newFractionLost = 0 := if_pos (.inl (expectedInterval_of_prior h))

theorem newlyReported_of_prior (hlost : r.packetsLost = r.newPacketsLost) (worst : Nat) : r.newlyReported worst = 0 := by
  unfold newlyReported
  split_ifs
  · rw [hlost, sub32_self]
  · rw [expectedInterval_of_prior h, Nat.mul_zero]
    rfl

end

theorem report_of_prior {r : Receiver} (h : r.expectedPrior = r.getExpectedPackets) (hlost : r.packetsLost = r.newPacketsLost)
    (hreported : r.reportedPacketLost < 2 ^ 32) (worst : Nat) :
    r.getRtcpReceiverReport worst = (r.setPrior r.expectedPrior (r.packetCount % 2 ^ 32) r.packetsLost 0 r.reportedPacketLost,
        ⟨r.reportedPacketLost, worst, r.lastSeq⟩) := by
  rw [getRtcpReceiverReport, newlyReported_of_prior h hlost, newFractionLost_of_prior h, Nat.add_zero,
    Nat.mod_eq_of_lt hreported, Nat.max_eq_left (Nat.zero_le worst), ← h, ← hlost]

theorem report_eq_self_iff {r : Receiver} (hreported : r.reportedPacketLost < 2 ^ 32) (worst : Nat) :
    (r.getRtcpReceiverReport worst).1 = r ↔ r.Settled := by
  constructor
  · intro h
    have hexpected : r.getExpectedPackets = r.expectedPrior := congrArg expectedPrior h
    have hlost : r.newPacketsLost = r.packetsLost := congrArg packetsLost h
    have hfraction : r.newFractionLost = r.fractionLost := congrArg fractionLost h
    rw [newFractionLost_of_prior hexpected.symm] at hfraction
    rw [newPacketsLost_eq] at hlost
    exact ⟨hexpected.symm, (congrArg receivedPrior h).symm, hlost.symm, hfraction.symm⟩
  · intro h
    have hlost : r.packetsLost = r.newPacketsLost := by rw [newPacketsLost_eq, h.lost]
    rw [report_of_prior h.expected hlost hreported, ← h.received, ← h.fraction]
    rfl

end Receiver

/-! ## Reports of a producer -/

structure ReportingStream where
  ssrc : UInt32
  receiver : Receiver
  /-- An RTX stream does not compute it. -/
  jitter : UInt32 := 0
  lastSrReceived : Nat := 0
  lastSrTimestamp : UInt32 := 0
  /-- `reportedPacketLost` is a `uint32_t`. -/
  reported_lt : receiver.reportedPacketLost < 2 ^ 32 := by decide
  deriving DecidableEq

/-- `SetTotalLost`, of an `int32_t` -/
def setTotalLost (totalLost : Int) : BitVec 24 :=
  if 0 ≤ totalLost then .ofNat 24 (min totalLost.toNat 0x7FFFFF &&& 0x7FFFFF)
  else .ofNat 24 (min (-totalLost).toNat 0x800000 ||| 0x800000)

/-- The conversion to `int32_t` in the call of `SetTotalLost` -/
def toInt32 (n : Nat) : Int := if n < 2 ^ 31 then n else n - 2 ^ 32

/-- The delay since the last Sender Report, in units of 1/65536 seconds -/
def delaySinceLastSr (timeMs lastSrReceived : Nat) : Nat :=
  let delayMs := elapsedMs timeMs lastSrReceived % 2 ^ 32
  delayMs / 1000 * 2 ^ 16 % 2 ^ 32 ||| delayMs % 1000 * 65536 / 1000

/-- `GetRtcpReceiverReport`, at the time `timeMs` of the clock -/
def ReportingStream.getRtcpReceiverReport (s : ReportingStream) (worstRemoteFractionLost : UInt8) (timeMs : Nat) :
    ReportingStream × ReceiverReport :=
  let report := s.receiver.getRtcpReceiverReport worstRemoteFractionLost.toNat
  ({ s with receiver := report.1, reported_lt := Nat.mod_lt _ (by decide) },
    { ssrc := s.ssrc
      fractionLost := .ofNat report.2.fractionLost
      totalLost := setTotalLost (toInt32 report.2.totalLost)
      lastSeq := .ofNat report.2.lastSeq
      jitter := s.jitter
      lsr := if s.lastSrReceived ≠ 0 then s.lastSrTimestamp else 0
      dlsr := if s.lastSrReceived ≠ 0 then .ofNat (delaySinceLastSr timeMs s.lastSrReceived) else 0 })

/-- What a call finds out about its surroundings: the time, and the worst fraction that the consumers of a stream have lost. -/
structure Surroundings where
  timeMs : Nat
  worstRemoteFractionLost : UInt32 → UInt8

structure ProducerStream where
  media : ReportingStream
  useInBandFec : Bool := false
  rtx : Option ReportingStream := none
  deriving DecidableEq

namespace ProducerStream

def worst (s : ProducerStream) (env : Surroundings) : UInt8 :=
  if s.useInBandFec then env.worstRemoteFractionLost s.media.ssrc else 0

def getReports (s : ProducerStream) (env : Surroundings) : ProducerStream × List ReceiverReport :=
  let media := s.media.getRtcpReceiverReport (s.worst env) env.timeMs
  let rtx := s.rtx.map fun rtx => rtx.getRtcpReceiverReport 0 env.timeMs
  ({ s with media := media.1, rtx := rtx.map Prod.fst }, media.2 :: (rtx.map Prod.snd).toList)

def Settled (s : ProducerStream) : Prop := s.media.receiver.Settled ∧ ∀ rtx ∈ s.rtx, rtx.receiver.Settled

end ProducerStream

/-- The streams stand in the order in which `mapSsrcRtpStream` is walked. -/
structure ReportingProducer where
  streams : List ProducerStream
  lastRtcpSentTime : Nat := 0
  maxRtcpInterval : Nat
  deriving DecidableEq

/-- `TimeMs2Ntp`: the product is never near an integer without being one, so that it is rounded down like the exact one. -/
def receiverReferenceTime (nowMs : Nat) : XR.Block :=
  .receiverReferenceTime (timeMs2Ntp nowMs).seconds (timeMs2Ntp nowMs).fractions

def hasReceiverReferenceTime (packet : CompoundPacket) : Bool :=
  packet.xrPacket.reports.any fun
    | .receiverReferenceTime _ _ => true
    | .delaySinceLastRr _ => false

namespace ReportingProducer

/-- The last reports are too recent. The product with 1.15 is taken for exact. -/
def tooEarly (p : ReportingProducer) (nowMs : Nat) : Bool := elapsedMs nowMs p.lastRtcpSentTime * 115 < p.maxRtcpInterval * 100

def getRtcp (p : ReportingProducer) (env : Surroundings) (packet : CompoundPacket) (nowMs : Nat) :
    ReportingProducer × CompoundPacket × Bool :=
  if p.tooEarly nowMs then (p, packet, true)
  else
    let reported := p.streams.map (·.getReports env)
    let blocks := if hasReceiverReferenceTime packet then [] else [receiverReferenceTime nowMs]
    let added := packet.add [] (reported.flatMap Prod.snd) [] blocks
    if added.2 then ({ p with streams := reported.map Prod.fst, lastRtcpSentTime := nowMs }, added.1, true)
    else ({ p with streams := reported.map Prod.fst }, added.1, false)

end ReportingProducer

structure Collection where
  packet : CompoundPacket := {}
  sent : List CompoundPacket := []

variable (c : Collection)

/-- What `SendRtcp` does with the answer of a producer: where nothing was added, it asks again. -/
def Collection.askAgain (first : ReportingProducer × CompoundPacket × Bool) (again : Surroundings) (nowMs : Nat) :
    Collection × ReportingProducer :=
  if first.2.2 then ({ c with packet := first.2.1 }, first.1)
  else
    let second := first.1.getRtcp again {} nowMs
    ({ packet := second.2.1, sent := c.sent ++ [first.2.1] }, second.1)

/-- A round of the second loop in `SendRtcp`. The surroundings may be others when the producer is asked again. -/
def Collection.ask (p : ReportingProducer) (env again : Surroundings) (nowMs : Nat) :
    Collection × ReportingProducer :=
  c.askAgain (p.getRtcp env c.packet nowMs) again nowMs

/-- The SSRC, the fraction and the number of lost packets in the Receiver Reports of a packet. -/
def losses (packet : CompoundPacket) : List (UInt32 × UInt8 × BitVec 24) :=
  packet.receiverReportPacket.reports.map fun report => (report.ssrc, report.fractionLost, report.totalLost)

/-! ## Asking again -/

theorem ReportingStream.report_eq_self_iff (s : ReportingStream) (worst : UInt8) (timeMs : Nat) :
    (s.getRtcpReceiverReport worst timeMs).1 = s ↔ s.receiver.Settled := by
  rw [← Receiver.report_eq_self_iff s.reported_lt worst.toNat]
  constructor
  · intro h
    exact congrArg receiver h
  · intro h
    rw [getRtcpReceiverReport]
    simp only [h]

theorem ProducerStream.getReports_eq_self_iff (s : ProducerStream) (env : Surroundings) :
    (s.getReports env).1 = s ↔ s.Settled := by
  obtain ⟨media, useInBandFec, rtx⟩ := s
  have hmedia := media.report_eq_self_iff (worst ⟨media, useInBandFec, rtx⟩ env) env.timeMs
  unfold Settled
  rw [← hmedia]
  cases rtx with
  | none => simp [getReports]
  | some rtx =>
    have hrtx := rtx.report_eq_self_iff 0 env.timeMs
    simp [getReports, hrtx]

namespace ReportingProducer

variable {p : ReportingProducer} {env : Surroundings} {packet : CompoundPacket} {nowMs : Nat}

theorem getRtcp_full (hfull : (p.getRtcp env packet nowMs).2.2 = false) :
    (p.getRtcp env packet nowMs).1 = { p with streams := p.streams.map fun s => (s.getReports env).1 } := by
  unfold getRtcp at hfull ⊢
  by_cases hearly : p.tooEarly nowMs
  · simp [if_pos hearly] at hfull
  rw [if_neg hearly] at hfull ⊢
  dsimp only at hfull ⊢
  generalize packet.add [] _ [] _ = added at hfull ⊢
  cases hadded : added.2 with
  | true =>
    rw [hadded, if_pos rfl] at hfull
    cases hfull
  | false =>
    rw [if_neg Bool.false_ne_true, List.map_map]
    rfl

theorem getRtcp_full_eq_self_iff (hfull : (p.getRtcp env packet nowMs).2.2 = false) :
    (p.getRtcp env packet nowMs).1 = p ↔ ∀ s ∈ p.streams, s.Settled := by
  have hstreams : (p.getRtcp env packet nowMs).1 = p ↔ p.streams.map (fun s => (s.getReports env).1) = p.streams := by
    rw [getRtcp_full hfull]
    exact ⟨congrArg streams, fun h => by rw [h]⟩
  have hself : p.streams.map (fun s => (s.getReports env).1) = p.streams.map id ↔
      ∀ s ∈ p.streams, (s.getReports env).1 = id s := List.map_inj_left
  rw [List.map_id] at hself
  rw [hstreams, hself]
  exact forall₂_congr fun s _ => s.getReports_eq_self_iff env

end ReportingProducer

theorem Collection.askAgain_full {first : ReportingProducer × CompoundPacket × Bool}
    (hfull : first.2.2 = false) (again : Surroundings) (nowMs : Nat) :
    (c.askAgain first again nowMs).1.packet = (first.1.getRtcp again {} nowMs).2.1 := by
  obtain ⟨second, hsecond⟩ : ∃ second, first.1.getRtcp again {} nowMs = second := ⟨_, rfl⟩
  rw [askAgain, if_neg (ne_of_eq_of_ne hfull Bool.false_ne_true), hsecond]

/-- The attempt to add the reports of `p` to a full packet leaves the producer as it was, and the next reports tell the same
losses. -/
def Unaffected (p : ReportingProducer) (env again : Surroundings) (nowMs : Nat) : Prop :=
  (p.getRtcp env c.packet nowMs).1 = p ∧ losses (c.ask p env again nowMs).1.packet = losses (p.getRtcp again {} nowMs).2.1

/-- **A failed attempt has no effect just if there was nothing new to report** on any stream of the producer. -/
theorem unaffected_iff (c : Collection) (p : ReportingProducer) (env again : Surroundings) (nowMs : Nat)
    (hfull : (p.getRtcp env c.packet nowMs).2.2 = false) :
    Unaffected c p env again nowMs ↔ ∀ s ∈ p.streams, s.Settled := by
  rw [← p.getRtcp_full_eq_self_iff hfull]
  refine and_iff_left_of_imp fun hsame => ?_
  rw [Collection.ask, c.askAgain_full hfull, hsame]

def receiverAfter (numbers : List UInt16) : Receiver :=
  numbers.foldl (fun (r : Receiver) number =>
    r.apply (.packet { payloadType := 0, sequenceNumber := number, timestamp := 0, ssrc := 1000, payload := [] } 0)) {}

def streamAfter (numbers : List UInt16) (h : (receiverAfter numbers).reportedPacketLost < 2 ^ 32 := by decide +kernel) :
    ProducerStream where
  media := { ssrc := 1000, receiver := receiverAfter numbers, reported_lt := h }

def producerOf (stream : ProducerStream) : ReportingProducer := { streams := [stream], maxRtcpInterval := 1000 }

def noConsumers : Surroundings := ⟨0, fun _ => 0⟩

def fullCollection : Collection := { packet := Sendable.receiverReportsOnly 52 }

def reportedStream : ProducerStream := ((streamAfter [7]).getReports noConsumers).1

theorem unaffected_reported : ((producerOf reportedStream).getRtcp noConsumers fullCollection.packet 1000).2.2 = false ∧
      Unaffected fullCollection (producerOf reportedStream) noConsumers noConsumers 1000 := by
  have hfull : ((producerOf reportedStream).getRtcp noConsumers fullCollection.packet 1000).2.2 = false := by decide +kernel
  have hsettled : reportedStream.media.receiver.Settled :=
    ⟨by decide +kernel, by decide +kernel, by decide +kernel, by decide +kernel⟩
  refine ⟨hfull, (unaffected_iff fullCollection _ noConsumers noConsumers 1000 hfull).mpr fun s hs => ?_⟩
  rw [List.mem_singleton.mp hs]
  exact ⟨hsettled, fun rtx hrtx => Option.not_mem_none rtx hrtx |>.elim⟩

/-- Packet 3 is lost: without the first attempt a quarter would be reported as lost, and after it nothing is. -/
theorem fraction_forgotten : ((producerOf (streamAfter [1, 2, 4])).getRtcp noConsumers fullCollection.packet 1000).2.2 = false ∧
      losses ((producerOf (streamAfter [1, 2, 4])).getRtcp noConsumers {} 1000).2.1 = [(1000, 64, 1)] ∧
      losses (fullCollection.ask (producerOf (streamAfter [1, 2, 4])) noConsumers noConsumers 1000).1.packet = [(1000, 0, 1)] := by
  decide +kernel

end Mediasoup.Rtp
