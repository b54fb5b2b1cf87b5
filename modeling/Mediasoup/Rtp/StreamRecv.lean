import Mediasoup.Lib.Run
import Mediasoup.Rtp.NackGenerator
import Mediasoup.Rtp.Stream

/-!
# Received streams

`RtpStreamRecv` validates the packets of a stream and of its RTX stream, and passes them to the NACK generator. `receivePacket`
and `receiveRtxPacket` return whether the packet, or the original recovered from it, is handed on to the producer.
`receiveRtcpSenderReport` keeps the times of the last Sender Report.

`isKeyFrame` stands for the codec: whether a payload starts a key frame. The counters and the jitter are left out.
-/

namespace Mediasoup.Rtp

open Lib Mediasoup.Seq

structure RtpStreamParams where
  encodingIdx : Nat := 0
  ssrc : UInt32
  payloadType : UInt8
  clockRate : UInt32 := 0
  rid : String := ""
  useNack : Bool := false
  usePli : Bool := false
  useFir : Bool := false
  useDtx : Bool := false
  rtxSsrc : UInt32 := 0
  rtxPayloadType : UInt8 := 0
  spatialLayers : UInt8 := 1
  temporalLayers : UInt8 := 1
  deriving DecidableEq

inductive KeyFrameRequest
  | pli (ssrc : UInt32)
  | fir (ssrc : UInt32)
  deriving DecidableEq

structure SenderReport where
  ntpSec : UInt32
  ntpFrac : UInt32
  rtpTs : UInt32
  deriving DecidableEq

/-- `Ntp2TimeMs`: the fraction, in units of `2 ^ -32` seconds, is rounded to milliseconds. All values of the `double`
computation are exact. -/
def ntp2TimeMs (ntpSec ntpFrac : UInt32) : Nat := ntpSec.toNat * 1000 + (ntpFrac.toNat * 1000 + 2 ^ 31) / 2 ^ 32

structure RtpStreamRecv extends SequenceState, StreamScore where
  params : RtpStreamParams
  rtxStream : Option RtxStream := none
  /-- Set when `params.useNack` is. -/
  nackGenerator : Option NackGenerator := none
  packetsRetransmitted : Nat := 0
  packetsRepaired : Nat := 0
  /-- When the last Sender Report was received, and the middle 32 bits of its NTP time. -/
  lastSrReceived : Nat := 0
  lastSrTimestamp : UInt32 := 0
  /-- 0 as long as there is no Sender Report. -/
  lastSenderReportNtpMs : Nat := 0
  lastSenderReportTs : UInt32 := 0
  deriving DecidableEq

namespace RtpStreamRecv

def create (params : RtpStreamParams) (sendNackDelayMs : Nat) : RtpStreamRecv :=
  { params := params, nackGenerator := if params.useNack then some { sendNackDelayMs := sendNackDelayMs } else none }

def hasRtx (s : RtpStreamRecv) : Bool := s.rtxStream.isSome

def setRtx (s : RtpStreamRecv) (payloadType : UInt8) (ssrc : UInt32) : RtpStreamRecv :=
  { s with params := { s.params with rtxPayloadType := payloadType, rtxSsrc := ssrc }, rtxStream := some {} }

def pause (s : RtpStreamRecv) : RtpStreamRecv := { s with nackGenerator := s.nackGenerator.map NackGenerator.reset }

/-- `RequestKeyFrame`: nothing is sent unless the codec has PLI or FIR. -/
def requestKeyFrame (s : RtpStreamRecv) : Option KeyFrameRequest :=
  if s.params.usePli then some (.pli s.params.ssrc) else if s.params.useFir then some (.fir s.params.ssrc) else none

/-- `ReceiveRtcpSenderReport`; `score` is the one that `UpdateScore` computes. -/
def receiveRtcpSenderReport (s : RtpStreamRecv) (report : SenderReport) (score nowMs : Nat) : RtpStreamRecv :=
  { s with
    toStreamScore := s.setScore score nowMs
    lastSrReceived := nowMs
    lastSrTimestamp := report.ntpSec <<< 16 + report.ntpFrac >>> 16
    lastSenderReportNtpMs := ntp2TimeMs report.ntpSec report.ntpFrac
    lastSenderReportTs := report.rtpTs }

def setSequenceState (s : RtpStreamRecv) (st : SequenceState) : RtpStreamRecv := { s with toSequenceState := st }

def setNackGenerator (s : RtpStreamRecv) (g : NackGenerator) : RtpStreamRecv := { s with nackGenerator := some g }

@[simp] theorem setSequenceState_nackGenerator (s : RtpStreamRecv) (st : SequenceState) :
    (s.setSequenceState st).nackGenerator = s.nackGenerator := rfl

def packetRetransmitted (s : RtpStreamRecv) : RtpStreamRecv :=
  { s with packetsRetransmitted := s.packetsRetransmitted + 1 }

def packetRepaired (s : RtpStreamRecv) : RtpStreamRecv := { s with packetsRepaired := s.packetsRepaired + 1 }

variable (isKeyFrame : List UInt8 → Bool) (t : Trees)

def processedKeyFrame (s : RtpStreamRecv) (packet : Packet) : Bool :=
  packet.payloadType == s.params.payloadType && isKeyFrame packet.payload

/-- `ReceivePacket`: the `Bool` tells whether the packet is handed on. -/
def receivePacket (s : RtpStreamRecv) (packet : Packet) (nowMs : Nat) :
    Except Fault (RtpStreamRecv × Bool × List NackRequest) :=
  match s.receive packet nowMs with
  | (st, false) => .ok (s.setSequenceState st, false, [])
  | (st, true) =>
    let s := s.setSequenceState st
    match s.nackGenerator with
    | none => .ok (s, true, [])
    | some g => do
      let (g, nacked, requests) ←
        g.receivePacket t nowMs packet.sequenceNumber.toNat (s.processedKeyFrame isKeyFrame packet) false
      let s := s.setNackGenerator g
      -- without RTX a nacked packet is a retransmitted one
      let s := if !s.hasRtx && nacked then s.packetRetransmitted.packetRepaired else s
      return (s, true, requests)

/-- The packet is received on the RTX stream, if there is one. -/
def receiveOnRtxStream (s : RtpStreamRecv) (packet : Packet) (nowMs : Nat) : RtpStreamRecv × Bool :=
  match s.rtxStream with
  | none => (s, true)
  | some rtx => ({ s with rtxStream := some (rtx.receivePacket packet nowMs).1 }, (rtx.receivePacket packet nowMs).2)

def validateOriginal (s : RtpStreamRecv) (original : Packet) (nowMs : Nat) : RtpStreamRecv × Option Packet :=
  match s.updateSeq original nowMs with
  | (st, true) => (s.setSequenceState st, some original)
  | (st, false) => (s.setSequenceState st, none)

/-- The part of `ReceiveRtxPacket` before the NACK generator: the original packet, unless the RTX packet is ignored. -/
def recoverPacket (s : RtpStreamRecv) (packet : Packet) (nowMs : Nat) : RtpStreamRecv × Option Packet :=
  if packet.payloadType ≠ s.params.rtxPayloadType then (s, none)
  else
    match s.receiveOnRtxStream packet nowMs with
    | (s, false) => (s, none)
    | (s, true) =>
      match packet.rtxDecode s.params.payloadType s.params.ssrc with
      | none => (s, none)
      | some original => s.validateOriginal original nowMs

/-- `ReceiveRtxPacket`: the original packet where the source returns `true`. -/
def receiveRtxPacket (s : RtpStreamRecv) (packet : Packet) (nowMs : Nat) :
    Except Fault (RtpStreamRecv × Option Packet × List NackRequest) :=
  match s.nackGenerator with
  | none => .ok (s, none, [])
  | some g =>
    if packet.ssrc ≠ s.params.rtxSsrc then .error .invalidRtxSsrc
    else
      match s.recoverPacket packet nowMs with
      | (s, none) => .ok (s, none, [])
      | (s, some original) => do
        let s := s.packetRetransmitted
        let (g, nacked, requests) ←
          g.receivePacket t nowMs original.sequenceNumber.toNat (s.processedKeyFrame isKeyFrame original) true
        let s := s.setNackGenerator g
        return if nacked then (s.packetRepaired, some original, requests) else (s, none, requests)

def onNackTimer (s : RtpStreamRecv) (nowMs : Nat) : RtpStreamRecv × List NackRequest :=
  match s.nackGenerator with
  | none => (s, [])
  | some g =>
    if g.timerActive then
      let (g, requests) := g.onTimer nowMs
      (s.setNackGenerator g, requests)
    else (s, [])

/-- `ReceiveRtcpXrDelaySinceLastRr` tells the NACK generator the new round trip time. -/
def updateRtt (s : RtpStreamRecv) (rtt : Nat) : RtpStreamRecv :=
  { s with nackGenerator := s.nackGenerator.map (·.updateRtt rtt) }

/-! ## What the calls change -/

/-- The stream with other sequence numbers, another RTX stream, another NACK generator and more packets counted. -/
def change (s : RtpStreamRecv) (st : SequenceState) (rtx : Option RtxStream) (g : Option NackGenerator)
    (retransmitted repaired : Nat) : RtpStreamRecv :=
  { s with
    toSequenceState := st, rtxStream := rtx, nackGenerator := g
    packetsRetransmitted := s.packetsRetransmitted + retransmitted, packetsRepaired := s.packetsRepaired + repaired }

/-- The RTX stream stays, or receives the packet. -/
def KeepsRtx (s : RtpStreamRecv) (packet : Packet) (nowMs : Nat) (rtx : Option RtxStream) : Prop :=
  rtx = s.rtxStream ∨ ∃ r, s.rtxStream = some r ∧ rtx = some (r.receivePacket packet nowMs).1

section

variable {isKeyFrame : List UInt8 → Bool} {t : Trees} {s s' : RtpStreamRecv} {packet : Packet} {nowMs : Nat}
  {requests : List NackRequest}

theorem KeepsRtx.isSome {rtx : Option RtxStream} (h : s.KeepsRtx packet nowMs rtx) : rtx.isSome = s.hasRtx := by
  rcases h with rfl | ⟨r, hr, rfl⟩
  · rfl
  · simp [hasRtx, hr]

/-- **A packet of the stream**: it is valid or not, reaches the generator or not, and is counted as repaired or not. -/
theorem receivePacket_cases {valid : Bool} (h : s.receivePacket isKeyFrame t packet nowMs = .ok (s', valid, requests)) :
    valid = (s.receive packet nowMs).2 ∧ ∃ g' n, s' = s.change (s.receive packet nowMs).1 s.rtxStream g' n n ∧
      (n = 0 ∨ n = 1 ∧ valid = true) ∧
      (g' = s.nackGenerator ∨ valid = true ∧ ∃ g g₁ nacked, s.nackGenerator = some g ∧ g' = some g₁ ∧
        g.receivePacket t nowMs packet.sequenceNumber.toNat (s.processedKeyFrame isKeyFrame packet) false =
          .ok (g₁, nacked, requests)) := by
  unfold receivePacket at h
  generalize s.receive packet nowMs = r at h
  obtain ⟨st, ok⟩ := r
  cases ok with
  | false =>
    cases h
    exact ⟨rfl, s.nackGenerator, 0, rfl, .inl rfl, .inl rfl⟩
  | true =>
    cases hg : s.nackGenerator with
    | none =>
      simp only [setSequenceState_nackGenerator, hg] at h
      cases h
      exact ⟨rfl, none, 0, by rw [← hg]; rfl, .inl rfl, .inl rfl⟩
    | some g =>
      simp only [setSequenceState_nackGenerator, hg] at h
      obtain ⟨⟨g₁, nacked, requests'⟩, hnext, h⟩ := exists_of_bind_eq_ok h
      cases h
      refine ⟨rfl, some g₁, if !s.hasRtx && nacked then 1 else 0, ?_, ?_, .inr ⟨rfl, g, g₁, nacked, rfl, rfl, hnext⟩⟩
      · show (if !s.hasRtx && nacked then _ else _) = _
        split <;> rfl
      · split
        · exact .inr ⟨rfl, rfl⟩
        · exact .inl rfl

theorem recoverPacket_cases (s : RtpStreamRecv) (packet : Packet) (nowMs : Nat) : ∃ st rtx,
    (s.recoverPacket packet nowMs).1 = s.change st rtx s.nackGenerator 0 0 ∧ s.KeepsRtx packet nowMs rtx ∧
      (st = s.toSequenceState ∨ ∃ original, st = (s.updateSeq original nowMs).1) := by
  unfold recoverPacket
  split
  · exact ⟨_, _, rfl, .inl rfl, .inl rfl⟩
  have hrtx : ∃ rtx, (s.receiveOnRtxStream packet nowMs).1 = s.change s.toSequenceState rtx s.nackGenerator 0 0 ∧
      s.KeepsRtx packet nowMs rtx := by
    unfold receiveOnRtxStream
    split
    · exact ⟨_, rfl, .inl rfl⟩
    · rename_i r hr
      exact ⟨_, rfl, .inr ⟨r, hr, rfl⟩⟩
  obtain ⟨rtx, hs, hrtx⟩ := hrtx
  generalize s.receiveOnRtxStream packet nowMs = received at hs
  obtain ⟨s₁, valid⟩ := received
  subst hs
  cases valid with
  | false => exact ⟨_, rtx, rfl, hrtx, .inl rfl⟩
  | true =>
    dsimp only
    split
    · exact ⟨_, rtx, rfl, hrtx, .inl rfl⟩
    rename_i original _
    refine ⟨_, rtx, ?_, hrtx, .inr ⟨original, rfl⟩⟩
    show (match s.updateSeq original nowMs with | (st, true) => _ | (st, false) => _ : RtpStreamRecv × Option Packet).1 = _
    split <;> rename_i hst <;> rw [hst] <;> rfl

/-- **An RTX packet**: it is ignored, or the generator receives the original packet, which is counted as retransmitted and
may be as repaired. -/
theorem receiveRtxPacket_cases {original : Option Packet}
    (h : s.receiveRtxPacket isKeyFrame t packet nowMs = .ok (s', original, requests)) : ∃ st rtx g' n m,
    s' = s.change st rtx g' n m ∧ m ≤ n ∧ s.KeepsRtx packet nowMs rtx ∧
      (st = s.toSequenceState ∨ ∃ original, st = (s.updateSeq original nowMs).1) ∧
      (g' = s.nackGenerator ∨ (s.recoverPacket packet nowMs).2 ≠ none ∧ ∃ g g₁ seq keyFrame nacked, s.nackGenerator = some g ∧
        g' = some g₁ ∧ g.receivePacket t nowMs seq keyFrame true = .ok (g₁, nacked, requests)) := by
  obtain ⟨st, rtx, hs, hrtx, hst⟩ := recoverPacket_cases s packet nowMs
  unfold receiveRtxPacket at h
  split at h
  · cases h
    exact ⟨_, _, s.nackGenerator, 0, 0, rfl, Nat.le_refl 0, .inl rfl, .inl rfl, .inl rfl⟩
  rename_i g hg
  split at h
  · cases h
  generalize s.recoverPacket packet nowMs = recovered at h hs ⊢
  obtain ⟨s₁, found⟩ := recovered
  subst hs
  cases found with
  | none =>
    cases h
    exact ⟨st, rtx, s.nackGenerator, 0, 0, rfl, Nat.le_refl 0, hrtx, hst, .inl rfl⟩
  | some p =>
    obtain ⟨⟨g₁, nacked, requests'⟩, hnext, h⟩ := exists_of_bind_eq_ok h
    cases nacked with
    | false =>
      cases h
      exact ⟨st, rtx, some g₁, 1, 0, rfl, Nat.zero_le 1, hrtx, hst, .inr ⟨nofun, g, g₁, _, _, _, hg, rfl, hnext⟩⟩
    | true =>
      cases h
      exact ⟨st, rtx, some g₁, 1, 1, rfl, Nat.le_refl 1, hrtx, hst, .inr ⟨nofun, g, g₁, _, _, _, hg, rfl, hnext⟩⟩

theorem onNackTimer_cases (s : RtpStreamRecv) (nowMs : Nat) : ∃ g',
    (s.onNackTimer nowMs).1 = s.change s.toSequenceState s.rtxStream g' 0 0 ∧
      (g' = s.nackGenerator ∨ ∃ g, s.nackGenerator = some g ∧ g' = some (g.onTimer nowMs).1) := by
  unfold onNackTimer
  split
  · exact ⟨_, rfl, .inl rfl⟩
  rename_i g hg
  split
  · exact ⟨_, rfl, .inr ⟨g, hg, rfl⟩⟩
  · exact ⟨_, rfl, .inl rfl⟩

end

end RtpStreamRecv

end Mediasoup.Rtp
