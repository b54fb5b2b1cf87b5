import Mediasoup.Rtp.Packet
import Mediasoup.Seq.Manager

/-!
# Sequence number validation of a stream

`RtpStream` and `RtxStream` keep the same bookkeeping of sequence numbers and check a packet with the same code:
`SequenceState.updateSeq`. A packet is accepted when it is less than `MaxDropout` numbers ahead or `MaxMisorder` numbers behind,
or when it follows a packet that was refused. A score is an input here.
-/

namespace Mediasoup.Rtp

open Mediasoup.Seq

def maxDropout : Nat := 3000

def maxMisorder : Nat := 1500

def rtpSeqMod : Nat := 2 ^ 16

structure SequenceState where
  started : Bool := false
  baseSeq : Nat := 0
  maxSeq : Nat := 0
  cycles : Nat := 0
  badSeq : Nat := 0
  maxPacketTs : Nat := 0
  maxPacketMs : Nat := 0
  packetsDiscarded : Nat := 0
  deriving DecidableEq

namespace SequenceState

variable (s : SequenceState)

def initSeq (seq : Nat) : SequenceState :=
  -- so that `seq == badSeq` is false
  { s with baseSeq := seq, maxSeq := seq, badSeq := rtpSeqMod + 1 }

/-- The state after the check, and whether the packet is valid. -/
def updateSeq (packet : Packet) (nowMs : Nat) : SequenceState × Bool :=
  let seq := packet.sequenceNumber.toNat
  let udelta := (seq + 2 ^ 16 - s.maxSeq) % 2 ^ 16
  if udelta < maxDropout then
    ({ s with
      cycles := if seq < s.maxSeq then (s.cycles + rtpSeqMod) % 2 ^ 32 else s.cycles
      maxSeq := seq }, true)
  else if udelta ≤ rtpSeqMod - maxMisorder then
    -- two sequential packets: the other side restarted
    if seq = s.badSeq then
      ({ s.initSeq seq with maxPacketTs := packet.timestamp.toNat, maxPacketMs := nowMs }, true)
    else
      ({ s with badSeq := (seq + 1) % rtpSeqMod, packetsDiscarded := s.packetsDiscarded + 1 }, false)
  else (s, true)

/-- Whether `updateSeq` takes the packet for the second one of a stream that restarted, of which the source notifies the
subclass (`UserOnSequenceNumberReset`). -/
def resets (packet : Packet) : Bool :=
  let seq := packet.sequenceNumber.toNat
  let udelta := (seq + 2 ^ 16 - s.maxSeq) % 2 ^ 16
  s.started && decide (¬ udelta < maxDropout ∧ udelta ≤ rtpSeqMod - maxMisorder ∧ seq = s.badSeq)

/-- The common part of `RtpStream::ReceiveStreamPacket` and `RtxStream::ReceivePacket`. -/
def receive (packet : Packet) (nowMs : Nat) : SequenceState × Bool :=
  let seq := packet.sequenceNumber.toNat
  let timestamp := packet.timestamp.toNat
  let s :=
    if s.started then s
    else
      { s.initSeq seq with
        started := true, maxSeq := (seq + 2 ^ 16 - 1) % 2 ^ 16, maxPacketTs := timestamp, maxPacketMs := nowMs }
  match s.updateSeq packet nowMs with
  | (s, false) => (s, false)
  | (s, true) =>
    if isSeqHigherThan 32 timestamp s.maxPacketTs then
      ({ s with maxPacketTs := timestamp, maxPacketMs := nowMs }, true)
    else (s, true)

def getExpectedPackets : Nat := (s.cycles + s.maxSeq + 2 ^ 32 - s.baseSeq + 1) % 2 ^ 32

/-- The highest sequence number of a Receiver Report. -/
def lastSeq : Nat := (s.maxSeq + s.cycles) % 2 ^ 32

end SequenceState

/-! ## Score -/

def elapsedMs (nowMs sinceMs : Nat) : Nat := (nowMs + 2 ^ 64 - sinceMs) % 2 ^ 64

structure StreamScore where
  score : Nat := 10
  activeSinceMs : Nat := 0
  deriving DecidableEq

namespace StreamScore

def setScore (s : StreamScore) (score nowMs : Nat) : StreamScore :=
  if s.score = score then s
  else { score := score, activeSinceMs := if s.score = 0 then nowMs else s.activeSinceMs }

def activeMs (s : StreamScore) (nowMs : Nat) : Nat := elapsedMs nowMs s.activeSinceMs

end StreamScore

/-! ## `RtxStream` -/

structure RtxStream extends SequenceState where
  packetsCount : Nat := 0
  deriving DecidableEq

def RtxStream.receivePacket (s : RtxStream) (packet : Packet) (nowMs : Nat) : RtxStream × Bool :=
  match s.receive packet nowMs with
  | (st, true) => ({ s with toSequenceState := st, packetsCount := s.packetsCount + 1 }, true)
  | (st, false) => ({ s with toSequenceState := st }, false)

end Mediasoup.Rtp
