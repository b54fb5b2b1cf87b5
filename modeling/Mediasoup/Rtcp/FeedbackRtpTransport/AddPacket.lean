import Mediasoup.Rtcp.FeedbackRtpTransport.Packet
import Mediasoup.Seq.Manager

/-!
# Transport-wide congestion control feedback: building and writing a packet

`AddPacket` records the arrival of a packet in the chunks, the pending statuses of the context and the deltas; `Finish` makes a
chunk of the pending statuses; `Serialize` writes the packet.

Sequence numbers, `packetStatusCount` and the run of a chunk are `uint16_t` in the source and `Nat` with `% 2 ^ 16` here; the time
difference is computed in `uint64_t` and read as `int64_t`.
-/

namespace Mediasoup.Rtcp.FeedbackRtpTransport

open Utils Mediasoup.Seq

inductive AddPacketResult
  | success
  | maxSizeExceeded
  | fatal
  deriving DecidableEq

inductive Fault
  /-- "packet is full" -/
  | full
  /-- "already 7 status packets present" -/
  | pendingStatuses
  /-- "packet info size must be 14 or less", "packet info size must be 7 or less" -/
  | vectorTooLong
  deriving DecidableEq

def padTo4 (x : Nat) : Nat := (x + 3) / 4 * 4

def delta64 (timestamp latestTimestamp : Nat) : Int :=
  let d : Nat := (timestamp + 2 ^ 64 - latestTimestamp) * 4 % 2 ^ 64
  if d < 2 ^ 63 then d else (d : Int) - 2 ^ 64

def missingBetween (previousSequenceNumber sequenceNumber : Nat) : Nat :=
  (sequenceNumber + 2 ^ 16 - (previousSequenceNumber + 1) % 2 ^ 16) % 2 ^ 16

def maxMissingPackets : Int := 2 ^ 13 - 1

def maxPacketStatusCount : Nat := 2 ^ 16 - 1

def maxPacketDelta : Int := 0x7fff

namespace Packet

variable (p : Packet)

def isFull : Bool := decide (p.packetStatusCount ≥ maxPacketStatusCount - 7)

def getSize : Nat := if p.size ≠ 0 then p.size else padTo4 (4 + 8 + 8 + p.deltasAndChunksSize)

/-! ## Chunks -/

def createRunLengthChunk (status : Status) (count : Nat) : Packet :=
  { p with
    chunks := p.chunks ++ [.runLength status (count % 2 ^ 16)]
    packetStatusCount := (p.packetStatusCount + count % 2 ^ 16) % 2 ^ 16
    deltasAndChunksSize := p.deltasAndChunksSize + 2 }

def createTwoBitVectorChunk (statuses : List Status) : Packet :=
  { p with
    chunks := p.chunks ++ [.twoBitVector statuses]
    packetStatusCount := (p.packetStatusCount + statuses.length % 2 ^ 16) % 2 ^ 16
    deltasAndChunksSize := p.deltasAndChunksSize + 2 }

def clearStatuses : Packet := { p with context := { p.context with statuses := [] } }

def setCurrentStatus (status : Status) : Packet :=
  { p with context := { p.context with currentStatus := status } }

def appendStatuses (statuses : List Status) : Packet :=
  { p with context := { p.context with statuses := p.context.statuses ++ statuses } }

def flushRun : Packet :=
  (p.createRunLengthChunk p.context.currentStatus p.context.statuses.length).clearStatuses

def flushVector : Packet := (p.createTwoBitVectorChunk p.context.statuses).clearStatuses

def flushLongRun : Packet :=
  if p.context.statuses.length ≥ 7 ∧ p.context.allSameStatus then p.flushRun.setCurrentStatus .none else p

/-- Missing packets are added to the pending statuses, and seven statuses become a vector chunk. -/
def fillVector (representedPackets : Nat) : Packet :=
  let p := (p.setCurrentStatus .notReceived).appendStatuses (List.replicate representedPackets .notReceived)
  if p.context.statuses.length = 7 then p.flushVector.setCurrentStatus .none else p

def fillRun (missingPackets : Nat) : Packet :=
  if missingPackets ≠ 0 then
    ((p.createRunLengthChunk .notReceived missingPackets).clearStatuses).setCurrentStatus .none
  else p

/-- `FillChunk`, the missing packets: the statuses are filled up to 7, and a run takes the rest. -/
def fillMissing (missingPackets : Nat) : Packet :=
  let p := p.flushLongRun
  let representedPackets := min missingPackets (7 - p.context.statuses.length)
  (p.fillVector representedPackets).fillRun (missingPackets - representedPackets)

def flushOtherRun (status : Status) : Packet :=
  if p.context.statuses.length ≥ 7 ∧ p.context.allSameStatus ∧ status ≠ p.context.currentStatus then p.flushRun else p

def pushReceived (status : Status) (delta : Int) : Packet :=
  { p.appendStatuses [status] with
    deltas := p.deltas ++ [delta]
    deltasAndChunksSize := p.deltasAndChunksSize + if status = .smallDelta then 1 else 2 }

def updateContext (status : Status) : Packet :=
  let allSameStatus := p.context.currentStatus = .none ∨ (p.context.allSameStatus ∧ p.context.currentStatus = status)
  { p with context := { p.context with allSameStatus := decide allSameStatus, currentStatus := status } }

def flushMixed : Packet :=
  if p.context.statuses.length < 7 then p
  else if p.context.statuses.length = 7 ∧ !p.context.allSameStatus then (p.setCurrentStatus .none).flushVector
  else p

def fillReceived (delta : Int) : Packet :=
  let status : Status := if 0 ≤ delta ∧ delta ≤ 255 then .smallDelta else .largeDelta
  (((p.flushOtherRun status).pushReceived status delta).updateContext status).flushMixed

def fillChunk (previousSequenceNumber sequenceNumber : Nat) (delta : Int) : Packet :=
  let missingPackets := missingBetween previousSequenceNumber sequenceNumber
  let p := if missingPackets > 0 then p.fillMissing missingPackets else p
  p.fillReceived delta

def addPendingChunks : Except Fault Packet :=
  if p.context.statuses = [] then .ok p
  else if p.context.allSameStatus then .ok p.flushRun
  else if p.context.statuses.length < 7 then .ok p.flushVector
  else .error .pendingStatuses

/-! ## `AddPacket` -/

def addPacket (sequenceNumber timestamp maxRtcpPacketLen : Nat) :
    Except Fault (Packet × AddPacketResult) :=
  if p.isFull then .error .full
  else if p.latestTimestamp = 0 then
    .ok ({ p with
      baseSequenceNumber := (sequenceNumber + 1) % 2 ^ 16
      referenceTime := (timestamp &&& 0x1fffffc0) / 64
      latestSequenceNumber := sequenceNumber
      latestTimestamp := (timestamp >>> 6) * 64 }, .success)
  else if !isSeqHigherThan 16 sequenceNumber p.latestSequenceNumber then .ok (p, .success)
  -- the difference is computed in `int`, without wrapping
  else if (sequenceNumber : Int) - (p.latestSequenceNumber + 1) > maxMissingPackets then .ok (p, .fatal)
  else
    let delta := delta64 timestamp p.latestTimestamp
    if delta > maxPacketDelta ∨ delta < -maxPacketDelta then .ok (p, .fatal)
    else if padTo4 (4 + 8 + 8 + p.deltasAndChunksSize + 2 + 2) > maxRtcpPacketLen then .ok (p, .maxSizeExceeded)
    else
      -- `delta` fits `int16_t`
      let p := p.fillChunk p.latestSequenceNumber sequenceNumber delta
      .ok ({ p with latestSequenceNumber := sequenceNumber, latestTimestamp := timestamp }, .success)

def finish : Except Fault Packet := p.addPendingChunks

end Packet

/-! ## `Serialize` -/

/-- The statuses of a vector chunk side by side, `bits` bits each, the first one in the highest place: the fields are
disjoint, so that `|=` is a sum. -/
def vectorBits (bits : Nat) : Nat → List Status → Nat
  | _, [] => 0
  | shift, s :: ss => s.value * 2 ^ shift + vectorBits bits (shift - bits) ss

def Chunk.serialize : Chunk → Except Fault (List UInt8)
  | runLength status count => .ok (set2Bytes (status.value * 2 ^ 13 + count % 0x2000))
  | oneBitVector statuses =>
    if statuses.length ≤ 14 then .ok (set2Bytes (0x8000 + vectorBits 1 13 statuses)) else .error .vectorTooLong
  | twoBitVector statuses =>
    if statuses.length ≤ 7 then .ok (set2Bytes (0x8000 + 2 ^ 14 + vectorBits 2 12 statuses)) else .error .vectorTooLong

def serializeChunks : List Chunk → Except Fault (List UInt8)
  | [] => .ok []
  | c :: cs => do
    let bytes ← c.serialize
    let rest ← serializeChunks cs
    return bytes ++ rest

def serializeDelta (delta : Int) : List UInt8 :=
  if 0 ≤ delta ∧ delta ≤ 255 then set1Byte delta.toNat else set2Bytes (ofInt16 delta)

/-- The common header, with `version` 2, `count` 15 (TCC) and packet type 205 (RTPFB), the feedback header and the fixed
header. -/
def Packet.header (p : Packet) : List UInt8 :=
  [0x8f, 205] ++ set2Bytes (p.getSize / 4 - 1) ++ set4Bytes p.senderSsrc ++ set4Bytes p.mediaSsrc ++
    set2Bytes p.baseSequenceNumber ++ set2Bytes p.packetStatusCount ++ set3Bytes p.referenceTime ++
    set1Byte p.feedbackPacketCount

def Packet.serialize (p : Packet) : Except Fault (List UInt8) := do
  let p ← p.addPendingChunks
  let chunks ← serializeChunks p.chunks
  let bytes := p.header ++ chunks ++ p.deltas.flatMap serializeDelta
  return bytes ++ List.replicate (padTo4 bytes.length - bytes.length) 0

end Mediasoup.Rtcp.FeedbackRtpTransport
