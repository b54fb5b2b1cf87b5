import Mediasoup.Utils.Byte

/-!
# Transport-wide congestion control feedback: the packet and its parser

`FeedbackRtpTransportPacket` carries the reception statuses of a range of packets, as a list of chunks, and a delta of its arrival
time for each received one. The parser walks over the content behind the fixed header with a `Cursor`: the bytes from `contentData
+ offset` on, and `contentLen - offset`, a `size_t`. A read beyond the bytes is the failure `outOfBounds`.
-/

namespace Mediasoup.Rtcp.FeedbackRtpTransport

open Utils

inductive Status
  | notReceived
  | smallDelta
  | largeDelta
  | reserved
  | none
  deriving DecidableEq

/-- The value of the enumerator, as it goes on the wire. -/
def Status.value : Status → Nat
  | notReceived => 0
  | smallDelta => 1
  | largeDelta => 2
  | reserved => 3
  | none => 4

/-- `static_cast<Status>` of one or two bits. -/
def Status.ofBits : Nat → Status
  | 0 => notReceived
  | 1 => smallDelta
  | 2 => largeDelta
  | 3 => reserved
  | _ => none

def Status.received (s : Status) : Bool := s == smallDelta || s == largeDelta

inductive Chunk
  | runLength (status : Status) (count : Nat)
  | oneBitVector (statuses : List Status)
  | twoBitVector (statuses : List Status)
  deriving DecidableEq

structure PacketResult where
  sequenceNumber : Nat
  delta : Int := 0
  received : Bool
  receivedAtMs : Int := 0
  deriving DecidableEq

structure Context where
  allSameStatus : Bool := true
  currentStatus : Status := .none
  statuses : List Status := []
  deriving DecidableEq

structure Packet where
  senderSsrc : Nat
  mediaSsrc : Nat
  baseSequenceNumber : Nat := 0
  referenceTime : Nat := 0
  latestSequenceNumber : Nat := 0
  latestTimestamp : Nat := 0
  packetStatusCount : Nat := 0
  feedbackPacketCount : Nat := 0
  chunks : List Chunk := []
  deltas : List Int := []
  context : Context := {}
  deltasAndChunksSize : Nat := 0
  size : Nat := 0
  deriving DecidableEq

/-! ## Chunks -/

namespace Chunk

def getCount : Chunk → Nat
  | runLength _ count => count
  | oneBitVector statuses => statuses.length
  | twoBitVector statuses => statuses.length

def getReceivedStatusCount : Chunk → Nat
  | runLength status count => if status.received then count else 0
  | oneBitVector statuses => statuses.countP Status.received
  | twoBitVector statuses => statuses.countP Status.received

def statuses : Chunk → List Status
  | runLength status count => List.replicate count status
  | oneBitVector statuses => statuses
  | twoBitVector statuses => statuses

def parseRunLength (buffer : Nat) : Chunk := runLength (.ofBits (buffer / 2 ^ 13 % 4)) (buffer % 0x2000)

def parseOneBitVector (buffer count : Nat) : Chunk :=
  oneBitVector ((List.range (min 14 count)).map fun i => .ofBits (buffer / 2 ^ (14 - 1 - i) % 2))

def parseTwoBitVector (buffer count : Nat) : Chunk :=
  twoBitVector ((List.range (min 7 count)).map fun i => .ofBits (buffer / 2 ^ (2 * (7 - 1 - i)) % 4))

/-- `Chunk::Parse` of the two bytes `b0`, `b1` where `count` statuses are still to come. -/
def parse (b0 b1 : UInt8) (count : Nat) : Option Chunk :=
  let bytes := get2Bytes b0 b1
  if bytes / 2 ^ 15 % 2 = 0 then
    match parseRunLength bytes with
    | runLength .notReceived n => some (runLength .notReceived n)
    | runLength .smallDelta n => some (runLength .smallDelta n)
    | runLength .largeDelta n => some (runLength .largeDelta n)
    | _ => none
  else if b0.toNat / 0x40 % 2 = 0 then some (parseOneBitVector bytes count)
  else some (parseTwoBitVector bytes count)

end Chunk

/-! ## Reading deltas -/

inductive Failure
  | notEnoughSpace
  | announcedLengthExceedsAvailable
  | notEnoughSpaceForChunk
  | invalidChunk
  | statusCountMismatch
  | notEnoughSpaceForDeltas
  | deltasMismatch
  | outOfBounds
  deriving DecidableEq

structure Cursor where
  content : List UInt8
  len : Nat
  deriving DecidableEq

namespace Cursor

def get1Byte (c : Cursor) : Except Failure (Int × Cursor) :=
  match c.content with
  | b :: rest => .ok (b.toNat, ⟨rest, c.len - 1⟩)
  | _ => .error .outOfBounds

def get2Bytes (c : Cursor) : Except Failure (Int × Cursor) :=
  match c.content with
  | b0 :: b1 :: rest => .ok (toInt16 (Utils.get2Bytes b0 b1), ⟨rest, c.len - 2⟩)
  | _ => .error .outOfBounds

def readN (read : Cursor → Except Failure (Int × Cursor)) : Nat → Cursor → Except Failure (List Int × Cursor)
  | 0, c => .ok ([], c)
  | n + 1, c => do
    let (d, c) ← read c
    let (ds, c) ← readN read n c
    return (d :: ds, c)

def addOneBitDeltas : List Status → Cursor → Except Failure (List Int × Cursor)
  | [], c => .ok ([], c)
  | .notReceived :: ss, c => addOneBitDeltas ss c
  | .smallDelta :: ss, c => do
    if c.len < 1 then throw .notEnoughSpaceForDeltas
    let (d, c) ← c.get1Byte
    let (ds, c) ← addOneBitDeltas ss c
    return (d :: ds, c)
  | _ :: _, _ => .error .notEnoughSpaceForDeltas

/-- The loop of `TwoBitVectorChunk::AddDeltas`: a reserved status adds nothing. -/
def addTwoBitDeltas : List Status → Cursor → Except Failure (List Int × Cursor)
  | [], c => .ok ([], c)
  | .notReceived :: ss, c => addTwoBitDeltas ss c
  | .smallDelta :: ss, c => do
    if c.len < 1 then throw .notEnoughSpaceForDeltas
    let (d, c) ← c.get1Byte
    let (ds, c) ← addTwoBitDeltas ss c
    return (d :: ds, c)
  | .largeDelta :: ss, c => do
    if c.len < 2 then throw .notEnoughSpaceForDeltas
    let (d, c) ← c.get2Bytes
    let (ds, c) ← addTwoBitDeltas ss c
    return (d :: ds, c)
  | _ :: ss, c => addTwoBitDeltas ss c

def addDeltas (c : Cursor) : Chunk → Except Failure (List Int × Cursor)
  | .runLength .smallDelta count =>
    if c.len < count * 1 then .error .notEnoughSpaceForDeltas else readN get1Byte count c
  | .runLength .largeDelta count =>
    if c.len < count * 2 then .error .notEnoughSpaceForDeltas else readN get2Bytes count c
  | .runLength _ _ => .ok ([], c)
  | .oneBitVector statuses => addOneBitDeltas statuses c
  | .twoBitVector statuses => addTwoBitDeltas statuses c

end Cursor

/-! ## `Parse` -/

/-- The chunks read by the first loop of the constructor, with the counters it ends with. -/
structure ChunkScan where
  chunks : List Chunk
  cursor : Cursor
  count : Nat
  receivedPacketStatusCount : Nat
  deriving DecidableEq

/-- The first loop of the constructor: `content` and `len` are the cursor. -/
def scanChunks (packetStatusCount : Nat) : List UInt8 → Nat → Nat → Nat → Except Failure ChunkScan
  | b0 :: b1 :: rest, len, count, received =>
    if count < packetStatusCount ∧ len > 0 then
      if len < 2 then .error .notEnoughSpaceForChunk
      else
        match Chunk.parse b0 b1 (packetStatusCount - count) with
        | none => .error .invalidChunk
        | some chunk => do
          let scan ← scanChunks packetStatusCount rest (len - 2) ((count + chunk.getCount) % 2 ^ 16)
            ((received + chunk.getReceivedStatusCount) % 2 ^ 16)
          return { scan with chunks := chunk :: scan.chunks }
    else .ok ⟨[], ⟨b0 :: b1 :: rest, len⟩, count, received⟩
  | content, len, count, received =>
    if count < packetStatusCount ∧ len > 0 then
      if len < 2 then .error .notEnoughSpaceForChunk else .error .outOfBounds
    else .ok ⟨[], ⟨content, len⟩, count, received⟩

/-- The second loop of the constructor: the deltas of the chunks, while there is content. -/
def scanDeltas : List Chunk → Cursor → Except Failure (List Int × Cursor)
  | [], c => .ok ([], c)
  | chunk :: chunks, c =>
    if c.len > 0 then do
      let (ds, c) ← c.addDeltas chunk
      let (ds', c) ← scanDeltas chunks c
      return (ds ++ ds', c)
    else .ok ([], c)

/-- The constructor `FeedbackRtpTransportPacket(CommonHeader*, size_t)`, from the bytes after the length field on. -/
def parseBody (announced : Nat) : List UInt8 → Except Failure Packet
  | s0 :: s1 :: s2 :: s3 :: m0 :: m1 :: m2 :: m3 :: q0 :: q1 :: p0 :: p1 :: t0 :: t1 :: t2 :: f :: content => do
    let packetStatusCount := get2Bytes p0 p1
    let contentLen := (announced + 2 ^ 64 - (4 + 8 + 8)) % 2 ^ 64
    let scan ← scanChunks packetStatusCount content contentLen 0 0
    if scan.count ≠ packetStatusCount then throw .statusCountMismatch
    let (deltas, cursor) ← scanDeltas scan.chunks scan.cursor
    if deltas.length ≠ scan.receivedPacketStatusCount then throw .deltasMismatch
    return {
      senderSsrc := get4Bytes s0 s1 s2 s3
      mediaSsrc := get4Bytes m0 m1 m2 m3
      baseSequenceNumber := get2Bytes q0 q1
      packetStatusCount := packetStatusCount
      referenceTime := get3Bytes t0 t1 t2
      feedbackPacketCount := f.toNat
      chunks := scan.chunks
      deltas := deltas
      deltasAndChunksSize := contentLen - cursor.len
      size := announced }
  | _ => .error .outOfBounds

def parse (data : List UInt8) (len : Nat) : Except Failure Packet :=
  if len < 4 + 8 + 8 then .error .notEnoughSpace
  else
    match data with
    | _ :: _ :: l0 :: l1 :: body =>
      let announced := (get2Bytes l0 l1 + 1) * 4
      if announced > len then .error .announcedLengthExceedsAvailable else parseBody announced body
    | _ => .error .outOfBounds

/-! ## `GetPacketResults` -/

/-- `Chunk::FillResults` over the chunks: one result for every status, numbered on from the last sequence number. -/
def fillResults : Nat → List Status → List PacketResult
  | _, [] => []
  | sequenceNumber, s :: ss =>
    let sequenceNumber := (sequenceNumber + 1) % 2 ^ 16
    { sequenceNumber := sequenceNumber, received := s.received } :: fillResults sequenceNumber ss

/-- The loop over the results: `none` is a `deltas.at()` out of range. -/
def fillDeltas : Int → List Int → List PacketResult → Option (List PacketResult)
  | _, _, [] => some []
  | receivedAtMs, deltas, r :: rs =>
    if r.received then
      match deltas with
      | [] => none
      | d :: ds => do
        let receivedAtMs := receivedAtMs + d.tdiv 4
        let rs ← fillDeltas receivedAtMs ds rs
        return { r with delta := d, receivedAtMs := receivedAtMs } :: rs
    else do
      let rs ← fillDeltas receivedAtMs deltas rs
      return r :: rs

def Packet.getPacketResults (p : Packet) : Option (List PacketResult) :=
  let results := fillResults ((p.baseSequenceNumber + 2 ^ 16 - 1) % 2 ^ 16) (p.chunks.flatMap Chunk.statuses)
  fillDeltas ((p.referenceTime * 64 % 2 ^ 32 : Nat)) p.deltas results

end Mediasoup.Rtcp.FeedbackRtpTransport
