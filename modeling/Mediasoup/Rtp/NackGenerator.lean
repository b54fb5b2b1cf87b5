import Mediasoup.Rtp.Packet
import Mediasoup.Seq.Manager

/-!
# The NACK generator

`NackGenerator` follows the sequence numbers of a stream and asks again for those that were skipped (`nackList`). Numbers received
by retransmission before their gap is known are kept in `recoveredList`, and the first numbers of key frames in `keyFrameList`.

The lists are B-trees ordered by the circular comparison, which is not transitive: each call takes the `Trees`, the shapes of the
three at that moment. The clock is read once in a call.
-/

namespace Mediasoup.Rtp

open Lib Mediasoup.Seq

def maxPacketAge : Nat := 10000

def maxNackPackets : Nat := 1000

def defaultRtt : Nat := 100

def maxNackRetries : Nat := 10

structure NackInfo where
  createdAtMs : Nat
  seq : Nat
  sendAtSeq : Nat
  sentAtMs : Nat := 0
  retries : Nat := 0
  deriving DecidableEq

inductive NackFilter
  | seq
  | time
  deriving DecidableEq

inductive NackRequest
  | nackRequired (seqNumbers : List Nat)
  | keyFrameRequired
  deriving DecidableEq

inductive Fault
  /-- "packet already in the NACK list" -/
  | alreadyInNackList
  /-- "invalid ssrc on RTX packet" -/
  | invalidRtxSsrc
  deriving DecidableEq

structure NackGenerator where
  sendNackDelayMs : Nat := 0
  nackList : List NackInfo := []
  keyFrameList : List Nat := []
  recoveredList : List Nat := []
  started : Bool := false
  lastSeq : Nat := 0
  rtt : Nat := defaultRtt
  timerActive : Bool := false
  deriving DecidableEq

structure Trees where
  nackList : Shape NackInfo
  keyFrameList : Shape Nat
  recoveredList : Shape Nat

namespace NackGenerator

variable (t : Trees)

def oldest (seq : Nat) : Nat := (seq + 2 ^ 16 - maxPacketAge) % 2 ^ 16

/-- `RemoveNackItemsUntilKeyFrame`: the two lists, and whether something was removed. -/
def removeNackItemsUntilKeyFrame (nackList : List NackInfo) : List Nat → List NackInfo × List Nat × Bool
  | [] => (nackList, [], false)
  | keyFrame :: keyFrameList =>
    let it := t.nackList.lowerBound NackInfo.seq (isSeqLowerThan 16) nackList keyFrame
    -- the key frame is newer than at least one packet of the list
    if it ≠ 0 then (nackList.drop it, keyFrame :: keyFrameList, true)
    else removeNackItemsUntilKeyFrame nackList keyFrameList

def tooLarge (nackList : List NackInfo) (numNewNacks : Nat) : Bool :=
  decide (nackList.length % 2 ^ 16 + numNewNacks > maxNackPackets)

/-- The loop that calls `RemoveNackItemsUntilKeyFrame` while the list is too large. -/
def shrink (numNewNacks : Nat) : Nat → List NackInfo → List Nat → List NackInfo × List Nat
  | 0, nackList, keyFrameList => (nackList, keyFrameList)
  | fuel + 1, nackList, keyFrameList =>
    match removeNackItemsUntilKeyFrame t nackList keyFrameList with
    | (nackList, keyFrameList, true) =>
      if tooLarge nackList numNewNacks then shrink numNewNacks fuel nackList keyFrameList else (nackList, keyFrameList)
    | (nackList, keyFrameList, false) => (nackList, keyFrameList)

def addMissing (recoveredList : List Nat) (nowMs : Nat) : Nat → Nat → List NackInfo → Except Fault (List NackInfo)
  | 0, _, nackList => .ok nackList
  | count + 1, seq, nackList =>
    if (t.nackList.find NackInfo.seq (isSeqLowerThan 16) nackList seq).isSome then .error .alreadyInNackList
    else
      let nackList :=
        -- no NACK for packets that are already recovered by RTX
        if (t.recoveredList.find id (isSeqLowerThan 16) recoveredList seq).isSome then nackList
        else
          t.nackList.insertUnique NackInfo.seq (isSeqLowerThan 16) nackList
            { createdAtMs := nowMs, seq := seq, sendAtSeq := seq }
      addMissing recoveredList nowMs count ((seq + 1) % 2 ^ 16) nackList

variable (g : NackGenerator)

def makeRoom (numNewNacks seqEnd : Nat) : List NackInfo × List Nat :=
  let nackList := g.nackList.drop (t.nackList.lowerBound NackInfo.seq (isSeqLowerThan 16) g.nackList (oldest seqEnd))
  -- every turn of the loop but the last removes an item
  if tooLarge nackList numNewNacks then shrink t numNewNacks (nackList.length + 1) nackList g.keyFrameList
  else (nackList, g.keyFrameList)

def addOrClear (nowMs numNewNacks seqStart : Nat) (nackList : List NackInfo)
    (keyFrameList : List Nat) : Except Fault (NackGenerator × List NackRequest) :=
  if tooLarge nackList numNewNacks then
    .ok ({ g with nackList := [], keyFrameList := keyFrameList }, [.keyFrameRequired])
  else do
    let nackList ← addMissing t g.recoveredList nowMs numNewNacks seqStart nackList
    return ({ g with nackList := nackList, keyFrameList := keyFrameList }, [])

def addPacketsToNackList (nowMs seqStart seqEnd : Nat) :
    Except Fault (NackGenerator × List NackRequest) :=
  let numNewNacks := (seqEnd + 2 ^ 16 - seqStart) % 2 ^ 16
  let room := g.makeRoom t numNewNacks seqEnd
  g.addOrClear t nowMs numNewNacks seqStart room.1 room.2

def due (filter : NackFilter) (nowMs : Nat) (info : NackInfo) : Bool :=
  !decide (g.sendNackDelayMs > 0 ∧ (nowMs + 2 ^ 64 - info.createdAtMs) % 2 ^ 64 < g.sendNackDelayMs) &&
    match filter with
    | .seq => info.sentAtMs == 0 && (info.sendAtSeq == g.lastSeq || isSeqHigherThan 16 g.lastSeq info.sendAtSeq)
    | .time => info.sentAtMs == 0 || decide ((nowMs + 2 ^ 64 - info.sentAtMs) % 2 ^ 64 ≥ g.rtt)

def retry (filter : NackFilter) (nowMs : Nat) (info : NackInfo) : Option NackInfo :=
  if g.due filter nowMs info then
    if info.retries + 1 ≥ maxNackRetries then none
    else some { info with retries := info.retries + 1, sentAtMs := nowMs }
  else some info

def getNackBatch (filter : NackFilter) (nowMs : Nat) : NackGenerator × List NackRequest :=
  let nackBatch := (g.nackList.filter (g.due filter nowMs)).map NackInfo.seq
  ({ g with nackList := g.nackList.filterMap (g.retry filter nowMs) }, if nackBatch ≠ [] then [.nackRequired nackBatch] else [])

def mayRunTimer : NackGenerator :=
  if g.nackList ≠ [] then { g with timerActive := true } else g

def removeOld (sh : Shape Nat) (seqs : List Nat) (seq : Nat) : List Nat :=
  seqs.drop (sh.lowerBound id (isSeqLowerThan 16) seqs (oldest seq))

/-- `ReceivePacket`, the key frames: a new one is noted and old ones are removed. -/
def updateKeyFrames (seq : Nat) (isKeyFrame : Bool) : NackGenerator :=
  let keyFrameList :=
    if isKeyFrame then t.keyFrameList.insertUnique id (isSeqLowerThan 16) g.keyFrameList seq else g.keyFrameList
  { g with keyFrameList := removeOld t.keyFrameList keyFrameList seq }

def addRecovered (seq : Nat) : NackGenerator :=
  let recoveredList := t.recoveredList.insertUnique id (isSeqLowerThan 16) g.recoveredList seq
  { g with recoveredList := removeOld t.recoveredList recoveredList seq }

def advance (nowMs seq : Nat) : Except Fault (NackGenerator × List NackRequest) := do
  let (g, requests) ← g.addPacketsToNackList t nowMs ((g.lastSeq + 1) % 2 ^ 16) seq
  let (g, nacks) := { g with lastSeq := seq }.getNackBatch .seq nowMs
  return (if g.timerActive then g else g.mayRunTimer, requests ++ nacks)

/-- A packet older than `lastSeq`: the `Bool` tells whether it is a nacked packet. -/
def receiveOlder (seq : Nat) : NackGenerator × Bool :=
  match t.nackList.find NackInfo.seq (isSeqLowerThan 16) g.nackList seq with
  | some info =>
    let it := t.nackList.lowerBound NackInfo.seq (isSeqLowerThan 16) g.nackList seq
    ({ g with nackList := g.nackList.eraseIdx it }, decide (info.retries ≠ 0))
  | none => (g, false)

/-- A packet newer than `lastSeq`, which does not pass if it came by RTX. -/
def receiveNewer (nowMs seq : Nat) (isKeyFrame isRecovered : Bool) :
    Except Fault (NackGenerator × List NackRequest) :=
  let g := g.updateKeyFrames t seq isKeyFrame
  if isRecovered then .ok (g.addRecovered t seq, []) else g.advance t nowMs seq

/-- `ReceivePacket`: the `Bool` tells whether this is a nacked packet. -/
def receivePacket (nowMs seq : Nat) (isKeyFrame isRecovered : Bool) :
    Except Fault (NackGenerator × Bool × List NackRequest) :=
  if !g.started then
    let keyFrameList :=
      if isKeyFrame then t.keyFrameList.insertUnique id (isSeqLowerThan 16) g.keyFrameList seq else g.keyFrameList
    .ok ({ g with started := true, lastSeq := seq, keyFrameList := keyFrameList }, false, [])
  else if seq = g.lastSeq then .ok (g, false, [])
  else if isSeqLowerThan 16 seq g.lastSeq then .ok ((g.receiveOlder t seq).1, (g.receiveOlder t seq).2, [])
  else do
    let (g, requests) ← g.receiveNewer t nowMs seq isKeyFrame isRecovered
    return (g, false, requests)

def updateRtt (rtt : Nat) : NackGenerator := { g with rtt := rtt }

/-- `Reset` leaves the timer and the round trip time alone. -/
def reset : NackGenerator :=
  { g with nackList := [], keyFrameList := [], recoveredList := [], started := false, lastSeq := 0 }

/-- `OnTimer`: the timer fires once and is started again while there are packets to ask for. -/
def onTimer (nowMs : Nat) : NackGenerator × List NackRequest :=
  let (g, nacks) := { g with timerActive := false }.getNackBatch .time nowMs
  (g.mayRunTimer, nacks)

/-! ## The loop that shrinks the list -/

variable {t} {nackList l' : List NackInfo} {keyFrameList k' : List Nat}

theorem length_lt_of_removeNackItems
    (h : removeNackItemsUntilKeyFrame t nackList keyFrameList = (l', k', true)) : l'.length < nackList.length := by
  induction keyFrameList with
  | nil => simp [removeNackItemsUntilKeyFrame] at h
  | cons keyFrame keyFrameList ih =>
    simp only [removeNackItemsUntilKeyFrame] at h
    split at h
    · have hle : t.nackList.lowerBound NackInfo.seq (isSeqLowerThan 16) nackList keyFrame ≤ nackList.length :=
        t.nackList.lowerBound_le _ _
      obtain ⟨rfl, -⟩ := Prod.mk.inj h
      rw [List.length_drop]
      omega
    · exact ih h

end NackGenerator

end Mediasoup.Rtp
