import Mediasoup.Codecs.Handler

/-!
# VP8

`parse` reads the payload descriptor of a VP8 packet, and `processRtpPacket` widens a one-byte picture id to two bytes. For
a consumer, `process` drops the packets of temporal layers above the target one and renumbers `pictureId` and
`tl0PictureIndex` in the payload; `restore` writes the numbers of the descriptor back.
-/

namespace Mediasoup.Codecs.VP8

open Lib Rtp Mediasoup.Seq Utils

structure PayloadDescriptor where
  extended : Bool := false
  nonReference : Bool := false
  start : Bool := false
  partitionIndex : Nat := 0
  i : Bool := false
  l : Bool := false
  t : Bool := false
  k : Bool := false
  pictureId : Nat := 0
  tl0PictureIndex : Nat := 0
  tlIndex : Nat := 0
  y : Bool := false
  keyIndex : Nat := 0
  isKeyFrame : Bool := false
  hasOneBytePictureId : Bool := false
  hasTwoBytesPictureId : Bool := false
  deriving DecidableEq

namespace PayloadDescriptor

def hasPictureId (d : PayloadDescriptor) : Bool := d.i

def hasTl0PictureIndex (d : PayloadDescriptor) : Bool := d.l

def hasTlIndex (d : PayloadDescriptor) : Bool := d.t || d.k

end PayloadDescriptor

/-! ## `Parse` -/

def bit (b : UInt8) (n : Nat) : Bool := b.toNat.testBit n

variable (d : PayloadDescriptor)

def readPictureId : List UInt8 → Option (PayloadDescriptor × List UInt8)
  | b :: rest =>
    if bit b 7 then
      match rest with
      | b' :: rest =>
        some ({ d with pictureId := b.toNat % 128 * 256 + b'.toNat, hasTwoBytesPictureId := true }, rest)
      | [] => none
    else some ({ d with pictureId := b.toNat % 128, hasOneBytePictureId := true }, rest)
  | [] => none

def readTl0PictureIndex : List UInt8 → Option (PayloadDescriptor × List UInt8)
  | b :: rest => some ({ d with tl0PictureIndex := b.toNat }, rest)
  | [] => none

def readTlIndex : List UInt8 → Option (PayloadDescriptor × List UInt8)
  | b :: rest => some ({ d with tlIndex := b.toNat / 64, y := bit b 5, keyIndex := b.toNat % 32 }, rest)
  | [] => none

def readIf (flag : Bool) (read : PayloadDescriptor → List UInt8 → Option (PayloadDescriptor × List UInt8))
    (d : PayloadDescriptor) (data : List UInt8) : Option (PayloadDescriptor × List UInt8) :=
  if flag then read d data else some (d, data)

/-- The first byte after the descriptor tells whether the first partition is one of a key frame. -/
def startsKeyFrame : List UInt8 → Bool
  | b :: _ => d.start && d.partitionIndex == 0 && !bit b 0
  | [] => false

def readLayers (data : List UInt8) : Option PayloadDescriptor := do
  let (d, rest) ← readIf (d.t || d.k) readTlIndex d data
  return { d with isKeyFrame := startsKeyFrame d rest }

def flags (b0 b1 : UInt8) : PayloadDescriptor where
  extended := bit b0 7
  nonReference := bit b0 5
  start := bit b0 4
  partitionIndex := b0.toNat % 8
  i := bit b1 7
  l := bit b1 6
  t := bit b1 5
  k := bit b1 4

def parse : List UInt8 → Option PayloadDescriptor
  | b0 :: b1 :: rest => do
    -- only extended descriptors are handled
    if bit b0 7 then
      let (d, rest) ← readIf (bit b1 7) readPictureId (flags b0 b1) rest
      let (d, rest) ← readIf (bit b1 6) readTl0PictureIndex d rest
      readLayers d rest
    else none
  | _ => none

/-- `ProcessRtpPacket`: one byte is inserted before a one-byte picture id. -/
def processRtpPacket (p : MediaPacket PayloadDescriptor) : MediaPacket PayloadDescriptor :=
  match parse p.packet.payload with
  | none => p
  | some d =>
    if d.hasOneBytePictureId then
      { p.setPayload (p.packet.payload.take 2 ++ 0x80 :: p.packet.payload.drop 2) with
        descriptor := some { d with hasOneBytePictureId := false, hasTwoBytesPictureId := true } }
    else { p with descriptor := some d }

/-! ## `Process` and `Restore` -/

/-- The fields of the payload after its first two bytes. -/
def encodeTl0PictureIndex (tl0PictureIndex : Nat) : List UInt8 → List UInt8
  | b :: rest => if d.l then .ofNat tl0PictureIndex :: rest else b :: rest
  | [] => []

def encodePictureId (pictureId tl0PictureIndex : Nat) : List UInt8 → List UInt8
  | data =>
    if d.i then
      if d.hasTwoBytesPictureId then
        match data with
        | _ :: _ :: rest =>
          .ofNat (pictureId / 256 % 128 + 128) :: .ofNat pictureId :: encodeTl0PictureIndex d tl0PictureIndex rest
        | data => data
      else if d.hasOneBytePictureId then
        match data with
        | _ :: rest => .ofNat pictureId :: encodeTl0PictureIndex d tl0PictureIndex rest
        | [] => []
      else encodeTl0PictureIndex d tl0PictureIndex data
    else encodeTl0PictureIndex d tl0PictureIndex data

def encode (pictureId tl0PictureIndex : Nat) : List UInt8 → List UInt8
  | b0 :: b1 :: rest => b0 :: b1 :: if d.extended then encodePictureId d pictureId tl0PictureIndex rest else rest
  | data => data

structure State where
  pictureIdManager : SeqManager := {}
  tl0PictureIndexManager : SeqManager := {}
  syncRequired : Bool := false
  deriving DecidableEq

abbrev Context := EncodingContext State

def sync (context : Context) (d : PayloadDescriptor) : Context :=
  if context.state.syncRequired && d.hasPictureId && d.hasTl0PictureIndex then
    { context with
      state :=
        { -- the argument is a `uint16_t`, not cut to 15 bits
          pictureIdManager := context.state.pictureIdManager.sync 15 (subMask 16 d.pictureId 1)
          tl0PictureIndexManager := context.state.tl0PictureIndexManager.sync 8 (subMask 8 d.tl0PictureIndex 1)
          syncRequired := false } }
  else context

variable (context : Context)

def layerDropped (d : PayloadDescriptor) : Bool :=
  d.hasPictureId && d.hasTlIndex && d.hasTl0PictureIndex &&
    !isSeqLowerThan 15 d.pictureId context.state.pictureIdManager.maxInput &&
    (decide ((d.tlIndex : Int) > context.targetTemporalLayer) ||
      (decide ((d.tlIndex : Int) > context.currentTemporalLayer) && !d.y))

def dropPicture (sh : Shapes) (context : Context) (d : PayloadDescriptor) : Context :=
  let s := { context.state with pictureIdManager := context.state.pictureIdManager.drop 15 sh.pictureId d.pictureId }
  let s :=
    if d.tlIndex = 0 then
      { s with tl0PictureIndexManager := s.tl0PictureIndexManager.drop 8 sh.tl0PictureIndex d.tl0PictureIndex }
    else s
  { context with state := s }

/-- A number is given to its manager if the packet has it; `none` if it was dropped before. -/
def inputIf (flag : Bool) (w : Nat) (sh : Shape Nat) (m : SeqManager) (value : Nat) : SeqManager × Option Nat :=
  if flag then m.input w sh value else (m, some value)

def updateTemporalLayer (d : PayloadDescriptor) : Context :=
  let current :=
    if d.hasTlIndex && decide ((d.tlIndex : Int) > context.currentTemporalLayer) then (d.tlIndex : Int)
    else if !d.hasTlIndex then 0
    else context.currentTemporalLayer
  { context with
    currentTemporalLayer := if current > context.targetTemporalLayer then context.targetTemporalLayer else current }

def setPictureIdManager (m : SeqManager) : Context :=
  { context with state := { context.state with pictureIdManager := m } }

def setTl0PictureIndexManager (m : SeqManager) : Context :=
  { context with state := { context.state with tl0PictureIndexManager := m } }

def renumber (sh : Shapes) (context : Context) (d : PayloadDescriptor) (payload : List UInt8) : Processed State :=
  match inputIf d.hasPictureId 15 sh.pictureId context.state.pictureIdManager d.pictureId with
  | (m, none) => { passed := false, context := setPictureIdManager context m, payload := payload }
  | (m, some pictureId) =>
    let context := setPictureIdManager context m
    match inputIf d.hasTl0PictureIndex 8 sh.tl0PictureIndex context.state.tl0PictureIndexManager d.tl0PictureIndex with
    | (m, none) => { passed := false, context := setTl0PictureIndexManager context m, payload := payload }
    | (m, some tl0PictureIndex) =>
      { passed := true
        context := updateTemporalLayer (setTl0PictureIndexManager context m) d
        payload :=
          if d.hasPictureId && d.hasTl0PictureIndex then encode d pictureId tl0PictureIndex payload else payload }

def process (sh : Shapes) (context : Context) (d : PayloadDescriptor) (payload : List UInt8) :
    Except CodecFault (Processed State) :=
  if context.targetTemporalLayer < 0 then .error .noTargetTemporalLayer
  else
    let context := sync context d
    if layerDropped context d then .ok { passed := false, context := dropPicture sh context d, payload := payload }
    else .ok (renumber sh context d payload)

def restore (payload : List UInt8) : List UInt8 :=
  if d.hasPictureId && d.hasTl0PictureIndex then encode d d.pictureId d.tl0PictureIndex payload else payload

def codec : Codec PayloadDescriptor State where
  process := process
  restore := restore
  syncRequired s := { s with syncRequired := true }
  isKeyFrame := PayloadDescriptor.isKeyFrame
  temporalLayer d := if d.hasTlIndex then d.tlIndex else 0

end Mediasoup.Codecs.VP8
