import Mediasoup.Codecs.Svc

/-!
# VP9

`parse` reads the payload descriptor of a VP9 packet. For a consumer, `process` filters the packets by spatial and temporal
layer and sets the marker at the end of a frame of the current spatial layer; the payload is not touched.

A packet whose picture id is older than the newest one is let through whatever its layers are (`isOldPacket`).
-/

namespace Mediasoup.Codecs.VP9

open Lib Rtp Mediasoup.Seq

structure PayloadDescriptor where
  i : Bool := false
  p : Bool := false
  l : Bool := false
  f : Bool := false
  b : Bool := false
  e : Bool := false
  v : Bool := false
  pictureId : Nat := 0
  slIndex : Nat := 0
  tlIndex : Nat := 0
  tl0PictureIndex : Nat := 0
  switchingUpPoint : Bool := false
  interLayerDependency : Bool := false
  isKeyFrame : Bool := false
  hasPictureId : Bool := false
  hasOneBytePictureId : Bool := false
  hasTwoBytesPictureId : Bool := false
  hasSlIndex : Bool := false
  hasTl0PictureIndex : Bool := false
  hasTlIndex : Bool := false
  deriving DecidableEq

/-! ## `Parse` -/

def readFlags (byte : UInt8) : PayloadDescriptor :=
  { i := byte.toNat.testBit 7
    p := byte.toNat.testBit 6
    l := byte.toNat.testBit 5
    f := byte.toNat.testBit 4
    b := byte.toNat.testBit 3
    e := byte.toNat.testBit 2
    v := byte.toNat.testBit 1 }

def readPictureId (d : PayloadDescriptor) : List UInt8 → Option (PayloadDescriptor × List UInt8)
  | byte :: rest =>
    if byte.toNat.testBit 7 then
      match rest with
      | byte' :: rest =>
        some ({ d with
          pictureId := byte.toNat % 128 * 256 + byte'.toNat, hasTwoBytesPictureId := true, hasPictureId := true }, rest)
      | [] => none
    else some ({ d with pictureId := byte.toNat % 128, hasOneBytePictureId := true, hasPictureId := true }, rest)
  | [] => none

/-- The layer indices. One more byte must follow them, in flexible mode too, where it is not read. -/
def readLayerIndices (d : PayloadDescriptor) : List UInt8 → Option PayloadDescriptor
  | byte :: byte' :: _ =>
    let d :=
      { d with
        interLayerDependency := byte.toNat.testBit 0
        switchingUpPoint := byte.toNat.testBit 4
        slIndex := byte.toNat / 2 % 8
        tlIndex := byte.toNat / 32 % 8
        hasSlIndex := true
        hasTlIndex := true }
    some (if d.f then d else { d with tl0PictureIndex := byte'.toNat, hasTl0PictureIndex := true })
  | _ => none

def parse : List UInt8 → Option PayloadDescriptor
  | byte :: rest => do
    let d := readFlags byte
    let (d, rest) ← if d.i then readPictureId d rest else some (d, rest)
    let d ← if d.l then readLayerIndices d rest else some d
    return { d with isKeyFrame := !d.p && d.b && d.slIndex == 0 }
  | [] => none

def processRtpPacket (p : MediaPacket PayloadDescriptor) : MediaPacket PayloadDescriptor :=
  match parse p.packet.payload with
  | none => p
  | some d => { p with descriptor := some d }

/-! ## `Process` -/

namespace PayloadDescriptor

def spatialLayer (d : PayloadDescriptor) : Nat := if d.hasSlIndex then d.slIndex else 0

def temporalLayer (d : PayloadDescriptor) : Nat := if d.hasTlIndex then d.tlIndex else 0

def frame (d : PayloadDescriptor) : LayerFrame :=
  { spatialLayer := d.spatialLayer, temporalLayer := d.temporalLayer, isKeyFrame := d.isKeyFrame, e := d.e }

end PayloadDescriptor

structure State where
  pictureIdManager : SeqManager := {}
  syncRequired : Bool := false
  deriving DecidableEq

abbrev Context := EncodingContext State

def sync (context : Context) (d : PayloadDescriptor) : Context :=
  if context.state.syncRequired && d.hasPictureId then
    { context with
      state :=
        { pictureIdManager := context.state.pictureIdManager.sync 15 (subMask 16 d.pictureId 1)
          syncRequired := false } }
  else context

def isOldPacket (context : Context) (d : PayloadDescriptor) : Bool :=
  d.hasPictureId && isSeqLowerThan 15 d.pictureId context.state.pictureIdManager.maxInput

/-- The spatial layer of the packet is not sent: it is above the one switched to, or, between the key frames of K-SVC,
another one. -/
def spatialLayerFiltered (context : Context) (d : PayloadDescriptor) (tmpSpatialLayer : Int) : Bool :=
  decide ((d.spatialLayer : Int) > tmpSpatialLayer) ||
    (context.ksvc && d.p && decide ((d.spatialLayer : Int) ≠ tmpSpatialLayer))

def upgradePoint (context : Context) (d : PayloadDescriptor) : Bool :=
  (decide (context.currentTemporalLayer = -1) || d.switchingUpPoint) && d.b

/-- The picture id is given to its manager; what it returns is not looked at. -/
def inputPictureId (sh : Shapes) (context : Context) (d : PayloadDescriptor) : Context :=
  if d.hasPictureId then
    { context with
      state :=
        { context.state with
          pictureIdManager := (context.state.pictureIdManager.input 15 sh.pictureId d.pictureId).1 } }
  else context

def pass (sh : Shapes) (context : Context) (d : PayloadDescriptor) (layers : TmpLayers) (payload : List UInt8) :
    Processed State :=
  { passed := true
    context := (inputPictureId sh context d).setCurrentLayers layers
    payload := payload
    marker := decide ((d.spatialLayer : Int) = layers.spatial) && d.e }

def select (sh : Shapes) (context : Context) (d : PayloadDescriptor) (payload : List UInt8) : Processed State :=
  let tmp := context.switchSpatialLayer d.frame
  if isOldPacket context d then pass sh context d tmp payload
  else if spatialLayerFiltered context d tmp.spatial then { passed := false, context := context, payload := payload }
  else
    let tmp := { tmp with temporal := context.switchTemporalLayer d.frame (upgradePoint context d) tmp.temporal }
    if (d.temporalLayer : Int) > tmp.temporal then { passed := false, context := context, payload := payload }
    else pass sh context d tmp payload

def process (sh : Shapes) (context : Context) (d : PayloadDescriptor) (payload : List UInt8) :
    Except CodecFault (Processed State) :=
  if context.targetSpatialLayer < 0 then .error .noTargetSpatialLayer
  else if context.targetTemporalLayer < 0 then .error .noTargetTemporalLayer
  else if context.tooHighLayers d.frame then .ok { passed := false, context := context, payload := payload }
  else .ok (select sh (sync context d) d payload)

def codec : Codec PayloadDescriptor State where
  process := process
  restore _ payload := payload
  syncRequired s := { s with syncRequired := true }
  isKeyFrame := PayloadDescriptor.isKeyFrame
  temporalLayer := PayloadDescriptor.temporalLayer

def mediaCodec : MediaCodec PayloadDescriptor State where
  toCodec := codec
  initial := {}
  canBeKeyFrame := true
  isOpus := false

end Mediasoup.Codecs.VP9
