import Mediasoup.Codecs.Svc

/-!
# H264_SVC

For a consumer, `process` filters the packets of an H264 stream by spatial and temporal layer as VP9 does, without picture
ids and without the special case of K-SVC between key frames.
-/

namespace Mediasoup.Codecs.H264SVC

open Lib

/-- The start and the end of a frame, and the layers, which may be missing. -/
structure PayloadDescriptor where
  s : Bool := false
  e : Bool := false
  slIndex : Nat := 0
  tlIndex : Nat := 0
  hasSlIndex : Bool := false
  hasTlIndex : Bool := false
  isKeyFrame : Bool := false
  deriving DecidableEq

namespace PayloadDescriptor

/-- `GetSpatialLayer`: 0 if there is no index. -/
def spatialLayer (d : PayloadDescriptor) : Nat := if d.hasSlIndex then d.slIndex else 0

def temporalLayer (d : PayloadDescriptor) : Nat := if d.hasTlIndex then d.tlIndex else 0

def frame (d : PayloadDescriptor) : LayerFrame :=
  { spatialLayer := d.spatialLayer, temporalLayer := d.temporalLayer, isKeyFrame := d.isKeyFrame, e := d.e }

end PayloadDescriptor

abbrev Context := EncodingContext Unit

/-- The packet passes if it is within the layers switched to. The last one of the highest layer gets the marker. -/
def select (context : Context) (d : PayloadDescriptor) (payload : List UInt8) : Processed Unit :=
  let tmp := context.switchSpatialLayer d.frame
  if (d.spatialLayer : Int) > tmp.spatial then { passed := false, context := context, payload := payload }
  else
    let tmp := { tmp with temporal := context.switchTemporalLayer d.frame d.s tmp.temporal }
    if (d.temporalLayer : Int) > tmp.temporal then { passed := false, context := context, payload := payload }
    else
      { passed := true
        context := context.setCurrentLayers tmp
        payload := payload
        marker := decide ((d.spatialLayer : Int) = tmp.spatial) && d.e }

/-- `Process`: without target layers the assertion fires. -/
def process (context : Context) (d : PayloadDescriptor) (payload : List UInt8) :
    Except CodecFault (Processed Unit) :=
  if context.targetSpatialLayer < 0 then .error .noTargetSpatialLayer
  else if context.targetTemporalLayer < 0 then .error .noTargetTemporalLayer
  else if context.tooHighLayers d.frame then .ok { passed := false, context := context, payload := payload }
  else .ok (select context d payload)

def codec : Codec PayloadDescriptor Unit where
  process _ := process
  restore _ payload := payload
  syncRequired := id
  isKeyFrame := PayloadDescriptor.isKeyFrame
  temporalLayer := PayloadDescriptor.temporalLayer

end Mediasoup.Codecs.H264SVC
