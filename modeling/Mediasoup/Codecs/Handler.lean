import Mediasoup.Rtp.Packet
import Mediasoup.Seq.Manager

/-!
# Codec handlers

A media packet carries the descriptor that its codec has parsed from the payload. A consumer passes the packet through the codec
with an `EncodingContext` of its own: `ProcessPayload` decides whether the packet is sent and may rewrite the payload, and
`RestorePayload` undoes that. A `Codec` is given by its type of descriptors `δ` and the state `κ` it keeps in a context.
-/

namespace Mediasoup.Codecs

open Lib Rtp

structure EncodingContext (κ : Type) where
  spatialLayers : Nat := 1
  temporalLayers : Nat := 1
  ksvc : Bool := false
  targetSpatialLayer : Int := -1
  targetTemporalLayer : Int := -1
  currentSpatialLayer : Int := -1
  currentTemporalLayer : Int := -1
  ignoreDtx : Bool := false
  state : κ
  deriving DecidableEq

inductive CodecFault
  /-- "target spatial layer cannot be -1" -/
  | noTargetSpatialLayer
  /-- "target temporal layer cannot be -1" -/
  | noTargetTemporalLayer
  deriving DecidableEq

structure Shapes where
  rtpSeq : Shape Nat
  pictureId : Shape Nat
  tl0PictureIndex : Shape Nat

structure Processed (κ : Type) where
  passed : Bool
  context : EncodingContext κ
  payload : List UInt8
  marker : Bool := false
  deriving DecidableEq

structure Codec (δ κ : Type) where
  process : Shapes → EncodingContext κ → δ → List UInt8 → Except CodecFault (Processed κ)
  restore : δ → List UInt8 → List UInt8
  syncRequired : κ → κ
  isKeyFrame : δ → Bool
  temporalLayer : δ → Nat

/-- A codec with what the constructors of the consumers ask about it. -/
structure MediaCodec (δ κ : Type) extends Codec δ κ where
  initial : κ
  canBeKeyFrame : Bool
  isOpus : Bool

/-- A packet on its way from a producer to the consumers. -/
structure MediaPacket (δ : Type) where
  packet : Packet
  descriptor : Option δ := none
  /-- the size of the RTP header with its CSRCs and extension -/
  headerSize : Nat := 12
  deriving DecidableEq

namespace MediaPacket

variable {δ κ : Type} (codec : Codec δ κ)

def isKeyFrame (p : MediaPacket δ) : Bool := p.descriptor.any codec.isKeyFrame

def temporalLayer (p : MediaPacket δ) : Nat := (p.descriptor.map codec.temporalLayer).getD 0

def setPayload (p : MediaPacket δ) (payload : List UInt8) : MediaPacket δ :=
  { p with packet := { p.packet with payload := payload } }

def size (p : MediaPacket δ) : Nat := p.headerSize + p.packet.payload.length + p.packet.payloadPadding.toNat

def processPayload (sh : Shapes) (context : EncodingContext κ) (p : MediaPacket δ) :
    Except CodecFault (Processed κ) :=
  match p.descriptor with
  | none => .ok { passed := true, context := context, payload := p.packet.payload }
  | some d => codec.process sh context d p.packet.payload

def restorePayload (p : MediaPacket δ) : MediaPacket δ :=
  match p.descriptor with
  | none => p
  | some d => p.setPayload (codec.restore d p.packet.payload)

end MediaPacket

end Mediasoup.Codecs
