import Mediasoup.Consumer.Pipe

/-!
# The kinds of consumers

A consumer of any kind, with the methods that the router and the transports call. All consumers of a producer use the codec
of that producer.
-/

namespace Mediasoup.Rtp.RtpStreamSend

/-- A stream as `CreateRtpStream` makes it, with RTX or without; `Pause` leaves it as it is. -/
inductive IsNew : RtpStreamSend → Prop
  | plain (params : RtpStreamParams) (type : MimeType.Kind) : IsNew (create params type)
  | rtx (params : RtpStreamParams) (type : MimeType.Kind) (payloadType : UInt8) (ssrc : UInt32) (rtxSeq : UInt16) :
    IsNew ((create params type).setRtx payloadType ssrc rtxSeq)

end Mediasoup.Rtp.RtpStreamSend

namespace Mediasoup.Consumer

open Lib Rtp Codecs Mediasoup.Seq Delivery

inductive AnyConsumer (κ : Type)
  | simple (c : SimpleConsumer κ)
  | simulcast (c : SimulcastConsumer κ)
  | svc (c : SvcConsumer κ)
  | pipe (c : PipeConsumer)
  deriving DecidableEq

def Delivery.map {σ τ δ : Type} (f : σ → τ) (d : Delivery σ δ) : Delivery τ δ :=
  { consumer := f d.consumer, shared := d.shared, packet := d.packet, sent := d.sent }

def answerNack {σ : Type} (c : σ) (active : Bool) (s : RtpStreamSend) (setStream : RtpStreamSend → σ)
    (clones : List Packet) (nowMs : Nat) (items : List NackItem) : NackAnswer σ :=
  if active then
    let r := s.receiveNack clones nowMs items
    { consumer := setStream r.stream, clones := r.clones, resent := r.packets.map (Resent.mk s.hasRtx s.params) }
  else { consumer := c, clones := clones }

namespace AnyConsumer

variable {δ κ : Type}

def base : AnyConsumer κ → ConsumerBase
  | simple c => c.toConsumerBase
  | simulcast c => c.toConsumerBase
  | svc c => c.toConsumerBase
  | pipe c => c.toConsumerBase

def isActive : AnyConsumer κ → Bool
  | simple c => c.isActive
  | simulcast c => c.isActive
  | svc c => c.isActive
  | pipe c => c.isActiveBase

def rtpStreams : AnyConsumer κ → List RtpStreamSend
  | simple c => [c.rtpStream]
  | simulcast c => [c.rtpStream]
  | svc c => [c.rtpStream]
  | pipe c => c.rtpStreams.map PipeStream.rtpStream

def sendRtpPacket (codec : Codec δ κ) (env : SendEnv) (c : AnyConsumer κ) (sh : SharedPackets) (p : MediaPacket δ) :
    Except ConsumerFault (Delivery (AnyConsumer κ) δ) :=
  match c with
  | simple c => (c.sendRtpPacket codec env sh p).map (map simple)
  | simulcast c => (c.sendRtpPacket codec env sh p).map (map simulcast)
  | svc c => (c.sendRtpPacket codec env sh p).map (map svc)
  | pipe c => (c.sendRtpPacket codec env sh p).map (map pipe)

def call (env : CallEnv) (c : AnyConsumer κ) (e : SimulcastConsumer.Call) : Except ConsumerFault (AnyConsumer κ) :=
  match c with
  | simple c => .ok (simple (c.call env.nowMs e))
  | simulcast c => (c.call env.nowMs e).map simulcast
  | svc c => (c.call env e).map svc
  | pipe c => .ok (pipe (c.call e))

def receiveNack (c : AnyConsumer κ) (clones : List Packet) (nowMs : Nat) (mediaSsrc : UInt32) (items : List NackItem) :
    Except ConsumerFault (NackAnswer (AnyConsumer κ)) :=
  match c with
  | simple c' =>
    .ok (answerNack c c'.isActive c'.rtpStream (fun s => simple { c' with rtpStream := s }) clones nowMs items)
  | simulcast c' =>
    let (c'', clones, packets) := c'.receiveNack clones nowMs items
    .ok
      { consumer := simulcast c''
        clones := clones
        resent := packets.map (Resent.mk c'.rtpStream.hasRtx c'.rtpStream.params) }
  | svc c' => .ok (answerNack c c'.isActive c'.rtpStream (fun s => svc { c' with rtpStream := s }) clones nowMs items)
  | pipe c' =>
    (c'.receiveNack clones nowMs mediaSsrc items).map fun r =>
      { consumer := pipe r.consumer, clones := r.clones, resent := r.resent }

/-! ## Runs -/

inductive IsNew (codec : MediaCodec δ κ) : AnyConsumer κ → Prop
  | simple (paused : Bool) (supportedCodecPayloadTypes : List (Fin 128)) (ignoreDtx : Bool) {s : RtpStreamSend}
    (hs : s.IsNew) : IsNew codec (.simple (.create codec paused supportedCodecPayloadTypes ignoreDtx s))
  | simulcast (paused : Bool) (supportedCodecPayloadTypes : List (Fin 128)) (consumableRtpEncodings : List UInt32)
    (preferredLayers : Option (Nat × Option Nat)) {s : RtpStreamSend} (hs : s.IsNew) :
    IsNew codec
      (.simulcast (.create paused supportedCodecPayloadTypes consumableRtpEncodings preferredLayers s codec.initial))
  | svc (paused : Bool) (supportedCodecPayloadTypes : List (Fin 128)) (preferredLayers : Option (Nat × Option Nat))
    (ksvc : Bool) {s : RtpStreamSend} (hs : s.IsNew) :
    IsNew codec (.svc (.create paused supportedCodecPayloadTypes preferredLayers ksvc s codec.initial))
  | pipe (paused : Bool) (supportedCodecPayloadTypes : List (Fin 128)) {encodings : List (UInt32 × RtpStreamSend)}
    (hs : ∀ e ∈ encodings, e.2.IsNew) :
    IsNew codec (.pipe (.create paused supportedCodecPayloadTypes codec.canBeKeyFrame encodings))

inductive Event (δ : Type)
  | packet (env : SendEnv) (shared : SharedPackets) (p : MediaPacket δ)
  | nack (clones : List Packet) (nowMs : Nat) (mediaSsrc : UInt32) (items : List NackItem)
  | call (env : CallEnv) (call : SimulcastConsumer.Call)

def step (codec : Codec δ κ) (c : AnyConsumer κ) : Event δ → Except ConsumerFault (AnyConsumer κ)
  | .packet env shared p => do
    let d ← c.sendRtpPacket codec env shared p
    return d.consumer
  | .nack clones nowMs mediaSsrc items => do
    let r ← c.receiveNack clones nowMs mediaSsrc items
    return r.consumer
  | .call env e => c.call env e

end AnyConsumer

end Mediasoup.Consumer
