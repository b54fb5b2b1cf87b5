import Mediasoup.Consumer.Simulcast

/-!
# Simple consumers

A simple consumer forwards the single stream of a producer as it is, with an SSRC and sequence numbers of its own. Only for Opus
it has an encoding context, by which it may drop the packets of silence. Here is also what the class `Consumer` does around the
methods of each kind (`Hooks`), and the end of `SendRtpPacket` that simple, SVC and pipe consumers share (`forwardOn`).
-/

namespace Mediasoup.Consumer

open Lib Rtp Codecs Mediasoup.Seq

/-! ## The class `Consumer` -/

/-- The methods of a kind of consumers that the class `Consumer` calls. -/
structure Hooks (σ : Type) where
  base : σ → ConsumerBase
  setBase : σ → ConsumerBase → σ
  isActive : σ → Bool
  userOnTransportConnected : σ → σ
  userOnTransportDisconnected : σ → σ
  userOnPaused : σ → σ
  userOnResumed : σ → σ

namespace Hooks

variable {σ : Type} (h : Hooks σ)

/-- The end of `CONSUMER_PAUSE` and `ProducerPaused`, for the consumer before the call and with the flag set. -/
def pausedIf (before after : σ) : σ := if h.isActive before then h.userOnPaused after else after

def resumedIf (after : σ) : σ := if h.isActive after then h.userOnResumed after else after

/-- The requests and notifications that the class `Consumer` handles; `none` for the others. -/
def call (c : σ) : SimulcastConsumer.Call → Option σ
  | .pause => some (if (h.base c).paused then c else h.pausedIf c (h.setBase c { h.base c with paused := true }))
  | .resume => some (if (h.base c).paused then h.resumedIf (h.setBase c { h.base c with paused := false }) else c)
  | .transportConnected =>
    some
      (if (h.base c).transportConnected then c
      else h.userOnTransportConnected (h.setBase c { h.base c with transportConnected := true }))
  | .transportDisconnected =>
    some
      (if (h.base c).transportConnected then
        h.userOnTransportDisconnected (h.setBase c { h.base c with transportConnected := false })
      else c)
  | .producerPaused =>
    some (if (h.base c).producerPaused then c else h.pausedIf c (h.setBase c { h.base c with producerPaused := true }))
  | .producerResumed =>
    some (if (h.base c).producerPaused then h.resumedIf (h.setBase c { h.base c with producerPaused := false }) else c)
  | .producerClosed => some (h.setBase c { h.base c with producerClosed := true })
  | .setExternallyManagedBitrate => some (h.setBase c { h.base c with externallyManagedBitrate := true })
  | _ => none

end Hooks

/-! ## The end of `SendRtpPacket` -/

structure Forwarding where
  manager : SeqManager
  stream : RtpStreamSend
  shared : SharedPackets
  sent : Option Packet

/-- The packet is given the SSRC and the number of the sent stream, and the marker if the codec says so, and is sent. -/
def forwardOn {δ : Type} (env : SendEnv) (stream : RtpStreamSend) (m : SeqManager) (sh : SharedPackets)
    (p : MediaPacket δ) (ssrc : UInt32) (marker : Bool) : Except ConsumerFault Forwarding :=
  match m.input 16 env.shapes.rtpSeq p.packet.sequenceNumber.toNat with
  | (_, none) => .error .unsetSequenceNumber
  | (m, some seq) =>
    let packet :=
      { p.packet with ssrc := ssrc, sequenceNumber := UInt16.ofNat seq, marker := marker || p.packet.marker }
    match stream.receivePacket sh packet p.size env.nowMs with
    | .error f => .error (.send f)
    | .ok (stream, sh, valid) =>
      .ok { manager := m, stream := stream, shared := sh, sent := if valid then some packet else none }

def syncIf (required : Bool) (m : SeqManager) (seq : UInt16) : SeqManager :=
  if required then m.sync 16 (seq - 1).toNat else m

/-! ## Simple consumers -/

structure SimpleConsumer (κ : Type) extends ConsumerBase where
  ssrc : UInt32
  keyFrameSupported : Bool
  producerRtpStream : Option RtpStreamRecv := none
  rtpStream : RtpStreamSend
  rtpSeqManager : SeqManager := {}
  encodingContext : Option (EncodingContext κ) := none
  syncRequired : Bool := false
  deriving DecidableEq

def streamActive (o : Option RtpStreamRecv) : Bool := o.any fun s => decide (s.score > 0) || s.params.useDtx

namespace SimpleConsumer

variable {δ κ : Type}

def create (codec : MediaCodec δ κ) (paused : Bool) (supportedCodecPayloadTypes : List (Fin 128)) (ignoreDtx : Bool)
    (rtpStream : RtpStreamSend) : SimpleConsumer κ where
  paused := paused
  supportedCodecPayloadTypes := supportedCodecPayloadTypes
  ssrc := rtpStream.params.ssrc
  keyFrameSupported := codec.canBeKeyFrame
  rtpStream := rtpStream
  encodingContext := if codec.isOpus then some { ignoreDtx := ignoreDtx, state := codec.initial } else none

def isActive (c : SimpleConsumer κ) : Bool := c.isActiveBase && streamActive c.producerRtpStream

def hooks : Hooks (SimpleConsumer κ) where
  base c := c.toConsumerBase
  setBase c base := { c with toConsumerBase := base }
  isActive := isActive
  userOnTransportConnected c := { c with syncRequired := true }
  userOnTransportDisconnected c := { c with rtpStream := c.rtpStream.clearBuffer }
  userOnPaused c := { c with rtpStream := c.rtpStream.clearBuffer }
  userOnResumed c := { c with syncRequired := true }

def call (c : SimpleConsumer κ) (nowMs : Nat) (e : SimulcastConsumer.Call) : SimpleConsumer κ :=
  (hooks.call c e).getD <|
    match e with
    | .producerRtpStream s _ => { c with producerRtpStream := some s }
    | .producerNewRtpStream s _ => { c with producerRtpStream := some s }
    | .streamScore _ score =>
      { c with
        producerRtpStream := c.producerRtpStream.map fun s => { s with toStreamScore := s.setScore score nowMs } }
    | .senderReport _ report score =>
      { c with producerRtpStream := c.producerRtpStream.map fun s => s.receiveRtcpSenderReport report score nowMs }
    | .rtpStreamScore score =>
      { c with rtpStream := { c.rtpStream with toStreamScore := c.rtpStream.setScore score nowMs } }
    | _ => c

variable (codec : Codec δ κ)

def processPayload (env : SendEnv) (c : SimpleConsumer κ) (p : MediaPacket δ) :
    Except ConsumerFault (SimpleConsumer κ × MediaPacket δ × Bool) :=
  match c.encodingContext with
  | none => .ok (c, p, true)
  | some context =>
    match p.processPayload codec env.shapes context with
    | .error f => .error (.codec f)
    | .ok r => .ok ({ c with encodingContext := some r.context }, p.setPayload r.payload, r.passed)

/-- The packet is sent, after a sync if required. The payload is not restored. -/
def deliver (env : SendEnv) (c : SimpleConsumer κ) (sh : SharedPackets) (p : MediaPacket δ) :
    Except ConsumerFault (Delivery (SimpleConsumer κ) δ) := do
  let f ← forwardOn env c.rtpStream (syncIf c.syncRequired c.rtpSeqManager p.packet.sequenceNumber) sh p c.ssrc false
  return {
    consumer := { c with rtpSeqManager := f.manager, rtpStream := f.stream, syncRequired := false }
    shared := f.shared
    packet := p
    sent := f.sent }

def sendRtpPacket (env : SendEnv) (c : SimpleConsumer κ) (sh : SharedPackets) (p : MediaPacket δ) :
    Except ConsumerFault (Delivery (SimpleConsumer κ) δ) :=
  if !c.isActive || !c.supports p.packet.payloadType then .ok { consumer := c, shared := sh, packet := p }
  else
    match c.processPayload codec env p with
    | .error f => .error f
    | .ok (c, p, false) =>
      .ok
        { consumer :=
            { c with rtpSeqManager := c.rtpSeqManager.drop 16 env.shapes.rtpSeq p.packet.sequenceNumber.toNat }
          shared := sh
          packet := p }
    | .ok (c, p, true) =>
      if c.syncRequired && c.keyFrameSupported && !p.isKeyFrame codec then
        .ok { consumer := c, shared := sh, packet := p }
      else c.deliver env sh p

end SimpleConsumer

end Mediasoup.Consumer
