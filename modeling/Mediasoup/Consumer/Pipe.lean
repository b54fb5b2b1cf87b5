import Mediasoup.Consumer.Svc
import Mediasoup.Rtp.Retransmission

/-!
# Pipe consumers

A pipe consumer forwards all streams of a producer to another router, each with an SSRC and sequence numbers of its own.
It has no encoding context and drops nothing but what comes before the first key frame.
-/

namespace Mediasoup.Consumer

open Lib Rtp Codecs Mediasoup.Seq

/-- A sent stream with what `mapRtpStreamSyncRequired` and `mapRtpStreamRtpSeqManager` have for it. -/
structure PipeStream where
  rtpStream : RtpStreamSend
  syncRequired : Bool := false
  rtpSeqManager : SeqManager := {}
  deriving DecidableEq

structure PipeConsumer extends ConsumerBase where
  keyFrameSupported : Bool
  rtpStreams : List PipeStream
  mapMappedSsrcSsrc : Table UInt32 UInt32
  mapSsrcRtpStream : Table UInt32 Nat
  deriving DecidableEq

structure NackAnswer (σ : Type) where
  consumer : σ
  clones : List Packet
  resent : List Resent := []

namespace PipeConsumer

variable {δ κ : Type}

def create (paused : Bool) (supportedCodecPayloadTypes : List (Fin 128)) (keyFrameSupported : Bool)
    (encodings : List (UInt32 × RtpStreamSend)) : PipeConsumer where
  paused := paused
  supportedCodecPayloadTypes := supportedCodecPayloadTypes
  keyFrameSupported := keyFrameSupported
  rtpStreams := encodings.map fun e => { rtpStream := e.2 }
  mapMappedSsrcSsrc := encodings.foldl (fun t e => t.insert e.1 e.2.params.ssrc) ∅
  mapSsrcRtpStream := encodings.zipIdx.foldl (fun t e => t.insert e.1.2.params.ssrc e.2) ∅

variable (c : PipeConsumer)

def requireSync : PipeConsumer :=
  { c with rtpStreams := c.rtpStreams.map fun s => { s with syncRequired := true } }

def stop : PipeConsumer :=
  { c with rtpStreams := c.rtpStreams.map fun s => { s with rtpStream := s.rtpStream.clearBuffer } }

def hooks : Hooks PipeConsumer where
  base c := c.toConsumerBase
  setBase c base := { c with toConsumerBase := base }
  isActive c := c.isActiveBase
  userOnTransportConnected := requireSync
  userOnTransportDisconnected := stop
  userOnPaused := stop
  userOnResumed := requireSync

def call (c : PipeConsumer) (e : SimulcastConsumer.Call) : PipeConsumer := (hooks.call c e).getD c

def stream (ssrc : UInt32) : Option (Nat × PipeStream) := do
  let idx ← c.mapSsrcRtpStream.lookup ssrc
  let s ← c.rtpStreams[idx]?
  return (idx, s)

def setStream (idx : Nat) (s : PipeStream) : PipeConsumer :=
  { c with rtpStreams := c.rtpStreams.set idx s }

def deliver (env : SendEnv) (c : PipeConsumer) (sh : SharedPackets) (p : MediaPacket δ) (ssrc : UInt32) (idx : Nat)
    (s : PipeStream) : Except ConsumerFault (Delivery PipeConsumer δ) := do
  let f ← forwardOn env s.rtpStream (syncIf s.syncRequired s.rtpSeqManager p.packet.sequenceNumber) sh p ssrc false
  return {
    consumer := c.setStream idx { rtpStream := f.stream, syncRequired := false, rtpSeqManager := f.manager }
    shared := f.shared
    packet := p
    sent := f.sent }

def sendRtpPacket (codec : Codec δ κ) (env : SendEnv) (c : PipeConsumer) (sh : SharedPackets) (p : MediaPacket δ) :
    Except ConsumerFault (Delivery PipeConsumer δ) :=
  if !c.isActiveBase || !c.supports p.packet.payloadType then .ok { consumer := c, shared := sh, packet := p }
  else
    match c.mapMappedSsrcSsrc.lookup p.packet.ssrc with
    | none => .error .unknownMappedSsrc
    | some ssrc =>
      match c.stream ssrc with
      | none => .error .unknownMappedSsrc
      | some (idx, s) =>
        if s.syncRequired && c.keyFrameSupported && !p.isKeyFrame codec then
          .ok { consumer := c, shared := sh, packet := p }
        else c.deliver env sh p ssrc idx s

def receiveNack (c : PipeConsumer) (clones : List Packet) (nowMs : Nat) (mediaSsrc : UInt32) (items : List NackItem) :
    Except ConsumerFault (NackAnswer PipeConsumer) :=
  if c.isActiveBase then
    match c.stream mediaSsrc with
    | none => .error .unknownMappedSsrc
    | some (idx, s) =>
      let r := s.rtpStream.receiveNack clones nowMs items
      .ok
        { consumer := c.setStream idx { s with rtpStream := r.stream }
          clones := r.clones
          resent := r.packets.map (Resent.mk s.rtpStream.hasRtx s.rtpStream.params) }
  else .ok { consumer := c, clones := clones }

end PipeConsumer

end Mediasoup.Consumer
