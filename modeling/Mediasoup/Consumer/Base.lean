import Mediasoup.Codecs.Handler
import Mediasoup.Rtp.StreamSend

/-!
# What all consumers have

`ConsumerBase` holds the state of the class `Consumer`; `Delivery` is what a call of `SendRtpPacket` leaves behind: the
packet itself is rewritten and restored in place, so that it is part of the result.

Notifications to the application and requests for key frames are left out.
-/

namespace Mediasoup.Consumer

open Lib Rtp Codecs

instance neZero_payloadTypes : NeZero 128 := ⟨by decide⟩

structure ConsumerBase where
  transportConnected : Bool := false
  paused : Bool := false
  producerPaused : Bool := false
  producerClosed : Bool := false
  externallyManagedBitrate : Bool := false
  /-- a `std::bitset` -/
  supportedCodecPayloadTypes : List (Fin 128)
  deriving DecidableEq

namespace ConsumerBase

def isActiveBase (c : ConsumerBase) : Bool :=
  c.transportConnected && !c.paused && !c.producerPaused && !c.producerClosed

def supports (c : ConsumerBase) (payloadType : UInt8) : Bool :=
  c.supportedCodecPayloadTypes.any fun t => t.val == payloadType.toNat

end ConsumerBase

inductive ConsumerFault
  /-- "no Sender Report for TS reference RTP stream" -/
  | noReferenceSenderReport
  /-- "no Sender Report for current RTP stream" -/
  | noTargetSenderReport
  /-- "no Producer RtpStream for the given spatialLayer" -/
  | noProducerStream
  /-- "unknown mappedSsrc", or an SSRC that `at` does not find -/
  | unknownMappedSsrc
  /-- "bitrate is not externally managed" -/
  | notExternallyManaged
  /-- "should be active" -/
  | notActive
  /-- the producer makes one stream for each encoding -/
  | streamExists
  /-- a null pointer is read -/
  | nullStream
  /-- `Input` refuses the packet and leaves the number to be sent unset -/
  | unsetSequenceNumber
  | codec (f : CodecFault)
  | send (f : SendFault)
  deriving DecidableEq

structure Delivery (σ δ : Type) where
  consumer : σ
  shared : SharedPackets
  /-- the packet as the next consumer gets it -/
  packet : MediaPacket δ
  sent : Option Packet := none
  deriving DecidableEq

structure SendEnv where
  nowMs : Nat
  shapes : Shapes

end Mediasoup.Consumer
