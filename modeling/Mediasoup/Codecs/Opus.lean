import Mediasoup.Codecs.Handler

/-!
# Opus

A packet of a single byte is one of silence. A consumer may ask to drop these packets.
-/

namespace Mediasoup.Codecs.Opus

open Rtp

structure PayloadDescriptor where
  isDtx : Bool := false
  deriving DecidableEq

def parse (payload : List UInt8) : PayloadDescriptor := { isDtx := payload.length == 1 }

/-- `ProcessRtpPacket`: every packet has a descriptor. -/
def processRtpPacket (p : MediaPacket PayloadDescriptor) : MediaPacket PayloadDescriptor :=
  { p with descriptor := some (parse p.packet.payload) }

/-- The flag is set by `SyncRequired`, and nothing reads it. -/
structure State where
  syncRequired : Bool := false
  deriving DecidableEq

abbrev Context := EncodingContext State

/-- `Process`: a packet of silence is dropped if the consumer ignores them. -/
def process (context : Context) (d : PayloadDescriptor) (payload : List UInt8) : Except CodecFault (Processed State) :=
  .ok { passed := !(d.isDtx && context.ignoreDtx), context := context, payload := payload }

def codec : Codec PayloadDescriptor State where
  process _ := process
  restore _ payload := payload
  syncRequired _ := { syncRequired := true }
  isKeyFrame _ := false
  temporalLayer _ := 0

end Mediasoup.Codecs.Opus
