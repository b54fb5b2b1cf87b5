import Mediasoup.Lib.Table
import Mediasoup.Producer.Parameters
import Mediasoup.Rtp.StreamRecv

/-!
# The streams of a producer

`getRtpStream` looks up the stream of a packet by SSRC, then by RID, then takes the only encoding, and makes a new stream or
attaches an RTX SSRC where the packet is the first one of its kind. The streams live in `streams`, in the order of their creation,
and a pointer is an index of that list. Requests for key frames, events, statistics and header extensions other than MID and RID
are left out.
-/

namespace Mediasoup.Rtp

open Lib

/-! ## The constructor -/

structure EncodingMappingData where
  ssrc : Option UInt32 := none
  rid : Option String := none
  mappedSsrc : UInt32
  deriving DecidableEq

structure ProducerData where
  rtpParameters : RtpParametersData
  codecs : List (UInt8 × UInt8) := []
  encodings : List EncodingMappingData
  paused : Bool := false
  deriving DecidableEq

structure RtpEncodingMapping where
  rid : String := ""
  ssrc : UInt32 := 0
  mappedSsrc : UInt32
  deriving DecidableEq

structure RtpMapping where
  codecs : Table UInt8 UInt8
  encodings : List RtpEncodingMapping
  deriving DecidableEq

def createEncodingMapping (mid : String) (count : Nat) (d : EncodingMappingData) : Except TypeError RtpEncodingMapping :=
  if count > 1 ∧ d.ssrc = none ∧ d.rid = none then .error .missingSsrcOrRid
  else if mid = "" ∧ count = 1 ∧ d.ssrc = none ∧ d.rid = none then .error .missingSsrcRidOrMid
  else .ok ⟨d.rid.getD "", d.ssrc.getD 0, d.mappedSsrc⟩

structure ProducerConfig where
  rtpParameters : RtpParameters
  rtpMapping : RtpMapping
  sizes : rtpMapping.encodings.length = rtpParameters.encodings.length
  deriving DecidableEq

def createCodecMapping (codecs : List (UInt8 × UInt8)) : Table UInt8 UInt8 :=
  codecs.foldl (fun table codec => table.insert codec.1 codec.2) ∅

def ProducerConfig.create (d : ProducerData) : Except TypeError ProducerConfig := do
  let rtpParameters ← RtpParameters.create d.rtpParameters
  let mimeType := (rtpParameters.getCodecForEncoding rtpParameters.firstEncoding).mimeType
  if !isValidTypeForCodec rtpParameters.getType mimeType then
    .error (.codecNotSupported mimeType rtpParameters.getType)
  else do
    let encodings ← d.encodings.mapM (createEncodingMapping rtpParameters.mid d.encodings.length)
    if sizes : encodings.length = rtpParameters.encodings.length then
      if 0 ∈ rtpParameters.headerExtensionIds then .error .extensionIdZero
      else .ok ⟨rtpParameters, ⟨createCodecMapping d.codecs, encodings⟩, sizes⟩
    else .error .sizesDiffer

structure Producer where
  config : ProducerConfig
  streams : List RtpStreamRecv := []
  mapSsrcRtpStream : Table UInt32 Nat := ∅
  rtpStreamByEncodingIdx : List (Option Nat)
  mapRtxSsrcRtpStream : Table UInt32 Nat := ∅
  mapRtpStreamMappedSsrc : Table Nat UInt32 := ∅
  mapMappedSsrcSsrc : Table UInt32 UInt32 := ∅
  paused : Bool
  deriving DecidableEq

/-! ## Packets -/

/-- A received packet, with its MID, RID and repaired RID (empty if there is none). The rest is what the receiver's
environment contributes: the time, and the state of its containers. -/
structure Received where
  packet : Packet
  mid : String := ""
  rid : String := ""
  rrid : String := ""
  nowMs : Nat
  trees : Trees
  order : Order Nat

namespace Received

def readMid (r : Received) : Option String := if r.mid ≠ "" then some r.mid else none

/-- `ReadRid` reads the RID and then the repaired RID. -/
def readRid (r : Received) : Option String :=
  if r.rid ≠ "" then some r.rid else if r.rrid ≠ "" then some r.rrid else none

end Received

inductive ProducerFault
  /-- "key does not exist" in `Parameters::GetInteger` -/
  | keyDoesNotExist
  /-- "RtpStream with given SSRC already exists" -/
  | ssrcAlreadyExists
  /-- "RtpStream for given encoding index already exists" -/
  | encodingIdxAlreadyExists
  /-- "found stream does not match received packet" -/
  | streamMismatch
  /-- `at` of a table without the key -/
  | outOfRange
  | danglingStream
  | danglingProducer
  | stream (fault : Fault)
  deriving DecidableEq

/-- `GetRtxCodecForEncoding`: the first feature codec with that `apt`; every feature codec before it must have one. -/
def getRtxCodec (payloadType : UInt8) : List RtpCodecParameters → Except ProducerFault (Option RtpCodecParameters)
  | [] => .ok none
  | codec :: rest =>
    if codec.mimeType.isFeatureCodec then
      match codec.apt with
      | none => .error .keyDoesNotExist
      | some apt => if apt.integerValue = payloadType.toNat then .ok (some codec) else getRtxCodec payloadType rest
    else getRtxCodec payloadType rest

/-- Whether a packet has the payload type of the media codec or of the RTX codec of an encoding. -/
structure PacketMatch where
  mediaCodec : RtpCodecParameters
  isMediaPacket : Bool
  isRtxPacket : Bool

def RtpParameters.matchPacket (r : RtpParameters) (e : r.Encoding) (payloadType : UInt8) :
    Except ProducerFault PacketMatch := do
  let mediaCodec := r.getCodecForEncoding e
  let rtxCodec ← getRtxCodec e.1.codecPayloadType r.codecs
  return ⟨mediaCodec, mediaCodec.payloadType == payloadType, rtxCodec.any fun codec => codec.payloadType == payloadType⟩

inductive ReceiveRtpPacketResult
  | discarded
  | media
  | retransmission
  deriving DecidableEq

inductive Lookup
  | found (stream : Nat)
  | create (mediaCodec : RtpCodecParameters) (encodingIdx : Nat)
  /-- the packet is the first RTX packet of a stream -/
  | attachRtx (stream : Nat)
  | ignore

def sendNackDelay : Nat := 10

namespace Producer

def create (d : ProducerData) : Except TypeError Producer := do
  let config ← ProducerConfig.create d
  return {
    config := config
    rtpStreamByEncodingIdx := List.replicate config.rtpParameters.encodings.length none
    paused := d.paused }

abbrev rtpParameters (p : Producer) : RtpParameters := p.config.rtpParameters

abbrev rtpMapping (p : Producer) : RtpMapping := p.config.rtpMapping

/-! ## `GetRtpStream` -/

def hasRtx (p : Producer) (stream : Nat) : Bool := p.streams[stream]?.any RtpStreamRecv.hasRtx

variable (p : Producer)

def hasRid (rid : String) (stream : Nat) : Bool := p.streams[stream]?.any fun s => s.params.rid == rid

/-- An RTX SSRC is attached to a stream that has none. -/
def attachOrIgnore (stream : Nat) : Lookup := if p.hasRtx stream then .ignore else .attachRtx stream

def ssrcLookup (p : Producer) (packet : Packet) :
    List (p.rtpParameters.Encoding × Nat) → Except ProducerFault (Option Lookup)
  | [] => .ok none
  | (encoding, i) :: rest => do
    let m ← p.rtpParameters.matchPacket encoding packet.payloadType
    if m.isMediaPacket && encoding.1.ssrc == packet.ssrc then return some (.create m.mediaCodec i)
    else if m.isRtxPacket && encoding.1.hasRtx && encoding.1.rtxSsrc == packet.ssrc then
      match p.mapSsrcRtpStream.lookup encoding.1.ssrc with
      | none => return some .ignore
      | some stream => return some (p.attachOrIgnore stream)
    else p.ssrcLookup packet rest

def ridLookup (p : Producer) (packet : Packet) (rid : String) (order : Order Nat) :
    List (p.rtpParameters.Encoding × Nat) → Except ProducerFault Lookup
  | [] => .ok .ignore
  | (encoding, i) :: rest =>
    if encoding.1.rid ≠ rid then p.ridLookup packet rid order rest
    else do
      let m ← p.rtpParameters.matchPacket encoding packet.payloadType
      let sameRid := (p.mapSsrcRtpStream.walk order).find? (p.hasRid rid)
      if m.isMediaPacket then
        match sameRid with
        | some _ => return .ignore
        | none => return .create m.mediaCodec i
      else if m.isRtxPacket then
        match sameRid with
        | some stream => return p.attachOrIgnore stream
        | none => return .ignore
      else p.ridLookup packet rid order rest

def singleStreamLookup (packet : Packet) (order : Order Nat) : Except ProducerFault Lookup :=
  let encoding := p.rtpParameters.firstEncoding
  if p.rtpParameters.encodings.length = 1 ∧ encoding.1.ssrc = 0 ∧ encoding.1.rid = "" then do
    let m ← p.rtpParameters.matchPacket encoding packet.payloadType
    let first := (p.mapSsrcRtpStream.walk order).head?
    if m.isMediaPacket then
      match first with
      | some _ => return .ignore
      | none => return .create m.mediaCodec 0
    else if m.isRtxPacket then
      match first with
      | some stream => return p.attachOrIgnore stream
      | none => return .ignore
    else return .ignore
  else .ok .ignore

def lookup (p : Producer) (r : Received) : Except ProducerFault Lookup :=
  match p.mapSsrcRtpStream.lookup r.packet.ssrc with
  | some stream => .ok (.found stream)
  | none =>
    match p.mapRtxSsrcRtpStream.lookup r.packet.ssrc with
    | some stream => .ok (.found stream)
    | none => do
      match ← p.ssrcLookup r.packet p.rtpParameters.indexedEncodings with
      | some l => return l
      | none =>
        match r.readRid with
        | some rid => p.ridLookup r.packet rid r.order p.rtpParameters.indexedEncodings
        | none => p.singleStreamLookup r.packet r.order

def streamParams (packet : Packet) (mediaCodec : RtpCodecParameters) (encodingIdx : Nat) :
    RtpStreamParams :=
  { encodingIdx := encodingIdx
    ssrc := packet.ssrc
    payloadType := mediaCodec.payloadType
    rid := (p.rtpParameters.encodings[encodingIdx]?.map RtpEncodingParameters.rid).getD ""
    useNack := mediaCodec.rtcpFeedback.any fun fb => fb.type == "nack" && fb.parameter == ""
    usePli := mediaCodec.rtcpFeedback.any fun fb => fb.type == "nack" && fb.parameter == "pli"
    useFir := mediaCodec.rtcpFeedback.any fun fb => fb.type == "ccm" && fb.parameter == "fir" }

def addStream (stream : RtpStreamRecv) (mappedSsrc : UInt32) : Producer :=
  let new := p.streams.length
  { p with
    streams := p.streams ++ [stream]
    mapSsrcRtpStream := p.mapSsrcRtpStream.insert stream.params.ssrc new
    rtpStreamByEncodingIdx := p.rtpStreamByEncodingIdx.set stream.params.encodingIdx (some new)
    mapRtpStreamMappedSsrc := p.mapRtpStreamMappedSsrc.insert new mappedSsrc
    mapMappedSsrcSsrc := p.mapMappedSsrcSsrc.insert mappedSsrc stream.params.ssrc }

def createRtpStream (packet : Packet) (mediaCodec : RtpCodecParameters) (encodingIdx : Nat) :
    Except ProducerFault (Producer × Nat) :=
  if (p.mapSsrcRtpStream.lookup packet.ssrc).isSome then .error .ssrcAlreadyExists
  else if (p.rtpStreamByEncodingIdx[encodingIdx]?.join).isSome then .error .encodingIdxAlreadyExists
  else
    match p.rtpMapping.encodings[encodingIdx]? with
    | none => .error .outOfRange
    | some encodingMapping =>
      let stream := RtpStreamRecv.create (p.streamParams packet mediaCodec encodingIdx) sendNackDelay
      let stream := if p.paused then stream.pause else stream
      .ok (p.addStream stream encodingMapping.mappedSsrc, p.streams.length)

def modifyStream (stream : Nat) (f : RtpStreamRecv → RtpStreamRecv) : Producer :=
  { p with streams := p.streams.modify stream f }

def attachRtx (packet : Packet) (stream : Nat) : Producer :=
  { p.modifyStream stream fun s => s.setRtx packet.payloadType packet.ssrc with
    mapRtxSsrcRtpStream := p.mapRtxSsrcRtpStream.insert packet.ssrc stream }

def getRtpStream (r : Received) : Except ProducerFault (Producer × Option Nat) := do
  match ← p.lookup r with
  | .found stream => return (p, some stream)
  | .create mediaCodec encodingIdx =>
    let (p, stream) ← p.createRtpStream r.packet mediaCodec encodingIdx
    return (p, some stream)
  | .attachRtx stream => return (p.attachRtx r.packet stream, some stream)
  | .ignore => return (p, none)

/-! ## `ReceiveRtpPacket` -/

/-- `MangleRtpPacket`, the payload type and the SSRC: nothing if the payload type is not mapped. -/
def mangleRtpPacket (stream : Nat) (packet : Packet) : Except ProducerFault (Option Packet) :=
  match p.rtpMapping.codecs.lookup packet.payloadType with
  | none => .ok none
  | some mappedPayloadType =>
    match p.mapRtpStreamMappedSsrc.lookup stream with
    | none => .error .outOfRange
    | some mappedSsrc => .ok (some { packet.setPayloadType mappedPayloadType with ssrc := mappedSsrc })

def handOn (stream : Nat) (packet : Packet) (result : ReceiveRtpPacketResult) :
    Except ProducerFault (Producer × ReceiveRtpPacketResult × Option Packet) :=
  if p.paused then .ok (p, result, none)
  else do
    match ← p.mangleRtpPacket stream packet with
    | none => return (p, .discarded, none)
    | some packet => return (p, result, some packet)

def liftFault {α : Type} : Except Fault α → Except ProducerFault α
  | .ok a => .ok a
  | .error f => .error (.stream f)

variable (isKeyFrame : List UInt8 → Bool)

def receiveOnStream (p : Producer) (stream : Nat) (r : Received) :
    Except ProducerFault (Producer × ReceiveRtpPacketResult × Option Packet) :=
  match p.streams[stream]? with
  | none => .error .danglingStream
  | some s =>
    if r.packet.ssrc = s.params.ssrc then do
      let (s, passed, _) ← liftFault (s.receivePacket isKeyFrame r.trees r.packet r.nowMs)
      let p := p.modifyStream stream fun _ => s
      if passed then p.handOn stream r.packet .media else return (p, .media, none)
    else if r.packet.ssrc = s.params.rtxSsrc then do
      let (s, original, _) ← liftFault (s.receiveRtxPacket isKeyFrame r.trees r.packet r.nowMs)
      let p := p.modifyStream stream fun _ => s
      match original with
      | some original => p.handOn stream original .retransmission
      | none => return (p, .retransmission, none)
    else .error .streamMismatch

def receiveRtpPacket (p : Producer) (r : Received) :
    Except ProducerFault (Producer × ReceiveRtpPacketResult × Option Packet) := do
  let (p, stream) ← p.getRtpStream r
  match stream with
  | none => return (p, .discarded, none)
  | some stream => p.receiveOnStream isKeyFrame stream r

/-! ## Other calls -/

def pause (p : Producer) : Producer :=
  if p.paused then p else { p with streams := p.streams.map RtpStreamRecv.pause, paused := true }

/-- A request to resume; the timers of the streams are left out. -/
def resume : Producer := { p with paused := false }

end Producer

end Mediasoup.Rtp
