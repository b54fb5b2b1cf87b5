import Mediasoup.Consumer.Base
import Mediasoup.Lib.Table

/-!
# Simulcast consumers

The producer sends the same video in several streams, one for each spatial layer, and the consumer forwards one of them. It
chooses a target layer (`recalculateTargetLayers`, or `increaseLayer` and `applyLayers` when the transport manages the bitrate)
and switches to it at the next key frame of its stream (`sendRtpPacket`). The first layer chosen is the timestamp reference.
Layers are `int16_t` with -1 for no layer.
-/

namespace Mediasoup.Consumer

open Lib Rtp Codecs Mediasoup.Seq

structure Layers where
  preferredSpatialLayer : Int := -1
  preferredTemporalLayer : Int := -1
  provisionalTargetSpatialLayer : Int := -1
  provisionalTargetTemporalLayer : Int := -1
  targetSpatialLayer : Int := -1
  targetTemporalLayer : Int := -1
  currentSpatialLayer : Int := -1
  tsReferenceSpatialLayer : Int := -1
  deriving DecidableEq

structure SimulcastConsumer (κ : Type) extends ConsumerBase, Layers where
  ssrc : UInt32
  mapMappedSsrcSpatialLayer : Table UInt32 Nat
  producerRtpStreams : List (Option RtpStreamRecv)
  rtpStream : RtpStreamSend
  rtpSeqManager : SeqManager := {}
  encodingContext : EncodingContext κ
  syncRequired : Bool := false
  spatialLayerToSync : Int := -1
  lastSentPacketHasMarker : Bool := false
  snReferenceSpatialLayer : UInt16 := 0
  checkingForOldPacketsInSpatialLayer : Bool := false
  tsOffset : UInt32 := 0
  keyFrameForTsOffsetRequested : Bool := false
  lastBweDowngradeAtMs : Nat := 0
  deriving DecidableEq

def streamMinActiveMs : Nat := 2000

def bweDowngradeConservativeMs : Nat := 10000

def bweDowngradeMinActiveMs : Nat := 8000

def maxSequenceNumberGap : UInt16 := 100

def preferredLayer (n : Nat) (layers : UInt8) : Int := min (Utils.toInt16 (n % 2 ^ 16)) (layers.toNat - 1)

namespace SimulcastConsumer

variable {δ κ : Type}

/-! ## Streams of the producer -/

variable (c : SimulcastConsumer κ)

def stream (layer : Int) : Option RtpStreamRecv :=
  if layer < 0 then none else c.producerRtpStreams[layer.toNat]?.join

def setStream (layer : Nat) (s : RtpStreamRecv) : SimulcastConsumer κ :=
  { c with producerRtpStreams := c.producerRtpStreams.set layer (some s) }

def isActive : Bool :=
  c.isActiveBase && c.producerRtpStreams.any fun o => o.any fun s => decide (s.score > 0) || s.params.useDtx

def spatialLayers (consumableRtpEncodings : List UInt32) : Table UInt32 Nat :=
  consumableRtpEncodings.zipIdx.foldl (fun t (ssrc, idx) => t.insert ssrc idx) ∅

/-- The constructor, after the checks of its parameters. The first layers are the preferred ones, if given. -/
def create (paused : Bool) (supportedCodecPayloadTypes : List (Fin 128)) (consumableRtpEncodings : List UInt32)
    (preferredLayers : Option (Nat × Option Nat)) (rtpStream : RtpStreamSend) (state : κ) : SimulcastConsumer κ :=
  let params := rtpStream.params
  { paused := paused
    supportedCodecPayloadTypes := supportedCodecPayloadTypes
    preferredSpatialLayer :=
      match preferredLayers with
      | some (spatialLayer, _) => preferredLayer spatialLayer params.spatialLayers
      | none => params.spatialLayers.toNat - 1
    preferredTemporalLayer :=
      match preferredLayers with
      | some (_, some temporalLayer) => preferredLayer temporalLayer params.temporalLayers
      | _ => params.temporalLayers.toNat - 1
    ssrc := params.ssrc
    mapMappedSsrcSpatialLayer := spatialLayers consumableRtpEncodings
    producerRtpStreams := List.replicate consumableRtpEncodings.length none
    rtpStream := rtpStream
    encodingContext :=
      { spatialLayers := params.spatialLayers.toNat, temporalLayers := params.temporalLayers.toNat, state := state } }

/-! ## Layers -/

def updateTargetLayers (spatialLayer temporalLayer : Int) : SimulcastConsumer κ :=
  if spatialLayer = -1 then
    { c with
      targetSpatialLayer := -1
      targetTemporalLayer := -1
      currentSpatialLayer := -1
      encodingContext := { c.encodingContext with targetTemporalLayer := -1, currentTemporalLayer := -1 } }
  else
    { c with
      tsReferenceSpatialLayer := if c.tsReferenceSpatialLayer = -1 then spatialLayer else c.tsReferenceSpatialLayer
      targetSpatialLayer := spatialLayer
      targetTemporalLayer := temporalLayer
      -- if the target layer is the current one, the temporal layer applies now
      encodingContext :=
        if spatialLayer = c.currentSpatialLayer then { c.encodingContext with targetTemporalLayer := temporalLayer }
        else c.encodingContext }

def canSwitchToSpatialLayer (layer : Int) : Except ConsumerFault Bool :=
  match c.stream layer with
  | none => .error .noProducerStream
  | some s =>
    if c.tsReferenceSpatialLayer = -1 ∨ layer = c.tsReferenceSpatialLayer then .ok true
    else
      match c.stream c.tsReferenceSpatialLayer with
      | none => .error .nullStream
      | some reference => .ok (reference.lastSenderReportNtpMs ≠ 0 && s.lastSenderReportNtpMs ≠ 0)

def recentDowngrade (nowMs : Nat) : Bool :=
  decide (elapsedMs nowMs c.lastBweDowngradeAtMs < bweDowngradeConservativeMs)

def recalculateSpatialLayer (c : SimulcastConsumer κ) (nowMs : Nat) : List Nat → Int → Except ConsumerFault Int
  | [], new => .ok new
  | layer :: rest, new =>
    if c.recentDowngrade nowMs ∧ new > -1 ∧ (layer : Int) > c.currentSpatialLayer then
      c.recalculateSpatialLayer nowMs rest new
    else
      match c.stream layer with
      | none => c.recalculateSpatialLayer nowMs rest new
      | some s =>
        if s.score = 0 then c.recalculateSpatialLayer nowMs rest new
        else if c.externallyManagedBitrate ∧ new ≠ -1 ∧ s.activeMs nowMs < streamMinActiveMs then
          c.recalculateSpatialLayer nowMs rest new
        else
          match c.canSwitchToSpatialLayer layer with
          | .error f => .error f
          | .ok false => c.recalculateSpatialLayer nowMs rest new
          | .ok true =>
            -- the preferred or a higher layer is taken
            if (layer : Int) ≥ c.preferredSpatialLayer then .ok layer else c.recalculateSpatialLayer nowMs rest layer

def recalculateTemporalLayer (spatialLayer : Int) : Int :=
  if spatialLayer = -1 then -1
  else if spatialLayer = c.preferredSpatialLayer then c.preferredTemporalLayer
  else if spatialLayer < c.preferredSpatialLayer then c.rtpStream.params.temporalLayers.toNat - 1
  else 0

/-- `MayChangeLayers`. If the bitrate is managed externally, only the transport is told. -/
def mayChangeLayers (nowMs : Nat) : Except ConsumerFault (SimulcastConsumer κ) := do
  let spatialLayer ← c.recalculateSpatialLayer nowMs (List.range c.producerRtpStreams.length) (-1)
  let temporalLayer := c.recalculateTemporalLayer spatialLayer
  if spatialLayer ≠ c.targetSpatialLayer ∨ temporalLayer ≠ c.targetTemporalLayer then
    return if c.externallyManagedBitrate then c else c.updateTargetLayers spatialLayer temporalLayer
  else return c

def mayChangeLayersIf (cond : Bool) (c : SimulcastConsumer κ) (nowMs : Nat) :
    Except ConsumerFault (SimulcastConsumer κ) :=
  if cond then c.mayChangeLayers nowMs else .ok c

/-! ## Externally managed bitrate -/

/-- The measured bitrates of the streams, by layer and temporal layer (`GetLayerBitrate` and `GetBitrate`). -/
structure Bitrates where
  layerBitrate : Nat → Nat → Nat
  bitrate : Int → Int → Nat

def nextTemporalLayer (layer : Nat) (s : RtpStreamRecv) : Option Nat :=
  (List.range s.params.temporalLayers.toNat).find? fun t =>
    !decide ((layer : Int) = c.provisionalTargetSpatialLayer ∧ (t : Int) ≤ c.provisionalTargetTemporalLayer)

/-- The bitrate needed for a layer: for the lowest temporal layer of a higher spatial layer, less the bitrate of the
layer it replaces, but never 0 for that reason. -/
def requiredBitrate (rates : Bitrates) (layer temporalLayer : Nat) :
    Except ConsumerFault Nat :=
  let required := rates.layerBitrate layer temporalLayer
  if required ≠ 0 ∧ temporalLayer = 0 ∧ c.provisionalTargetSpatialLayer > -1 ∧
      (layer : Int) > c.provisionalTargetSpatialLayer then
    match c.stream c.provisionalTargetSpatialLayer with
    | none => .error .nullStream
    | some _ =>
      let provisional := rates.bitrate c.provisionalTargetSpatialLayer c.provisionalTargetTemporalLayer
      .ok (if required > provisional then required - provisional else 1)
  else .ok required

/-- Whether a stream has not been active long enough to replace the one of the provisional layer, which has. -/
def tooYoung (nowMs layer : Nat) (s : RtpStreamRecv) : Except ConsumerFault Bool :=
  if (layer : Int) ≠ c.provisionalTargetSpatialLayer ∧ c.provisionalTargetSpatialLayer ≠ -1 ∧
      s.activeMs nowMs < streamMinActiveMs then
    match c.stream c.provisionalTargetSpatialLayer with
    | none => .error .nullStream
    | some provisional => .ok (decide (provisional.activeMs nowMs ≥ streamMinActiveMs))
  else .ok false

def candidate (rates : Bitrates) (layer : Nat) (s : RtpStreamRecv) :
    Except ConsumerFault (Option (Nat × Nat × Nat)) :=
  match c.nextTemporalLayer layer s with
  | none => .ok none
  | some temporalLayer => do
    let required ← c.requiredBitrate rates layer temporalLayer
    return if required ≠ 0 then some (layer, temporalLayer, required) else none

def nextLayers (c : SimulcastConsumer κ) (nowMs : Nat) (rates : Bitrates) :
    List Nat → Except ConsumerFault (Option (Nat × Nat × Nat))
  | [] => .ok none
  | layer :: rest =>
    if c.recentDowngrade nowMs ∧ c.provisionalTargetSpatialLayer > -1 ∧ (layer : Int) > c.currentSpatialLayer then
      .ok none
    else if (layer : Int) < c.provisionalTargetSpatialLayer then c.nextLayers nowMs rates rest
    else
      match c.stream layer with
      | none => c.nextLayers nowMs rates rest
      | some s =>
        match c.tooYoung nowMs layer s with
        | .error f => .error f
        | .ok true => c.nextLayers nowMs rates rest
        | .ok false =>
          match c.canSwitchToSpatialLayer layer with
          | .error f => .error f
          | .ok false => c.nextLayers nowMs rates rest
          | .ok true =>
            match c.candidate rates layer s with
            | .error f => .error f
            | .ok (some layers) => .ok (some layers)
            | .ok none =>
              if (layer : Int) ≥ c.preferredSpatialLayer then .ok none else c.nextLayers nowMs rates rest

/-- `IncreaseLayer`, with the bitrate it returns. `virtualBitrate` is what the `float` computation makes of `bitrate` and
the loss if `considerLoss` is set, else `bitrate`. -/
def increaseLayer (nowMs : Nat) (rates : Bitrates) (bitrate virtualBitrate : Nat) :
    Except ConsumerFault (SimulcastConsumer κ × Nat) :=
  if !c.externallyManagedBitrate then .error .notExternallyManaged
  else if !c.isActive then .error .notActive
  else if c.provisionalTargetSpatialLayer = c.preferredSpatialLayer ∧
      c.provisionalTargetTemporalLayer = c.preferredTemporalLayer then .ok (c, 0)
  else
    match c.nextLayers nowMs rates (List.range c.producerRtpStreams.length) with
    | .error f => .error f
    | .ok none => .ok (c, 0)
    | .ok (some (spatialLayer, temporalLayer, required)) =>
      if required > virtualBitrate then .ok (c, 0)
      else
        .ok ({ c with
          provisionalTargetSpatialLayer := spatialLayer
          provisionalTargetTemporalLayer := temporalLayer }, if required ≤ bitrate then required else bitrate)

def resetProvisional : SimulcastConsumer κ :=
  { c with provisionalTargetSpatialLayer := -1, provisionalTargetTemporalLayer := -1 }

def noteDowngrade (nowMs : Nat) : SimulcastConsumer κ :=
  if c.rtpStream.activeMs nowMs > bweDowngradeMinActiveMs ∧ c.targetSpatialLayer < c.currentSpatialLayer ∧
      c.currentSpatialLayer ≤ c.preferredSpatialLayer then
    { c with lastBweDowngradeAtMs := nowMs }
  else c

def applyLayers (nowMs : Nat) : Except ConsumerFault (SimulcastConsumer κ) :=
  if !c.externallyManagedBitrate then .error .notExternallyManaged
  else if !c.isActive then .error .notActive
  else if c.provisionalTargetSpatialLayer ≠ c.targetSpatialLayer ∨ c.provisionalTargetTemporalLayer ≠ c.targetTemporalLayer then
    .ok ((c.resetProvisional.updateTargetLayers c.provisionalTargetSpatialLayer
      c.provisionalTargetTemporalLayer).noteDowngrade nowMs)
  else .ok c.resetProvisional

/-! ## Calls of the transport, the producer and the application -/

def requireSync : SimulcastConsumer κ :=
  { c with syncRequired := true, spatialLayerToSync := -1, keyFrameForTsOffsetRequested := false }

def stop : SimulcastConsumer κ :=
  { c with lastBweDowngradeAtMs := 0, rtpStream := c.rtpStream.clearBuffer }.updateTargetLayers (-1) (-1)

def stopIf (cond : Bool) (c : SimulcastConsumer κ) : SimulcastConsumer κ := if cond then c.stop else c

def mayResume (nowMs : Nat) : Except ConsumerFault (SimulcastConsumer κ) :=
  if c.isActive then { c.requireSync with checkingForOldPacketsInSpatialLayer := false }.mayChangeLayers nowMs else .ok c

def setPreferredLayers (spatialLayer : Nat) (temporalLayer : Option Nat) (nowMs : Nat) :
    Except ConsumerFault (SimulcastConsumer κ) :=
  let params := c.rtpStream.params
  let c' :=
    { c with
      preferredSpatialLayer := preferredLayer spatialLayer params.spatialLayers
      preferredTemporalLayer :=
        match temporalLayer with
        | some temporalLayer => preferredLayer temporalLayer params.temporalLayers
        | none => params.temporalLayers.toNat - 1 }
  mayChangeLayersIf
    (c'.isActive && (c'.preferredSpatialLayer ≠ c.preferredSpatialLayer ||
      c'.preferredTemporalLayer ≠ c.preferredTemporalLayer)) c' nowMs

/-- `ProducerRtpStream`. The producer makes one stream for each encoding and tells of it once. -/
def producerRtpStream (s : RtpStreamRecv) (mappedSsrc : UInt32) :
    Except ConsumerFault (SimulcastConsumer κ) :=
  match c.mapMappedSsrcSpatialLayer.lookup mappedSsrc with
  | none => .error .unknownMappedSsrc
  | some layer => if (c.stream layer).isSome then .error .streamExists else .ok (c.setStream layer s)

def producerNewRtpStream (s : RtpStreamRecv) (mappedSsrc : UInt32) (nowMs : Nat) :
    Except ConsumerFault (SimulcastConsumer κ) := do
  let c ← c.producerRtpStream s mappedSsrc
  mayChangeLayersIf c.isActive c nowMs

def producerRtpStreamScore (score previousScore nowMs : Nat) :
    Except ConsumerFault (SimulcastConsumer κ) :=
  mayChangeLayersIf
    (c.isActiveBase && (!c.externallyManagedBitrate || score = 0 || previousScore = 0)) c nowMs

def scoreChanged (score previousScore nowMs : Nat) :
    Except ConsumerFault (SimulcastConsumer κ) :=
  if score = previousScore then .ok c else c.producerRtpStreamScore score previousScore nowMs

def producerRtcpSenderReport (first : Bool) (nowMs : Nat) :
    Except ConsumerFault (SimulcastConsumer κ) :=
  mayChangeLayersIf
    (first && (c.stream c.currentSpatialLayer).any (·.lastSenderReportNtpMs ≠ 0) && c.isActive) c nowMs

/-- A Sender Report for the stream of a layer: the stream is updated and the consumer is told, of a new score first. -/
def senderReport (layer : Nat) (report : SenderReport) (score nowMs : Nat) :
    Except ConsumerFault (SimulcastConsumer κ) :=
  match c.stream layer with
  | none => .ok c
  | some s => do
    let c := c.setStream layer (s.receiveRtcpSenderReport report score nowMs)
    let c ← c.scoreChanged score s.score nowMs
    c.producerRtcpSenderReport (s.lastSenderReportNtpMs = 0) nowMs

def streamScore (layer score nowMs : Nat) : Except ConsumerFault (SimulcastConsumer κ) :=
  match c.stream layer with
  | none => .ok c
  | some s =>
    (c.setStream layer { s with toStreamScore := s.setScore score nowMs }).scoreChanged score s.score nowMs

def rtpStreamScore (score nowMs : Nat) : Except ConsumerFault (SimulcastConsumer κ) :=
  mayChangeLayersIf (c.rtpStream.score ≠ score && c.isActive && !c.externallyManagedBitrate)
    { c with rtpStream := { c.rtpStream with toStreamScore := c.rtpStream.setScore score nowMs } } nowMs

inductive Call
  | pause
  | resume
  | setPreferredLayers (spatialLayer : Nat) (temporalLayer : Option Nat)
  | transportConnected
  | transportDisconnected
  | producerPaused
  | producerResumed
  | producerClosed
  | producerRtpStream (s : RtpStreamRecv) (mappedSsrc : UInt32)
  | producerNewRtpStream (s : RtpStreamRecv) (mappedSsrc : UInt32)
  | streamScore (layer score : Nat)
  | senderReport (layer : Nat) (report : SenderReport) (score : Nat)
  | rtpStreamScore (score : Nat)
  | setExternallyManagedBitrate
  | increaseLayer (rates : Bitrates) (bitrate virtualBitrate : Nat)
  | applyLayers

def call (nowMs : Nat) : Call → Except ConsumerFault (SimulcastConsumer κ)
  | .pause => .ok (if c.paused then c else { c with paused := true }.stopIf c.isActive)
  | .resume => if c.paused then { c with paused := false }.mayResume nowMs else .ok c
  | .setPreferredLayers spatialLayer temporalLayer => c.setPreferredLayers spatialLayer temporalLayer nowMs
  | .transportConnected =>
    if c.transportConnected then .ok c
    else
      let c := { c with transportConnected := true }.requireSync
      mayChangeLayersIf c.isActive c nowMs
  | .transportDisconnected => .ok (if c.transportConnected then { c with transportConnected := false }.stop else c)
  | .producerPaused => .ok (if c.producerPaused then c else { c with producerPaused := true }.stopIf c.isActive)
  | .producerResumed => if c.producerPaused then { c with producerPaused := false }.mayResume nowMs else .ok c
  | .producerClosed => .ok { c with producerClosed := true }
  | .producerRtpStream s mappedSsrc => c.producerRtpStream s mappedSsrc
  | .producerNewRtpStream s mappedSsrc => c.producerNewRtpStream s mappedSsrc nowMs
  | .streamScore layer score => c.streamScore layer score nowMs
  | .senderReport layer report score => c.senderReport layer report score nowMs
  | .rtpStreamScore score => c.rtpStreamScore score nowMs
  | .setExternallyManagedBitrate => .ok { c with externallyManagedBitrate := true }
  | .increaseLayer rates bitrate virtualBitrate => do
    let (c, _) ← c.increaseLayer nowMs rates bitrate virtualBitrate
    return c
  | .applyLayers => c.applyLayers nowMs

/-! ## `SendRtpPacket` -/

variable (codec : Codec δ κ)

/-- Whether a packet of the layer is one to forward: the consumer, and whether it switches to that layer. -/
def selectLayer (c : SimulcastConsumer κ) (p : MediaPacket δ) (layer : Int) : Option (SimulcastConsumer κ × Bool) :=
  if c.currentSpatialLayer ≠ c.targetSpatialLayer ∧ layer = c.targetSpatialLayer then
    if p.isKeyFrame codec then some ({ c with syncRequired := true, spatialLayerToSync := layer }, true) else none
  else if layer = c.currentSpatialLayer then some (c, false)
  else none

def ntpOffset (clockRate : UInt32) (reference target : RtpStreamRecv) : UInt32 :=
  let diffMs : Int := target.lastSenderReportNtpMs - reference.lastSenderReportNtpMs
  let diffTs := (diffMs * clockRate.toNat).tdiv 1000
  let newTs2 := UInt32.ofInt (target.lastSenderReportTs.toNat - diffTs)
  newTs2 - reference.lastSenderReportTs

def syncOffset (layer : Int) : Except ConsumerFault UInt32 :=
  if layer = c.tsReferenceSpatialLayer then .ok 0
  else
    match c.stream c.tsReferenceSpatialLayer, c.stream c.targetSpatialLayer with
    | none, _ => .error .nullStream
    | some reference, o =>
      if reference.lastSenderReportNtpMs = 0 then .error .noReferenceSenderReport
      else
        match o with
        | none => .error .nullStream
        | some target =>
          if target.lastSenderReportNtpMs = 0 then .error .noTargetSenderReport
          else .ok (ntpOffset c.rtpStream.params.clockRate reference target)

/-- The offset with the extra one that makes the timestamps go on after a switch, or `none` if that is too high and
another key frame is requested. -/
def switchOffset (timestamp tsOffset : UInt32) : Option UInt32 :=
  let maxPacketTs := UInt32.ofNat c.rtpStream.maxPacketTs
  if timestamp - tsOffset ≤ maxPacketTs then
    let clockRate := c.rtpStream.params.clockRate
    let maxTsExtraOffset := 75 * clockRate / 1000
    let tsExtraOffset := maxPacketTs - timestamp + tsOffset + 33 * clockRate / 1000
    if tsExtraOffset > maxTsExtraOffset then
      -- the key frame has been requested already: give up
      if c.keyFrameForTsOffsetRequested then some (tsOffset - 1) else none
    else some (tsOffset - tsExtraOffset)
  else some tsOffset

/-- Sequence numbers and timestamps start anew. One number is left out if the last packet sent was not the end of a
frame. -/
def synced (c : SimulcastConsumer κ) (seq : UInt16) (tsOffset : UInt32) : SimulcastConsumer κ :=
  { c with
    tsOffset := tsOffset
    rtpSeqManager := c.rtpSeqManager.sync 16 (seq - if c.lastSentPacketHasMarker then 1 else 2).toNat
    encodingContext := { c.encodingContext with state := codec.syncRequired c.encodingContext.state }
    syncRequired := false
    spatialLayerToSync := -1
    keyFrameForTsOffsetRequested := false }

/-- The stream is synced if required; the `Bool` tells whether the packet is kept. -/
def syncStream (c : SimulcastConsumer κ) (packet : Packet) (layer : Int) (switches : Bool) :
    Except ConsumerFault (SimulcastConsumer κ × Bool) :=
  if c.syncRequired ∧ (c.spatialLayerToSync = -1 ∨ c.spatialLayerToSync = layer) then do
    let tsOffset ← c.syncOffset layer
    match if switches then c.switchOffset packet.timestamp tsOffset else some tsOffset with
    | some tsOffset => return (c.synced codec packet.sequenceNumber tsOffset, true)
    | none =>
      return ({ c with keyFrameForTsOffsetRequested := true, syncRequired := false, spatialLayerToSync := -1 }, false)
  else .ok (c, true)

/-- Packets from before the last switch are dropped; after `MaxSequenceNumberGap` packets there is no check. -/
def checkOldPacket (seq : UInt16) : SimulcastConsumer κ × Bool :=
  if c.checkingForOldPacketsInSpatialLayer then
    if seqLower seq c.snReferenceSpatialLayer then (c, false)
    else if seqHigher seq (c.snReferenceSpatialLayer + maxSequenceNumberGap) then
      ({ c with checkingForOldPacketsInSpatialLayer := false }, true)
    else (c, true)
  else (c, true)

def switchLayer (c : SimulcastConsumer κ) (p : MediaPacket δ) (nowMs : Nat) : SimulcastConsumer κ :=
  { c with
    currentSpatialLayer := c.targetSpatialLayer
    snReferenceSpatialLayer := p.packet.sequenceNumber
    checkingForOldPacketsInSpatialLayer := true
    encodingContext :=
      { c.encodingContext with
        targetTemporalLayer := c.targetTemporalLayer, currentTemporalLayer := p.temporalLayer codec }
    rtpStream := { c.rtpStream with toStreamScore := c.rtpStream.setScore 10 nowMs } }

def deliver (env : SendEnv) (c : SimulcastConsumer κ) (sh : SharedPackets) (p : MediaPacket δ) :
    Except ConsumerFault (Delivery (SimulcastConsumer κ) δ) :=
  match c.rtpSeqManager.input 16 env.shapes.rtpSeq p.packet.sequenceNumber.toNat with
  | (_, none) => .error .unsetSequenceNumber
  | (m, some seq) =>
    let packet :=
      { p.packet with
        ssrc := c.ssrc, sequenceNumber := UInt16.ofNat seq, timestamp := p.packet.timestamp - c.tsOffset }
    match c.rtpStream.receivePacket sh packet p.size env.nowMs with
    | .error f => .error (.send f)
    | .ok (stream, sh, valid) =>
      .ok
        { consumer :=
            { c with
              rtpSeqManager := m
              rtpStream := stream
              lastSentPacketHasMarker :=
                if valid ∧ m.maxOutput = seq then packet.marker else c.lastSentPacketHasMarker }
          shared := sh
          packet := p.restorePayload codec
          sent := if valid then some packet else none }

/-- The packet goes through the codec, which may drop it unless it is the one of a switch. -/
def forward (env : SendEnv) (c : SimulcastConsumer κ) (sh : SharedPackets) (p : MediaPacket δ) (switches : Bool) :
    Except ConsumerFault (Delivery (SimulcastConsumer κ) δ) :=
  let c := if switches then c.switchLayer codec p env.nowMs else c
  match p.processPayload codec env.shapes c.encodingContext with
  | .error f => .error (.codec f)
  | .ok r =>
    let c := { c with encodingContext := r.context }
    let p := p.setPayload r.payload
    if r.passed || switches then c.deliver codec env sh p
    else
      .ok
        { consumer :=
            { c with
              rtpSeqManager := c.rtpSeqManager.drop 16 env.shapes.rtpSeq p.packet.sequenceNumber.toNat }
          shared := sh
          packet := p }

def sendSelected (env : SendEnv) (c : SimulcastConsumer κ) (sh : SharedPackets) (p : MediaPacket δ) (layer : Int)
    (switches : Bool) : Except ConsumerFault (Delivery (SimulcastConsumer κ) δ) :=
  if c.syncRequired ∧ ¬ p.isKeyFrame codec then .ok { consumer := c, shared := sh, packet := p }
  else do
    match ← c.syncStream codec p.packet layer switches with
    | (c, false) => return { consumer := c, shared := sh, packet := p }
    | (c, true) =>
      match if switches then (c, true) else c.checkOldPacket p.packet.sequenceNumber with
      | (c, false) => return { consumer := c, shared := sh, packet := p }
      | (c, true) => c.forward codec env sh p switches

def sendRtpPacket (env : SendEnv) (c : SimulcastConsumer κ) (sh : SharedPackets) (p : MediaPacket δ) :
    Except ConsumerFault (Delivery (SimulcastConsumer κ) δ) :=
  if !c.isActive || c.targetTemporalLayer = -1 || !c.supports p.packet.payloadType then
    .ok { consumer := c, shared := sh, packet := p }
  else
    match c.mapMappedSsrcSpatialLayer.lookup p.packet.ssrc with
    | none => .error .unknownMappedSsrc
    | some layer =>
      match c.selectLayer codec p layer with
      | none => .ok { consumer := c, shared := sh, packet := p }
      | some (c, switches) => c.sendSelected codec env sh p layer switches

def receiveNack (c : SimulcastConsumer κ) (clones : List Packet) (nowMs : Nat) (items : List NackItem) :
    SimulcastConsumer κ × List Packet × List Packet :=
  if c.isActive then
    let r := c.rtpStream.receiveNack clones nowMs items
    ({ c with rtpStream := r.stream }, r.clones, r.packets)
  else (c, clones, [])

end SimulcastConsumer

end Mediasoup.Consumer
