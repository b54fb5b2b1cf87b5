import Mediasoup.Consumer.Simple

/-!
# SVC consumers

The producer sends one stream that carries all layers, and the consumer forwards the packets of some of them. The target and
current layers are those of the encoding context: the codec drops what is above them and switches them where the stream allows it.
The targets follow the layers that have a bitrate (`mayChangeLayers`), or are raised by the transport (`increaseLayer`,
`applyLayers`).
-/

namespace Mediasoup.Consumer

open Lib Rtp Codecs Mediasoup.Seq

structure SvcConsumer (κ : Type) extends ConsumerBase where
  ssrc : UInt32
  producerRtpStream : Option RtpStreamRecv := none
  rtpStream : RtpStreamSend
  rtpSeqManager : SeqManager := {}
  encodingContext : EncodingContext κ
  syncRequired : Bool := false
  preferredSpatialLayer : Int
  preferredTemporalLayer : Int
  provisionalTargetSpatialLayer : Int := -1
  provisionalTargetTemporalLayer : Int := -1
  lastBweDowngradeAtMs : Nat := 0
  deriving DecidableEq

/-- What a call reads besides the consumer: the time, and the measured bitrates of the spatial layers
(`GetSpatialLayerBitrate`). -/
structure CallEnv where
  nowMs : Nat
  spatialLayerBitrate : Nat → Nat := fun _ => 0

namespace SvcConsumer

variable {δ κ : Type}

def create (paused : Bool) (supportedCodecPayloadTypes : List (Fin 128)) (preferredLayers : Option (Nat × Option Nat))
    (ksvc : Bool) (rtpStream : RtpStreamSend) (state : κ) : SvcConsumer κ :=
  let params := rtpStream.params
  { paused := paused
    supportedCodecPayloadTypes := supportedCodecPayloadTypes
    ssrc := params.ssrc
    rtpStream := rtpStream
    encodingContext :=
      { spatialLayers := params.spatialLayers.toNat
        temporalLayers := params.temporalLayers.toNat
        ksvc := ksvc
        state := state }
    preferredSpatialLayer :=
      match preferredLayers with
      | some (spatialLayer, _) => preferredLayer spatialLayer params.spatialLayers
      | none => params.spatialLayers.toNat - 1
    preferredTemporalLayer :=
      match preferredLayers with
      | some (_, some temporalLayer) => preferredLayer temporalLayer params.temporalLayers
      | _ => params.temporalLayers.toNat - 1 }

variable (c : SvcConsumer κ)

def isActive : Bool := c.isActiveBase && streamActive c.producerRtpStream

/-! ## Layers -/

def updateTargetLayers (spatialLayer temporalLayer : Int) : SvcConsumer κ :=
  if spatialLayer = -1 then
    { c with
      encodingContext :=
        { c.encodingContext with
          targetSpatialLayer := -1, currentSpatialLayer := -1, targetTemporalLayer := -1, currentTemporalLayer := -1 } }
  else
    { c with
      encodingContext :=
        { c.encodingContext with targetSpatialLayer := spatialLayer, targetTemporalLayer := temporalLayer } }

def recentDowngrade (nowMs : Nat) : Bool :=
  decide (elapsedMs nowMs c.lastBweDowngradeAtMs < bweDowngradeConservativeMs)

def recalculateSpatialLayer (c : SvcConsumer κ) (env : CallEnv) : List Nat → Int → Int
  | [], new => new
  | layer :: rest, new =>
    if c.recentDowngrade env.nowMs ∧ new > -1 ∧ (layer : Int) > c.encodingContext.currentSpatialLayer then
      c.recalculateSpatialLayer env rest new
    else if env.spatialLayerBitrate layer = 0 then c.recalculateSpatialLayer env rest new
    -- the preferred or a higher layer is taken
    else if (layer : Int) ≥ c.preferredSpatialLayer then layer
    else c.recalculateSpatialLayer env rest layer

def newTargetSpatialLayer (env : CallEnv) : Int :=
  match c.producerRtpStream with
  | none => -1
  | some s =>
    if s.score = 0 then -1 else c.recalculateSpatialLayer env (List.range s.params.spatialLayers.toNat) (-1)

def newTargetTemporalLayer (spatialLayer : Int) : Int :=
  if spatialLayer = -1 then -1
  else if spatialLayer = c.preferredSpatialLayer then c.preferredTemporalLayer
  else if spatialLayer < c.preferredSpatialLayer then c.rtpStream.params.temporalLayers.toNat - 1
  else 0

def mayChangeLayers (env : CallEnv) (c : SvcConsumer κ) : SvcConsumer κ :=
  let spatialLayer := c.newTargetSpatialLayer env
  let temporalLayer := c.newTargetTemporalLayer spatialLayer
  if spatialLayer ≠ c.encodingContext.targetSpatialLayer ∨ temporalLayer ≠ c.encodingContext.targetTemporalLayer then
    if c.externallyManagedBitrate then c else c.updateTargetLayers spatialLayer temporalLayer
  else c

def mayChangeLayersIf (cond : Bool) (env : CallEnv) (c : SvcConsumer κ) : SvcConsumer κ :=
  if cond then c.mayChangeLayers env else c

/-! ## Externally managed bitrate -/

def nextTemporalLayer (layer : Nat) (s : RtpStreamRecv) : Option Nat :=
  (List.range s.params.temporalLayers.toNat).find? fun t =>
    !decide ((layer : Int) = c.provisionalTargetSpatialLayer ∧ (t : Int) ≤ c.provisionalTargetTemporalLayer)

/-- The bitrate needed for a layer. With K-SVC the lowest temporal layer of a higher spatial layer replaces the layer
there is. -/
def requiredBitrate (rates : SimulcastConsumer.Bitrates) (layer temporalLayer : Nat) : Nat :=
  let required := rates.layerBitrate layer temporalLayer
  if c.encodingContext.ksvc ∧ required ≠ 0 ∧ temporalLayer = 0 ∧ c.provisionalTargetSpatialLayer > -1 ∧
      (layer : Int) > c.provisionalTargetSpatialLayer then
    let provisional := rates.bitrate c.provisionalTargetSpatialLayer c.provisionalTargetTemporalLayer
    if required > provisional then required - provisional else 1
  else required

def candidate (rates : SimulcastConsumer.Bitrates) (layer : Nat) (s : RtpStreamRecv) :
    Option (Nat × Nat × Nat) := do
  let temporalLayer ← c.nextTemporalLayer layer s
  let required := c.requiredBitrate rates layer temporalLayer
  if required ≠ 0 then some (layer, temporalLayer, required) else none

def nextLayers (c : SvcConsumer κ) (nowMs : Nat) (rates : SimulcastConsumer.Bitrates) (s : RtpStreamRecv) :
    List Nat → Option (Nat × Nat × Nat)
  | [] => none
  | layer :: rest =>
    if c.recentDowngrade nowMs ∧ c.provisionalTargetSpatialLayer > -1 ∧
        (layer : Int) > c.encodingContext.currentSpatialLayer then none
    else if (layer : Int) < c.provisionalTargetSpatialLayer then c.nextLayers nowMs rates s rest
    else
      match c.candidate rates layer s with
      | some layers => some layers
      | none => if (layer : Int) ≥ c.preferredSpatialLayer then none else c.nextLayers nowMs rates s rest

/-- `IncreaseLayer`; for `virtualBitrate` see the one of simulcast consumers. -/
def increaseLayer (nowMs : Nat) (rates : SimulcastConsumer.Bitrates) (virtualBitrate : Nat) :
    Except ConsumerFault (SvcConsumer κ) :=
  if !c.externallyManagedBitrate then .error .notExternallyManaged
  else if !c.isActive then .error .notActive
  else
    match c.producerRtpStream with
    | none => .error .nullStream
    | some s =>
      if s.score = 0 then .ok c
      else if c.provisionalTargetSpatialLayer = c.preferredSpatialLayer ∧
          c.provisionalTargetTemporalLayer = c.preferredTemporalLayer then .ok c
      else
        match c.nextLayers nowMs rates s (List.range s.params.spatialLayers.toNat) with
        | none => .ok c
        | some (spatialLayer, temporalLayer, required) =>
          if required > virtualBitrate then .ok c
          else
            .ok
              { c with
                provisionalTargetSpatialLayer := spatialLayer, provisionalTargetTemporalLayer := temporalLayer }

def resetProvisional : SvcConsumer κ :=
  { c with provisionalTargetSpatialLayer := -1, provisionalTargetTemporalLayer := -1 }

def noteDowngrade (nowMs : Nat) : SvcConsumer κ :=
  if c.rtpStream.activeMs nowMs > bweDowngradeMinActiveMs ∧
      c.encodingContext.targetSpatialLayer < c.encodingContext.currentSpatialLayer ∧
      c.encodingContext.currentSpatialLayer ≤ c.preferredSpatialLayer then
    { c with lastBweDowngradeAtMs := nowMs }
  else c

def applyLayers (nowMs : Nat) : Except ConsumerFault (SvcConsumer κ) :=
  if !c.externallyManagedBitrate then .error .notExternallyManaged
  else if !c.isActive then .error .notActive
  else if c.provisionalTargetSpatialLayer ≠ c.encodingContext.targetSpatialLayer ∨
      c.provisionalTargetTemporalLayer ≠ c.encodingContext.targetTemporalLayer then
    .ok ((c.resetProvisional.updateTargetLayers c.provisionalTargetSpatialLayer
      c.provisionalTargetTemporalLayer).noteDowngrade nowMs)
  else .ok c.resetProvisional

/-! ## Calls -/

def stop : SvcConsumer κ :=
  { c with lastBweDowngradeAtMs := 0, rtpStream := c.rtpStream.clearBuffer }.updateTargetLayers (-1) (-1)

def resume (env : CallEnv) (c : SvcConsumer κ) : SvcConsumer κ :=
  mayChangeLayersIf c.isActive env { c with syncRequired := true }

def hooks (env : CallEnv) : Hooks (SvcConsumer κ) where
  base c := c.toConsumerBase
  setBase c base := { c with toConsumerBase := base }
  isActive := isActive
  userOnTransportConnected := resume env
  userOnTransportDisconnected := stop
  userOnPaused := stop
  userOnResumed := resume env

def setPreferredLayers (env : CallEnv) (spatialLayer : Nat) (temporalLayer : Option Nat) :
    SvcConsumer κ :=
  let params := c.rtpStream.params
  let c' :=
    { c with
      preferredSpatialLayer := preferredLayer spatialLayer params.spatialLayers
      preferredTemporalLayer :=
        match temporalLayer with
        | some temporalLayer => preferredLayer temporalLayer params.temporalLayers
        | none => params.temporalLayers.toNat - 1 }
  mayChangeLayersIf
    (c'.isActive && (c'.preferredSpatialLayer ≠ c.preferredSpatialLayer ||
      c'.preferredTemporalLayer ≠ c.preferredTemporalLayer)) env c'

def streamScore (env : CallEnv) (s : RtpStreamRecv) (score : Nat) : SvcConsumer κ :=
  mayChangeLayersIf
    (s.score ≠ score && c.isActiveBase && (!c.externallyManagedBitrate || score = 0 || s.score = 0)) env
    { c with producerRtpStream := some { s with toStreamScore := s.setScore score env.nowMs } }

def call (env : CallEnv) (e : SimulcastConsumer.Call) : Except ConsumerFault (SvcConsumer κ) :=
  match (hooks env).call c e with
  | some c => .ok c
  | none =>
    match e with
    | .setPreferredLayers spatialLayer temporalLayer => .ok (c.setPreferredLayers env spatialLayer temporalLayer)
    | .producerRtpStream s _ => .ok { c with producerRtpStream := some s }
    | .producerNewRtpStream s _ =>
      let c := { c with producerRtpStream := some s }
      .ok (mayChangeLayersIf c.isActive env c)
    | .streamScore _ score =>
      match c.producerRtpStream with
      | none => .ok c
      | some s => .ok (c.streamScore env s score)
    | .senderReport _ report score =>
      match c.producerRtpStream with
      | none => .ok c
      | some s => .ok (c.streamScore env (s.receiveRtcpSenderReport report s.score env.nowMs) score)
    | .rtpStreamScore score =>
      .ok
        (mayChangeLayersIf (c.rtpStream.score ≠ score && c.isActive && !c.externallyManagedBitrate) env
          { c with rtpStream := { c.rtpStream with toStreamScore := c.rtpStream.setScore score env.nowMs } })
    | .increaseLayer rates _ virtualBitrate => c.increaseLayer env.nowMs rates virtualBitrate
    | .applyLayers => c.applyLayers env.nowMs
    | _ => .ok c

/-! ## `SendRtpPacket` -/

variable (codec : Codec δ κ)

def sync (c : SvcConsumer κ) (seq : UInt16) : SvcConsumer κ :=
  if c.syncRequired then
    { c with
      rtpSeqManager := syncIf true c.rtpSeqManager seq
      encodingContext := { c.encodingContext with state := codec.syncRequired c.encodingContext.state }
      syncRequired := false }
  else c

def deliver (env : SendEnv) (c : SvcConsumer κ) (sh : SharedPackets) (p : MediaPacket δ) (marker : Bool) :
    Except ConsumerFault (Delivery (SvcConsumer κ) δ) := do
  let f ← forwardOn env c.rtpStream c.rtpSeqManager sh p c.ssrc marker
  return {
    consumer := { c with rtpSeqManager := f.manager, rtpStream := f.stream }
    shared := f.shared
    packet := p.restorePayload codec
    sent := f.sent }

def forward (env : SendEnv) (c : SvcConsumer κ) (sh : SharedPackets) (p : MediaPacket δ) :
    Except ConsumerFault (Delivery (SvcConsumer κ) δ) :=
  match p.processPayload codec env.shapes c.encodingContext with
  | .error f => .error (.codec f)
  | .ok r =>
    let c := { c with encodingContext := r.context }
    let p := p.setPayload r.payload
    if r.passed then c.deliver codec env sh p r.marker
    else
      .ok
        { consumer :=
            { c with rtpSeqManager := c.rtpSeqManager.drop 16 env.shapes.rtpSeq p.packet.sequenceNumber.toNat }
          shared := sh
          packet := p }

def sendRtpPacket (env : SendEnv) (c : SvcConsumer κ) (sh : SharedPackets) (p : MediaPacket δ) :
    Except ConsumerFault (Delivery (SvcConsumer κ) δ) :=
  if !c.isActive || c.encodingContext.targetSpatialLayer = -1 || c.encodingContext.targetTemporalLayer = -1 ||
      !c.supports p.packet.payloadType || (c.syncRequired && !p.isKeyFrame codec) then
    .ok { consumer := c, shared := sh, packet := p }
  else (c.sync codec p.packet.sequenceNumber).forward codec env sh p

end SvcConsumer

end Mediasoup.Consumer
