import Mediasoup.Consumer.Kinds
import Mediasoup.Consumer.SenderReports

/-!
# What calls leave alone

Between two packets a consumer gets calls of the transport, the producer and the application. They store no packet in a sent
stream (`StreamKept`) and do not touch the payload types that are supported (`Kept`, for each kind), and they fault only by an
assertion of their own (`CallFault`). `call_kept` says so for a consumer of any kind.
-/

namespace Mediasoup.Consumer

open Lib Rtp Codecs Mediasoup.Seq

/-! ## Streams -/

structure StreamKept (s s' : RtpStreamSend) : Prop where
  stored : s'.stored.reduceOption.Sublist s.stored.reduceOption
  params : s'.params = s.params
  hasRtx : s'.hasRtx = s.hasRtx
  buffer : s'.retransmissionBuffer.isSome = s.retransmissionBuffer.isSome

namespace StreamKept

variable {s s' s'' : RtpStreamSend}

theorem refl (s : RtpStreamSend) : StreamKept s s := ⟨List.Sublist.refl _, rfl, rfl, rfl⟩

theorem trans (h : StreamKept s s') (h' : StreamKept s' s'') : StreamKept s s'' :=
  ⟨h'.stored.trans h.stored, h'.params.trans h.params, h'.hasRtx.trans h.hasRtx, h'.buffer.trans h.buffer⟩

theorem clearBuffer (s : RtpStreamSend) : StreamKept s s.clearBuffer := by
  refine ⟨?_, rfl, rfl, Option.isSome_map⟩
  unfold RtpStreamSend.stored RtpStreamSend.clearBuffer
  cases s.retransmissionBuffer with
  | none => exact List.Sublist.refl _
  | some b => exact List.nil_sublist _

theorem score (s : RtpStreamSend) (score : StreamScore) : StreamKept s { s with toStreamScore := score } :=
  ⟨List.Sublist.refl _, rfl, rfl, rfl⟩

end StreamKept

/-! ## The class `Consumer` -/

def CallFault (f : ConsumerFault) : Prop := f ≠ .unsetSequenceNumber

theorem Hooks.call_rel {σ : Type} {h : Hooks σ} {R : σ → σ → Prop} (hrefl : ∀ c, R c c)
    (htrans : ∀ c c' c'', R c c' → R c' c'' → R c c'')
    (hbase : ∀ c b, b.supportedCodecPayloadTypes = (h.base c).supportedCodecPayloadTypes → R c (h.setBase c b))
    (hconnected : ∀ c, R c (h.userOnTransportConnected c)) (hdisconnected : ∀ c, R c (h.userOnTransportDisconnected c))
    (hpaused : ∀ c, R c (h.userOnPaused c)) (hresumed : ∀ c, R c (h.userOnResumed c)) {c c' : σ}
    {e : SimulcastConsumer.Call} (hcall : h.call c e = some c') : R c c' := by
  have hpausedIf : ∀ before after, R c after → R c (h.pausedIf before after) := by
    intro before after hafter
    unfold pausedIf
    split
    · exact htrans _ _ _ hafter (hpaused after)
    · exact hafter
  have hresumedIf : ∀ after, R c after → R c (h.resumedIf after) := by
    intro after hafter
    unfold resumedIf
    split
    · exact htrans _ _ _ hafter (hresumed after)
    · exact hafter
  cases e <;> simp only [call, Option.some.injEq, reduceCtorEq] at hcall
  case pause =>
    rw [← hcall]
    split
    · exact hrefl c
    · exact hpausedIf _ _ (hbase c _ rfl)
  case resume =>
    rw [← hcall]
    split
    · exact hresumedIf _ (hbase c _ rfl)
    · exact hrefl c
  case transportConnected =>
    rw [← hcall]
    split
    · exact hrefl c
    · refine htrans _ _ _ ?_ (hconnected _)
      exact hbase c _ rfl
  case transportDisconnected =>
    rw [← hcall]
    split
    · refine htrans _ _ _ ?_ (hdisconnected _)
      exact hbase c _ rfl
    · exact hrefl c
  case producerPaused =>
    rw [← hcall]
    split
    · exact hrefl c
    · exact hpausedIf _ _ (hbase c _ rfl)
  case producerResumed =>
    rw [← hcall]
    split
    · exact hresumedIf _ (hbase c _ rfl)
    · exact hrefl c
  case producerClosed =>
    rw [← hcall]
    exact hbase c _ rfl
  case setExternallyManagedBitrate =>
    rw [← hcall]
    exact hbase c _ rfl

variable {δ κ : Type}

/-! ## Simple consumers -/

structure SimpleConsumer.Kept (c c' : SimpleConsumer κ) : Prop where
  supported : c'.supportedCodecPayloadTypes = c.supportedCodecPayloadTypes
  rtpStream : StreamKept c.rtpStream c'.rtpStream
  encodingContext : c'.encodingContext.isSome = c.encodingContext.isSome

namespace SimpleConsumer

theorem Kept.refl (c : SimpleConsumer κ) : Kept c c := ⟨rfl, .refl _, rfl⟩

theorem Kept.trans {c c' c'' : SimpleConsumer κ} (h : Kept c c') (h' : Kept c' c'') : Kept c c'' :=
  ⟨h'.supported.trans h.supported, h.rtpStream.trans h'.rtpStream, h'.encodingContext.trans h.encodingContext⟩

theorem call_kept (c : SimpleConsumer κ) (nowMs : Nat) (e : SimulcastConsumer.Call) : Kept c (c.call nowMs e) := by
  unfold call
  cases hcall : hooks.call c e with
  | some c' =>
    refine Hooks.call_rel (R := Kept) Kept.refl (fun _ _ _ => Kept.trans) ?_ ?_ ?_ ?_ ?_ hcall
    · exact fun c b hb => ⟨hb, .refl _, rfl⟩
    · exact fun c => ⟨rfl, .refl _, rfl⟩
    · exact fun c => ⟨rfl, .clearBuffer _, rfl⟩
    · exact fun c => ⟨rfl, .clearBuffer _, rfl⟩
    · exact fun c => ⟨rfl, .refl _, rfl⟩
  | none =>
    split
    case h_5 => exact ⟨rfl, .score _ _, rfl⟩
    all_goals exact ⟨rfl, .refl _, rfl⟩

end SimpleConsumer

/-! ## SVC consumers -/

structure SvcConsumer.Kept (c c' : SvcConsumer κ) : Prop where
  supported : c'.supportedCodecPayloadTypes = c.supportedCodecPayloadTypes
  rtpStream : StreamKept c.rtpStream c'.rtpStream

namespace SvcConsumer

theorem Kept.refl (c : SvcConsumer κ) : Kept c c := ⟨rfl, .refl _⟩

theorem Kept.trans {c c' c'' : SvcConsumer κ} (h : Kept c c') (h' : Kept c' c'') : Kept c c'' :=
  ⟨h'.supported.trans h.supported, h.rtpStream.trans h'.rtpStream⟩

variable {c c' : SvcConsumer κ}

theorem Kept.updateTargetLayers (h : Kept c c') (spatialLayer temporalLayer : Int) :
    Kept c (c'.updateTargetLayers spatialLayer temporalLayer) := by
  refine h.trans ?_
  unfold SvcConsumer.updateTargetLayers
  split
  · exact ⟨rfl, .refl _⟩
  · exact ⟨rfl, .refl _⟩

theorem Kept.mayChangeLayersIf (h : Kept c c') (cond : Bool) (env : CallEnv) : Kept c (mayChangeLayersIf cond env c') := by
  unfold SvcConsumer.mayChangeLayersIf mayChangeLayers
  dsimp only
  split
  · split
    · split
      · exact h
      · exact h.updateTargetLayers _ _
    · exact h
  · exact h

theorem Kept.noteDowngrade (h : Kept c c') (nowMs : Nat) : Kept c (c'.noteDowngrade nowMs) := by
  unfold SvcConsumer.noteDowngrade
  split
  · exact ⟨h.supported, h.rtpStream⟩
  · exact h

theorem stop_kept (c : SvcConsumer κ) : Kept c c.stop := by
  exact ⟨rfl, .clearBuffer _⟩

theorem resume_kept (env : CallEnv) (c : SvcConsumer κ) : Kept c (c.resume env) := by
  refine Kept.mayChangeLayersIf ?_ _ env
  exact ⟨rfl, .refl _⟩

theorem streamScore_kept (c : SvcConsumer κ) (env : CallEnv) (s : RtpStreamRecv) (score : Nat) :
    Kept c (c.streamScore env s score) := by
  refine Kept.mayChangeLayersIf ?_ _ env
  exact ⟨rfl, .refl _⟩

theorem increaseLayer_kept (c : SvcConsumer κ) (nowMs : Nat) (rates : SimulcastConsumer.Bitrates)
    (virtualBitrate : Nat) : Ends (Kept c) CallFault (c.increaseLayer nowMs rates virtualBitrate) := by
  unfold increaseLayer
  split
  · rintro ⟨⟩
  split
  · rintro ⟨⟩
  split
  · rintro ⟨⟩
  split
  · exact .refl c
  split
  · exact .refl c
  split
  · exact .refl c
  split
  · exact .refl c
  · exact ⟨rfl, .refl _⟩

theorem applyLayers_kept (c : SvcConsumer κ) (nowMs : Nat) : Ends (Kept c) CallFault (c.applyLayers nowMs) := by
  have hreset : Kept c c.resetProvisional := ⟨rfl, .refl _⟩
  unfold applyLayers
  split
  · rintro ⟨⟩
  split
  · rintro ⟨⟩
  split
  · exact (hreset.updateTargetLayers _ _).noteDowngrade nowMs
  · exact hreset

theorem call_kept (c : SvcConsumer κ) (env : CallEnv) (e : SimulcastConsumer.Call) :
    Ends (Kept c) CallFault (c.call env e) := by
  unfold call
  cases hcall : (hooks env).call c e with
  | some c' =>
    refine Hooks.call_rel (R := Kept) Kept.refl (fun _ _ _ => Kept.trans) ?_ (resume_kept env) stop_kept stop_kept
      (resume_kept env) hcall
    exact fun c b hb => ⟨hb, .refl _⟩
  | none =>
    dsimp only
    split
    · refine Kept.mayChangeLayersIf ?_ _ env
      exact ⟨rfl, .refl _⟩
    · exact ⟨rfl, .refl _⟩
    · refine Kept.mayChangeLayersIf ?_ _ env
      exact ⟨rfl, .refl _⟩
    · split
      · exact .refl c
      · exact streamScore_kept c env _ _
    · split
      · exact .refl c
      · exact streamScore_kept c env _ _
    · refine Kept.mayChangeLayersIf ?_ _ env
      exact ⟨rfl, .score _ _⟩
    · exact increaseLayer_kept c env.nowMs _ _
    · exact applyLayers_kept c env.nowMs
    · exact .refl c

end SvcConsumer

/-! ## Pipe consumers -/

structure PipeConsumer.Kept (c c' : PipeConsumer) : Prop where
  supported : c'.supportedCodecPayloadTypes = c.supportedCodecPayloadTypes
  rtpStreams : ∀ s' ∈ c'.rtpStreams, ∃ s ∈ c.rtpStreams,
    StreamKept s.rtpStream s'.rtpStream ∧ s'.rtpSeqManager = s.rtpSeqManager

namespace PipeConsumer

theorem Kept.refl (c : PipeConsumer) : Kept c c := ⟨rfl, fun s hs => ⟨s, hs, .refl _, rfl⟩⟩

theorem Kept.trans {c c' c'' : PipeConsumer} (h : Kept c c') (h' : Kept c' c'') : Kept c c'' where
  supported := h'.supported.trans h.supported
  rtpStreams s'' hmem'' := by
    obtain ⟨s', hmem', hs', hm'⟩ := h'.rtpStreams s'' hmem''
    obtain ⟨s, hmem, hs, hm⟩ := h.rtpStreams s' hmem'
    exact ⟨s, hmem, hs.trans hs', hm'.trans hm⟩

theorem Kept.map (c : PipeConsumer) {f : PipeStream → PipeStream}
    (hf : ∀ s, StreamKept s.rtpStream (f s).rtpStream ∧ (f s).rtpSeqManager = s.rtpSeqManager) :
    Kept c { c with rtpStreams := c.rtpStreams.map f } where
  supported := rfl
  rtpStreams s' hmem' := by
    obtain ⟨s, hmem, rfl⟩ := List.mem_map.mp hmem'
    exact ⟨s, hmem, hf s⟩

theorem call_kept (c : PipeConsumer) (e : SimulcastConsumer.Call) : Kept c (c.call e) := by
  have hsync : ∀ c : PipeConsumer, Kept c c.requireSync := fun c => .map c fun s => ⟨.refl _, rfl⟩
  have hstop : ∀ c : PipeConsumer, Kept c c.stop := fun c => .map c fun s => ⟨.clearBuffer _, rfl⟩
  unfold call
  cases hcall : hooks.call c e with
  | some c' =>
    refine Hooks.call_rel (R := Kept) Kept.refl (fun _ _ _ => Kept.trans) ?_ hsync hstop hstop hsync hcall
    exact fun c b hb => ⟨hb, (Kept.refl c).rtpStreams⟩
  | none => exact .refl c

end PipeConsumer

/-! ## Simulcast consumers -/

structure SimulcastConsumer.Kept (c c' : SimulcastConsumer κ) : Prop where
  supported : c'.supportedCodecPayloadTypes = c.supportedCodecPayloadTypes
  rtpStream : StreamKept c.rtpStream c'.rtpStream
  toSync : c.spatialLayerToSync = -1 → c'.spatialLayerToSync = -1

namespace SimulcastConsumer

variable {c c' : SimulcastConsumer κ}

theorem Kept.refl (c : SimulcastConsumer κ) : Kept c c := ⟨rfl, .refl _, id⟩

theorem Kept.updateTargetLayers (h : Kept c c') (spatialLayer temporalLayer : Int) :
    Kept c (c'.updateTargetLayers spatialLayer temporalLayer) := by
  unfold SimulcastConsumer.updateTargetLayers
  split
  · exact ⟨h.supported, h.rtpStream, h.toSync⟩
  · exact ⟨h.supported, h.rtpStream, h.toSync⟩

theorem Kept.stop (h : Kept c c') : Kept c c'.stop := by
  exact ⟨h.supported, h.rtpStream.trans (.clearBuffer _), h.toSync⟩

theorem Kept.stopIf (h : Kept c c') (cond : Bool) : Kept c (c'.stopIf cond) := by
  cases cond with
  | true => exact h.stop
  | false => exact h

theorem LayerFault.callFault {f : ConsumerFault} (h : LayerFault f) : CallFault f := by
  rcases h with rfl | rfl
  · rintro ⟨⟩
  · rintro ⟨⟩

theorem Kept.mayChangeLayers (h : Kept c c') (nowMs : Nat) : Ends (Kept c) CallFault (c'.mayChangeLayers nowMs) := by
  apply Ends.bind ((recalculate_ends c' nowMs _ (-1) (.inl rfl)).faults fun _ => LayerFault.callFault)
  intro layer _
  dsimp only
  split
  · cases c'.externallyManagedBitrate with
    | true => exact h
    | false => exact h.updateTargetLayers layer _
  · exact h

theorem Kept.mayChangeLayersIf (h : Kept c c') (cond : Bool) (nowMs : Nat) :
    Ends (Kept c) CallFault (mayChangeLayersIf cond c' nowMs) := by
  cases cond with
  | true => exact h.mayChangeLayers nowMs
  | false => exact h

theorem Kept.mayResume (h : Kept c c') (nowMs : Nat) : Ends (Kept c) CallFault (c'.mayResume nowMs) := by
  unfold SimulcastConsumer.mayResume
  split
  · refine Kept.mayChangeLayers ?_ nowMs
    exact ⟨h.supported, h.rtpStream, fun _ => rfl⟩
  · exact h

theorem Kept.scoreChanged (h : Kept c c') (score previousScore nowMs : Nat) :
    Ends (Kept c) CallFault (c'.scoreChanged score previousScore nowMs) := by
  unfold SimulcastConsumer.scoreChanged
  split
  · exact h
  · exact h.mayChangeLayersIf _ nowMs

theorem producerRtpStream_kept (c : SimulcastConsumer κ) (s : RtpStreamRecv) (mappedSsrc : UInt32) :
    Ends (Kept c) CallFault (c.producerRtpStream s mappedSsrc) := by
  unfold producerRtpStream
  split
  · rintro ⟨⟩
  · split
    · rintro ⟨⟩
    · exact ⟨rfl, .refl _, id⟩

theorem increaseLayer_kept (c : SimulcastConsumer κ) (nowMs : Nat) (rates : Bitrates) (bitrate virtualBitrate : Nat) :
    Ends (fun r => Kept c r.1) CallFault (c.increaseLayer nowMs rates bitrate virtualBitrate) := by
  unfold increaseLayer
  split
  · rintro ⟨⟩
  split
  · rintro ⟨⟩
  split
  · exact .refl c
  have hnext := nextLayers_ends c nowMs rates (List.range c.producerRtpStreams.length)
  split
  · rename_i heq
    rw [heq] at hnext
    exact hnext.callFault
  · exact .refl c
  split
  · exact .refl c
  · exact ⟨rfl, .refl _, id⟩

theorem applyLayers_kept (c : SimulcastConsumer κ) (nowMs : Nat) : Ends (Kept c) CallFault (c.applyLayers nowMs) := by
  have hreset : Kept c c.resetProvisional := ⟨rfl, .refl _, id⟩
  unfold applyLayers
  split
  · rintro ⟨⟩
  split
  · rintro ⟨⟩
  split
  · have hup := hreset.updateTargetLayers c.provisionalTargetSpatialLayer c.provisionalTargetTemporalLayer
    unfold noteDowngrade
    split
    · exact ⟨hup.supported, hup.rtpStream, hup.toSync⟩
    · exact hup
  · exact hreset

theorem call_kept (c : SimulcastConsumer κ) (nowMs : Nat) (e : Call) : Ends (Kept c) CallFault (c.call nowMs e) := by
  cases e with
  | pause =>
    simp only [call]
    split
    · exact .refl c
    · refine Kept.stopIf ?_ _
      exact ⟨rfl, .refl _, id⟩
  | resume =>
    simp only [call]
    split
    · refine Kept.mayResume ?_ nowMs
      exact ⟨rfl, .refl _, id⟩
    · exact .refl c
  | setPreferredLayers spatialLayer temporalLayer =>
    refine Kept.mayChangeLayersIf ?_ _ nowMs
    exact ⟨rfl, .refl _, id⟩
  | transportConnected =>
    simp only [call]
    split
    · exact .refl c
    · refine Kept.mayChangeLayersIf ?_ _ nowMs
      exact ⟨rfl, .refl _, fun _ => rfl⟩
  | transportDisconnected =>
    simp only [call]
    split
    · refine Kept.stop ?_
      exact ⟨rfl, .refl _, id⟩
    · exact .refl c
  | producerPaused =>
    simp only [call]
    split
    · exact .refl c
    · refine Kept.stopIf ?_ _
      exact ⟨rfl, .refl _, id⟩
  | producerResumed =>
    simp only [call]
    split
    · refine Kept.mayResume ?_ nowMs
      exact ⟨rfl, .refl _, id⟩
    · exact .refl c
  | producerClosed => exact ⟨rfl, .refl _, id⟩
  | producerRtpStream s mappedSsrc => exact producerRtpStream_kept c s mappedSsrc
  | producerNewRtpStream s mappedSsrc =>
    apply Ends.bind (producerRtpStream_kept c s mappedSsrc)
    intro c' h
    exact h.mayChangeLayersIf _ nowMs
  | streamScore layer score =>
    simp only [call, streamScore]
    split
    · exact .refl c
    · refine Kept.scoreChanged ?_ _ _ nowMs
      exact ⟨rfl, .refl _, id⟩
  | senderReport layer report score =>
    simp only [call, senderReport]
    split
    · exact .refl c
    rename_i s _
    have hset : Kept c (c.setStream layer (s.receiveRtcpSenderReport report score nowMs)) := ⟨rfl, .refl _, id⟩
    apply Ends.bind (hset.scoreChanged score s.score nowMs)
    intro c' h
    exact h.mayChangeLayersIf _ nowMs
  | rtpStreamScore score =>
    refine Kept.mayChangeLayersIf ?_ _ nowMs
    exact ⟨rfl, .score _ _, id⟩
  | setExternallyManagedBitrate => exact ⟨rfl, .refl _, id⟩
  | increaseLayer rates bitrate virtualBitrate =>
    apply Ends.bind (increaseLayer_kept c nowMs rates bitrate virtualBitrate)
    intro r h
    exact h
  | applyLayers => exact applyLayers_kept c nowMs

end SimulcastConsumer

/-! ## Consumers of any kind -/

inductive AnyConsumer.Kept : AnyConsumer κ → AnyConsumer κ → Prop
  | simple {c c' : SimpleConsumer κ} (h : c.Kept c') : Kept (.simple c) (.simple c')
  | simulcast {c c' : SimulcastConsumer κ} (h : c.Kept c') : Kept (.simulcast c) (.simulcast c')
  | svc {c c' : SvcConsumer κ} (h : c.Kept c') : Kept (.svc c) (.svc c')
  | pipe {c c' : PipeConsumer} (h : c.Kept c') : Kept (.pipe c) (.pipe c')

namespace AnyConsumer

theorem call_kept (env : CallEnv) (c : AnyConsumer κ) (e : SimulcastConsumer.Call) :
    Ends (Kept c) CallFault (c.call env e) := by
  cases c with
  | simple c => exact .simple (c.call_kept env.nowMs e)
  | simulcast c => exact (c.call_kept env.nowMs e).map fun _ => .simulcast
  | svc c => exact (c.call_kept env e).map fun _ => .svc
  | pipe c => exact .pipe (c.call_kept e)

end AnyConsumer

end Mediasoup.Consumer
