import Mediasoup.Codecs.VP9
import Mediasoup.Consumer.Calls

/-!
# The numbers consumers send

A consumer tells its `SeqManager` of the packets it drops and asks it for the number of those it sends, without looking whether
`Input` gives one: for a number that was dropped it does not, and the packet is sent with whatever is in the variable
(`dropped_number_comes_again`). `refused` are the numbers that `Input` would refuse for a packet.
-/

namespace Mediasoup.Consumer

open Lib Rtp Codecs Mediasoup.Seq List

variable {δ κ : Type}

namespace AnyConsumer

/-- The dropped numbers against which `Input` checks a packet: none if the consumer syncs with this packet, or if it is of
a layer other than the current one of a simulcast consumer. -/
def refused (c : AnyConsumer κ) (p : MediaPacket δ) : List Nat :=
  match c with
  | simple c => if c.syncRequired then [] else c.rtpSeqManager.dropped
  | simulcast c =>
    if c.syncRequired then []
    else
      match c.mapMappedSsrcSpatialLayer.lookup p.packet.ssrc with
      | none => []
      | some layer => if (layer : Int) = c.currentSpatialLayer then c.rtpSeqManager.dropped else []
  | svc c => if c.syncRequired then [] else c.rtpSeqManager.dropped
  | pipe _ => []

def Unrefused (c : AnyConsumer κ) : Event δ → Prop
  | .packet _ _ p => p.packet.sequenceNumber.toNat ∉ c.refused p
  | _ => True

instance (c : AnyConsumer κ) : ∀ e : Event δ, Decidable (Unrefused c e)
  | .packet _ _ p => inferInstanceAs (Decidable (_ ∉ c.refused p))
  | .nack .. | .call .. => isTrue trivial

/-- Between events a simulcast consumer waits for no particular layer to sync with, and a pipe consumer has dropped
nothing. -/
def Inv : AnyConsumer κ → Prop
  | simulcast c => c.spatialLayerToSync = -1
  | pipe c => ∀ s ∈ c.rtpStreams, s.rtpSeqManager.dropped = []
  | _ => True

end AnyConsumer

/-! ## `Input` and `Sync` -/

theorem syncIf_dropped (required : Bool) (m : SeqManager) (seq : UInt16) :
    (syncIf required m seq).dropped = if required then [] else m.dropped := by
  cases required with
  | true => rfl
  | false => rfl

variable {p : MediaPacket δ}

theorem forwardOn_ends (env : SendEnv) (stream : RtpStreamSend) {m : SeqManager} (sh : SharedPackets)
    (ssrc : UInt32) (marker : Bool) (hseq : p.packet.sequenceNumber.toNat ∉ m.dropped) :
    Ends (fun f => f.manager.dropped.Sublist m.dropped) CallFault (forwardOn env stream m sh p ssrc marker) := by
  obtain ⟨m', o, hinput, -, -, hm'⟩ := SeqManager.input_of_not_mem (w := 16) env.shapes.rtpSeq hseq
  unfold forwardOn
  rw [hinput]
  dsimp only
  split
  · rintro ⟨⟩
  · rw [hm']
    rw [← SeqManager.updateMax_dropped (w := 16) (m := m)]
    exact SeqManager.clearDropped_sublist

/-! ## Simple, SVC and pipe consumers -/

abbrev Numbered {σ : Type} (P : σ → Prop) : Except ConsumerFault (Delivery σ δ) → Prop :=
  Ends (fun d => P d.consumer) CallFault

variable (codec : Codec δ κ) (env : SendEnv)

theorem SimpleConsumer.processPayload_ends (c : SimpleConsumer κ) (p : MediaPacket δ) :
    Ends (fun r => r.1.syncRequired = c.syncRequired ∧ r.1.rtpSeqManager = c.rtpSeqManager ∧
      r.2.1.packet.sequenceNumber = p.packet.sequenceNumber) CallFault (c.processPayload codec env p) := by
  unfold processPayload
  split
  · exact ⟨rfl, rfl, rfl⟩
  · split
    · rintro ⟨⟩
    · exact ⟨rfl, rfl, rfl⟩

variable (sh : SharedPackets)

theorem SimpleConsumer.deliver_ends {c : SimpleConsumer κ}
    (hseq : p.packet.sequenceNumber.toNat ∉ if c.syncRequired then [] else c.rtpSeqManager.dropped) :
    Numbered (fun _ => True) (c.deliver env sh p) := by
  rw [← syncIf_dropped c.syncRequired c.rtpSeqManager p.packet.sequenceNumber] at hseq
  apply Ends.bind (forwardOn_ends env c.rtpStream sh c.ssrc false hseq)
  intro f _
  trivial

theorem SimpleConsumer.sendRtpPacket_ends {c : SimpleConsumer κ}
    (hseq : p.packet.sequenceNumber.toNat ∉ if c.syncRequired then [] else c.rtpSeqManager.dropped) :
    Numbered (fun _ => True) (c.sendRtpPacket codec env sh p) := by
  have hprocess := c.processPayload_ends codec env p
  unfold sendRtpPacket
  split
  · trivial
  split
  · rename_i heq
    rwa [heq] at hprocess
  · trivial
  rename_i c' p' heq
  rw [heq] at hprocess
  obtain ⟨hsync, hm, hp⟩ := hprocess
  split
  · trivial
  · refine deliver_ends env sh ?_
    rwa [hsync, hm, hp]

variable {c : SvcConsumer κ}

theorem SvcConsumer.deliver_ends (marker : Bool)
    (hseq : p.packet.sequenceNumber.toNat ∉ c.rtpSeqManager.dropped) :
    Numbered (fun _ => True) (c.deliver codec env sh p marker) := by
  apply Ends.bind (forwardOn_ends env c.rtpStream sh c.ssrc marker hseq)
  intro f _
  trivial

theorem SvcConsumer.forward_ends
    (hseq : p.packet.sequenceNumber.toNat ∉ c.rtpSeqManager.dropped) :
    Numbered (fun _ => True) (c.forward codec env sh p) := by
  unfold forward
  split
  · rintro ⟨⟩
  rename_i r _
  split
  · exact deliver_ends codec env (c := { c with encodingContext := r.context }) sh r.marker hseq
  · trivial

theorem SvcConsumer.sendRtpPacket_ends
    (hseq : p.packet.sequenceNumber.toNat ∉ if c.syncRequired then [] else c.rtpSeqManager.dropped) :
    Numbered (fun _ => True) (c.sendRtpPacket codec env sh p) := by
  unfold sendRtpPacket
  split
  · trivial
  refine forward_ends codec env sh ?_
  unfold sync
  split
  · exact not_mem_nil
  · rename_i hsync
    rwa [if_neg hsync] at hseq

theorem PipeConsumer.sendRtpPacket_ends {c : PipeConsumer} (hinv : ∀ s ∈ c.rtpStreams, s.rtpSeqManager.dropped = [])
    (sh : SharedPackets) (p : MediaPacket δ) :
    Numbered (fun c' : PipeConsumer => ∀ s ∈ c'.rtpStreams, s.rtpSeqManager.dropped = [])
      (c.sendRtpPacket codec env sh p) := by
  unfold sendRtpPacket
  split
  · exact hinv
  split
  · rintro ⟨⟩
  split
  · rintro ⟨⟩
  rename_i idx s hstream
  split
  · exact hinv
  obtain ⟨idx', -, hstream⟩ := Option.bind_eq_some_iff.mp hstream
  obtain ⟨s', hs, hstream⟩ := Option.bind_eq_some_iff.mp hstream
  cases hstream
  have hdropped : (syncIf s.syncRequired s.rtpSeqManager p.packet.sequenceNumber).dropped = [] := by
    rw [syncIf_dropped, hinv s (mem_of_getElem? hs), ite_self]
  have hseq : p.packet.sequenceNumber.toNat ∉ (syncIf s.syncRequired s.rtpSeqManager p.packet.sequenceNumber).dropped := by
    rw [hdropped]
    exact not_mem_nil
  apply Ends.bind (forwardOn_ends env s.rtpStream sh _ false hseq)
  intro f hf s' hmem
  rcases mem_or_eq_of_mem_set hmem with hmem | rfl
  · exact hinv s' hmem
  · rw [hdropped] at hf
    exact sublist_nil.mp hf

/-! ## Simulcast consumers -/

namespace SimulcastConsumer

variable {c : SimulcastConsumer κ}

theorem AdmitFault.callFault {f : ConsumerFault} (h : c.AdmitFault f) : CallFault f := by
  rcases h with rfl | ⟨layer, -, -, hoffset⟩
  · rintro ⟨⟩
  rintro rfl
  unfold syncOffset at hoffset
  split at hoffset
  · cases hoffset
  split at hoffset
  · cases hoffset
  split at hoffset
  · cases hoffset
  split at hoffset
  · cases hoffset
  split at hoffset <;> cases hoffset

variable {p : MediaPacket δ}

theorem deliver_numbered (hsettled : c.Settled) (sh : SharedPackets)
    (hseq : p.packet.sequenceNumber.toNat ∉ c.rtpSeqManager.dropped) :
    Numbered Settled (c.deliver codec env sh p) := by
  obtain ⟨m', o, hinput, -⟩ := SeqManager.input_of_not_mem (w := 16) env.shapes.rtpSeq hseq
  unfold deliver
  rw [hinput]
  dsimp only
  split
  · rintro ⟨⟩
  · exact hsettled

theorem forward_numbered (hsettled : c.Settled) (sh : SharedPackets)
    (switches : Bool) (hseq : p.packet.sequenceNumber.toNat ∉ c.rtpSeqManager.dropped) :
    Numbered Settled (c.forward codec env sh p switches) := by
  have hkeep : (if switches then c.switchLayer codec p env.nowMs else c).Settled ∧
      (if switches then c.switchLayer codec p env.nowMs else c).rtpSeqManager = c.rtpSeqManager := by
    cases switches with
    | true => exact ⟨hsettled, rfl⟩
    | false => exact ⟨hsettled, rfl⟩
  unfold forward
  generalize (if switches then c.switchLayer codec p env.nowMs else c) = c' at hkeep
  obtain ⟨hsettled', hm⟩ := hkeep
  rw [← hm] at hseq
  dsimp only
  split
  · rintro ⟨⟩
  rename_i r _
  split
  · exact deliver_numbered codec env (c := { c' with encodingContext := r.context }) hsettled' sh hseq
  · exact hsettled'

theorem sendRtpPacket_numbered (hsettled : c.Settled) (sh : SharedPackets)
    (hseq : p.packet.sequenceNumber.toNat ∉ (AnyConsumer.simulcast c).refused p) :
    Numbered Settled (c.sendRtpPacket codec env sh p) := by
  rw [sendRtpPacket_eq]
  refine Ends.bind ((admit_ends codec c p).faults fun _ => AdmitFault.callFault) ?_
  rintro ⟨c₁, _ | switches⟩ ⟨h, -⟩
  · exact h.settled hsettled
  · refine forward_numbered codec env (h.settled hsettled) sh switches ?_
    rw [h.dropped hsettled rfl]
    exact hseq

end SimulcastConsumer

/-! ## The result -/

namespace AnyConsumer

theorem Kept.inv {c c' : AnyConsumer κ} (h : Kept c c') (hinv : c.Inv) : c'.Inv := by
  cases h with
  | simple h => trivial
  | simulcast h => exact h.toSync hinv
  | svc h => trivial
  | pipe h =>
    intro s' hs'
    obtain ⟨s, hs, -, hm⟩ := h.rtpStreams s' hs'
    rw [hm]
    exact hinv s hs

variable {c : AnyConsumer κ}

theorem sendRtpPacket_numbered (hinv : c.Inv) (sh : SharedPackets) {p : MediaPacket δ}
    (hseq : p.packet.sequenceNumber.toNat ∉ c.refused p) : Numbered Inv (c.sendRtpPacket codec env sh p) := by
  cases c with
  | simple c => exact (c.sendRtpPacket_ends codec env sh hseq).map fun _ _ => trivial
  | simulcast c => exact (c.sendRtpPacket_numbered codec env hinv sh hseq).map fun _ h => h
  | svc c => exact (c.sendRtpPacket_ends codec env sh hseq).map fun _ _ => trivial
  | pipe c => exact (c.sendRtpPacket_ends codec env hinv sh p).map fun _ h => h

theorem receiveNack_inv (hinv : c.Inv) (clones : List Packet) (nowMs : Nat) (mediaSsrc : UInt32)
    (items : List NackItem) :
    Ends (fun r => r.consumer.Inv) CallFault (c.receiveNack clones nowMs mediaSsrc items) := by
  cases c with
  | simple c =>
    simp only [receiveNack, answerNack]
    split <;> trivial
  | simulcast c =>
    simp only [receiveNack, SimulcastConsumer.receiveNack]
    split <;> exact hinv
  | svc c =>
    simp only [receiveNack, answerNack]
    split <;> trivial
  | pipe c =>
    refine Ends.map (P := fun r => (pipe r.consumer : AnyConsumer κ).Inv) ?_ fun _ h => h
    unfold PipeConsumer.receiveNack
    split
    · split
      · rintro ⟨⟩
      rename_i idx s hstream
      obtain ⟨idx', -, hstream⟩ := Option.bind_eq_some_iff.mp hstream
      obtain ⟨s', hs, hstream⟩ := Option.bind_eq_some_iff.mp hstream
      cases hstream
      intro s' hmem
      rcases mem_or_eq_of_mem_set hmem with hmem | rfl
      · exact hinv s' hmem
      · exact hinv s (mem_of_getElem? hs)
    · exact hinv

theorem step_numbered (hinv : c.Inv) (e : Event δ) (he : Unrefused c e) : Ends Inv CallFault (step codec c e) := by
  cases e with
  | packet env shared p =>
    apply Ends.bind (sendRtpPacket_numbered codec env hinv shared he)
    intro d hd
    exact hd
  | nack clones nowMs mediaSsrc items =>
    apply Ends.bind (receiveNack_inv hinv clones nowMs mediaSsrc items)
    intro r hr
    exact hr
  | call env e => exact (call_kept env c e).imp fun _ h => h.inv hinv

theorem IsNew.inv {codec : MediaCodec δ κ} (h : IsNew codec c) : c.Inv := by
  cases h with
  | simple => trivial
  | simulcast => rfl
  | svc => trivial
  | pipe paused payloadTypes hs =>
    intro s hmem
    obtain ⟨e, -, rfl⟩ := mem_map.mp hmem
    rfl

/-- **Every number that is sent is one that `Input` gave**, in every run of a consumer of any kind and any codec in which no
packet comes with a number that is refused at that moment. -/
theorem outcomes_of_unrefused {codec : MediaCodec δ κ} {c : AnyConsumer κ} (hnew : IsNew codec c) (es : List (Event δ))
    (hes : Along (step codec.toCodec) Unrefused c es) :
    Outcomes (step codec.toCodec) (fun r => r ≠ .error .unsetSequenceNumber) c es := by
  refine outcomes_of_along (I := Inv) ?_ es c hnew.inv hes
  intro c e hinv he
  have hends := step_numbered codec.toCodec hinv e he
  constructor
  · intro heq
    rw [heq] at hends
    exact hends rfl
  · intro c' hc'
    rwa [hc'] at hends

/-! ## A dropped number that comes again -/

def layeredStream : RtpStreamSend :=
  .create { ssrc := 5, payloadType := 98, clockRate := 90000, spatialLayers := 1, temporalLayers := 2 } .video

def layered : AnyConsumer VP9.State :=
  .svc (.create false [98] (some (0, some 0)) false layeredStream VP9.mediaCodec.initial)

def layeredPacket (n temporalLayer : UInt8) : MediaPacket VP9.PayloadDescriptor :=
  VP9.processRtpPacket
    { packet :=
        { payloadType := 98
          sequenceNumber := n.toUInt16
          timestamp := 3000 * n.toUInt32
          ssrc := 1000
          payload := [if n = 1 then 0xac else 0xec, n, temporalLayer * 32, 0] } }

def layeredRun (arrivals : List (UInt8 × UInt8)) : List (Event VP9.PayloadDescriptor) :=
  let producerStream : RtpStreamRecv :=
    .create { ssrc := 1, payloadType := 98, clockRate := 90000, spatialLayers := 1, temporalLayers := 2 } 0
  [.call { nowMs := 20000 } .transportConnected,
    .call { nowMs := 20000, spatialLayerBitrate := fun _ => 1000 } (.producerNewRtpStream producerStream 1000)] ++
  arrivals.map fun (n, temporalLayer) =>
    .packet ⟨20000, SimulcastConsumer.spines⟩ {} (layeredPacket n temporalLayer)

theorem isNew_layered : IsNew VP9.mediaCodec layered := .svc false [98] (some (0, some 0)) false (.plain _ _)

theorem outcomes_layeredRun :
    (((layeredRun [(1, 0), (2, 1), (3, 0), (3, 0)]).foldlM (step VP9.mediaCodec.toCodec) layered).toOption.isSome = true) ∧
    Outcomes (step VP9.mediaCodec.toCodec) (fun r => r ≠ .error .unsetSequenceNumber) layered
      (layeredRun [(1, 0), (2, 1), (3, 0), (3, 0)]) :=
  ⟨by decide +kernel, outcomes_of_unrefused isNew_layered _ (by decide +kernel)⟩

/-- **The packet that was dropped comes again**: to the codec it is an old packet, and `Input` refuses its number. -/
theorem dropped_number_comes_again :
    (layeredRun [(1, 0), (2, 1), (3, 0), (2, 1)]).foldlM (step VP9.mediaCodec.toCodec) layered = .error .unsetSequenceNumber ∧
    ¬ Outcomes (step VP9.mediaCodec.toCodec) (fun r => r ≠ .error .unsetSequenceNumber) layered
      (layeredRun [(1, 0), (2, 1), (3, 0), (2, 1)]) := by
  have hrun : (layeredRun [(1, 0), (2, 1), (3, 0), (2, 1)]).foldlM (step VP9.mediaCodec.toCodec) layered =
      .error .unsetSequenceNumber := by decide +kernel
  exact ⟨hrun, not_outcomes_of_fault (fun h => h rfl) hrun⟩

end AnyConsumer

end Mediasoup.Consumer
