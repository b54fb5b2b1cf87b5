import Mediasoup.Codecs.Restore
import Mediasoup.Consumer.Calls

/-!
# What a consumer does with a packet

Whatever its kind, a consumer either drops a packet or hands a rewritten one to one of its streams, and leaves the packet
behind as it got it. `Passes` says what happened to the streams and to the shared clone; `Treats` adds that the packet is
restored. `sendRtpPacket_returns` proves it for every kind, and `sendRtpPacket_sent_eq` that the packet which is sent does not
depend on the clones.
-/

namespace Mediasoup.Consumer

open Lib Rtp Codecs Mediasoup.Seq List LawfulCodec Forwarding

variable {δ κ : Type}

def StreamsKept (streams streams' : List RtpStreamSend) : Prop := ∀ s' ∈ streams', ∃ s ∈ streams, StreamKept s s'

theorem StreamsKept.singleton {s s' : RtpStreamSend} (h : StreamKept s s') : StreamsKept [s] [s'] := fun _ ht =>
  ⟨s, mem_singleton_self _, mem_singleton.mp ht ▸ h⟩

theorem StreamsKept.refl (streams : List RtpStreamSend) : StreamsKept streams streams := fun s hs => ⟨s, hs, .refl s⟩

/-- The packet that a consumer makes of `p`, whose payload and marker are as they were if the codec keeps them. -/
structure Rewrites (kept : Prop) (p : MediaPacket δ) (packet : Packet) : Prop where
  payloadType : packet.payloadType = p.packet.payloadType
  payload : kept → packet.payload = p.packet.payload
  marker : kept → packet.marker = p.packet.marker

inductive Passes (kept : Prop) (nowMs : Nat) (streams streams' : List RtpStreamSend) (sh : SharedPackets)
    (p : MediaPacket δ) : SharedPackets → Option Packet → Prop
  | dropped (hstreams : StreamsKept streams streams') : Passes kept nowMs streams streams' sh p sh none
  | received {s s' : RtpStreamSend} {packet : Packet} {size : Nat} {sh' : SharedPackets} {valid : Bool}
    (hs : ∃ s₀ ∈ streams, StreamKept s₀ s) (hreceive : s.receivePacket sh packet size nowMs = .ok (s', sh', valid))
    (hstreams : ∀ t ∈ streams', t = s' ∨ ∃ t₀ ∈ streams, StreamKept t₀ t) (hpacket : Rewrites kept p packet) :
    Passes kept nowMs streams streams' sh p sh' (if valid then some packet else none)

variable {codec : LawfulCodec δ κ} {kept : Prop} {env : SendEnv} {sh sh' : SharedPackets} {p : MediaPacket δ}

/-- What `SendRtpPacket` leaves: the packet is restored, and the streams are as `Passes` says. -/
structure Treats {σ : Type} (codec : LawfulCodec δ κ) (kept : Prop) (nowMs : Nat) (streams : List RtpStreamSend)
    (rtpStreams : σ → List RtpStreamSend) (sh : SharedPackets) (p : MediaPacket δ) (d : Delivery σ δ) : Prop where
  restored : p.Described codec.toCodec → d.packet = p
  passes : Passes kept nowMs streams (rtpStreams d.consumer) sh p d.shared d.sent

/-! ## The end of `SendRtpPacket` -/

theorem forwardOn_returns (kept : Prop) {stream : RtpStreamSend} {m : SeqManager} {q : MediaPacket δ} {ssrc : UInt32} {marker : Bool}
    {streams : List RtpStreamSend} (hs : stream ∈ streams) (hpt : q.packet.payloadType = p.packet.payloadType)
    (hpayload : kept → q.packet.payload = p.packet.payload)
    (hmarker : kept → (marker || q.packet.marker) = p.packet.marker) :
    Returns (fun f => ∀ streams', (∀ t ∈ streams', t = f.stream ∨ t ∈ streams) →
      Passes kept env.nowMs streams streams' sh p f.shared f.sent) (forwardOn env stream m sh q ssrc marker) := by
  unfold forwardOn
  split
  · trivial
  dsimp only
  split
  · trivial
  rename_i hreceive
  intro streams' hstreams
  refine .received ⟨stream, hs, .refl _⟩ hreceive (fun t ht => ?_) ⟨hpt, hpayload, hmarker⟩
  exact (hstreams t ht).imp_right fun hmem => ⟨t, hmem, .refl t⟩

theorem forwardOn_sent_eq (stream : RtpStreamSend) (m : SeqManager) (sh sh' : SharedPackets) (p : MediaPacket δ)
    (ssrc : UInt32) (marker : Bool) :
    (forwardOn env stream m sh p ssrc marker).map sent =
      (forwardOn env stream m sh' p ssrc marker).map sent := by
  unfold forwardOn
  split
  · rfl
  rename_i seq _
  dsimp only
  generalize ({ p.packet with
    ssrc := ssrc, sequenceNumber := UInt16.ofNat seq, marker := marker || p.packet.marker } : Packet) = packet
  obtain ⟨f, hx, hy⟩ | ⟨t, sh₁, t', sh₂, valid, hx, hy⟩ := stream.receivePacket_agree sh sh' packet p.size env.nowMs
  · rw [hx, hy]
  · rw [hx, hy]
    rfl

theorem sent_eq_of_forwardOn {σ : Type} {x y : Except ConsumerFault Forwarding} {g g' : Forwarding → Delivery σ δ}
    (hg : ∀ f, (g f).sent = f.sent) (hg' : ∀ f, (g' f).sent = f.sent)
    (h : x.map sent = y.map sent) :
    (x >>= fun f => pure (g f)).map Delivery.sent = (y >>= fun f => pure (g' f)).map Delivery.sent := by
  have hmap {g : Forwarding → Delivery σ δ} (hg : ∀ f, (g f).sent = f.sent) (x : Except ConsumerFault Forwarding) :
      (x >>= fun f => pure (g f)).map Delivery.sent = x.map sent := by
    cases x with
    | error f => rfl
    | ok f => exact congrArg Except.ok (hg f)
  rw [hmap hg, hmap hg', h]

/-! ## Simple consumers -/

namespace SimpleConsumer

def OpusOnly (codec : MediaCodec δ κ) (c : SimpleConsumer κ) : Prop :=
  c.encodingContext.isSome = true → codec.isOpus = true

theorem opusOnly_create (codec : MediaCodec δ κ) (paused : Bool) (supportedCodecPayloadTypes : List (Fin 128))
    (ignoreDtx : Bool) (rtpStream : RtpStreamSend) :
    (create codec paused supportedCodecPayloadTypes ignoreDtx rtpStream).OpusOnly codec := by
  intro h
  by_contra hopus
  simp [create, hopus] at h

variable {c : SimpleConsumer κ}

theorem processPayload_returns (hc : c.OpusOnly codec.toMediaCodec) :
    Returns (fun r => r.2.1 = p ∧ r.1.rtpStream = c.rtpStream ∧ r.1.OpusOnly codec.toMediaCodec)
      (c.processPayload codec.toCodec env p) := by
  unfold processPayload
  split
  · exact ⟨rfl, rfl, hc⟩
  rename_i context hcontext
  have hopus : codec.isOpus = true := hc (by rw [hcontext]; rfl)
  split
  · trivial
  rename_i r hprocess
  have hpayload : r.payload = p.packet.payload :=
    payload_processPayload (fun d _ => codec.opus hopus d) hprocess
  refine ⟨?_, rfl, fun _ => hopus⟩
  rw [hpayload]
  rfl

theorem sendRtpPacket_returns (hc : c.OpusOnly codec.toMediaCodec) :
    Returns (fun d => Treats codec True env.nowMs [c.rtpStream] (fun c => [c.rtpStream]) sh p d ∧
      d.consumer.OpusOnly codec.toMediaCodec) (c.sendRtpPacket codec.toCodec env sh p) := by
  have hprocess : Returns _ (c.processPayload codec.toCodec env p) := processPayload_returns hc
  unfold sendRtpPacket
  split
  · exact ⟨⟨fun _ => rfl, .dropped (.refl _)⟩, hc⟩
  generalize c.processPayload codec.toCodec env p = r at hprocess ⊢
  rcases r with _ | ⟨c', p', _ | _⟩
  · trivial
  · obtain ⟨hp', hstream, hc'⟩ := hprocess
    exact ⟨⟨fun _ => hp', .dropped (.singleton (hstream ▸ .refl _))⟩, hc'⟩
  obtain ⟨rfl, hstream, hc'⟩ := hprocess
  dsimp only
  split
  · exact ⟨⟨fun _ => rfl, .dropped (.singleton (hstream ▸ .refl _))⟩, hc'⟩
  · refine Ends.bind (forwardOn_returns True (mem_singleton.mpr hstream) rfl (fun _ => rfl) fun _ => Bool.false_or _) ?_
    exact fun f hf => ⟨⟨fun _ => rfl, hf _ fun t ht => .inl (mem_singleton.mp ht)⟩, hc'⟩

theorem sendRtpPacket_sent_eq (codec : Codec δ κ) (c : SimpleConsumer κ) (sh sh' : SharedPackets) (p : MediaPacket δ) :
    (c.sendRtpPacket codec env sh p).map Delivery.sent = (c.sendRtpPacket codec env sh' p).map Delivery.sent := by
  unfold sendRtpPacket
  split
  · rfl
  split
  · rfl
  · rfl
  split
  · rfl
  · exact sent_eq_of_forwardOn (fun _ => rfl) (fun _ => rfl) (forwardOn_sent_eq ..)

end SimpleConsumer

/-! ## SVC consumers -/

namespace SvcConsumer

variable {c : SvcConsumer κ}

theorem forward_returns :
    Returns (Treats codec (codec.PayloadKept p ∧ codec.MarkerKept p) env.nowMs [c.rtpStream] (fun c => [c.rtpStream]) sh p)
      (c.forward codec.toCodec env sh p) := by
  unfold forward
  split
  · trivial
  rename_i r hprocess
  split
  · refine Ends.bind (forwardOn_returns (p := p) (codec.PayloadKept p ∧ codec.MarkerKept p) (mem_singleton_self _)
      rfl ?_ ?_) fun f hf => ?_
    · exact fun hp => payload_processPayload hp.1 hprocess
    · exact fun hp => marker_processPayload (p := p) hp.2 hprocess
    · refine ⟨fun hp => restorePayload_processPayload hp hprocess, hf _ fun t ht => ?_⟩
      exact .inl (mem_singleton.mp ht)
  · rename_i hpassed
    refine ⟨fun _ => dropped_processPayload hprocess (by simpa using hpassed), ?_⟩
    exact .dropped (.refl _)

theorem sync_rtpStream (codec : Codec δ κ) (c : SvcConsumer κ) (seq : UInt16) : (c.sync codec seq).rtpStream = c.rtpStream := by
  unfold sync
  split <;> rfl

theorem sendRtpPacket_returns :
    Returns (Treats codec (codec.PayloadKept p ∧ codec.MarkerKept p) env.nowMs [c.rtpStream] (fun c => [c.rtpStream]) sh p)
      (c.sendRtpPacket codec.toCodec env sh p) := by
  unfold sendRtpPacket
  split
  · exact ⟨fun _ => rfl, .dropped (.refl _)⟩
  · rw [← sync_rtpStream codec.toCodec c p.packet.sequenceNumber]
    exact forward_returns

theorem sendRtpPacket_sent_eq (codec : Codec δ κ) (c : SvcConsumer κ) (sh sh' : SharedPackets) (p : MediaPacket δ) :
    (c.sendRtpPacket codec env sh p).map Delivery.sent = (c.sendRtpPacket codec env sh' p).map Delivery.sent := by
  unfold sendRtpPacket
  split
  · rfl
  unfold forward
  split
  · rfl
  split
  · exact sent_eq_of_forwardOn (fun _ => rfl) (fun _ => rfl) (forwardOn_sent_eq ..)
  · rfl

end SvcConsumer

/-! ## Pipe consumers -/

namespace PipeConsumer

variable {c : PipeConsumer}

theorem mem_of_stream {ssrc : UInt32} {idx : Nat} {s : PipeStream} (h : c.stream ssrc = some (idx, s)) : s ∈ c.rtpStreams := by
  obtain ⟨idx', -, h⟩ := Option.bind_eq_some_iff.mp h
  obtain ⟨s', hs, h⟩ := Option.bind_eq_some_iff.mp h
  cases h
  exact mem_of_getElem? hs

theorem mem_setStream {idx : Nat} {s : PipeStream} {t : RtpStreamSend}
    (h : t ∈ (c.setStream idx s).rtpStreams.map PipeStream.rtpStream) :
    t = s.rtpStream ∨ t ∈ c.rtpStreams.map PipeStream.rtpStream := by
  obtain ⟨s', hs', rfl⟩ := mem_map.mp h
  rcases mem_or_eq_of_mem_set hs' with hmem | rfl
  · exact .inr (mem_map_of_mem hmem)
  · exact .inl rfl

theorem sendRtpPacket_returns : Returns (Treats codec True env.nowMs (c.rtpStreams.map PipeStream.rtpStream)
      (fun c => c.rtpStreams.map PipeStream.rtpStream) sh p) (c.sendRtpPacket codec.toCodec env sh p) := by
  unfold sendRtpPacket
  split
  · exact ⟨fun _ => rfl, .dropped (.refl _)⟩
  split
  · trivial
  split
  · trivial
  rename_i idx s hstream
  split
  · exact ⟨fun _ => rfl, .dropped (.refl _)⟩
  · have hmem : s.rtpStream ∈ c.rtpStreams.map PipeStream.rtpStream := mem_map_of_mem (mem_of_stream hstream)
    refine Ends.bind (forwardOn_returns True hmem rfl (fun _ => rfl) fun _ => Bool.false_or _) ?_
    exact fun f hf => ⟨fun _ => rfl, hf _ fun t ht => mem_setStream ht⟩

theorem sendRtpPacket_sent_eq (codec : Codec δ κ) (c : PipeConsumer) (sh sh' : SharedPackets) (p : MediaPacket δ) :
    (c.sendRtpPacket codec env sh p).map Delivery.sent = (c.sendRtpPacket codec env sh' p).map Delivery.sent := by
  unfold sendRtpPacket
  split
  · rfl
  split
  · rfl
  split
  · rfl
  split
  · rfl
  · exact sent_eq_of_forwardOn (fun _ => rfl) (fun _ => rfl) (forwardOn_sent_eq ..)

end PipeConsumer

/-! ## Simulcast consumers -/

namespace SimulcastConsumer

variable {c : SimulcastConsumer κ}

theorem deliver_returns {q : MediaPacket δ} {s₀ : RtpStreamSend} (hs : StreamKept s₀ c.rtpStream)
    (hpt : q.packet.payloadType = p.packet.payloadType) (hpayload : codec.PayloadKept p → q.packet.payload = p.packet.payload)
    (hmarker : q.packet.marker = p.packet.marker) :
    Returns (fun d => d.packet = q.restorePayload codec.toCodec ∧
      Passes (codec.PayloadKept p) env.nowMs [s₀] [d.consumer.rtpStream] sh p d.shared d.sent)
      (c.deliver codec.toCodec env sh q) := by
  unfold deliver
  split
  · trivial
  dsimp only
  split
  · trivial
  rename_i hreceive
  refine ⟨rfl, .received ⟨s₀, mem_singleton_self _, hs⟩ hreceive ?_ ⟨hpt, hpayload, fun _ => hmarker⟩⟩
  exact fun t ht => .inl (mem_singleton.mp ht)

theorem forward_returns {switches : Bool} :
    Returns (Treats codec (codec.PayloadKept p) env.nowMs [c.rtpStream] (fun c => [c.rtpStream]) sh p)
      (c.forward codec.toCodec env sh p switches) := by
  have hkept : StreamKept c.rtpStream (if switches then c.switchLayer codec.toCodec p env.nowMs else c).rtpStream := by
    cases switches with
    | true => exact .score _ _
    | false => exact .refl _
  unfold forward
  generalize (if switches then c.switchLayer codec.toCodec p env.nowMs else c) = c' at hkept ⊢
  dsimp only
  split
  · trivial
  rename_i r hprocess
  split
  · refine (deliver_returns (p := p) (c := { c' with encodingContext := r.context }) (q := p.setPayload r.payload) hkept rfl
      (fun hp => payload_processPayload hp hprocess) rfl).imp ?_
    exact fun d ⟨hpacket, hpasses⟩ =>
      ⟨fun hp => hpacket.trans (restorePayload_processPayload hp hprocess), hpasses⟩
  rename_i hpassed
  have hpassed : r.passed = false := by
    by_contra hne
    simp [hne] at hpassed
  exact ⟨fun _ => dropped_processPayload hprocess hpassed, .dropped (.singleton hkept)⟩

theorem sendRtpPacket_returns :
    Returns (Treats codec (codec.PayloadKept p) env.nowMs [c.rtpStream] (fun c => [c.rtpStream]) sh p)
      (c.sendRtpPacket codec.toCodec env sh p) := by
  rw [sendRtpPacket_eq]
  refine Ends.bind ((admit_ends codec.toCodec c p).faults fun _ _ => trivial) ?_
  rintro ⟨c₁, _ | switches⟩ ⟨h, -⟩
  · rw [← h.rtpStream]
    exact ⟨fun _ => rfl, .dropped (.refl _)⟩
  · rw [← h.rtpStream]
    exact forward_returns

theorem deliver_sent_eq (codec : Codec δ κ) (c : SimulcastConsumer κ) (sh sh' : SharedPackets) (p : MediaPacket δ) :
    (c.deliver codec env sh p).map Delivery.sent = (c.deliver codec env sh' p).map Delivery.sent := by
  unfold deliver
  split
  · rfl
  rename_i seq _
  dsimp only
  generalize ({ p.packet with
    ssrc := c.ssrc, sequenceNumber := UInt16.ofNat seq, timestamp := p.packet.timestamp - c.tsOffset } : Packet) = packet
  obtain ⟨f, hx, hy⟩ | ⟨t, sh₁, t', sh₂, valid, hx, hy⟩ := c.rtpStream.receivePacket_agree sh sh' packet p.size env.nowMs
  · rw [hx, hy]
  · rw [hx, hy]
    rfl

theorem sendRtpPacket_sent_eq (codec : Codec δ κ) (c : SimulcastConsumer κ) (sh sh' : SharedPackets) (p : MediaPacket δ) :
    (c.sendRtpPacket codec env sh p).map Delivery.sent = (c.sendRtpPacket codec env sh' p).map Delivery.sent := by
  rw [sendRtpPacket_eq, sendRtpPacket_eq]
  rcases c.admitPacket codec p with f | ⟨c₁, _ | switches⟩
  · rfl
  · rfl
  show (c₁.forward codec env sh p switches).map Delivery.sent = (c₁.forward codec env sh' p switches).map Delivery.sent
  unfold forward
  dsimp only
  split
  · rfl
  split
  · exact deliver_sent_eq codec _ sh sh' _
  · rfl

end SimulcastConsumer

/-! ## Consumers of any kind -/

theorem Treats.map {σ τ : Type} {f : σ → τ} {nowMs : Nat} {streams : List RtpStreamSend} {rtpStreams : σ → List RtpStreamSend}
    {rtpStreams' : τ → List RtpStreamSend} {d : Delivery σ δ} (h : Treats codec kept nowMs streams rtpStreams sh p d)
    (hf : ∀ c, rtpStreams' (f c) = rtpStreams c) : Treats codec kept nowMs streams rtpStreams' sh p (d.map f) where
  restored := h.restored
  passes := by
    have hpasses := h.passes
    rw [← hf] at hpasses
    exact hpasses

namespace AnyConsumer

def OpusOnly (codec : MediaCodec δ κ) : AnyConsumer κ → Prop
  | simple c => c.OpusOnly codec
  | _ => True

/-- A consumer of this kind leaves the payload and the marker of the packet as they are. Simple consumers have a context for
Opus only and pipe consumers none, and simulcast consumers do not set the marker. -/
def Keeps (codec : LawfulCodec δ κ) (p : MediaPacket δ) : AnyConsumer κ → Prop
  | simple _ => True
  | simulcast _ => codec.PayloadKept p
  | svc _ => codec.PayloadKept p ∧ codec.MarkerKept p
  | pipe _ => True

instance (codec : LawfulCodec δ κ) (p : MediaPacket δ) : ∀ c : AnyConsumer κ, Decidable (c.Keeps codec p)
  | simple _ => isTrue trivial
  | simulcast _ => inferInstanceAs (Decidable (codec.PayloadKept p))
  | svc _ => inferInstanceAs (Decidable (codec.PayloadKept p ∧ codec.MarkerKept p))
  | pipe _ => isTrue trivial

theorem sendRtpPacket_returns {c : AnyConsumer κ} (hc : c.OpusOnly codec.toMediaCodec) :
    Returns (fun d => Treats codec (c.Keeps codec p) env.nowMs c.rtpStreams rtpStreams sh p d ∧
      d.consumer.OpusOnly codec.toMediaCodec) (c.sendRtpPacket codec.toCodec env sh p) := by
  cases c with
  | simple c => exact (c.sendRtpPacket_returns hc).map fun _ hd => ⟨Treats.map hd.1 fun _ => rfl, hd.2⟩
  | simulcast c => exact c.sendRtpPacket_returns.map fun _ hd => ⟨Treats.map hd fun _ => rfl, trivial⟩
  | svc c => exact c.sendRtpPacket_returns.map fun _ hd => ⟨Treats.map hd fun _ => rfl, trivial⟩
  | pipe c => exact c.sendRtpPacket_returns.map fun _ hd => ⟨Treats.map hd fun _ => rfl, trivial⟩

theorem sendRtpPacket_sent_eq (codec : Codec δ κ) (c : AnyConsumer κ) (sh sh' : SharedPackets) (p : MediaPacket δ) :
    (c.sendRtpPacket codec env sh p).map Delivery.sent = (c.sendRtpPacket codec env sh' p).map Delivery.sent := by
  have hmap : ∀ {σ τ : Type} (f : σ → τ) (x : Except ConsumerFault (Delivery σ δ)),
      (x.map (Delivery.map f)).map Delivery.sent = x.map Delivery.sent := by
    intro σ τ f x
    cases x with
    | error e => rfl
    | ok d => rfl
  cases c with
  | simple c =>
    simp only [sendRtpPacket, hmap]
    exact c.sendRtpPacket_sent_eq codec sh sh' p
  | simulcast c =>
    simp only [sendRtpPacket, hmap]
    exact c.sendRtpPacket_sent_eq codec sh sh' p
  | svc c =>
    simp only [sendRtpPacket, hmap]
    exact c.sendRtpPacket_sent_eq codec sh sh' p
  | pipe c =>
    simp only [sendRtpPacket, hmap]
    exact c.sendRtpPacket_sent_eq codec sh sh' p

end AnyConsumer

end Mediasoup.Consumer
