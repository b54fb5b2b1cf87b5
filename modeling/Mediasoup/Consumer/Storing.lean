import Mediasoup.Consumer.Sending

/-!
# What a consumer stores and retransmits

The streams of a consumer are sound with respect to what the consumer has sent if every item they store is the one of a
packet sent before (`AnyConsumer.Sound`). Packets, NACKs and calls keep it; for packets this takes that the clone which is
shared already, if there is one, has the payload type, marker and payload of the packet that this consumer sends (`Fits`).
-/

namespace Mediasoup.Consumer

open Lib Rtp Codecs List RtpStreamSend

variable {δ κ : Type} {kept : Prop} {nowMs : Nat} {streams streams' : List RtpStreamSend} {sh sh' : SharedPackets}
  {p : MediaPacket δ} {sent : Option Packet} {log log' : List Packet}

/-! ## Streams -/

theorem StreamKept.sound {s s' : RtpStreamSend} {clones clones' : List Packet} (hkept : StreamKept s s')
    (hs : Sound clones log s) (hclones : CoresKept clones clones') (hlog : log ⊆ log') : Sound clones' log' s' :=
  hs.mono hclones hlog hkept.stored hkept.params hkept.hasRtx

theorem StreamsKept.sound {clones : List Packet} (hkept : StreamsKept streams streams')
    (hs : ∀ s ∈ streams, Sound clones log s) : ∀ s ∈ streams', Sound clones log s := by
  intro s' hs'
  obtain ⟨s, hmem, hs'⟩ := hkept s' hs'
  exact hs'.sound (hs s hmem) (.refl _) (List.Subset.refl log)

/-- A stream with a buffer may store the packet: its payload type is one of seven bits, and the one of the stream if RTX
restores it. -/
structure Storable (pt : UInt8) (s : RtpStreamSend) : Prop where
  sevenBits : pt % 128 = pt
  ownPayloadType : s.hasRtx = true → pt = s.params.payloadType

/-- The clone that is shared already is the one of a packet like `p`, which the consumer keeps as it is, and is not one that
the stream refers to. -/
def Fits (kept : Prop) (sh : SharedPackets) (p : MediaPacket δ) (s : RtpStreamSend) : Prop :=
  ∀ k, sh.shared = some k →
    kept ∧ sh.clones[k]?.map Packet.core = some p.packet.core ∧ ∀ item ∈ s.stored.reduceOption, item.packet ≠ k

theorem Rewrites.core {packet : Packet} (h : Rewrites kept p packet) (hkept : kept) : packet.core = p.packet.core := by
  rw [Packet.core, Packet.core, h.payloadType, h.marker hkept, h.payload hkept]

theorem Fits.share {packet : Packet} {s : RtpStreamSend} (h : Fits kept sh p s) (hs : Sound sh.clones log s) (hkept : kept)
    (hcore : packet.core = p.packet.core) : Fits kept (sh.share packet).1 p s := by
  have hshareable : Shareable sh packet s := fun k hk => hcore ▸ (h k hk).2
  obtain ⟨hclone, hother⟩ := hs.share hshareable
  have hshared : (sh.share packet).1.shared = some (sh.share packet).2 := by
    unfold SharedPackets.share
    cases hsh : sh.shared with
    | some k => exact hsh
    | none => rfl
  intro k hk
  rw [hshared, Option.some.injEq] at hk
  rw [← hk, ← hcore]
  exact ⟨hkept, hclone, hother⟩

theorem Passes.sound (h : Passes kept nowMs streams streams' sh p sh' sent) (hs : ∀ s ∈ streams, Sound sh.clones log s)
    (hstorable : ∀ s ∈ streams, s.retransmissionBuffer.isSome = true → Storable p.packet.payloadType s ∧ Fits kept sh p s)
    (hlog : log ⊆ log') (hsent : ∀ packet ∈ sent, packet ∈ log') :
    (∀ s ∈ streams', Sound sh'.clones log' s) ∧ CoresKept sh.clones sh'.clones := by
  cases h with
  | dropped hstreams =>
    refine ⟨?_, .refl _⟩
    intro s' hs'
    obtain ⟨s, hmem, hkept⟩ := hstreams s' hs'
    exact hkept.sound (hs s hmem) (.refl _) hlog
  | received hold hreceive hstreams hpacket =>
    obtain ⟨s₀, hmem, hkept⟩ := hold
    rename_i s s' packet size valid
    have hbefore : Sound sh.clones log s := hkept.sound (hs s₀ hmem) (.refl _) (List.Subset.refl log)
    have hown : s.retransmissionBuffer.isSome = true → packet.payloadType % 128 = packet.payloadType ∧
        (s.hasRtx = true → packet.payloadType = s.params.payloadType) ∧ Shareable sh packet s := by
      intro hbuffer
      rw [hkept.buffer] at hbuffer
      obtain ⟨hstorable, hfits⟩ := hstorable s₀ hmem hbuffer
      rw [hpacket.payloadType, hkept.params, hkept.hasRtx]
      refine ⟨hstorable.sevenBits, hstorable.ownPayloadType, ?_⟩
      intro k hk
      obtain ⟨hkeeps, hcore, hother⟩ := hfits k hk
      rw [hpacket.core hkeeps]
      exact ⟨hcore, fun item hitem => hother item (hkept.stored.subset hitem)⟩
    obtain ⟨hafter, hcores⟩ := hbefore.receivePacket hreceive hlog (fun hvalid => hsent packet (by simp [hvalid])) hown
    refine ⟨?_, hcores⟩
    intro t ht
    rcases hstreams t ht with rfl | ⟨t₀, hmem, hkept⟩
    · exact hafter
    · exact hkept.sound (hs t₀ hmem) hcores hlog

theorem Passes.shared (h : Passes kept nowMs streams streams' sh p sh' sent) :
    sh' = sh ∨ (∃ s ∈ streams, s.retransmissionBuffer.isSome = true) ∧
      ∃ packet, Rewrites kept p packet ∧ sh' = (sh.share packet).1 := by
  cases h with
  | dropped hstreams => exact .inl rfl
  | received hold hreceive hstreams hpacket =>
    obtain ⟨s₀, hmem, hkept⟩ := hold
    obtain ⟨-, -, ⟨-, hsh⟩ | ⟨-, hbuffer, hsh, -⟩⟩ := receivePacket_cases hreceive
    · exact .inl hsh
    · exact .inr ⟨⟨s₀, hmem, hkept.buffer ▸ hbuffer⟩, _, hpacket, hsh⟩

/-! ## Consumers of any kind -/

theorem stored_create (params : RtpStreamParams) (type : MimeType.Kind) : (create params type).stored = [] := by
  unfold stored create
  cases params.useNack with
  | true => rfl
  | false => rfl

theorem sound_of_isNew {s : RtpStreamSend} {clones : List Packet} (h : s.IsNew) : Sound clones log s := by
  have hstored : s.stored.reduceOption = [] := by
    cases h with
    | plain params type => rw [stored_create, reduceOption_nil]
    | rtx params type payloadType ssrc rtxSeq =>
      exact (congrArg List.reduceOption (stored_create params type)).trans reduceOption_nil
  constructor
  · intro item hitem
    simp [hstored] at hitem
  · rw [hstored]
    exact nodup_nil

namespace AnyConsumer

variable {c c' : AnyConsumer κ} {clones clones' : List Packet}

def Sound (clones log : List Packet) (c : AnyConsumer κ) : Prop := ∀ s ∈ c.rtpStreams, Rtp.Sound clones log s

theorem Sound.mono (h : c.Sound clones log) (hclones : CoresKept clones clones') : c.Sound clones' log :=
  fun s hs => (StreamKept.refl s).sound (h s hs) hclones (List.Subset.refl log)

variable {codec : MediaCodec δ κ}

theorem IsNew.sound (h : IsNew codec c) : c.Sound clones log := by
  intro s hs
  apply sound_of_isNew
  cases h with
  | simple _ _ _ hnew => rwa [mem_singleton.mp hs]
  | simulcast _ _ _ _ hnew => rwa [mem_singleton.mp hs]
  | svc _ _ _ _ hnew => rwa [mem_singleton.mp hs]
  | pipe _ _ hnew =>
    simp only [rtpStreams, PipeConsumer.create, map_map, mem_map] at hs
    obtain ⟨e, he, rfl⟩ := hs
    exact hnew e he

theorem IsNew.opusOnly (h : IsNew codec c) : c.OpusOnly codec := by
  cases h with
  | simple => exact SimpleConsumer.opusOnly_create codec _ _ _ _
  | simulcast => trivial
  | svc => trivial
  | pipe => trivial

/-! ### Calls -/

theorem Kept.rtpStreams (h : Kept c c') : StreamsKept c.rtpStreams c'.rtpStreams := by
  intro s hs
  cases h with
  | simple h => exact ⟨_, mem_singleton_self _, mem_singleton.mp hs ▸ h.rtpStream⟩
  | simulcast h => exact ⟨_, mem_singleton_self _, mem_singleton.mp hs ▸ h.rtpStream⟩
  | svc h => exact ⟨_, mem_singleton_self _, mem_singleton.mp hs ▸ h.rtpStream⟩
  | pipe h =>
    obtain ⟨t, ht, rfl⟩ := mem_map.mp hs
    obtain ⟨t₀, hmem, hkept⟩ := h.rtpStreams t ht
    exact ⟨_, mem_map_of_mem hmem, hkept.1⟩

theorem Kept.opusOnly (h : Kept c c') (hc : c.OpusOnly codec) : c'.OpusOnly codec := by
  cases h with
  | simple h =>
    intro hsome
    rw [h.encodingContext] at hsome
    exact hc hsome
  | simulcast => trivial
  | svc => trivial
  | pipe => trivial

/-! ### NACKs -/

theorem receiveNack_stream {s : RtpStreamSend} (hs : Rtp.Sound clones log s) (nowMs : Nat) (items : List NackItem) :
    Rtp.Sound (s.receiveNack clones nowMs items).clones log (s.receiveNack clones nowMs items).stream ∧
      CoresKept clones (s.receiveNack clones nowMs items).clones ∧
      ∀ r ∈ (s.receiveNack clones nowMs items).packets.map (Resent.mk s.hasRtx s.params), r.Faithful log := by
  have hanswered := hs.receiveNack nowMs items
  refine ⟨hanswered.sound hs, hanswered.cores, ?_⟩
  intro r hr
  obtain ⟨packet, hpacket, rfl⟩ := mem_map.mp hr
  exact hanswered.faithful packet hpacket

theorem receiveNack_inactive {c : AnyConsumer κ} (hc : c.Sound clones log) :
    c.Sound clones log ∧ CoresKept clones clones ∧ ∀ r ∈ ([] : List Resent), r.Faithful log :=
  ⟨hc, .refl _, fun _ h => absurd h not_mem_nil⟩

theorem answerNack_sound {s : RtpStreamSend} {setStream : RtpStreamSend → AnyConsumer κ} (hstreams : c.rtpStreams = [s])
    (hset : ∀ s, (setStream s).rtpStreams = [s]) (hc : c.Sound clones log) (active : Bool) (nowMs : Nat)
    (items : List NackItem) :
    (answerNack c active s setStream clones nowMs items).consumer.Sound
        (answerNack c active s setStream clones nowMs items).clones log ∧
      CoresKept clones (answerNack c active s setStream clones nowMs items).clones ∧
      ∀ r ∈ (answerNack c active s setStream clones nowMs items).resent, r.Faithful log := by
  cases active with
  | false => exact receiveNack_inactive hc
  | true =>
    have hs : Rtp.Sound clones log s := hc s (by rw [hstreams]; exact mem_singleton_self s)
    obtain ⟨hsound, hrest⟩ := receiveNack_stream hs nowMs items
    refine ⟨?_, hrest⟩
    intro t ht
    have ht : t ∈ (setStream (s.receiveNack clones nowMs items).stream).rtpStreams := ht
    rw [hset] at ht
    rw [mem_singleton.mp ht]
    exact hsound

theorem receiveNack_sound {mediaSsrc : UInt32} {items : List NackItem} {a : NackAnswer (AnyConsumer κ)}
    (hc : c.Sound clones log) (h : c.receiveNack clones nowMs mediaSsrc items = .ok a) :
    a.consumer.Sound a.clones log ∧ CoresKept clones a.clones ∧ ∀ r ∈ a.resent, r.Faithful log := by
  cases c with
  | simple c =>
    cases h
    exact answerNack_sound rfl (fun _ => rfl) hc _ nowMs items
  | simulcast c =>
    simp only [receiveNack, SimulcastConsumer.receiveNack, Except.ok.injEq] at h
    rw [← h]
    split
    · obtain ⟨hsound, hrest⟩ := receiveNack_stream (hc c.rtpStream (mem_singleton_self _)) nowMs items
      refine ⟨?_, hrest⟩
      intro t ht
      rw [mem_singleton.mp ht]
      exact hsound
    · exact receiveNack_inactive hc
  | svc c =>
    cases h
    exact answerNack_sound rfl (fun _ => rfl) hc _ nowMs items
  | pipe c =>
    simp only [receiveNack, PipeConsumer.receiveNack] at h
    split at h
    · split at h
      · cases h
      rename_i idx s hstream
      cases h
      have hs : Rtp.Sound clones log s.rtpStream := hc _ (mem_map_of_mem (PipeConsumer.mem_of_stream hstream))
      obtain ⟨hsound, hcores, hfaithful⟩ := receiveNack_stream hs nowMs items
      refine ⟨?_, hcores, hfaithful⟩
      intro t ht
      rcases PipeConsumer.mem_setStream ht with rfl | hmem
      · exact hsound
      · exact hc.mono hcores t hmem
    · cases h
      exact receiveNack_inactive hc

theorem receiveNack_opusOnly {mediaSsrc : UInt32} {items : List NackItem}
    {a : NackAnswer (AnyConsumer κ)} (hc : c.OpusOnly codec)
    (h : c.receiveNack clones nowMs mediaSsrc items = .ok a) : a.consumer.OpusOnly codec := by
  cases c with
  | simple c =>
    simp only [receiveNack, answerNack, Except.ok.injEq] at h
    rw [← h]
    split
    · exact hc
    · exact hc
  | simulcast c =>
    cases h
    trivial
  | svc c =>
    simp only [receiveNack, answerNack, Except.ok.injEq] at h
    rw [← h]
    split
    · trivial
    · trivial
  | pipe c =>
    simp only [receiveNack] at h
    cases hanswer : c.receiveNack clones nowMs mediaSsrc items with
    | error f =>
      rw [hanswer] at h
      cases h
    | ok r =>
      rw [hanswer] at h
      cases h
      trivial

/-! ### Packets -/

def mayStore (c : AnyConsumer κ) (payloadType : UInt8) : Bool :=
  c.isActive && c.base.supports payloadType && c.rtpStreams.any fun s => s.retransmissionBuffer.isSome

theorem sendRtpPacket_ignored (codec : Codec δ κ) (env : SendEnv)
    (h : (c.isActive && c.base.supports p.packet.payloadType) = false) :
    c.sendRtpPacket codec env sh p = .ok { consumer := c, shared := sh, packet := p } := by
  rw [Bool.and_eq_false_iff] at h
  cases c with
  | simple c =>
    simp only [isActive, base] at h
    simp only [sendRtpPacket, SimpleConsumer.sendRtpPacket]
    rw [if_pos (by rcases h with h | h <;> simp [h])]
    rfl
  | simulcast c =>
    simp only [isActive, base] at h
    simp only [sendRtpPacket, SimulcastConsumer.sendRtpPacket]
    rw [if_pos (by rcases h with h | h <;> simp [h])]
    rfl
  | svc c =>
    simp only [isActive, base] at h
    simp only [sendRtpPacket, SvcConsumer.sendRtpPacket]
    rw [if_pos (by rcases h with h | h <;> simp [h])]
    rfl
  | pipe c =>
    simp only [isActive, base] at h
    simp only [sendRtpPacket, PipeConsumer.sendRtpPacket]
    rw [if_pos (by rcases h with h | h <;> simp [h])]
    rfl

theorem sevenBits_of_supports {b : ConsumerBase} {payloadType : UInt8} (h : b.supports payloadType = true) :
    payloadType % 128 = payloadType := by
  obtain ⟨t, -, ht⟩ := any_eq_true.mp h
  have hlt := t.isLt
  rw [beq_iff_eq] at ht
  apply UInt8.toNat_inj.mp
  rw [UInt8.toNat_mod, ← ht]
  exact Nat.mod_eq_of_lt hlt

/-- Streams with RTX send the packet with the payload type of the stream, which is the one that a receiver restores. -/
def RestoresPayloadType (c : AnyConsumer κ) (payloadType : UInt8) : Prop :=
  ∀ s ∈ c.rtpStreams, s.hasRtx = true → payloadType = s.params.payloadType

instance (c : AnyConsumer κ) (payloadType : UInt8) : Decidable (c.RestoresPayloadType payloadType) :=
  inferInstanceAs (Decidable (∀ s ∈ c.rtpStreams, s.hasRtx = true → payloadType = s.params.payloadType))

theorem sendRtpPacket_sound {codec : LawfulCodec δ κ} {env : SendEnv} {d : Delivery (AnyConsumer κ) δ}
    (hopus : c.OpusOnly codec.toMediaCodec) (h : c.sendRtpPacket codec.toCodec env sh p = .ok d)
    (hc : c.Sound sh.clones log)
    (hready : c.mayStore p.packet.payloadType = true →
      c.RestoresPayloadType p.packet.payloadType ∧ ∀ s ∈ c.rtpStreams, Fits (c.Keeps codec p) sh p s)
    (hlog : log ⊆ log') (hsent : ∀ packet ∈ d.sent, packet ∈ log') :
    d.consumer.Sound d.shared.clones log' ∧ CoresKept sh.clones d.shared.clones ∧
      (d.shared = sh ∨ c.mayStore p.packet.payloadType = true ∧
        ∃ packet, Rewrites (c.Keeps codec p) p packet ∧ d.shared = (sh.share packet).1) := by
  by_cases hactive : (c.isActive && c.base.supports p.packet.payloadType) = true
  · have hmay : ∀ s ∈ c.rtpStreams, s.retransmissionBuffer.isSome = true → c.mayStore p.packet.payloadType = true := by
      intro s hs hbuffer
      rw [mayStore, hactive, Bool.true_and]
      exact any_eq_true.mpr ⟨s, hs, hbuffer⟩
    have hseven := sevenBits_of_supports (Bool.and_eq_true_iff.mp hactive).2
    have hpasses := ((sendRtpPacket_returns hopus).of_ok h).1.passes
    obtain ⟨hsound, hcores⟩ := hpasses.sound hc (fun s hs hbuffer => by
      obtain ⟨hown, hfits⟩ := hready (hmay s hs hbuffer)
      exact ⟨⟨hseven, hown s hs⟩, hfits s hs⟩) hlog hsent
    refine ⟨hsound, hcores, ?_⟩
    obtain hsame | ⟨⟨s, hs, hbuffer⟩, hshared⟩ := hpasses.shared
    · exact .inl hsame
    · exact .inr ⟨hmay s hs hbuffer, hshared⟩
  · rw [sendRtpPacket_ignored codec.toCodec env (Bool.eq_false_iff.mpr hactive)] at h
    cases h
    exact ⟨fun s hs => (StreamKept.refl s).sound (hc s hs) (.refl _) hlog, .refl _, .inl rfl⟩

end AnyConsumer

end Mediasoup.Consumer
