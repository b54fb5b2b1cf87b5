import Mediasoup.Consumer.Storing
import Mediasoup.Router.Serve

/-!
# The clone that the consumers of a producer share

The first consumer that stores a packet in a retransmission buffer clones it, with its own payload type, marker and payload, and
those after it store the same clone. Each keeps only the SSRC, sequence number and timestamp for itself.

`Allowed`: no two consumers may store a packet that one of them may rewrite. Then every retransmission is of a packet that the
consumer has sent (`eachStep_of_allowed`), otherwise it may be what another one has sent (`resends_payload_of_another`).
-/

namespace Mediasoup.Router

open Lib Rtp Codecs Consumer List AnyConsumer SimulcastConsumer

variable {δ κ : Type}

/-! ## The consumers of a producer -/

/-- The consumers of a producer, in the order they were served last, and the clones that they share. -/
structure World (codec : LawfulCodec δ κ) where
  members : List (Member codec.toMediaCodec) := []
  clones : List Packet := []

inductive Event (codec : LawfulCodec δ κ)
  | newConsumer (mid : List UInt8) (c : AnyConsumer κ) (h : AnyConsumer.IsNew codec.toMediaCodec c)
  | consumerClosed (idx : Nat)
  /-- `OnTransportProducerRtpPacketReceived`; the consumers are a hash set -/
  | packet (env : SendEnv) (order : Order (Member codec.toMediaCodec)) (p : ProducerPacket codec.toCodec)
  | nack (idx : Nat) (nowMs : Nat) (mediaSsrc : UInt32) (items : List NackItem)
  | call (idx : Nat) (env : CallEnv) (call : SimulcastConsumer.Call)

variable {codec : LawfulCodec δ κ}

namespace Member

def log (m : Member codec.toMediaCodec) : List Packet := m.sent.map Wire.packet

def receiveNack (m : Member codec.toMediaCodec) (clones : List Packet) (nowMs : Nat) (mediaSsrc : UInt32)
    (items : List NackItem) : Except ConsumerFault (Member codec.toMediaCodec × List Packet) :=
  match h : m.consumer.receiveNack clones nowMs mediaSsrc items with
  | .error f => .error f
  | .ok a =>
    .ok
      ({ m with
          consumer := a.consumer
          opusOnly := receiveNack_opusOnly m.opusOnly h
          resent := m.resent ++ a.resent }, a.clones)

def call (m : Member codec.toMediaCodec) (env : CallEnv) (e : SimulcastConsumer.Call) :
    Except ConsumerFault (Member codec.toMediaCodec) :=
  match h : m.consumer.call env e with
  | .error f => .error f
  | .ok c =>
    have hkept : AnyConsumer.Kept m.consumer c := by
      have hends := call_kept env m.consumer e
      rwa [h] at hends
    .ok { m with consumer := c, opusOnly := hkept.opusOnly m.opusOnly }

end Member

def World.step (w : World codec) : Event codec → Except ConsumerFault (World codec)
  | .newConsumer mid c h => .ok { w with members := { mid := mid, consumer := c, opusOnly := h.opusOnly } :: w.members }
  | .consumerClosed idx => .ok { w with members := w.members.eraseIdx idx }
  | .packet env order p => do
    let r ← serveAll codec env (order.arrange w.members) { clones := w.clones } p.routed
    return { members := r.members, clones := r.shared.clones }
  | .nack idx nowMs mediaSsrc items =>
    match w.members[idx]? with
    | none => .ok w
    | some m => do
      let (m, clones) ← m.receiveNack w.clones nowMs mediaSsrc items
      return { members := w.members.set idx m, clones := clones }
  | .call idx env e =>
    match w.members[idx]? with
    | none => .ok w
    | some m => do
      let m ← m.call env e
      return { w with members := w.members.set idx m }

/-! ## The condition -/

/-- If both may store the packet, none of them rewrites it. -/
def Compatible (codec : LawfulCodec δ κ) (p : MediaPacket δ) (m m' : Member codec.toMediaCodec) : Prop :=
  m.consumer.mayStore p.packet.payloadType = true → m'.consumer.mayStore p.packet.payloadType = true →
    m.consumer.Keeps codec p ∧ m'.consumer.Keeps codec p

instance (p : MediaPacket δ) (m m' : Member codec.toMediaCodec) : Decidable (Compatible codec p m m') :=
  inferInstanceAs (Decidable (_ → _ → _))

/-- The condition: any two consumers are compatible for the packet, and streams with RTX get their own payload type. -/
def Allowed (w : World codec) : Event codec → Prop
  | .packet _ _ p =>
    w.members.Pairwise (Compatible codec p.toMediaPacket) ∧ ∀ m ∈ w.members, m.consumer.mayStore p.packet.payloadType = true →
        m.consumer.RestoresPayloadType p.packet.payloadType
  | _ => True

instance (w : World codec) : ∀ e, Decidable (Allowed w e)
  | .packet _ _ p => inferInstanceAs (Decidable (w.members.Pairwise (Compatible codec p.toMediaPacket) ∧ _))
  | .newConsumer _ _ _ | .consumerClosed _ | .nack _ _ _ _ | .call _ _ _ => isTrue trivial

/-! ## The invariant -/

variable {clones clones' : List Packet} {m m' : Member codec.toMediaCodec}

structure Member.Inv (clones : List Packet) (m : Member codec.toMediaCodec) : Prop where
  sound : m.consumer.Sound clones m.log
  faithful : ∀ r ∈ m.resent, r.Faithful m.log

theorem Member.Inv.mono (h : m.Inv clones) (hclones : CoresKept clones clones') : m.Inv clones' :=
  { h with sound := h.sound.mono hclones }

instance (p q : Packet) : Decidable (p.SameButPadding q) :=
  inferInstanceAs (Decidable ({ p with payloadPadding := 0 } = { q with payloadPadding := 0 }))

instance (log : List Packet) (r : Resent) : Decidable (r.Faithful log) :=
  match h : r.undo with
  | none => isFalse fun ⟨_, hu, _⟩ => by simp [h] at hu
  | some u => decidable_of_iff (∃ o ∈ log, u.SameButPadding o) (by simp [Resent.Faithful, h])

theorem faithful_mono {log log' : List Packet} {r : Resent} (h : r.Faithful log) (hlog : log ⊆ log') : r.Faithful log' := by
  obtain ⟨u, hu, o, ho, hsame⟩ := h
  exact ⟨u, hu, o, hlog ho, hsame⟩

theorem Compatible.symm {p : MediaPacket δ} (h : Compatible codec p m m') : Compatible codec p m' m :=
  fun hm' hm => (h hm hm').symm

/-! ## Packets -/

section Packets

variable {env : SendEnv} {sh : SharedPackets} {p : RoutedPacket δ} {q : MediaPacket δ}

/-- The clone that is shared so far fits the consumer, if it may store the packet. -/
def Ready (codec : LawfulCodec δ κ) (sh : SharedPackets) (q : MediaPacket δ) (m : Member codec.toMediaCodec) : Prop :=
  m.consumer.mayStore q.packet.payloadType = true → m.consumer.RestoresPayloadType q.packet.payloadType ∧
      ∀ s ∈ m.consumer.rtpStreams, Fits (m.consumer.Keeps codec q) sh q s

theorem serve_inv {t : Turn codec} (hq : p.toMediaPacket = q) (h : serve codec env m sh p = .ok t) (hm : m.Inv sh.clones)
    (hready : Ready codec sh q m) :
    t.member.Inv t.shared.clones ∧ CoresKept sh.clones t.shared.clones ∧
      (t.shared = sh ∨ m.consumer.mayStore q.packet.payloadType = true ∧
        ∃ packet, Rewrites (m.consumer.Keeps codec q) q packet ∧ t.shared = (sh.share packet).1) := by
  obtain ⟨d, hd, hconsumer, -, hresent, hsent, hshared, -, hwire⟩ := serve_eq_ok h
  rw [updateMid_toMediaPacket, hq] at hd
  have hlog : t.member.log = m.log ++ d.sent.toList := by
    rw [Member.log, hsent, map_append, ← hwire, Option.toList_map]
    rfl
  have hsub : m.log ⊆ t.member.log := by
    rw [hlog]
    exact subset_append_left _ _
  obtain ⟨hsound, hcores, hcases⟩ := sendRtpPacket_sound m.opusOnly hd hm.sound hready hsub (by
    intro packet hpacket
    rw [hlog]
    exact mem_append_right _ (Option.mem_toList.mpr hpacket))
  rw [hshared]
  refine ⟨⟨?_, ?_⟩, hcores, hcases⟩
  · rw [hconsumer]
    exact hsound
  · intro r hr
    rw [hresent] at hr
    exact faithful_mono (hm.faithful r hr) hsub

theorem Ready.serve {t : Turn codec} (hready : Ready codec sh q m') (hm' : m'.Inv sh.clones)
    (hcompatible : Compatible codec q m m')
    (hcases : t.shared = sh ∨ m.consumer.mayStore q.packet.payloadType = true ∧
        ∃ packet, Rewrites (m.consumer.Keeps codec q) q packet ∧ t.shared = (sh.share packet).1) :
    Ready codec t.shared q m' := by
  rcases hcases with hsame | ⟨hmay, packet, hpacket, hshare⟩
  · rw [hsame]
    exact hready
  intro hmay'
  obtain ⟨hrestores, hfits⟩ := hready hmay'
  obtain ⟨hkeeps, hkeeps'⟩ := hcompatible hmay hmay'
  refine ⟨hrestores, ?_⟩
  intro s hs
  rw [hshare]
  exact (hfits s hs).share (hm'.sound s hs) hkeeps' (hpacket.core hkeeps)

theorem serveAll_inv : ∀ {ms : List (Member codec.toMediaCodec)} {sh : SharedPackets} {p : RoutedPacket δ}
    {r : Routing codec}, p.toMediaPacket = q → q.Described codec.toCodec → serveAll codec env ms sh p = .ok r →
    ms.Pairwise (Compatible codec q) → (∀ m ∈ ms, m.Inv sh.clones) → (∀ m ∈ ms, Ready codec sh q m) →
    (∀ m ∈ r.members, m.Inv r.shared.clones) ∧ CoresKept sh.clones r.shared.clones
  | [], sh, p, r, _, _, h, _, _, _ => by
    cases h
    exact ⟨fun _ hm => absurd hm not_mem_nil, .refl _⟩
  | m :: ms, sh, p, r, hp, hq, h, hpairs, hinv, hready => by
    obtain ⟨t, ht, h⟩ := exists_of_bind_eq_ok h
    obtain ⟨r', hr', h⟩ := exists_of_bind_eq_ok h
    cases h
    rw [pairwise_cons] at hpairs
    rw [forall_mem_cons] at hinv hready
    obtain ⟨hmember, hcores, hcases⟩ := serve_inv hp ht hinv.1 hready.1
    have hpacket : t.packet.toMediaPacket = q := by
      rw [serve_packet (hp ▸ hq) ht, updateMid_toMediaPacket, hp]
    -- the other consumers have not been served yet: their streams are as they were
    obtain ⟨hrest, hcores'⟩ := serveAll_inv hpacket hq hr' hpairs.2 (fun m' hm' => (hinv.2 m' hm').mono hcores)
      (fun m' hm' => (hready.2 m' hm').serve (hinv.2 m' hm') (hpairs.1 m' hm') hcases)
    refine ⟨?_, hcores.trans hcores'⟩
    intro m' hm'
    rcases mem_cons.mp hm' with rfl | hm'
    · exact hmember.mono hcores'
    · exact hrest m' hm'

end Packets

/-! ## Runs -/

/-- Every packet that a consumer has retransmitted is, after undoing the RTX encapsulation, one that it sent before. -/
def World.Faithful (w : World codec) : Prop := ∀ m ∈ w.members, ∀ r ∈ m.resent, r.Faithful m.log

instance (w : World codec) : Decidable w.Faithful :=
  inferInstanceAs (Decidable (∀ m ∈ w.members, ∀ r ∈ m.resent, r.Faithful m.log))

def World.Inv (w : World codec) : Prop := ∀ m ∈ w.members, m.Inv w.clones

theorem World.Inv.faithful {w : World codec} (h : w.Inv) : w.Faithful := fun m hm => (h m hm).faithful

theorem receiveNack_inv {nowMs : Nat} {mediaSsrc : UInt32} {items : List NackItem} (hm : m.Inv clones)
    (h : m.receiveNack clones nowMs mediaSsrc items = .ok (m', clones')) : m'.Inv clones' ∧ CoresKept clones clones' := by
  unfold Member.receiveNack at h
  split at h
  · cases h
  rename_i a hanswer
  cases h
  obtain ⟨hsound, hcores, hfaithful⟩ := receiveNack_sound hm.sound hanswer
  refine ⟨⟨hsound, ?_⟩, hcores⟩
  intro r hr
  rcases mem_append.mp hr with hr | hr
  · exact hm.faithful r hr
  · exact hfaithful r hr

theorem call_inv {env : CallEnv} {e : SimulcastConsumer.Call} (hm : m.Inv clones) (h : m.call env e = .ok m') :
    m'.Inv clones := by
  unfold Member.call at h
  split at h
  · cases h
  rename_i c hcall
  have hends := call_kept env m.consumer e
  rw [hcall] at hends
  cases h
  exact ⟨AnyConsumer.Kept.rtpStreams hends |>.sound hm.sound, hm.faithful⟩

theorem step_inv {w w' : World codec} {e : Event codec} (hw : w.Inv) (hallowed : Allowed w e) (h : w.step e = .ok w') :
    w'.Inv := by
  cases e with
  | newConsumer mid c hnew =>
    cases h
    refine forall_mem_cons.mpr ⟨⟨hnew.sound, ?_⟩, hw⟩
    exact fun r hr => absurd hr not_mem_nil
  | consumerClosed idx =>
    cases h
    exact fun m hm => hw m (mem_of_mem_eraseIdx hm)
  | packet env order p =>
    obtain ⟨r, hr, h⟩ := exists_of_bind_eq_ok h
    cases h
    have hperm := order.perm w.members
    have hpairs := (hperm.pairwise_iff Compatible.symm).mpr hallowed.1
    refine (serveAll_inv rfl p.described hr hpairs (fun m hm => hw m (hperm.mem_iff.mp hm)) ?_).1
    -- nothing is shared yet
    exact fun m hm hmay => ⟨hallowed.2 m (hperm.mem_iff.mp hm) hmay, fun _ _ k hk => nomatch hk⟩
  | nack idx nowMs mediaSsrc items =>
    simp only [World.step] at h
    split at h
    · cases h
      exact hw
    rename_i m hm
    obtain ⟨⟨m', clones⟩, hanswer, h⟩ := exists_of_bind_eq_ok h
    cases h
    obtain ⟨hinv, hcores⟩ := receiveNack_inv (hw m (mem_of_getElem? hm)) hanswer
    intro t ht
    rcases mem_or_eq_of_mem_set ht with ht | rfl
    · exact (hw t ht).mono hcores
    · exact hinv
  | call idx env e =>
    simp only [World.step] at h
    split at h
    · cases h
      exact hw
    rename_i m hm
    obtain ⟨m', hcall, h⟩ := exists_of_bind_eq_ok h
    cases h
    intro t ht
    rcases mem_or_eq_of_mem_set ht with ht | rfl
    · exact hw t ht
    · exact call_inv (hw m (mem_of_getElem? hm)) hcall

/-- **Every run whose packets are all allowed**: whatever a consumer retransmits, it has sent before. -/
theorem eachStep_of_allowed (es : List (Event codec)) (h : Along World.step Allowed ({} : World codec) es) :
    EachStep World.step (fun _ _ w => w.Faithful) ({} : World codec) es := by
  refine eachStep_of_along (I := World.Inv) ?_ es _ (fun m hm => absurd hm not_mem_nil) h
  intro w e w' hw hallowed hstep
  have hw' := step_inv hw hallowed hstep
  exact ⟨hw'.faithful, hw'⟩

/-! ## Two consumers of VP8 -/

/-- The `n`-th picture of a producer of VP8 in one packet with the same number, a key frame first. -/
def picture (ids : Bool) (n tl0PictureIndex temporalLayer : UInt8) : ProducerPacket VP8.lawfulCodec.toCodec where
  toMediaPacket :=
    VP8.processRtpPacket
      { packet :=
          { payloadType := 96
            sequenceNumber := n.toUInt16
            timestamp := 3000 * n.toUInt32
            ssrc := 1000
            payload :=
              (if ids then [0x90, 0xe0, 0x80, n, tl0PictureIndex] else [0x90, 0x20]) ++
                [temporalLayer * 64 + 32, if n = 1 then 0 else 1] } }
  described := VP8.described_processRtpPacket _ rfl

def vp8Consumer (ssrc : UInt32) (preferredLayers : Option (Nat × Option Nat)) : AnyConsumer VP8.State :=
  .simulcast
    (.create false [96] [1000] preferredLayers (.create
        { ssrc := ssrc, payloadType := 96, clockRate := 90000, spatialLayers := 1, temporalLayers := 2, useNack := true }
        .video)
      VP8.mediaCodec.initial)

/-- Two consumers, the first of which prefers the lower temporal layer, get three pictures. Then the second one gets a NACK
for the third. -/
def twoConsumers (ids : Bool) : List (Event VP8.lawfulCodec) :=
  let producerStream : RtpStreamRecv :=
    .create { ssrc := 1, payloadType := 96, clockRate := 90000, spatialLayers := 1, temporalLayers := 2 } 0
  [.newConsumer [] (vp8Consumer 6 none) (.simulcast false [96] [1000] none (.plain _ _)),
    .newConsumer [] (vp8Consumer 5 (some (0, some 0))) (.simulcast false [96] [1000] (some (0, some 0)) (.plain _ _)),
    .call 0 { nowMs := 20000 } .transportConnected,
    .call 1 { nowMs := 20000 } .transportConnected,
    .call 0 { nowMs := 20000 } (.producerNewRtpStream producerStream 1000),
    .call 1 { nowMs := 20000 } (.producerNewRtpStream producerStream 1000),
    .packet ⟨20000, spines⟩ default (picture ids 1 1 0),
    .packet ⟨20000, spines⟩ default (picture ids 2 1 1),
    .packet ⟨20000, spines⟩ default (picture ids 3 2 0),
    .nack 1 20100 6 [{ packetId := 4 }]]

def payloads (es : List (Event codec)) : Option (List (List (List UInt8) × List (List UInt8))) :=
  (es.foldlM World.step ({} : World codec)).toOption.map fun w =>
    w.members.map fun m => (m.log.map Packet.payload, m.resent.map fun r => r.packet.payload)

theorem eachStep_twoConsumers : payloads (twoConsumers false) = some
          [([[0x90, 0x20, 32, 0], [0x90, 0x20, 96, 1], [0x90, 0x20, 32, 1]], []),
            ([[0x90, 0x20, 32, 0], [0x90, 0x20, 96, 1], [0x90, 0x20, 32, 1]], [[0x90, 0x20, 32, 1]])] ∧
      EachStep World.step (fun _ _ w => w.Faithful) {} (twoConsumers false) :=
  ⟨by decide +kernel, eachStep_of_allowed _ (by decide +kernel)⟩

/-- **With picture ids** the first consumer sends the third picture with the id 2, the second one with the id 3. The second
one retransmits it with the id 2. -/
theorem resends_payload_of_another : payloads (twoConsumers true) = some
          [([[0x90, 0xe0, 0x80, 1, 1, 32, 0], [0x90, 0xe0, 0x80, 2, 2, 32, 1]], []),
            ([[0x90, 0xe0, 0x80, 1, 1, 32, 0], [0x90, 0xe0, 0x80, 2, 1, 96, 1], [0x90, 0xe0, 0x80, 3, 2, 32, 1]],
              [[0x90, 0xe0, 0x80, 2, 2, 32, 1]])] ∧
      ¬ EachStep World.step (fun _ _ w => w.Faithful) {} (twoConsumers true) := by
  constructor
  · decide +kernel
  · decide +kernel

end Mediasoup.Router
