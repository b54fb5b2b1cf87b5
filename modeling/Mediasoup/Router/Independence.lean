import Mediasoup.Router.Serve

/-!
# What a consumer sends and the consumers served before it

All consumers of a producer get the same packet object. Each of them rewrites the header and the payload and restores both, but
nobody restores the MID, and the router writes it for consumers with a MID of one to eight bytes only. Any other consumer, such as
a pipe consumer, sends the MID of a consumer before it, or eight zeros (`wireAfter_eq_iff`).
-/

namespace Mediasoup.Router

open Lib Rtp Codecs Consumer

section

variable {δ κ : Type} (codec : LawfulCodec δ κ) (env : SendEnv) (clones : List Packet)

def wireAfter (before : List (Member codec.toMediaCodec)) (c : Member codec.toMediaCodec)
    (p : ProducerPacket codec.toCodec) : Except ConsumerFault (Option Wire) := do
  let r ← serveAll codec env before { clones := clones, shared := none } p.routed
  let t ← serve codec env c r.shared r.packet
  return t.wire

variable {codec env clones} {before : List (Member codec.toMediaCodec)} {c : Member codec.toMediaCodec}
  {p : ProducerPacket codec.toCodec} {r : Routing codec}

def midAfter (before : List (Member codec.toMediaCodec)) : MidExtension :=
  before.foldl (fun e m => e.updateMid m.mid) .initial

theorem RoutedPacket.updateMid_eq (p : RoutedPacket δ) (mid : List UInt8) :
    p.updateMid mid = { p with midExtension := p.midExtension.updateMid mid } := by
  unfold RoutedPacket.updateMid
  split
  · rename_i h
    rw [p.midExtension.updateMid_refused (by simp [h])]
  · rfl

theorem foldl_updateMid : ∀ (before : List (Member codec.toMediaCodec)) (p : RoutedPacket δ),
    before.foldl (fun p m => p.updateMid m.mid) p =
      { p with midExtension := before.foldl (fun e m => e.updateMid m.mid) p.midExtension }
  | [], _ => rfl
  | m :: before, p => by
    rw [List.foldl_cons, foldl_updateMid before, p.updateMid_eq, List.foldl_cons]

/-- **What a consumer sends** is what it does with the original packet, with its own MID over what the others have left. -/
theorem wireAfter_eq (h : serveAll codec env before { clones := clones } p.routed = .ok r) :
    wireAfter codec env clones before c p =
      ((c.consumer.sendRtpPacket codec.toCodec env { clones := clones } p.toMediaPacket).map Delivery.sent).map
        (Option.map fun packet =>
          { packet := packet
            headerSize := p.headerSize
            midExtension := (midAfter before).updateMid c.mid }) := by
  have hpacket : r.packet = { toMediaPacket := p.toMediaPacket, midExtension := midAfter before } := by
    rw [serveAll_packet p.described h, foldl_updateMid]
    rfl
  have hwire := serve_wire codec env c r.shared r.packet
  rw [hpacket, RoutedPacket.updateMid_eq,
    AnyConsumer.sendRtpPacket_sent_eq codec.toCodec c.consumer r.shared { clones := clones }] at hwire
  have hrun : wireAfter codec env clones before c p = (serve codec env c r.shared r.packet).map Turn.wire := by
    unfold wireAfter
    rw [h]
    cases hserve : serve codec env c r.shared r.packet with
    | error f => exact congrArg (· >>= fun t : Turn codec => pure t.wire) hserve
    | ok t => exact congrArg (· >>= fun t : Turn codec => pure t.wire) hserve
  rw [hrun, hpacket]
  exact hwire

theorem serveAll_nil : serveAll codec env [] { clones := clones } p.routed =
    .ok { members := [], shared := { clones := clones }, packet := p.routed } := rfl

theorem wireAfter_packet {w : Wire} (halone : wireAfter codec env clones [] c p = .ok (some w))
    (h : serveAll codec env before { clones := clones } p.routed = .ok r) :
    w.midExtension = MidExtension.initial.updateMid c.mid ∧ wireAfter codec env clones before c p =
        .ok (some { w with midExtension := (midAfter before).updateMid c.mid }) := by
  rw [wireAfter_eq serveAll_nil] at halone
  rw [wireAfter_eq h]
  cases hsent : (c.consumer.sendRtpPacket codec.toCodec env { clones := clones } p.toMediaPacket).map Delivery.sent with
  | error f =>
    rw [hsent] at halone
    cases halone
  | ok sent =>
    rw [hsent] at halone
    cases sent with
    | none => cases halone
    | some packet =>
      cases halone
      exact ⟨rfl, rfl⟩

/-- A consumer that sends nothing, or fails, when it is served alone does so after any others. -/
theorem wireAfter_eq_of_unsent (halone : ∀ w, wireAfter codec env clones [] c p ≠ .ok (some w))
    (h : serveAll codec env before { clones := clones } p.routed = .ok r) :
    wireAfter codec env clones before c p = wireAfter codec env clones [] c p := by
  rw [wireAfter_eq serveAll_nil] at halone ⊢
  rw [wireAfter_eq h]
  cases hsent : (c.consumer.sendRtpPacket codec.toCodec env { clones := clones } p.toMediaPacket).map Delivery.sent with
  | error f => rfl
  | ok sent =>
    cases sent with
    | none => rfl
    | some packet =>
      rw [hsent] at halone
      exact absurd rfl (halone _)

def idle (codec : MediaCodec δ κ) : Member codec where
  mid := [49]
  consumer := .simple (.create codec false [111] false (.create { ssrc := 6, payloadType := 111, clockRate := 48000 } .audio))
  opusOnly := SimpleConsumer.opusOnly_create codec _ _ _ _

/-- **What a consumer sends does not depend on the others** if and only if the router writes its MID: it has one of at most
eight bytes. -/
theorem wireAfter_eq_iff {w : Wire} (halone : wireAfter codec env clones [] c p = .ok (some w)) :
    (∀ before r, serveAll codec env before { clones := clones } p.routed = .ok r →
      wireAfter codec env clones before c p = .ok (some w)) ↔ 1 ≤ c.mid.length ∧ c.mid.length ≤ midMaxLength := by
  constructor
  · intro hsame
    by_contra hmid
    -- the MID "1" of a consumer that sends nothing is left in the packet
    obtain ⟨r, hr⟩ : ∃ r, serveAll codec env [idle codec.toMediaCodec] { clones := clones } p.routed = .ok r := ⟨_, rfl⟩
    obtain ⟨hw, hafter⟩ := wireAfter_packet halone hr
    rw [hsame _ r hr] at hafter
    rw [Except.ok.injEq, Option.some.injEq] at hafter
    have hext : w.midExtension = (midAfter [idle codec.toMediaCodec]).updateMid c.mid :=
      congrArg Wire.midExtension hafter
    rw [hw, MidExtension.updateMid_refused _ hmid, MidExtension.updateMid_refused _ hmid] at hext
    have hlen : MidExtension.initial.len = (MidExtension.initial.updateMid [49]).len := congrArg MidExtension.len hext
    exact absurd hlen (by decide)
  · rintro ⟨hpos, hle⟩ before r hr
    obtain ⟨hw, hafter⟩ := wireAfter_packet halone hr
    rw [hafter, MidExtension.updateMid_eq _ .initial hpos hle, ← hw]

end

/-! ## A pipe consumer that sends the MID of another consumer -/

def pipeMember (mid : List UInt8) : Member Opus.lawfulCodec.toMediaCodec where
  mid := mid
  consumer :=
    .pipe <| PipeConsumer.call
      (.create false [111] false [(1000, .create { ssrc := 5, payloadType := 111, clockRate := 48000 } .audio)])
      .transportConnected
  opusOnly := trivial

def opusPacket : ProducerPacket Opus.lawfulCodec.toCodec where
  toMediaPacket :=
    Opus.processRtpPacket
      { packet := { payloadType := 111, sequenceNumber := 7, timestamp := 960, ssrc := 1000, payload := [1, 2, 3] } }
  described _ _ := rfl

def opusWire (midExtension : MidExtension) : Wire where
  packet := { payloadType := 111, sequenceNumber := 1, timestamp := 960, ssrc := 5, payload := [1, 2, 3] }
  headerSize := 12
  midExtension := midExtension

theorem wireAfter_pipeMember :
    wireAfter Opus.lawfulCodec ⟨0, SimulcastConsumer.spines⟩ [] [idle _] (pipeMember [50]) opusPacket =
      .ok (some (opusWire (MidExtension.initial.updateMid [50]))) :=
  (wireAfter_eq_iff (by decide +kernel)).mpr (by decide) [idle _] _ rfl

/-- **A consumer without a MID** sends eight zeros, and the MID "1" of another consumer if that one is served before it. -/
theorem mid_of_another_consumer : wireAfter Opus.lawfulCodec ⟨0, SimulcastConsumer.spines⟩ [] [] (pipeMember []) opusPacket =
        .ok (some (opusWire .initial)) ∧
      wireAfter Opus.lawfulCodec ⟨0, SimulcastConsumer.spines⟩ [] [idle _] (pipeMember []) opusPacket =
        .ok (some (opusWire (MidExtension.initial.updateMid [49]))) ∧
      opusWire (MidExtension.initial.updateMid [49]) ≠ opusWire .initial := by
  refine ⟨?_, ?_, ?_⟩
  · decide +kernel
  · decide +kernel
  · decide

end Mediasoup.Router
