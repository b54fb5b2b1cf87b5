import Mediasoup.Consumer.Sending

/-!
# How the router serves the consumers of a producer

A packet of a producer has a MID extension with room for eight bytes. The router goes through the consumers of the producer: it
writes the MID of the consumer into the extension, if there is one, and calls `SendRtpPacket`. The packet is one object, and each
consumer gets it as the one before has left it; so is the clone that their retransmission buffers share.
-/

namespace Mediasoup.Router

open Lib Rtp Codecs Consumer List

/-! ## The MID extension -/

def midMaxLength : Nat := 8

/-- The MID extension: its length and the bytes there are for it. The bytes after the length are zero, as padding must
be. -/
structure MidExtension where
  len : Nat
  area : List UInt8
  len_le : len ≤ midMaxLength
  length_area : area.length = midMaxLength
  padding : area.drop len = List.replicate (midMaxLength - len) 0
  deriving DecidableEq

namespace MidExtension

def initial : MidExtension where
  len := midMaxLength
  area := List.replicate midMaxLength 0
  len_le := Nat.le_refl _
  length_area := length_replicate
  padding := by decide

/-- `SetExtensionLength`: a shorter length fills the bytes it gives up with zeros. -/
def fill (area : List UInt8) (currentLen len : Nat) : List UInt8 :=
  if len < currentLen then area.take len ++ List.replicate (currentLen - len) 0 ++ area.drop currentLen else area

variable (e : MidExtension) {mid : List UInt8}

theorem drop_fill (h : mid.length ≤ midMaxLength) : (fill (mid ++ e.area.drop mid.length) e.len mid.length).drop mid.length =
      List.replicate (midMaxLength - mid.length) 0 := by
  have hle := e.len_le
  unfold fill
  split
  · rename_i hlt
    rw [append_assoc, take_left, drop_left, drop_append, drop_eq_nil_of_le (Nat.le_of_lt hlt),
      nil_append, drop_drop, show mid.length + (e.len - mid.length) = e.len by omega, e.padding,
      replicate_append_replicate, show e.len - mid.length + (midMaxLength - e.len) = midMaxLength - mid.length by omega]
  · rw [drop_left, show mid.length = e.len + (mid.length - e.len) by omega, ← drop_drop, e.padding,
      drop_replicate, Nat.sub_add_eq]

theorem take_fill : (fill (mid ++ e.area.drop mid.length) e.len mid.length).take mid.length = mid := by
  unfold fill
  split
  · rw [append_assoc, take_left, take_left]
  · rw [take_left]

theorem fill_eq (h : mid.length ≤ midMaxLength) :
    fill (mid ++ e.area.drop mid.length) e.len mid.length = mid ++ List.replicate (midMaxLength - mid.length) 0 := by
  rw [← take_append_drop mid.length (fill _ _ _), e.drop_fill h, e.take_fill]

/-- `UpdateMid`. A MID that is too long is refused, and `SetExtensionLength` refuses the length 0. -/
def updateMid (mid : List UInt8) : MidExtension :=
  if h : mid.length ≤ midMaxLength then
    if mid = [] then e
    else
      { len := mid.length
        area := fill (mid ++ e.area.drop mid.length) e.len mid.length
        len_le := h
        length_area := by
          rw [e.fill_eq h, length_append, length_replicate]
          omega
        padding := e.drop_fill h }
  else e

theorem updateMid_eq (e' : MidExtension) (hpos : 1 ≤ mid.length) (hle : mid.length ≤ midMaxLength) :
    e.updateMid mid = e'.updateMid mid := by
  have hne : mid ≠ [] := by
    rintro rfl
    cases hpos
  simp only [updateMid, dif_pos hle, if_neg hne, e.fill_eq hle, e'.fill_eq hle]

theorem updateMid_refused (h : ¬ (1 ≤ mid.length ∧ mid.length ≤ midMaxLength)) : e.updateMid mid = e := by
  unfold updateMid
  split
  · rw [if_pos]
    exact eq_nil_of_length_eq_zero (by omega)
  · rfl

end MidExtension

/-! ## The loop -/

structure RoutedPacket (δ : Type) extends MediaPacket δ where
  midExtension : MidExtension := .initial

/-- A packet that is handed to a transport. The extensions that the transport sets itself are left out. -/
structure Wire where
  packet : Packet
  headerSize : Nat
  midExtension : MidExtension
  deriving DecidableEq

/-- A packet of a producer, whose descriptor agrees with the payload. -/
structure ProducerPacket {δ κ : Type} (codec : Codec δ κ) extends MediaPacket δ where
  described : toMediaPacket.Described codec

/-- The packet as `MangleRtpPacket` hands it to the router. -/
def ProducerPacket.routed {δ κ : Type} {codec : Codec δ κ} (p : ProducerPacket codec) : RoutedPacket δ :=
  { p.toMediaPacket with midExtension := .initial }

/-- A consumer of the producer, with the `mid` of its RTP parameters and what its transport got from it so far. -/
structure Member {δ κ : Type} (codec : MediaCodec δ κ) where
  mid : List UInt8
  consumer : AnyConsumer κ
  opusOnly : consumer.OpusOnly codec
  sent : List Wire := []
  resent : List Resent := []

section Serve

variable {δ κ : Type} (codec : LawfulCodec δ κ) (env : SendEnv)

structure Turn where
  member : Member codec.toMediaCodec
  shared : SharedPackets
  packet : RoutedPacket δ
  wire : Option Wire

def RoutedPacket.updateMid (p : RoutedPacket δ) (mid : List UInt8) : RoutedPacket δ :=
  if mid = [] then p else { p with midExtension := p.midExtension.updateMid mid }

def serve (m : Member codec.toMediaCodec) (sh : SharedPackets) (p : RoutedPacket δ) : Except ConsumerFault (Turn codec) :=
  let p := p.updateMid m.mid
  match h : m.consumer.sendRtpPacket codec.toCodec env sh p.toMediaPacket with
  | .error f => .error f
  | .ok d =>
    let wire := d.sent.map fun packet =>
      { packet := packet, headerSize := p.headerSize, midExtension := p.midExtension : Wire }
    .ok
      { member :=
          { m with
            consumer := d.consumer
            opusOnly := ((AnyConsumer.sendRtpPacket_returns m.opusOnly).of_ok h).2
            sent := m.sent ++ wire.toList }
        shared := d.shared
        packet := { p with toMediaPacket := d.packet }
        wire := wire }

structure Routing where
  members : List (Member codec.toMediaCodec)
  shared : SharedPackets
  packet : RoutedPacket δ

def serveAll : List (Member codec.toMediaCodec) → SharedPackets → RoutedPacket δ → Except ConsumerFault (Routing codec)
  | [], sh, p => .ok { members := [], shared := sh, packet := p }
  | m :: ms, sh, p => do
    let t ← serve codec env m sh p
    let r ← serveAll ms t.shared t.packet
    return { r with members := t.member :: r.members }

end Serve

section

variable {δ κ : Type} {codec : LawfulCodec δ κ} {env : SendEnv} {m : Member codec.toMediaCodec} {sh sh' : SharedPackets}
  {p : RoutedPacket δ}

theorem serve_eq_ok {t : Turn codec} (h : serve codec env m sh p = .ok t) :
    ∃ d, m.consumer.sendRtpPacket codec.toCodec env sh (p.updateMid m.mid).toMediaPacket = .ok d ∧
      t.member.consumer = d.consumer ∧ t.member.mid = m.mid ∧ t.member.resent = m.resent ∧
      t.member.sent = m.sent ++ t.wire.toList ∧ t.shared = d.shared ∧
      t.packet = { p.updateMid m.mid with toMediaPacket := d.packet } ∧ t.wire.map Wire.packet = d.sent := by
  unfold serve at h
  dsimp only at h
  split at h
  · cases h
  rename_i d heq
  cases h
  refine ⟨d, heq, rfl, rfl, rfl, rfl, rfl, rfl, ?_⟩
  rw [Option.map_map]
  exact Option.map_id_fun' ▸ rfl

theorem serve_wire (codec : LawfulCodec δ κ) (env : SendEnv) (m : Member codec.toMediaCodec) (sh : SharedPackets)
    (p : RoutedPacket δ) :
    (serve codec env m sh p).map Turn.wire =
      ((m.consumer.sendRtpPacket codec.toCodec env sh (p.updateMid m.mid).toMediaPacket).map Delivery.sent).map
        (Option.map fun packet =>
          { packet := packet
            headerSize := (p.updateMid m.mid).headerSize
            midExtension := (p.updateMid m.mid).midExtension }) := by
  unfold serve
  dsimp only
  split
  · rename_i heq
    rw [heq]
    rfl
  · rename_i heq
    simp only [heq]
    rfl

theorem updateMid_toMediaPacket (p : RoutedPacket δ) (mid : List UInt8) :
    (p.updateMid mid).toMediaPacket = p.toMediaPacket := by
  unfold RoutedPacket.updateMid
  split <;> rfl

theorem serve_packet {t : Turn codec} (hp : p.Described codec.toCodec) (h : serve codec env m sh p = .ok t) :
    t.packet = p.updateMid m.mid := by
  obtain ⟨d, hd, -, -, -, -, -, hpacket, -⟩ := serve_eq_ok h
  have hrestored := ((AnyConsumer.sendRtpPacket_returns m.opusOnly).of_ok hd).1.restored
  rw [updateMid_toMediaPacket] at hrestored
  rw [hpacket, hrestored hp, ← updateMid_toMediaPacket p m.mid]

theorem serveAll_packet : ∀ {ms : List (Member codec.toMediaCodec)} {sh : SharedPackets} {p : RoutedPacket δ}
    {r : Routing codec}, p.Described codec.toCodec → serveAll codec env ms sh p = .ok r →
    r.packet = ms.foldl (fun p m => p.updateMid m.mid) p
  | [], _, _, _, _, h => by
    cases h
    rfl
  | m :: ms, sh, p, r, hp, h => by
    obtain ⟨t, ht, h⟩ := exists_of_bind_eq_ok h
    obtain ⟨r', hr', h⟩ := exists_of_bind_eq_ok h
    cases h
    rw [serve_packet hp ht] at hr'
    have hp' : (p.updateMid m.mid).Described codec.toCodec := by rwa [updateMid_toMediaPacket]
    have ih := serveAll_packet hp' hr'
    exact ih

end

end Mediasoup.Router
