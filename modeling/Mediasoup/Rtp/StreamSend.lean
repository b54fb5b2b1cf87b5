import Mediasoup.Producer.Parameters
import Mediasoup.Rtp.RetransmissionBuffer
import Mediasoup.Rtp.StreamRecv

/-!
# Sent streams

`RtpStreamSend` checks the packets a consumer sends and stores them in its retransmission buffer if the stream uses NACK. For a
NACK it fills a container with the requested packets, RTX encoded if the stream has RTX, sends them and undoes the encoding. The
clones that the buffers of all streams share are passed along (`SharedPackets`). The counters of bytes and the MID extension are
left out.
-/

namespace Mediasoup.Rtp

open Lib Mediasoup.Seq RetransmissionBuffer

def retransmissionBufferMaxItems : Nat := 2500

def mtuSize : Nat := 1500

/-- `MaxRetransmissionDelayForVideoMs`, `MaxRetransmissionDelayForAudioMs` -/
def maxRetransmissionDelayMs : MimeType.Kind → Nat
  | .video => 2000
  | .audio => 1000

inductive SendFault
  /-- "RTP packet SSRC does not match the encodings SSRC" -/
  | ssrcMismatch
  | buffer (f : BufferFault)
  deriving DecidableEq

structure RtpStreamSend extends SequenceState, StreamScore where
  params : RtpStreamParams
  hasRtx : Bool := false
  rtxSeq : UInt16 := 0
  retransmissionBuffer : Option RetransmissionBuffer := none
  /-- in milliseconds, without the fraction; `none` where the `float` is 0 -/
  rtt : Option Nat := none
  nackCount : Nat := 0
  nackPacketCount : Nat := 0
  packetsRetransmitted : Nat := 0
  packetsRepaired : Nat := 0
  deriving DecidableEq

structure NackItem where
  packetId : UInt16
  lostPacketBitmask : UInt16 := 0
  deriving DecidableEq

def NackItem.countRequestedPackets (item : NackItem) : Nat :=
  (List.range 16).countP item.lostPacketBitmask.toNat.testBit + 1

namespace RtpStreamSend

def defaultRtt : Nat := 100

def create (params : RtpStreamParams) (type : MimeType.Kind) : RtpStreamSend :=
  { params := params
    retransmissionBuffer :=
      if params.useNack then
        some
          { maxItems := retransmissionBufferMaxItems
            maxRetransmissionDelayMs := maxRetransmissionDelayMs type
            clockRate := params.clockRate.toNat }
      else none }

variable (s : RtpStreamSend)

def setRtx (payloadType : UInt8) (ssrc : UInt32) (rtxSeq : UInt16) : RtpStreamSend :=
  { s with
    params := { s.params with rtxPayloadType := payloadType, rtxSsrc := ssrc }, hasRtx := true, rtxSeq := rtxSeq }

def clearBuffer : RtpStreamSend :=
  { s with retransmissionBuffer := s.retransmissionBuffer.map clear }

/-! ## Sending -/

/-- `StorePacket`, if the stream uses NACK; `size` is the size of the whole packet. -/
def storePacket (sh : SharedPackets) (packet : Packet) (size : Nat) :
    Except SendFault (RtpStreamSend × SharedPackets) :=
  match s.retransmissionBuffer with
  | none => .ok (s, sh)
  | some b =>
    if size > mtuSize then .ok (s, sh)
    else
      match b.insert sh packet with
      | .error f => .error (.buffer f)
      | .ok (b, sh) => .ok ({ s with retransmissionBuffer := some b }, sh)

/-- `ReceiveStreamPacket`, which clears the buffer if the stream restarts. -/
def receiveStreamPacket (packet : Packet) (nowMs : Nat) : RtpStreamSend × Bool :=
  let (st, valid) := s.receive packet nowMs
  let s' := if s.resets packet then s.clearBuffer else s
  ({ s' with toSequenceState := st }, valid)

/-- `ReceivePacket`: the `Bool` tells whether the packet is sent. -/
def receivePacket (sh : SharedPackets) (packet : Packet) (size nowMs : Nat) :
    Except SendFault (RtpStreamSend × SharedPackets × Bool) :=
  if packet.ssrc ≠ s.params.ssrc then .error .ssrcMismatch
  else
    match s.receiveStreamPacket packet nowMs with
    | (s, false) => .ok (s, sh, false)
    | (s, true) => do
      let (s, sh) ← s.storePacket sh packet size
      return (s, sh, true)

/-! ## Retransmission -/

/-- The sequence numbers that the loop of `FillRetransmissionContainer` looks for; `n` bounds the number of its turns,
one and one for each bit of the mask. -/
def requestedSeqs : Nat → Bool → Nat → UInt16 → List UInt16
  | 0, _, _, _ => []
  | n + 1, requested, bitmask, currentSeq =>
    if requested || bitmask ≠ 0 then
      let rest := requestedSeqs n (bitmask % 2 == 1) (bitmask / 2) (currentSeq + 1)
      if requested then currentSeq :: rest else rest
    else []

def find (seq : UInt16) : Option (Nat × Item) := do
  let b ← s.retransmissionBuffer
  let idx ← b.indexOf seq
  let item ← b.itemAt idx
  return (idx, item)

def setItem (s : RtpStreamSend) (idx : Nat) (item : Item) : RtpStreamSend :=
  { s with retransmissionBuffer := s.retransmissionBuffer.map fun b => b.setItem idx item }

/-- The round trip time, a `uint16_t`, within which a packet is not sent again. -/
def rttMs : Nat := (s.rtt.getD defaultRtt) % 2 ^ 16

def countRtx : RtpStreamSend := if s.hasRtx then { s with rtxSeq := s.rtxSeq + 1 } else s

def encapsulate (packet : Packet) : Packet :=
  if s.hasRtx then packet.rtxEncode s.params.rtxPayloadType s.params.rtxSsrc s.rtxSeq else packet

def decapsulate (ssrc : UInt32) (packet : Packet) : Packet :=
  if s.hasRtx then (packet.rtxDecode s.params.payloadType ssrc).getD packet else packet

end RtpStreamSend

def Packet.setNumbers (packet : Packet) (item : Stored) : Packet :=
  { packet with ssrc := item.ssrc, sequenceNumber := item.sequenceNumber, timestamp := item.timestamp }

structure Filling where
  stream : RtpStreamSend
  clones : List Packet
  /-- `RetransmissionContainer`. No item is in it twice, as the requested numbers differ. -/
  container : List Item := []
  deriving DecidableEq

namespace Filling

def resend (f : Filling) (nowMs idx : Nat) (item : Item) : Filling :=
  let stream := f.stream.countRtx
  let item := { item with resentAtMs := nowMs, sentTimes := item.sentTimes + 1 }
  { stream := stream.setItem idx item
    clones := f.clones.modify item.packet stream.encapsulate
    container := f.container ++ [item] }

/-- One requested number. A packet that was resent in the last RTT milliseconds is not sent again. -/
def request (nowMs : Nat) (f : Filling) (seq : UInt16) : Filling :=
  match f.stream.find seq with
  | none => f
  | some (idx, item) =>
    let f := { f with clones := f.clones.modify item.packet (·.setNumbers item.toStored) }
    if item.resentAtMs ≠ 0 ∧ elapsedMs nowMs item.resentAtMs ≤ f.stream.rttMs then f else f.resend nowMs idx item

end Filling

namespace RtpStreamSend

/-- `FillRetransmissionContainer`. Without a buffer nothing is found. -/
def fillRetransmissionContainer (s : RtpStreamSend) (clones : List Packet) (nowMs : Nat) (seq bitmask : UInt16) :
    Filling :=
  (requestedSeqs 17 true bitmask.toNat seq).foldl (Filling.request nowMs) { stream := s, clones := clones }

def countRetransmitted (s : RtpStreamSend) (item : Item) : RtpStreamSend :=
  { s with
    packetsRetransmitted := s.packetsRetransmitted + 1
    packetsRepaired := if item.sentTimes = 1 then s.packetsRepaired + 1 else s.packetsRepaired }

end RtpStreamSend

/-- The state of `ReceiveNack`; `packets` are the packets sent so far. -/
structure Retransmission where
  stream : RtpStreamSend
  clones : List Packet
  packets : List Packet := []
  deriving DecidableEq

namespace Retransmission

def send (r : Retransmission) (item : Item) : Retransmission :=
  { stream := r.stream.countRetransmitted item
    clones := r.clones.modify item.packet (r.stream.decapsulate item.ssrc)
    packets := r.packets ++ r.clones[item.packet]?.toList }

def receiveItem (nowMs : Nat) (r : Retransmission) (item : NackItem) : Retransmission :=
  let stream := { r.stream with nackPacketCount := r.stream.nackPacketCount + item.countRequestedPackets }
  let f := stream.fillRetransmissionContainer r.clones nowMs item.packetId item.lostPacketBitmask
  f.container.foldl send { r with stream := f.stream, clones := f.clones }

end Retransmission

def RtpStreamSend.receiveNack (s : RtpStreamSend) (clones : List Packet) (nowMs : Nat) (items : List NackItem) :
    Retransmission :=
  items.foldl (Retransmission.receiveItem nowMs)
    { stream := { s with nackCount := s.nackCount + 1 }, clones := clones }

/-! ## What sending a packet changes -/

namespace RtpStreamSend

def items (s : RtpStreamSend) : List Item :=
  match s.retransmissionBuffer with
  | none => []
  | some b => b.items

theorem items_clearBuffer (s : RtpStreamSend) : s.clearBuffer.items = [] := by
  unfold items clearBuffer
  cases s.retransmissionBuffer with
  | none => rfl
  | some b => rfl

variable {s s' : RtpStreamSend} {sh sh' : SharedPackets} {packet : Packet} {size nowMs : Nat} {valid : Bool}

/-- What the stream stores after a packet: some of what it did, and the packet if it is valid and is stored. -/
def Stores (s : RtpStreamSend) (sh : SharedPackets) (packet : Packet) (s' : RtpStreamSend) (sh' : SharedPackets)
    (valid : Bool) : Prop :=
  (s'.items.Sublist s.items ∧ sh' = sh) ∨ (valid = true ∧ s.retransmissionBuffer.isSome = true ∧ sh' = (sh.share packet).1 ∧
      ∃ l₁ l₂, s'.items = l₁ ++ (fillItem sh packet).2 :: l₂ ∧ (l₁ ++ l₂).Sublist s.items)

theorem storePacket_cases (h : s.storePacket sh packet size = .ok (s', sh')) :
    (∃ b, s' = { s with retransmissionBuffer := b }) ∧ Stores s sh packet s' sh' true := by
  unfold storePacket at h
  split at h
  · cases h
    exact ⟨⟨_, rfl⟩, .inl ⟨List.Sublist.refl _, rfl⟩⟩
  rename_i b hb
  split at h
  · cases h
    exact ⟨⟨_, rfl⟩, .inl ⟨List.Sublist.refl _, rfl⟩⟩
  split at h
  · cases h
  rename_i b' sh'' hinsert
  cases h
  refine ⟨⟨_, rfl⟩, ?_⟩
  have hitems : s.items = b.items := by
    rw [items, hb]
  unfold Stores
  rw [hitems]
  rcases insert_cases hinsert with ⟨hsub, rfl⟩ | ⟨hadds, rfl⟩
  · exact .inl ⟨hsub, rfl⟩
  · exact .inr ⟨rfl, by rw [hb]; rfl, rfl, hadds⟩

theorem receivePacket_cases (h : s.receivePacket sh packet size nowMs = .ok (s', sh', valid)) :
    packet.ssrc = s.params.ssrc ∧ (∃ st b, s' = { s with toSequenceState := st, retransmissionBuffer := b }) ∧
      Stores s sh packet s' sh' valid := by
  unfold receivePacket at h
  split at h
  · cases h
  rename_i hssrc
  refine ⟨not_not.mp hssrc, ?_⟩
  obtain ⟨t, ok, b, ht, rfl, hsome, hsub⟩ : ∃ t ok b, s.receiveStreamPacket packet nowMs = (t, ok) ∧
      t = { s with toSequenceState := (s.receive packet nowMs).1, retransmissionBuffer := b } ∧
      t.retransmissionBuffer.isSome = s.retransmissionBuffer.isSome ∧ t.items.Sublist s.items := by
    unfold receiveStreamPacket
    dsimp only
    split
    · exact ⟨_, _, _, rfl, rfl, Option.isSome_map, s.items_clearBuffer ▸ List.nil_sublist _⟩
    · exact ⟨_, _, _, rfl, rfl, rfl, List.Sublist.refl _⟩
  rw [ht] at h
  cases ok with
  | false =>
    cases h
    exact ⟨⟨_, _, rfl⟩, .inl ⟨hsub, rfl⟩⟩
  | true =>
    obtain ⟨⟨t', sh''⟩, hstore, h⟩ := exists_of_bind_eq_ok h
    cases h
    obtain ⟨⟨b', rfl⟩, hcases⟩ := storePacket_cases hstore
    refine ⟨⟨_, _, rfl⟩, ?_⟩
    rcases hcases with ⟨hsub', rfl⟩ | ⟨-, hb, rfl, l₁, l₂, heq, hsub'⟩
    · exact .inl ⟨hsub'.trans hsub, rfl⟩
    · exact .inr ⟨rfl, hsome ▸ hb, rfl, l₁, l₂, heq, hsub'.trans hsub⟩

end RtpStreamSend

end Mediasoup.Rtp
