import Mediasoup.Consumer.Sending

/-!
# Sending a packet in place

`SendRtpPacket` writes into the packet that all consumers share: it saves some fields of the header, sets them, hands the packet
to the stream and to the transport, and sets the saved values again. The number it writes is whatever `Input` left in `seq`, which
is the parameter `unset` if `Input` has refused the packet; otherwise `sendRtpPacket`, which does without the writes, is the same
function. On every path the packet is in the end as it was (`packet_restored`).
-/

namespace Mediasoup.Codecs.MediaPacket

variable {δ : Type}

variable (p : MediaPacket δ)

def setSsrc (ssrc : UInt32) : MediaPacket δ := { p with packet := { p.packet with ssrc := ssrc } }

def setSequenceNumber (seq : UInt16) : MediaPacket δ :=
  { p with packet := { p.packet with sequenceNumber := seq } }

def setTimestamp (timestamp : UInt32) : MediaPacket δ :=
  { p with packet := { p.packet with timestamp := timestamp } }

def setMarker (marker : Bool) : MediaPacket δ := { p with packet := { p.packet with marker := marker } }

end Mediasoup.Codecs.MediaPacket

namespace Mediasoup.Codecs

/-- A packet of a producer with this codec, as `ProcessRtpPacket` leaves it. Only that of VP8 writes into the payload, or
keeps something of it that is written back later. -/
inductive Handled : {δ κ : Type} → LawfulCodec δ κ → MediaPacket δ → Prop
  | vp8 (p : MediaPacket VP8.PayloadDescriptor) (hp : p.descriptor = none) :
    Handled VP8.lawfulCodec (VP8.processRtpPacket p)
  | vp9 (p : MediaPacket VP9.PayloadDescriptor) : Handled VP9.lawfulCodec p
  | h264 (p : MediaPacket H264.PayloadDescriptor) : Handled H264.lawfulCodec p
  | h264Svc (p : MediaPacket H264SVC.PayloadDescriptor) : Handled H264SVC.lawfulCodec p
  | opus (p : MediaPacket Opus.PayloadDescriptor) : Handled Opus.lawfulCodec p
  | other (p : MediaPacket Empty) : Handled otherCodec p

theorem Handled.described {δ κ : Type} {codec : LawfulCodec δ κ} {p : MediaPacket δ} (h : Handled codec p) :
    p.Described codec.toCodec := by
  cases h with
  | vp8 p hp => exact VP8.described_processRtpPacket p hp
  | vp9 => exact fun _ _ => rfl
  | h264 => exact fun _ _ => rfl
  | h264Svc => exact fun _ _ => rfl
  | opus => exact fun _ _ => rfl
  | other => exact fun d _ => d.elim

end Mediasoup.Codecs

namespace Mediasoup.Consumer

open Lib Rtp Codecs Mediasoup.Seq LawfulCodec Delivery

variable {δ κ : Type}

def inputInPlace (env : SendEnv) (unset : UInt16) (m : SeqManager) (seq : UInt16) : SeqManager × UInt16 :=
  match m.input 16 env.shapes.rtpSeq seq.toNat with
  | (m, none) => (m, unset)
  | (m, some output) => (m, UInt16.ofNat output)

def handOver (env : SendEnv) (stream : RtpStreamSend) (sh : SharedPackets) (p : MediaPacket δ) :
    Except ConsumerFault (RtpStreamSend × SharedPackets × Option Packet) :=
  match stream.receivePacket sh p.packet p.size env.nowMs with
  | .error f => .error (.send f)
  | .ok (stream, sh, valid) => .ok (stream, sh, if valid then some p.packet else none)

variable {env : SendEnv} {unset : UInt16} {sh : SharedPackets} {p : MediaPacket δ}

/-! ## The four kinds -/

namespace SimpleConsumer

def deliverInPlace (env : SendEnv) (unset : UInt16) (c : SimpleConsumer κ) (sh : SharedPackets) (p : MediaPacket δ) :
    Except ConsumerFault (Delivery (SimpleConsumer κ) δ) := do
  let (m, seq) :=
    inputInPlace env unset (syncIf c.syncRequired c.rtpSeqManager p.packet.sequenceNumber) p.packet.sequenceNumber
  let origSsrc := p.packet.ssrc
  let origSeq := p.packet.sequenceNumber
  let p := (p.setSsrc c.ssrc).setSequenceNumber seq
  let (stream, sh, sent) ← handOver env c.rtpStream sh p
  return {
    consumer := { c with rtpSeqManager := m, rtpStream := stream, syncRequired := false }
    shared := sh
    packet := (p.setSsrc origSsrc).setSequenceNumber origSeq
    sent := sent }

def sendRtpPacketInPlace (codec : Codec δ κ) (env : SendEnv) (unset : UInt16) (c : SimpleConsumer κ) (sh : SharedPackets)
    (p : MediaPacket δ) : Except ConsumerFault (Delivery (SimpleConsumer κ) δ) :=
  if !c.isActive || !c.supports p.packet.payloadType then .ok { consumer := c, shared := sh, packet := p }
  else
    match c.processPayload codec env p with
    | .error f => .error f
    | .ok (c, p, false) =>
      .ok
        { consumer :=
            { c with rtpSeqManager := c.rtpSeqManager.drop 16 env.shapes.rtpSeq p.packet.sequenceNumber.toNat }
          shared := sh
          packet := p }
    | .ok (c, p, true) =>
      if c.syncRequired && c.keyFrameSupported && !p.isKeyFrame codec then
        .ok { consumer := c, shared := sh, packet := p }
      else c.deliverInPlace env unset sh p

end SimpleConsumer

namespace PipeConsumer

def deliverInPlace (env : SendEnv) (unset : UInt16) (c : PipeConsumer) (sh : SharedPackets) (p : MediaPacket δ)
    (ssrc : UInt32) (idx : Nat) (s : PipeStream) : Except ConsumerFault (Delivery PipeConsumer δ) := do
  let (m, seq) :=
    inputInPlace env unset (syncIf s.syncRequired s.rtpSeqManager p.packet.sequenceNumber) p.packet.sequenceNumber
  let origSsrc := p.packet.ssrc
  let origSeq := p.packet.sequenceNumber
  let p := (p.setSsrc ssrc).setSequenceNumber seq
  let (stream, sh, sent) ← handOver env s.rtpStream sh p
  return {
    consumer := c.setStream idx { rtpStream := stream, syncRequired := false, rtpSeqManager := m }
    shared := sh
    packet := (p.setSsrc origSsrc).setSequenceNumber origSeq
    sent := sent }

def sendRtpPacketInPlace (codec : Codec δ κ) (env : SendEnv) (unset : UInt16) (c : PipeConsumer) (sh : SharedPackets)
    (p : MediaPacket δ) : Except ConsumerFault (Delivery PipeConsumer δ) :=
  if !c.isActiveBase || !c.supports p.packet.payloadType then .ok { consumer := c, shared := sh, packet := p }
  else
    match c.mapMappedSsrcSsrc.lookup p.packet.ssrc with
    | none => .error .unknownMappedSsrc
    | some ssrc =>
      match c.stream ssrc with
      | none => .error .unknownMappedSsrc
      | some (idx, s) =>
        if s.syncRequired && c.keyFrameSupported && !p.isKeyFrame codec then
          .ok { consumer := c, shared := sh, packet := p }
        else c.deliverInPlace env unset sh p ssrc idx s

end PipeConsumer

namespace SvcConsumer

variable (codec : Codec δ κ)

def deliverInPlace (env : SendEnv) (unset : UInt16) (c : SvcConsumer κ) (sh : SharedPackets) (p : MediaPacket δ)
    (marker origMarker : Bool) : Except ConsumerFault (Delivery (SvcConsumer κ) δ) := do
  let (m, seq) := inputInPlace env unset c.rtpSeqManager p.packet.sequenceNumber
  let origSsrc := p.packet.ssrc
  let origSeq := p.packet.sequenceNumber
  let p := (p.setSsrc c.ssrc).setSequenceNumber seq
  let p := if marker then p.setMarker true else p
  let (stream, sh, sent) ← handOver env c.rtpStream sh p
  return {
    consumer := { c with rtpSeqManager := m, rtpStream := stream }
    shared := sh
    packet := (((p.setSsrc origSsrc).setSequenceNumber origSeq).setMarker origMarker).restorePayload codec
    sent := sent }

def forwardInPlace (env : SendEnv) (unset : UInt16) (c : SvcConsumer κ) (sh : SharedPackets) (p : MediaPacket δ) :
    Except ConsumerFault (Delivery (SvcConsumer κ) δ) :=
  let origMarker := p.packet.marker
  match p.processPayload codec env.shapes c.encodingContext with
  | .error f => .error (.codec f)
  | .ok r =>
    let c := { c with encodingContext := r.context }
    let p := p.setPayload r.payload
    if r.passed then c.deliverInPlace codec env unset sh p r.marker origMarker
    else
      .ok
        { consumer :=
            { c with rtpSeqManager := c.rtpSeqManager.drop 16 env.shapes.rtpSeq p.packet.sequenceNumber.toNat }
          shared := sh
          packet := p }

def sendRtpPacketInPlace (env : SendEnv) (unset : UInt16) (c : SvcConsumer κ) (sh : SharedPackets) (p : MediaPacket δ) :
    Except ConsumerFault (Delivery (SvcConsumer κ) δ) :=
  if !c.isActive || c.encodingContext.targetSpatialLayer = -1 || c.encodingContext.targetTemporalLayer = -1 ||
      !c.supports p.packet.payloadType || (c.syncRequired && !p.isKeyFrame codec) then
    .ok { consumer := c, shared := sh, packet := p }
  else (c.sync codec p.packet.sequenceNumber).forwardInPlace codec env unset sh p

end SvcConsumer

namespace SimulcastConsumer

variable (codec : Codec δ κ)

def deliverInPlace (env : SendEnv) (unset : UInt16) (c : SimulcastConsumer κ) (sh : SharedPackets) (p : MediaPacket δ) :
    Except ConsumerFault (Delivery (SimulcastConsumer κ) δ) := do
  let timestamp := p.packet.timestamp - c.tsOffset
  let (m, seq) := inputInPlace env unset c.rtpSeqManager p.packet.sequenceNumber
  let origSsrc := p.packet.ssrc
  let origSeq := p.packet.sequenceNumber
  let origTimestamp := p.packet.timestamp
  let p := ((p.setSsrc c.ssrc).setSequenceNumber seq).setTimestamp timestamp
  let (stream, sh, sent) ← handOver env c.rtpStream sh p
  return {
    consumer :=
      { c with
        rtpSeqManager := m
        rtpStream := stream
        lastSentPacketHasMarker :=
          if sent.isSome ∧ m.maxOutput = p.packet.sequenceNumber.toNat then p.packet.marker
          else c.lastSentPacketHasMarker }
    shared := sh
    packet := (((p.setSsrc origSsrc).setSequenceNumber origSeq).setTimestamp origTimestamp).restorePayload codec
    sent := sent }

def forwardInPlace (env : SendEnv) (unset : UInt16) (c : SimulcastConsumer κ) (sh : SharedPackets) (p : MediaPacket δ)
    (switches : Bool) : Except ConsumerFault (Delivery (SimulcastConsumer κ) δ) :=
  let c := if switches then c.switchLayer codec p env.nowMs else c
  match p.processPayload codec env.shapes c.encodingContext with
  | .error f => .error (.codec f)
  | .ok r =>
    let c := { c with encodingContext := r.context }
    let p := p.setPayload r.payload
    if r.passed || switches then c.deliverInPlace codec env unset sh p
    else
      .ok
        { consumer :=
            { c with
              rtpSeqManager := c.rtpSeqManager.drop 16 env.shapes.rtpSeq p.packet.sequenceNumber.toNat }
          shared := sh
          packet := p }

def sendSelectedInPlace (env : SendEnv) (unset : UInt16) (c : SimulcastConsumer κ) (sh : SharedPackets)
    (p : MediaPacket δ) (layer : Int) (switches : Bool) : Except ConsumerFault (Delivery (SimulcastConsumer κ) δ) :=
  if c.syncRequired ∧ ¬ p.isKeyFrame codec then .ok { consumer := c, shared := sh, packet := p }
  else do
    match ← c.syncStream codec p.packet layer switches with
    | (c, false) => return { consumer := c, shared := sh, packet := p }
    | (c, true) =>
      match if switches then (c, true) else c.checkOldPacket p.packet.sequenceNumber with
      | (c, false) => return { consumer := c, shared := sh, packet := p }
      | (c, true) => c.forwardInPlace codec env unset sh p switches

def sendRtpPacketInPlace (env : SendEnv) (unset : UInt16) (c : SimulcastConsumer κ) (sh : SharedPackets)
    (p : MediaPacket δ) : Except ConsumerFault (Delivery (SimulcastConsumer κ) δ) :=
  if !c.isActive || c.targetTemporalLayer = -1 || !c.supports p.packet.payloadType then
    .ok { consumer := c, shared := sh, packet := p }
  else
    match c.mapMappedSsrcSpatialLayer.lookup p.packet.ssrc with
    | none => .error .unknownMappedSsrc
    | some layer =>
      match c.selectLayer codec p layer with
      | none => .ok { consumer := c, shared := sh, packet := p }
      | some (c, switches) => c.sendSelectedInPlace codec env unset sh p layer switches

end SimulcastConsumer

/-! ## The packet is restored -/

variable {codec : LawfulCodec δ κ}

theorem ends_handOver {stream : RtpStreamSend} : Returns (fun _ => True) (handOver env stream sh p) := by
  cases handOver env stream sh p with
  | error f => trivial
  | ok r => trivial

namespace SimpleConsumer

variable {c : SimpleConsumer κ}

theorem deliverInPlace_packet :
    Returns (fun d => d.packet = p ∧ d.consumer.encodingContext = c.encodingContext) (c.deliverInPlace env unset sh p) :=
  Ends.bind ends_handOver fun _ _ => ⟨rfl, rfl⟩

theorem sendRtpPacketInPlace_packet (hc : c.OpusOnly codec.toMediaCodec) :
    Returns (fun d => d.packet = p ∧ d.consumer.OpusOnly codec.toMediaCodec)
      (c.sendRtpPacketInPlace codec.toCodec env unset sh p) := by
  have hprocess : Returns _ (c.processPayload codec.toCodec env p) := processPayload_returns hc
  unfold sendRtpPacketInPlace
  split
  · exact ⟨rfl, hc⟩
  generalize c.processPayload codec.toCodec env p = r at hprocess ⊢
  rcases r with _ | ⟨c', p', _ | _⟩
  · trivial
  · exact ⟨hprocess.1, hprocess.2.2⟩
  obtain ⟨hp, -, hc'⟩ := hprocess
  dsimp only
  split
  · exact ⟨hp, hc'⟩
  · exact deliverInPlace_packet.imp fun d hd => ⟨hd.1.trans hp, by rwa [OpusOnly, hd.2]⟩

end SimpleConsumer

namespace PipeConsumer

theorem sendRtpPacketInPlace_packet {c : PipeConsumer} {codec : Codec δ κ} :
    Returns (·.packet = p) (c.sendRtpPacketInPlace codec env unset sh p) := by
  unfold sendRtpPacketInPlace
  split
  · rfl
  split
  · trivial
  split
  · trivial
  split
  · rfl
  · exact Ends.bind ends_handOver fun _ _ => rfl

end PipeConsumer

namespace SvcConsumer

variable {c : SvcConsumer κ}

theorem deliverInPlace_packet {codec : Codec δ κ} {marker : Bool} :
    Returns (·.packet = p.restorePayload codec) (c.deliverInPlace codec env unset sh p marker p.packet.marker) := by
  refine Ends.bind ends_handOver fun _ _ => ?_
  cases marker with
  | true => rfl
  | false => rfl

theorem sendRtpPacketInPlace_packet (hp : p.Described codec.toCodec) :
    Returns (·.packet = p) (c.sendRtpPacketInPlace codec.toCodec env unset sh p) := by
  unfold sendRtpPacketInPlace
  split
  · rfl
  unfold forwardInPlace
  split
  · trivial
  rename_i r hprocess
  split
  · refine (deliverInPlace_packet (p := p.setPayload r.payload)).imp fun d hd => ?_
    exact hd.trans (restorePayload_processPayload hp hprocess)
  · rename_i hpassed
    exact dropped_processPayload hprocess (Bool.not_eq_true _ ▸ hpassed)

end SvcConsumer

namespace SimulcastConsumer

variable {c : SimulcastConsumer κ}

theorem deliverInPlace_packet {codec : Codec δ κ} :
    Returns (·.packet = p.restorePayload codec) (c.deliverInPlace codec env unset sh p) :=
  Ends.bind ends_handOver fun _ _ => rfl

theorem forwardInPlace_packet {switches : Bool} (hp : p.Described codec.toCodec) :
    Returns (·.packet = p) (c.forwardInPlace codec.toCodec env unset sh p switches) := by
  unfold forwardInPlace
  dsimp only
  split
  · trivial
  rename_i r hprocess
  split
  · exact deliverInPlace_packet.imp fun d hd => hd.trans (restorePayload_processPayload hp hprocess)
  rename_i hpassed
  have hpassed : r.passed = false := by
    by_contra hne
    simp [hne] at hpassed
  exact dropped_processPayload hprocess hpassed

theorem sendRtpPacketInPlace_eq (codec : Codec δ κ) : c.sendRtpPacketInPlace codec env unset sh p =
      c.admitPacket codec p >>= proceed sh p fun c switches => c.forwardInPlace codec env unset sh p switches := by
  unfold sendRtpPacketInPlace admitPacket
  split
  · rfl
  rcases c.mapMappedSsrcSpatialLayer.lookup p.packet.ssrc with _ | layer
  · rfl
  dsimp only
  rcases c.selectLayer codec p layer with _ | ⟨c₁, switches⟩
  · rfl
  dsimp only
  unfold sendSelectedInPlace admitSelected
  split
  · rfl
  rcases c₁.syncStream codec p.packet layer switches with f | ⟨c₂, _ | _⟩
  · rfl
  · rfl
  simp only [bind, Except.bind, Except.map]
  generalize (if switches then (c₂, true) else c₂.checkOldPacket p.packet.sequenceNumber) = r
  obtain ⟨c₃, _ | _⟩ := r
  · rfl
  · rfl

theorem sendRtpPacketInPlace_packet (hp : p.Described codec.toCodec) :
    Returns (·.packet = p) (c.sendRtpPacketInPlace codec.toCodec env unset sh p) := by
  rw [sendRtpPacketInPlace_eq]
  rcases c.admitPacket codec.toCodec p with f | ⟨c₁, _ | switches⟩
  · trivial
  · rfl
  · exact forwardInPlace_packet hp

end SimulcastConsumer

/-! ## Where `Input` gives a number -/

variable {codec : Codec δ κ}

theorem handOver_of_ok {stream stream' : RtpStreamSend} {sh' : SharedPackets} {valid : Bool} {q : MediaPacket δ}
    (h : stream.receivePacket sh q.packet q.size env.nowMs = .ok (stream', sh', valid)) :
    handOver env stream sh q = .ok (stream', sh', if valid then some q.packet else none) := by
  rw [handOver, h]

theorem inPlace_of_forwardOn {stream : RtpStreamSend} {m : SeqManager} {ssrc : UInt32} {marker : Bool} {f : Forwarding}
    (unset : UInt16) (h : forwardOn env stream m sh p ssrc marker = .ok f) :
    ∃ seq, inputInPlace env unset m p.packet.sequenceNumber = (f.manager, seq) ∧
      handOver env stream sh (if marker then ((p.setSsrc ssrc).setSequenceNumber seq).setMarker true
        else (p.setSsrc ssrc).setSequenceNumber seq) = .ok (f.stream, f.shared, f.sent) := by
  unfold forwardOn at h
  split at h
  · cases h
  rename_i m' seq hinput
  dsimp only at h
  split at h
  · cases h
  rename_i stream' sh' valid hreceive
  cases h
  refine ⟨UInt16.ofNat seq, by rw [inputInPlace, hinput], ?_⟩
  cases marker <;> exact handOver_of_ok hreceive

theorem SimpleConsumer.sendRtpPacketInPlace_of_ok {c : SimpleConsumer κ} {d : Delivery (SimpleConsumer κ) δ}
    (h : c.sendRtpPacket codec env sh p = .ok d) : c.sendRtpPacketInPlace codec env unset sh p = .ok d := by
  unfold sendRtpPacket at h
  unfold sendRtpPacketInPlace
  split at h <;> rename_i hidle
  · rwa [if_pos hidle]
  rw [if_neg hidle]
  generalize c.processPayload codec env p = processed at h ⊢
  rcases processed with f | ⟨c, p, _ | _⟩
  · cases h
  · exact h
  · dsimp only at h ⊢
    split at h <;> rename_i hwaits
    · rwa [if_pos hwaits]
    · rw [if_neg hwaits]
      obtain ⟨f, hf, h⟩ := exists_of_bind_eq_ok h
      cases h
      obtain ⟨seq, hinput, hover⟩ := inPlace_of_forwardOn unset hf
      rw [deliverInPlace, hinput]
      dsimp only
      rw [if_neg Bool.false_ne_true] at hover
      rw [hover]
      rfl

theorem PipeConsumer.sendRtpPacketInPlace_of_ok {c : PipeConsumer} {d : Delivery PipeConsumer δ}
    (h : c.sendRtpPacket codec env sh p = .ok d) : c.sendRtpPacketInPlace codec env unset sh p = .ok d := by
  unfold sendRtpPacket at h
  unfold sendRtpPacketInPlace
  split at h <;> rename_i hidle
  · rwa [if_pos hidle]
  rw [if_neg hidle]
  generalize c.mapMappedSsrcSsrc.lookup p.packet.ssrc = mapped at h ⊢
  rcases mapped with _ | ssrc
  · cases h
  dsimp only at h ⊢
  generalize c.stream ssrc = found at h ⊢
  rcases found with _ | ⟨idx, s⟩
  · cases h
  dsimp only at h ⊢
  split at h <;> rename_i hwaits
  · rwa [if_pos hwaits]
  rw [if_neg hwaits]
  obtain ⟨f, hf, h⟩ := exists_of_bind_eq_ok h
  cases h
  obtain ⟨seq, hinput, hover⟩ := inPlace_of_forwardOn unset hf
  rw [deliverInPlace, hinput]
  dsimp only
  rw [if_neg Bool.false_ne_true] at hover
  rw [hover]
  rfl

theorem SvcConsumer.sendRtpPacketInPlace_of_ok {c : SvcConsumer κ} {d : Delivery (SvcConsumer κ) δ}
    (h : c.sendRtpPacket codec env sh p = .ok d) : c.sendRtpPacketInPlace codec env unset sh p = .ok d := by
  unfold sendRtpPacket at h
  unfold sendRtpPacketInPlace
  split at h <;> rename_i hidle
  · rwa [if_pos hidle]
  rw [if_neg hidle]
  unfold forward at h
  unfold forwardInPlace
  dsimp only
  generalize p.processPayload codec env.shapes (c.sync codec p.packet.sequenceNumber).encodingContext = processed at h ⊢
  rcases processed with f | r
  · cases h
  dsimp only at h ⊢
  split at h <;> rename_i hpassed
  · rw [if_pos hpassed]
    obtain ⟨f, hf, h⟩ := exists_of_bind_eq_ok h
    cases h
    obtain ⟨seq, hinput, hover⟩ := inPlace_of_forwardOn unset hf
    rw [deliverInPlace]
    rw [show inputInPlace env unset _ _ = _ from hinput]
    dsimp only
    rw [show handOver env _ sh _ = _ from hover]
    cases r.marker <;> rfl
  · rwa [if_neg hpassed]

theorem SimulcastConsumer.deliverInPlace_of_ok {c : SimulcastConsumer κ} {d : Delivery (SimulcastConsumer κ) δ}
    (h : c.deliver codec env sh p = .ok d) : c.deliverInPlace codec env unset sh p = .ok d := by
  unfold deliver at h
  split at h
  · cases h
  rename_i m seq hinput
  have hlt : seq < 2 ^ 16 := by
    unfold SeqManager.input at hinput
    split at hinput
    · cases hinput
    · cases hinput
      exact Nat.mod_lt _ (by decide)
  dsimp only at h
  split at h
  · cases h
  rename_i stream sh' valid hreceive
  cases h
  rw [deliverInPlace, inputInPlace, hinput]
  dsimp only
  rw [handOver_of_ok (q := ((p.setSsrc c.ssrc).setSequenceNumber (.ofNat seq)).setTimestamp (p.packet.timestamp - c.tsOffset))
    hreceive]
  have hseq : (UInt16.ofNat seq).toNat = seq := Nat.mod_eq_of_lt hlt
  cases valid with
  | false => rfl
  | true =>
    show Except.ok _ = _
    congr 2
    simp only [MediaPacket.setSsrc, MediaPacket.setSequenceNumber, MediaPacket.setTimestamp, hseq]
    simp

theorem SimulcastConsumer.sendRtpPacketInPlace_of_ok {c : SimulcastConsumer κ} {d : Delivery (SimulcastConsumer κ) δ}
    (h : c.sendRtpPacket codec env sh p = .ok d) : c.sendRtpPacketInPlace codec env unset sh p = .ok d := by
  rw [sendRtpPacket_eq] at h
  rw [sendRtpPacketInPlace_eq]
  generalize c.admitPacket codec p = admitted at h ⊢
  rcases admitted with f | ⟨c₁, _ | switches⟩
  · cases h
  · exact h
  change c₁.forward codec env sh p switches = .ok d at h
  show c₁.forwardInPlace codec env unset sh p switches = .ok d
  unfold forward at h
  unfold forwardInPlace
  dsimp only at h ⊢
  generalize p.processPayload codec env.shapes _ = processed at h ⊢
  rcases processed with f | r
  · cases h
  dsimp only at h ⊢
  split at h <;> rename_i hpassed
  · rw [if_pos hpassed]
    exact deliverInPlace_of_ok h
  · rwa [if_neg hpassed]

/-! ## Consumers of any kind -/

namespace AnyConsumer

def sendRtpPacketInPlace (codec : Codec δ κ) (env : SendEnv) (unset : UInt16) (c : AnyConsumer κ) (sh : SharedPackets)
    (p : MediaPacket δ) : Except ConsumerFault (Delivery (AnyConsumer κ) δ) :=
  match c with
  | simple c => (c.sendRtpPacketInPlace codec env unset sh p).map (map simple)
  | simulcast c => (c.sendRtpPacketInPlace codec env unset sh p).map (map simulcast)
  | svc c => (c.sendRtpPacketInPlace codec env unset sh p).map (map svc)
  | pipe c => (c.sendRtpPacketInPlace codec env unset sh p).map (map pipe)

/-- **In place and by values**: what `sendRtpPacket` returns, `sendRtpPacketInPlace` returns too, for every value of `unset`. -/
theorem sendRtpPacketInPlace_of_ok {c : AnyConsumer κ} {d : Delivery (AnyConsumer κ) δ}
    (h : c.sendRtpPacket codec env sh p = .ok d) : c.sendRtpPacketInPlace codec env unset sh p = .ok d := by
  have hmap : ∀ {α : Type} {x y : Except ConsumerFault (Delivery α δ)} {f : Delivery α δ → Delivery (AnyConsumer κ) δ},
      (∀ a, x = .ok a → y = .ok a) → x.map f = .ok d → y.map f = .ok d := by
    intro α x y f hxy h
    cases x with
    | error e => cases h
    | ok a =>
      rw [hxy a rfl]
      exact h
  cases c with
  | simple c => exact hmap (fun _ => SimpleConsumer.sendRtpPacketInPlace_of_ok) h
  | simulcast c => exact hmap (fun _ => SimulcastConsumer.sendRtpPacketInPlace_of_ok) h
  | svc c => exact hmap (fun _ => SvcConsumer.sendRtpPacketInPlace_of_ok) h
  | pipe c => exact hmap (fun _ => PipeConsumer.sendRtpPacketInPlace_of_ok) h

/-- **The packet is restored** on every path of `SendRtpPacket`, for every kind of consumer and every codec, whatever was in
the number that `Input` did not set. -/
theorem packet_restored (codec : LawfulCodec δ κ) (env : SendEnv) (unset : UInt16) (c : AnyConsumer κ) (sh : SharedPackets)
    (p : MediaPacket δ) (hp : Handled codec p) (hc : c.OpusOnly codec.toMediaCodec) {d : Delivery (AnyConsumer κ) δ}
    (h : c.sendRtpPacketInPlace codec.toCodec env unset sh p = .ok d) :
    d.packet = p ∧ d.packet.size = p.size ∧ d.consumer.OpusOnly codec.toMediaCodec := by
  have hreturns : Returns (fun d => d.packet = p ∧ d.consumer.OpusOnly codec.toMediaCodec)
      (c.sendRtpPacketInPlace codec.toCodec env unset sh p) := by
    cases c with
    | simple c => exact (SimpleConsumer.sendRtpPacketInPlace_packet hc).map fun _ hd => hd
    | simulcast c => exact (SimulcastConsumer.sendRtpPacketInPlace_packet hp.described).map fun _ hd => ⟨hd, trivial⟩
    | svc c => exact (SvcConsumer.sendRtpPacketInPlace_packet hp.described).map fun _ hd => ⟨hd, trivial⟩
    | pipe c => exact PipeConsumer.sendRtpPacketInPlace_packet.map fun _ hd => ⟨hd, trivial⟩
  have hpacket := hreturns.of_ok h
  exact ⟨hpacket.1, by rw [hpacket.1], hpacket.2⟩

/-! ### A key frame that is renumbered -/

def indexedKeyFrame : MediaPacket VP8.PayloadDescriptor :=
  VP8.processRtpPacket
    { packet :=
        { payloadType := 96, sequenceNumber := 9, timestamp := 5000, ssrc := 1000, payload := [0x90, 0xe0, 7, 3, 0x20, 0] } }

def startedLayers : SimulcastConsumer VP8.State :=
  let es : List (SimulcastConsumer.Event VP8.PayloadDescriptor) :=
    [.call 20000 .transportConnected, .call 20000 (.producerNewRtpStream (SimulcastConsumer.producerStream 1) 1000)]
  (es.foldlM (SimulcastConsumer.step VP8.codec) SimulcastConsumer.twoLayers).toOption.getD SimulcastConsumer.twoLayers

theorem indexedKeyFrame_restored :
    ∃ d, sendRtpPacketInPlace VP8.codec ⟨20000, SimulcastConsumer.spines⟩ 0 (simulcast startedLayers) {} indexedKeyFrame =
        .ok d ∧
      d.sent = some
        { indexedKeyFrame.packet with
          ssrc := 5, sequenceNumber := 2, payload := [0x90, 0xe0, 0x80, 1, 1, 0x20, 0] } ∧
      indexedKeyFrame.packet.payload = [0x90, 0xe0, 0x80, 7, 3, 0x20, 0] ∧ d.packet = indexedKeyFrame := by
  have hsent : (sendRtpPacketInPlace VP8.codec ⟨20000, SimulcastConsumer.spines⟩ 0 (simulcast startedLayers) {}
      indexedKeyFrame).map Delivery.sent = .ok (some
          { indexedKeyFrame.packet with
            ssrc := 5, sequenceNumber := 2, payload := [0x90, 0xe0, 0x80, 1, 1, 0x20, 0] }) := by
    decide +kernel
  cases hd : sendRtpPacketInPlace VP8.codec ⟨20000, SimulcastConsumer.spines⟩ 0 (simulcast startedLayers) {}
      indexedKeyFrame with
  | error f =>
    rw [hd] at hsent
    cases hsent
  | ok d =>
    rw [hd] at hsent
    exact ⟨d, rfl, Except.ok.inj hsent, by decide,
      (packet_restored VP8.lawfulCodec _ _ (simulcast startedLayers) _ _ (.vp8 _ rfl) trivial hd).1⟩

end AnyConsumer

end Mediasoup.Consumer
