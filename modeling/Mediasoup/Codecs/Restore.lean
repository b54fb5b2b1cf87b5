import Mediasoup.Codecs.H264
import Mediasoup.Codecs.H264SVC
import Mediasoup.Codecs.Opus
import Mediasoup.Codecs.VP8Payload
import Mediasoup.Codecs.VP9

/-!
# What codecs rewrite, and that they restore it

All consumers of a producer process one packet in turn, so a codec must undo what it has written into the payload. A `LawfulCodec`
does: a payload that agrees with its descriptor is the same after `process` and `restore`, and a packet that is dropped has not
been written to. VP8 writes its two indices, VP9 and H264_SVC set the marker at the end of a frame, H264 and Opus write nothing.
-/

namespace Mediasoup.Codecs

open Lib Rtp Utils MediaPacket

structure LawfulCodec (δ κ : Type) extends MediaCodec δ κ where
  rewritesPayload : δ → Bool
  rewritesMarker : δ → Bool
  payload_kept : ∀ {sh context d payload r}, rewritesPayload d = false → process sh context d payload = .ok r →
    r.payload = payload
  marker_unset : ∀ {sh context d payload r}, rewritesMarker d = false → process sh context d payload = .ok r → r.marker = false
  payload_dropped : ∀ {sh context d payload r}, process sh context d payload = .ok r → r.passed = false → r.payload = payload
  restore_process : ∀ {sh context d payload r}, restore d payload = payload → process sh context d payload = .ok r →
    restore d r.payload = payload
  opus : isOpus = true → ∀ d, rewritesPayload d = false

/-- The payload has in it what the descriptor says. -/
def MediaPacket.Described {δ κ : Type} (codec : Codec δ κ) (p : MediaPacket δ) : Prop :=
  ∀ d ∈ p.descriptor, codec.restore d p.packet.payload = p.packet.payload

namespace LawfulCodec

variable {δ κ : Type} (codec : LawfulCodec δ κ) {p : MediaPacket δ} {sh : Shapes} {context : EncodingContext κ}
  {r : Processed κ}

def PayloadKept (p : MediaPacket δ) : Prop := ∀ d ∈ p.descriptor, codec.rewritesPayload d = false

/-- The marker of the packet is not rewritten, whatever the context: it is set already, or never set. -/
def MarkerKept (p : MediaPacket δ) : Prop := p.packet.marker = true ∨ ∀ d ∈ p.descriptor, codec.rewritesMarker d = false

instance (p : MediaPacket δ) : Decidable (codec.PayloadKept p) :=
  inferInstanceAs (Decidable (∀ d ∈ p.descriptor, _))

instance (p : MediaPacket δ) : Decidable (codec.MarkerKept p) :=
  inferInstanceAs (Decidable (_ ∨ ∀ d ∈ p.descriptor, _))

variable {codec}

theorem payload_processPayload (hp : codec.PayloadKept p) (h : p.processPayload codec.toCodec sh context = .ok r) :
    r.payload = p.packet.payload := by
  unfold processPayload at h
  cases hd : p.descriptor with
  | none =>
    rw [hd] at h
    cases h
    rfl
  | some d =>
    rw [hd] at h
    exact codec.payload_kept (hp d hd) h

theorem marker_processPayload (hp : codec.MarkerKept p) (h : p.processPayload codec.toCodec sh context = .ok r) :
    (r.marker || p.packet.marker) = p.packet.marker := by
  rcases hp with hmarker | hp
  · rw [hmarker, Bool.or_true]
  unfold processPayload at h
  cases hd : p.descriptor with
  | none =>
    rw [hd] at h
    cases h
    rfl
  | some d =>
    rw [hd] at h
    rw [codec.marker_unset (hp d hd) h, Bool.false_or]

theorem dropped_processPayload (h : p.processPayload codec.toCodec sh context = .ok r) (hpassed : r.passed = false) :
    p.setPayload r.payload = p := by
  unfold processPayload at h
  cases hd : p.descriptor with
  | none =>
    rw [hd] at h
    cases h
    rfl
  | some d =>
    rw [hd] at h
    rw [codec.payload_dropped h hpassed]
    rfl

/-- **Processing and restoring** gives the packet back. -/
theorem restorePayload_processPayload (hp : p.Described codec.toCodec)
    (h : p.processPayload codec.toCodec sh context = .ok r) : (p.setPayload r.payload).restorePayload codec.toCodec = p := by
  obtain ⟨packet, descriptor, headerSize⟩ := p
  cases descriptor with
  | none =>
    cases h
    rfl
  | some d =>
    have hrestore : codec.restore d r.payload = packet.payload := codec.restore_process (hp d rfl) h
    simp only [restorePayload, setPayload, hrestore]

end LawfulCodec

/-! ## VP8 -/

namespace VP8

theorem described_processRtpPacket (p : MediaPacket PayloadDescriptor) (hp : p.descriptor = none) :
    (processRtpPacket p).Described codec := by
  intro d hd
  cases h : parse p.packet.payload with
  | none =>
    simp [processRtpPacket, h, hp] at hd
  | some e =>
    obtain ⟨hdescriptor, hparse, -⟩ := processRtpPacket_spec h
    rw [hdescriptor] at hd
    cases hd
    exact restore_eq hparse rfl

def mediaCodec : MediaCodec PayloadDescriptor State where
  toCodec := codec
  initial := {}
  canBeKeyFrame := true
  isOpus := false

def lawfulCodec : LawfulCodec PayloadDescriptor State where
  toMediaCodec := mediaCodec
  rewritesPayload d := d.hasPictureId && d.hasTl0PictureIndex
  rewritesMarker _ := false
  payload_kept {sh context d payload r} hd h := by
    obtain ⟨-, ⟨-, heq⟩ | ⟨-, x, y, -, heq⟩⟩ := process_eq_ok h
    · exact heq
    · rwa [hd] at heq
  marker_unset _ h := (process_eq_ok h).1
  payload_dropped {sh context d payload r} h hpassed := by
    obtain ⟨-, ⟨-, heq⟩ | ⟨hpassed', -⟩⟩ := process_eq_ok h
    · exact heq
    · simp [hpassed'] at hpassed
  restore_process := restore_process
  opus h := by cases h

end VP8

/-! ## The codecs that leave the payload alone -/

/-- The two SVC codecs ignore a packet of too high layers, and select among the others. -/
theorem eq_of_guarded {κ : Type} {context : EncodingContext κ} {f : LayerFrame} {ignored selected r : Processed κ}
    (h : (if context.targetSpatialLayer < 0 then .error .noTargetSpatialLayer
      else if context.targetTemporalLayer < 0 then .error .noTargetTemporalLayer
      else if context.tooHighLayers f then .ok ignored else .ok selected : Except CodecFault (Processed κ)) = .ok r) :
    r = ignored ∨ r = selected := by
  split_ifs at h
  · exact .inl (Except.ok.inj h).symm
  · exact .inr (Except.ok.inj h).symm

namespace VP9

theorem process_payload {sh : Shapes} {context : Context} {d : PayloadDescriptor} {payload : List UInt8}
    {r : Processed State} (h : process sh context d payload = .ok r) :
    r.payload = payload ∧ (d.e = false → r.marker = false) := by
  rcases eq_of_guarded h with rfl | rfl
  · exact ⟨rfl, fun _ => rfl⟩
  have hpass : ∀ (context : Context) (layers : TmpLayers), (pass sh context d layers payload).payload = payload ∧
      (d.e = false → (pass sh context d layers payload).marker = false) := by
    intro context layers
    refine ⟨rfl, fun he => ?_⟩
    rw [pass, he, Bool.and_false]
  unfold select
  dsimp only
  split
  · exact hpass _ _
  split
  · exact ⟨rfl, fun _ => rfl⟩
  split
  · exact ⟨rfl, fun _ => rfl⟩
  · exact hpass _ _

def lawfulCodec : LawfulCodec PayloadDescriptor State where
  toMediaCodec := mediaCodec
  rewritesPayload _ := false
  rewritesMarker := PayloadDescriptor.e
  payload_kept _ h := (process_payload h).1
  marker_unset he h := (process_payload h).2 he
  payload_dropped h _ := (process_payload h).1
  restore_process _ h := (process_payload h).1
  opus h := by cases h

end VP9

namespace H264SVC

theorem process_payload {context : Context} {d : PayloadDescriptor} {payload : List UInt8} {r : Processed Unit}
    (h : process context d payload = .ok r) : r.payload = payload ∧ (d.e = false → r.marker = false) := by
  rcases eq_of_guarded h with rfl | rfl
  · exact ⟨rfl, fun _ => rfl⟩
  unfold select
  dsimp only
  split
  · exact ⟨rfl, fun _ => rfl⟩
  split
  · exact ⟨rfl, fun _ => rfl⟩
  · refine ⟨rfl, fun he => ?_⟩
    rw [he, Bool.and_false]

def lawfulCodec : LawfulCodec PayloadDescriptor Unit where
  toCodec := codec
  initial := ()
  canBeKeyFrame := true
  isOpus := false
  rewritesPayload _ := false
  rewritesMarker := PayloadDescriptor.e
  payload_kept _ h := (process_payload h).1
  marker_unset he h := (process_payload h).2 he
  payload_dropped h _ := (process_payload h).1
  restore_process _ h := (process_payload h).1
  opus h := by cases h

end H264SVC

namespace H264

theorem process_payload {context : Context} {d : PayloadDescriptor} {payload : List UInt8} {r : Processed Unit}
    (h : process context d payload = .ok r) : r.payload = payload ∧ r.marker = false := by
  unfold process at h
  split at h
  · cases h
  split at h
  · cases h
    exact ⟨rfl, rfl⟩
  · cases h
    exact ⟨rfl, rfl⟩

def lawfulCodec : LawfulCodec PayloadDescriptor Unit where
  toCodec := codec
  initial := ()
  canBeKeyFrame := true
  isOpus := false
  rewritesPayload _ := false
  rewritesMarker _ := false
  payload_kept _ h := (process_payload h).1
  marker_unset _ h := (process_payload h).2
  payload_dropped h _ := (process_payload h).1
  restore_process _ h := (process_payload h).1
  opus h := by cases h

end H264

namespace Opus

theorem process_payload {context : Context} {d : PayloadDescriptor} {payload : List UInt8} {r : Processed State}
    (h : process context d payload = .ok r) : r.payload = payload ∧ r.marker = false := by
  cases h
  exact ⟨rfl, rfl⟩

def lawfulCodec : LawfulCodec PayloadDescriptor State where
  toCodec := codec
  initial := {}
  canBeKeyFrame := false
  isOpus := true
  rewritesPayload _ := false
  rewritesMarker _ := false
  payload_kept _ h := (process_payload h).1
  marker_unset _ h := (process_payload h).2
  payload_dropped h _ := (process_payload h).1
  restore_process _ h := (process_payload h).1
  opus _ _ := rfl

end Opus

def otherCodec : LawfulCodec Empty Unit where
  process _ _ d _ := d.elim
  restore d := d.elim
  syncRequired := id
  isKeyFrame d := d.elim
  temporalLayer d := d.elim
  initial := ()
  canBeKeyFrame := false
  isOpus := false
  rewritesPayload d := d.elim
  rewritesMarker d := d.elim
  payload_kept {_ _ d} := d.elim
  marker_unset {_ _ d} := d.elim
  payload_dropped {_ _ d} := d.elim
  restore_process {_ _ d} := d.elim
  opus h := by cases h

end Mediasoup.Codecs
