import Mediasoup.Lib.Run
import Mediasoup.Rtcp.FeedbackRtpTransport.Serialize

/-!
# The time between the references of two packets

The reference time of a packet counts ticks of 64 ms, modulo a power of two. `SetReferenceTime`, which only tests use,
keeps 24 bits of the count, as the field on the wire does; the first call of `AddPacket` keeps 23. `GetBaseDelta`
compensates for a wrap of 24 bits, so a wrap of 23 bits goes unnoticed (`missed_wrap`). `getBaseDelta_eq_iff` says for which
times the delta is right.
-/

namespace Mediasoup.Rtcp.FeedbackRtpTransport

open Utils Lib

/-! ## The reference time -/

def baseTimeTick : Nat := 64

def timeWrapPeriod : Nat := baseTimeTick * 2 ^ 24

namespace Packet

def setReferenceTime (p : Packet) (referenceTime : Nat) : Packet :=
  { p with referenceTime := referenceTime % timeWrapPeriod / baseTimeTick }

def getReferenceTimestamp (p : Packet) : Int := timeWrapPeriod + p.referenceTime * baseTimeTick

def getBaseDelta (p : Packet) (previousTimestampMs : Int) : Int :=
  let delta := p.getReferenceTimestamp - previousTimestampMs
  if (delta - timeWrapPeriod).natAbs < delta.natAbs then delta - timeWrapPeriod
  else if (delta + timeWrapPeriod).natAbs < delta.natAbs then delta + timeWrapPeriod
  else delta

end Packet

/-! ## Packets with the reference time of an arrival -/

inductive Setter
  | addPacket
  | setReferenceTime
  deriving DecidableEq

/-- The packets whose reference time was set from the time `t`: at the call itself, after later calls of `AddPacket`,
and after `Serialize` and `Parse`. -/
inductive Built : Setter → Nat → Packet → Prop
  | first {p q : Packet} {sequenceNumber t maxRtcpPacketLen : Nat} {r : AddPacketResult} (hfresh : p.latestTimestamp = 0)
      (hadd : p.addPacket sequenceNumber t maxRtcpPacketLen = .ok (q, r)) : Built .addPacket t q
  | set (p : Packet) (t : Nat) : Built .setReferenceTime t (p.setReferenceTime t)
  | later {s : Setter} {t : Nat} {p q : Packet} {sequenceNumber timestamp maxRtcpPacketLen : Nat} {r : AddPacketResult}
      (hp : Built s t p) (hstarted : p.latestTimestamp ≠ 0)
      (hadd : p.addPacket sequenceNumber timestamp maxRtcpPacketLen = .ok (q, r)) : Built s t q
  | wire {s : Setter} {t : Nat} {p q : Packet} {bytes : List UInt8} {len : Nat} (hp : Built s t p)
      (hbytes : p.serialize = .ok bytes) (hparse : parse bytes len = .ok q) : Built s t q

/-- The bits of the tick count that a setter keeps. -/
def Setter.bits : Setter → Nat
  | .addPacket => 23
  | .setReferenceTime => 24

theorem masked_ticks (t : Nat) : (t &&& 0x1fffffc0) / 64 = t / 64 % 2 ^ 23 := by
  rw [← Nat.and_two_pow_sub_one_eq_mod, show 64 = 2 ^ 6 from rfl, ← Nat.shiftRight_eq_div_pow,
    ← Nat.shiftRight_eq_div_pow, Nat.shiftRight_and_distrib]
  rfl

theorem addPacket_first {p q : Packet} {sequenceNumber t maxRtcpPacketLen : Nat} {r : AddPacketResult}
    (hfresh : p.latestTimestamp = 0) (hadd : p.addPacket sequenceNumber t maxRtcpPacketLen = .ok (q, r)) :
    q.referenceTime = t / 64 % 2 ^ 23 := by
  simp only [Packet.addPacket, if_pos hfresh] at hadd
  split at hadd
  · simp at hadd
  · cases hadd
    exact masked_ticks t

theorem addPacket_later {p q : Packet} {sequenceNumber t maxRtcpPacketLen : Nat} {r : AddPacketResult}
    (hstarted : p.latestTimestamp ≠ 0) (hadd : p.addPacket sequenceNumber t maxRtcpPacketLen = .ok (q, r)) :
    q.referenceTime = p.referenceTime := by
  simp only [Packet.addPacket, if_neg hstarted] at hadd
  split at hadd
  · simp at hadd
  -- the packet is returned as it is, but in the last branch, where `FillChunk` keeps the header
  · split at hadd
    · cases hadd; rfl
    split at hadd
    · cases hadd; rfl
    split at hadd
    · cases hadd; rfl
    split at hadd
    · cases hadd; rfl
    · simp only [Except.ok.injEq, Prod.mk.injEq] at hadd
      rw [← hadd.1]
      exact (SameHeader.fillChunk p p.latestSequenceNumber sequenceNumber (delta64 t p.latestTimestamp)).referenceTime

theorem addPendingChunks_referenceTime {p q : Packet} (h : p.addPendingChunks = .ok q) : q.referenceTime = p.referenceTime := by
  unfold Packet.addPendingChunks at h
  split at h
  · cases h; rfl
  split at h
  · cases h; rfl
  · split at h
    · cases h; rfl
    · simp at h

theorem parse_header_append {p q : Packet} {content : List UInt8} {len : Nat}
    (h : parse (p.header ++ content) len = .ok q) : q.referenceTime = p.referenceTime % 2 ^ 24 := by
  simp only [Packet.header, set1Byte, set2Bytes, set3Bytes, set4Bytes, List.cons_append, List.nil_append, parse,
    parseBody, get3Bytes_set3Bytes] at h
  split at h
  · simp at h
  split at h
  · simp at h
  obtain ⟨scan, -, h⟩ := exists_of_bind_eq_ok h
  split at h
  · simp [throw, throwThe, MonadExceptOf.throw, bind, Except.bind] at h
  obtain ⟨⟨deltas, cursor⟩, -, h⟩ := exists_of_bind_eq_ok h
  split at h
  · simp [throw, throwThe, MonadExceptOf.throw, bind, Except.bind] at h
  · simp only [pure, Except.pure, Except.ok.injEq] at h
    rw [← h]
    rfl

theorem parse_serialize_referenceTime {p q : Packet} {bytes : List UInt8} {len : Nat} (hbytes : p.serialize = .ok bytes)
    (hparse : parse bytes len = .ok q) : q.referenceTime = p.referenceTime % 2 ^ 24 := by
  obtain ⟨p', hpend, hbytes⟩ := exists_of_bind_eq_ok hbytes
  obtain ⟨chunks, -, hbytes⟩ := exists_of_bind_eq_ok hbytes
  cases hbytes
  rw [parse_header_append hparse, addPendingChunks_referenceTime hpend]

/-- **The reference time of a packet** is its tick count, cut to the bits that the setter keeps. -/
theorem Built.referenceTime {s : Setter} {t : Nat} {p : Packet} (h : Built s t p) : p.referenceTime = t / 64 % 2 ^ s.bits := by
  induction h with
  | first hfresh hadd => exact addPacket_first hfresh hadd
  | set p t =>
    change t % 2 ^ 30 / 64 = t / 64 % 2 ^ 24
    omega
  | later hp hstarted hadd ih => rw [addPacket_later hstarted hadd, ih]
  | @wire s t p q bytes len hp hbytes hparse ih =>
    rw [parse_serialize_referenceTime hbytes hparse, ih]
    cases s <;> simp only [Setter.bits] <;> omega

/-! ## The delta -/

def Setter.Tells : Setter → Nat → Nat → Prop
  | .addPacket, t₁, t₂ => t₁ / 2 ^ 29 = t₂ / 2 ^ 29
  | .setReferenceTime, t₁, t₂ => t₂ / 64 - t₁ / 64 = 2 ^ 23 → t₁ / 64 % 2 ^ 24 < 2 ^ 23

def compensated (d : Int) : Int := if 2 ^ 23 < d then d - 2 ^ 24 else if d < -2 ^ 23 then d + 2 ^ 24 else d

theorem getBaseDelta_eq (p₁ p₂ : Packet) :
    p₂.getBaseDelta p₁.getReferenceTimestamp = 64 * compensated ((p₂.referenceTime : Int) - p₁.referenceTime) := by
  have hperiod : (timeWrapPeriod : Int) = 2 ^ 30 := rfl
  have htick : (baseTimeTick : Int) = 64 := rfl
  simp only [Packet.getBaseDelta, Packet.getReferenceTimestamp, compensated, hperiod, htick]
  split
  · omega
  · split
    · omega
    · omega

/-- **The delta is right exactly for the times that the setter tells apart.** -/
theorem getBaseDelta_eq_iff {s : Setter} {t₁ t₂ : Nat} {p₁ p₂ : Packet} (h₁ : Built s t₁ p₁) (h₂ : Built s t₂ p₂)
    (hle : t₁ ≤ t₂) (hhalf : 2 * (t₂ - t₁) < timeWrapPeriod) :
    p₂.getBaseDelta p₁.getReferenceTimestamp = 64 * ((t₂ / 64 : Nat) - (t₁ / 64 : Nat)) ↔ s.Tells t₁ t₂ := by
  have hperiod : timeWrapPeriod = 2 ^ 30 := rfl
  have hr₁ := h₁.referenceTime
  have hr₂ := h₂.referenceTime
  rw [getBaseDelta_eq]
  generalize p₁.referenceTime = r₁ at hr₁ ⊢
  generalize p₂.referenceTime = r₂ at hr₂ ⊢
  cases s with
  | addPacket =>
    simp only [Setter.bits] at hr₁ hr₂
    -- references of 23 bits differ by less than half a period, and there is nothing to compensate
    have hsmall : compensated ((r₂ : Int) - r₁) = r₂ - r₁ := by
      rw [compensated, if_neg (by omega), if_neg (by omega)]
    rw [hsmall, Setter.Tells]
    omega
  | setReferenceTime =>
    simp only [Setter.bits] at hr₁ hr₂
    rw [compensated, Setter.Tells]
    split
    · omega
    · split <;> omega

def lastTick : Packet :=
  { senderSsrc := 1, mediaSsrc := 2, baseSequenceNumber := 2, referenceTime := 8388607, latestSequenceNumber := 1,
    latestTimestamp := 2 ^ 29 - 64 }

def lastTickParsed : Packet :=
  { senderSsrc := 1, mediaSsrc := 2, baseSequenceNumber := 2, referenceTime := 8388607, size := 20 }

theorem built_lastTick : Built .addPacket (2 ^ 29 - 64) lastTick :=
  .first rfl (show Packet.addPacket { senderSsrc := 1, mediaSsrc := 2 } 1 (2 ^ 29 - 64) 1200 = .ok (lastTick, .success) by
    decide +kernel)

theorem built_lastTickParsed : Built .addPacket (2 ^ 29 - 64) lastTickParsed :=
  .wire built_lastTick (by decide +kernel)
    (show parse [0x8f, 205, 0, 4, 0, 0, 0, 1, 0, 0, 0, 2, 0, 2, 0, 0, 0x7f, 0xff, 0xff, 0] 20 = .ok lastTickParsed by
      decide +kernel)

theorem getBaseDelta_wire_and_wrap : lastTickParsed.getBaseDelta lastTick.getReferenceTimestamp =
      64 * (((2 ^ 29 - 64) / 64 : Nat) - ((2 ^ 29 - 64) / 64 : Nat)) ∧
    (lastTick.setReferenceTime (2 ^ 30 + 200)).getBaseDelta
      (lastTick.setReferenceTime (2 ^ 30 - 64)).getReferenceTimestamp =
        64 * (((2 ^ 30 + 200) / 64 : Nat) - ((2 ^ 30 - 64) / 64 : Nat)) := by
  constructor
  · exact (getBaseDelta_eq_iff built_lastTick built_lastTickParsed (by decide) (by decide)).mpr rfl
  · refine (getBaseDelta_eq_iff (.set _ (2 ^ 30 - 64)) (.set _ (2 ^ 30 + 200)) (by decide) (by decide)).mpr ?_
    intro h
    simp at h

/-- The packets of two calls of `AddPacket` 64 ms apart, on the two sides of 2²⁹ ms: the delta goes back by more than six
days. -/
theorem missed_wrap : ∃ p : Packet, Built .addPacket (2 ^ 29 - 64) lastTick ∧ Built .addPacket (2 ^ 29) p ∧
      2 * (2 ^ 29 - (2 ^ 29 - 64)) < timeWrapPeriod ∧
      p.getBaseDelta lastTick.getReferenceTimestamp = -(2 ^ 29 - 64) ∧
      p.getBaseDelta lastTick.getReferenceTimestamp ≠ 64 * ((2 ^ 29 / 64 : Nat) - ((2 ^ 29 - 64) / 64 : Nat)) := by
  refine ⟨_, built_lastTick, .first rfl (show Packet.addPacket { senderSsrc := 1, mediaSsrc := 2 } 1 (2 ^ 29) 1200 = _ from rfl),
    ?_, ?_, ?_⟩ <;> decide +kernel

end Mediasoup.Rtcp.FeedbackRtpTransport
