import Mediasoup.Rtcp.Reports

/-!
# Round trip times

A report says which of our reports was the last to arrive, by the compact NTP time it was sent at, and how long ago. What is left
of the time since then is the round trip time. The compact time starts anew every 18 hours, but it is compared as if it did not:
a round trip across that moment is taken to be 0 (`wrapped_rtt_lost`), and so is one without delay at the other end.
`rtt_eq_iff`: all others are exact.
-/

namespace Mediasoup.Rtp

structure Ntp where
  seconds : UInt32
  fractions : UInt32

/-- `TimeMs2Ntp`. The quotient is an integer only for multiples of 125 ms, whose `double` is exact, so that the conversion cuts
it off at the same place. -/
def timeMs2Ntp (ms : Nat) : Ntp := ⟨.ofNat (ms / 1000), .ofNat (ms % 1000 * 2 ^ 32 / 1000)⟩

def Ntp.compact (ntp : Ntp) : UInt32 := (ntp.seconds &&& 0x0000FFFF) <<< 16 ||| (ntp.fractions &&& 0xFFFF0000) >>> 16

def computeRtt (compactNtp last delay : UInt32) : UInt32 :=
  if last ≠ 0 ∧ delay ≠ 0 ∧ compactNtp > delay + last then compactNtp - delay - last else 0

/-- `RtpStreamSend::ReceiveRtcpReceiverReport`: the RTT. -/
def receiveRtcpReceiverReport (nowMs : Nat) (report : Rtcp.ReceiverReport) : UInt32 :=
  computeRtt (timeMs2Ntp nowMs).compact report.lsr report.dlsr

/-- `RtpStreamRecv::ReceiveRtcpXrDelaySinceLastRr`: the RTT. -/
def receiveRtcpXrDelaySinceLastRr (nowMs : Nat) (ssrcInfo : Rtcp.XR.SsrcInfo) : UInt32 :=
  computeRtt (timeMs2Ntp nowMs).compact ssrcInfo.lrr ssrcInfo.dlrr

/-- A time in 1/2^16 second fractions, of which the compact form keeps 32 bits. -/
def units (ms : Nat) : Nat := ms * 2 ^ 16 / 1000

theorem Ntp.toNat_compact (ntp : Ntp) :
    ntp.compact.toNat = ntp.seconds.toNat % 2 ^ 16 * 2 ^ 16 + ntp.fractions.toNat / 2 ^ 16 := by
  have hfractions := ntp.fractions.toNat_lt
  have hlow : ntp.seconds.toNat &&& 65535 = ntp.seconds.toNat % 2 ^ 16 := Nat.and_two_pow_sub_one_eq_mod _ 16
  have hhigh : (ntp.fractions.toNat &&& 4294901760) >>> 16 = ntp.fractions.toNat / 2 ^ 16 := by
    rw [Nat.shiftRight_and_distrib, show 4294901760 >>> 16 = 2 ^ 16 - 1 from rfl, Nat.and_two_pow_sub_one_eq_mod,
      Nat.shiftRight_eq_div_pow]
    omega
  simp only [compact, UInt32.toNat_or, UInt32.toNat_shiftLeft, UInt32.toNat_shiftRight, UInt32.toNat_and,
    UInt32.reduceToNat, Nat.reduceMod, hlow, hhigh]
  rw [Nat.mod_eq_of_lt (by rw [Nat.shiftLeft_eq]; omega), ← Nat.shiftLeft_add_eq_or_of_lt (by omega), Nat.shiftLeft_eq]

theorem toNat_compact (ms : Nat) : (timeMs2Ntp ms).compact.toNat = units ms % 2 ^ 32 := by
  have hfraction : ms % 1000 * 2 ^ 32 / 1000 / 2 ^ 16 = ms % 1000 * 2 ^ 16 / 1000 := by
    rw [Nat.div_right_comm, Nat.mul_div_assoc _ (by decide), Nat.pow_div (by decide) two_pos]
  have hunits : units ms = ms / 1000 * 2 ^ 16 + ms % 1000 * 2 ^ 16 / 1000 := by
    unfold units
    omega
  rw [Ntp.toNat_compact, timeMs2Ntp, UInt32.toNat_ofNat', UInt32.toNat_ofNat', hunits,
    Nat.mod_eq_of_lt (a := ms % 1000 * 2 ^ 32 / 1000) (by omega), hfraction]
  omega

theorem computeRtt_eq_iff {sentMs nowMs d r : Nat} (hsent : (timeMs2Ntp sentMs).compact ≠ 0)
    (hnow : units nowMs = units sentMs + d + r) (hdr : d + r < 2 ^ 31) :
    (computeRtt (timeMs2Ntp nowMs).compact (timeMs2Ntp sentMs).compact (.ofNat d)).toNat = r ↔
      r = 0 ∨ d ≠ 0 ∧ (units sentMs + d) % 2 ^ 32 + r < 2 ^ 32 := by
  have hd : (UInt32.ofNat d).toNat = d := by rw [UInt32.toNat_ofNat', Nat.mod_eq_of_lt (by omega)]
  have hdelay : UInt32.ofNat d ≠ 0 ↔ d ≠ 0 := by
    rw [Ne, ← UInt32.toNat_inj, hd]
    rfl
  have hgt : (timeMs2Ntp nowMs).compact > UInt32.ofNat d + (timeMs2Ntp sentMs).compact ↔
      (units sentMs + d) % 2 ^ 32 < (units sentMs + d + r) % 2 ^ 32 := by
    rw [gt_iff_lt, UInt32.lt_iff_toNat_lt, UInt32.toNat_add, toNat_compact, toNat_compact, hd, hnow]
    omega
  unfold computeRtt
  split
  · rename_i h
    rw [hdelay, hgt] at h
    rw [UInt32.toNat_sub, UInt32.toNat_sub, toNat_compact, toNat_compact, hd, hnow]
    omega
  rename_i h
  rw [hdelay, hgt, not_and] at h
  have h := h hsent
  rw [UInt32.toNat_zero]
  omega

/-- **The round trip time is exact**, for both kinds of reports, if and only if it is 0, or there was a delay at the other end and
the compact time does not start anew after that delay. -/
theorem rtt_eq_iff (sentMs nowMs d r : Nat) (report : Rtcp.ReceiverReport) (ssrcInfo : Rtcp.XR.SsrcInfo)
    (hsent : (timeMs2Ntp sentMs).compact ≠ 0) (hnow : units nowMs = units sentMs + d + r) (hdr : d + r < 2 ^ 31)
    (hlsr : report.lsr = (timeMs2Ntp sentMs).compact) (hdlsr : report.dlsr = .ofNat d)
    (hlrr : ssrcInfo.lrr = (timeMs2Ntp sentMs).compact) (hdlrr : ssrcInfo.dlrr = .ofNat d) :
    ((receiveRtcpReceiverReport nowMs report).toNat = r ∧ (receiveRtcpXrDelaySinceLastRr nowMs ssrcInfo).toNat = r) ↔
      r = 0 ∨ d ≠ 0 ∧ (units sentMs + d) % 2 ^ 32 + r < 2 ^ 32 := by
  rw [receiveRtcpReceiverReport, receiveRtcpXrDelaySinceLastRr, hlsr, hdlsr, hlrr, hdlrr, and_self]
  exact computeRtt_eq_iff hsent hnow hdr

def rttReport (sentMs : Nat) (d : UInt32) : Rtcp.ReceiverReport := ⟨5, 0, 0, 0, 0, (timeMs2Ntp sentMs).compact, d⟩

def rttSsrcInfo (sentMs : Nat) (d : UInt32) : Rtcp.XR.SsrcInfo := ⟨5, (timeMs2Ntp sentMs).compact, d⟩

theorem two_seconds_rtt : (receiveRtcpReceiverReport 4000 (rttReport 1000 65536)).toNat = 131072 ∧
    (receiveRtcpXrDelaySinceLastRr 4000 (rttSsrcInfo 1000 65536)).toNat = 131072 :=
  (rtt_eq_iff 1000 4000 65536 131072 _ _ (by decide) (by decide) (by decide) rfl rfl rfl rfl).mpr (by decide)

theorem wrapped_rtt_lost : (timeMs2Ntp 65534000).compact ≠ 0 ∧ units 65537000 = units 65534000 + 65536 + 131072 ∧
    receiveRtcpReceiverReport 65537000 (rttReport 65534000 65536) = 0 ∧
    receiveRtcpXrDelaySinceLastRr 65537000 (rttSsrcInfo 65534000 65536) = 0 := by
  decide

end Mediasoup.Rtp
