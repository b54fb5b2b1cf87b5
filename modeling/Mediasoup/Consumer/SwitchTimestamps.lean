import Mediasoup.Consumer.SenderReports

/-!
# Timestamps of a simulcast consumer

When a simulcast consumer syncs on a key frame, it computes the offset between the timestamps of the stream and of the reference
stream (`syncOffset`), and an extra offset if the timestamps would not go on at the switch (`switchOffset`). They are compared as
plain numbers, which fails across the wrap (`newer_iff`), and the Sender Report is that of the target layer, which need not be the
one that is synced (`aligned_iff`).
-/

namespace Mediasoup.Consumer.SimulcastConsumer

open Lib Rtp Codecs Mediasoup.Seq

variable {δ κ : Type} {codec : Codec δ κ} {env : SendEnv} {c : SimulcastConsumer κ} {sh : SharedPackets} {p : MediaPacket δ}

/-! ## The timestamp of the first packet after a switch -/

def newestSent (c : SimulcastConsumer κ) : UInt32 := UInt32.ofNat c.rtpStream.maxPacketTs

/-- The extra offset that makes a timestamp go on 33 ms after the newest one is too high. -/
def ExtraTooHigh (c : SimulcastConsumer κ) (aligned : UInt32) : Prop :=
  aligned ≤ c.newestSent ∧
    c.newestSent - aligned + 33 * c.rtpStream.params.clockRate / 1000 > 75 * c.rtpStream.params.clockRate / 1000

/-- The packet is a key frame by which the consumer switches to its layer, after the first packet was sent: it is aligned with
the offset, and forwarded without giving up on an extra offset. -/
structure Switches (codec : Codec δ κ) (env : SendEnv) (c : SimulcastConsumer κ) (sh : SharedPackets) (p : MediaPacket δ)
    (tsOffset : UInt32) (sent : Packet) : Prop where
  started : c.rtpStream.started = true
  target : ∃ layer : Nat, c.mapMappedSsrcSpatialLayer.lookup p.packet.ssrc = some layer ∧ layer = c.targetSpatialLayer
  switches : c.currentSpatialLayer ≠ c.targetSpatialLayer
  offset : c.syncOffset c.targetSpatialLayer = .ok tsOffset
  forwarded : ∃ d, c.sendRtpPacket codec env sh p = .ok d ∧ d.sent = some sent
  notGivenUp : ¬c.ExtraTooHigh (p.packet.timestamp - tsOffset)

/-- The timestamps of the stream that are sent after the switch do not lie on both sides of the wrap, and 33 ms are a tick at
least. -/
def Continues (c : SimulcastConsumer κ) (aligned : UInt32) : Prop :=
  (aligned ≤ c.newestSent → 1000 ≤ 33 * c.rtpStream.params.clockRate) ∧
    (c.newestSent < aligned → aligned - c.newestSent < 2 ^ 31)

theorem deliver_timestamp {d : Delivery (SimulcastConsumer κ) δ} {sent : Packet}
    (h : c.deliver codec env sh p = .ok d) (hsent : d.sent = some sent) :
    sent.timestamp = p.packet.timestamp - c.tsOffset := by
  unfold deliver at h
  split at h
  · cases h
  dsimp only at h
  split at h
  · cases h
  cases h
  dsimp only at hsent
  split at hsent
  · cases hsent
    rfl
  · cases hsent

theorem forward_timestamp {d : Delivery (SimulcastConsumer κ) δ} {sent : Packet}
    (h : c.forward codec env sh p true = .ok d) (hsent : d.sent = some sent) :
    sent.timestamp = p.packet.timestamp - c.tsOffset := by
  unfold forward at h
  dsimp only at h
  split at h
  · cases h
  rw [Bool.or_true, if_pos rfl] at h
  have htimestamp := deliver_timestamp h hsent
  exact htimestamp

theorem switchOffset_of_not_tooHigh {timestamp tsOffset : UInt32} (h : ¬c.ExtraTooHigh (timestamp - tsOffset)) :
    ∃ offset, c.switchOffset timestamp tsOffset = some offset ∧ timestamp - offset =
        if timestamp - tsOffset ≤ c.newestSent then c.newestSent + 33 * c.rtpStream.params.clockRate / 1000
        else timestamp - tsOffset := by
  unfold switchOffset
  dsimp only
  rw [← newestSent]
  split
  · rename_i hle
    have hextra : c.newestSent - timestamp + tsOffset + 33 * c.rtpStream.params.clockRate / 1000 =
        c.newestSent - (timestamp - tsOffset) + 33 * c.rtpStream.params.clockRate / 1000 := by grind
    rw [hextra, if_neg fun hhigh => h ⟨hle, hhigh⟩]
    exact ⟨_, rfl, by grind⟩
  · exact ⟨tsOffset, rfl, rfl⟩

theorem Switches.timestamp {tsOffset : UInt32} {sent : Packet} (h : Switches codec env c sh p tsOffset sent) : sent.timestamp =
      if p.packet.timestamp - tsOffset ≤ c.newestSent then
        c.newestSent + 33 * c.rtpStream.params.clockRate / 1000
      else p.packet.timestamp - tsOffset := by
  obtain ⟨offset, hoffset, heq⟩ := switchOffset_of_not_tooHigh h.notGivenUp
  rw [← heq]
  obtain ⟨d, hsend, hsent⟩ := h.forwarded
  obtain ⟨layer, hlookup, hlayer⟩ := h.target
  unfold sendRtpPacket at hsend
  split at hsend
  · cases hsend
    cases hsent
  rw [hlookup] at hsend
  dsimp only at hsend
  rw [selectLayer, if_pos ⟨h.switches, hlayer⟩] at hsend
  split at hsend
  · cases hsend
    cases hsent
  rename_i c' switches hselect
  split at hselect
  · rename_i hkey
    obtain ⟨rfl, rfl⟩ := Prod.mk.inj (Option.some.inj hselect)
    have hsync : syncStream codec { c with syncRequired := true, spatialLayerToSync := layer } p.packet layer true =
        .ok (synced codec { c with syncRequired := true, spatialLayerToSync := layer } p.packet.sequenceNumber offset,
          true) := by
      rw [syncStream, if_pos ⟨rfl, .inr rfl⟩]
      show (c.syncOffset layer >>= _) = _
      rw [hlayer, h.offset]
      have hoffset : switchOffset { c with syncRequired := true, spatialLayerToSync := c.targetSpatialLayer }
          p.packet.timestamp tsOffset = some offset := hoffset
      dsimp only [bind, Except.bind]
      rw [if_pos rfl, hoffset]
      rfl
    rw [sendSelected, if_neg fun hnot => hnot.2 hkey, hsync] at hsend
    have htimestamp := forward_timestamp hsend hsent
    exact htimestamp
  · cases hselect

/-- **The key frame of a switch has a timestamp newer than all before** exactly if the timestamps do not lie on both sides of
the wrap. -/
theorem newer_iff (codec : Codec δ κ) (env : SendEnv) (c : SimulcastConsumer κ) (sh : SharedPackets) (p : MediaPacket δ)
    (tsOffset : UInt32) (sent : Packet) (h : Switches codec env c sh p tsOffset sent) :
    isSeqHigherThan 32 sent.timestamp.toNat c.newestSent.toNat = true ↔ c.Continues (p.packet.timestamp - tsOffset) := by
  rw [h.timestamp, Continues]
  generalize p.packet.timestamp - tsOffset = aligned
  generalize c.newestSent = newest
  have hnewest := newest.toNat_lt
  split
  · rename_i hle
    have hstep := (33 * c.rtpStream.params.clockRate).toNat_lt
    have hiff : isSeqHigherThan 32 (newest + 33 * c.rtpStream.params.clockRate / 1000).toNat newest.toNat = true ↔
        1000 ≤ (33 * c.rtpStream.params.clockRate).toNat := by
      simp only [isSeqHigherThan, maxValue, decide_eq_true_eq, UInt32.toNat_add, UInt32.toNat_div, UInt32.reduceToNat]
      omega
    rw [hiff, and_iff_left fun hlt => absurd hlt (UInt32.not_lt.mpr hle)]
    exact ⟨fun hstep _ => UInt32.le_iff_toNat_le.mpr hstep, fun hstep => UInt32.le_iff_toNat_le.mp (hstep hle)⟩
  rename_i hnot
  have hlt : newest < aligned := UInt32.not_le.mp hnot
  have hlt' := UInt32.lt_iff_toNat_lt.mp hlt
  have hiff : aligned - newest < 2 ^ 31 ↔ aligned.toNat - newest.toNat < 2 ^ 31 := by
    rw [UInt32.lt_iff_toNat_lt, UInt32.toNat_sub_of_le _ _ (UInt32.le_of_lt hlt)]
    rfl
  rw [and_iff_right fun hle => absurd hle hnot, forall_prop_of_true hlt, hiff, isSeqHigherThan, decide_eq_true_eq, maxValue]
  omega

/-! ## Runs -/

/-- The lower layer is sent, from a key frame with this timestamp on, and Sender Reports for both streams arrive, whose offset
is 0. -/
def beforeSwitch (timestamp : UInt32) : List (Event VP8.PayloadDescriptor) :=
  [.call 20000 .transportConnected, .call 20000 (.producerNewRtpStream (producerStream 1) 1000),
    .call 20000 (.producerNewRtpStream (producerStream 2) 2000),
    .packet ⟨20000, spines⟩ {} (keyFrame 1000 timestamp),
    .call 20000 (.senderReport 0 ⟨100, 0, 5000⟩ 10),
    .call 20000 (.senderReport 1 ⟨100, 0, 5000⟩ 10)]

def reached (events : List (Event VP8.PayloadDescriptor)) : SimulcastConsumer VP8.State :=
  ((events.foldlM (step VP8.codec) twoLayers).toOption).getD twoLayers

theorem run_reached {events : List (Event VP8.PayloadDescriptor)}
    (h : (events.foldlM (step VP8.codec) twoLayers).toOption.isSome = true) :
    events.foldlM (step VP8.codec) twoLayers = .ok (reached events) := by
  unfold reached
  cases hrun : events.foldlM (step VP8.codec) twoLayers with
  | error f =>
    rw [hrun] at h
    cases h
  | ok c => rfl

def lowerLayer (timestamp : UInt32) : SimulcastConsumer VP8.State := reached (beforeSwitch timestamp)

def sentBy (c : SimulcastConsumer VP8.State) (p : MediaPacket VP8.PayloadDescriptor) : Option Packet :=
  match c.sendRtpPacket VP8.codec ⟨20000, spines⟩ {} p with
  | .ok d => d.sent
  | .error _ => none

theorem exists_of_sentBy {c : SimulcastConsumer VP8.State} {p : MediaPacket VP8.PayloadDescriptor} {sent : Packet}
    (h : sentBy c p = some sent) :
    ∃ d, c.sendRtpPacket VP8.codec ⟨20000, spines⟩ {} p = .ok d ∧ d.sent = some sent := by
  unfold sentBy at h
  split at h
  · rename_i d heq
    exact ⟨d, heq, h⟩
  · cases h

def sentKeyFrame (timestamp : UInt32) : Packet :=
  { payloadType := 96, sequenceNumber := 4, timestamp := timestamp, ssrc := 5, payload := [0x90, 0, 0] }

theorem switches_lowerLayer {timestamp keyFrameTimestamp : UInt32}
    (hsent : sentBy (lowerLayer timestamp) (keyFrame 2000 keyFrameTimestamp) = some (sentKeyFrame keyFrameTimestamp))
    (hlayers : (lowerLayer timestamp).rtpStream.started = true ∧ (lowerLayer timestamp).targetSpatialLayer = 1 ∧
      (lowerLayer timestamp).currentSpatialLayer = 0 ∧
      (lowerLayer timestamp).mapMappedSsrcSpatialLayer.lookup 2000 = some 1 ∧
      (lowerLayer timestamp).syncOffset 1 = .ok 0)
    (hahead : ¬(keyFrame 2000 keyFrameTimestamp).packet.timestamp - 0 ≤ (lowerLayer timestamp).newestSent) :
    Switches VP8.codec ⟨20000, spines⟩ (lowerLayer timestamp) {} (keyFrame 2000 keyFrameTimestamp) 0
      (sentKeyFrame keyFrameTimestamp) := by
  obtain ⟨hstarted, htarget, hcurrent, hlookup, hoffset⟩ := hlayers
  refine ⟨hstarted, ⟨1, hlookup, htarget.symm⟩, by rw [hcurrent, htarget]; decide, by rwa [htarget],
    exists_of_sentBy hsent, fun h => hahead h.1⟩

theorem ahead_newer : Switches VP8.codec ⟨20000, spines⟩ (lowerLayer 5000) {} (keyFrame 2000 8000) 0 (sentKeyFrame 8000) ∧
      isSeqHigherThan 32 (sentKeyFrame 8000).timestamp.toNat (lowerLayer 5000).newestSent.toNat = true := by
  have h : Switches VP8.codec ⟨20000, spines⟩ (lowerLayer 5000) {} (keyFrame 2000 8000) 0 (sentKeyFrame 8000) :=
    switches_lowerLayer (by decide +kernel) (by decide +kernel) (by decide +kernel)
  exact ⟨h, (newer_iff _ _ _ _ _ _ _ h).mpr ⟨fun _ => by decide +kernel, fun _ => by decide +kernel⟩⟩

/-- **A key frame of just before the wrap**, when the newest timestamp is from just after it: its timestamp is sent as it is,
and is older. -/
theorem wrapped_older : (beforeSwitch 100).foldlM (step VP8.codec) twoLayers = .ok (lowerLayer 100) ∧
      Switches VP8.codec ⟨20000, spines⟩ (lowerLayer 100) {} (keyFrame 2000 4294966296) 0 (sentKeyFrame 4294966296) ∧
      isSeqHigherThan 32 (sentKeyFrame 4294966296).timestamp.toNat (lowerLayer 100).newestSent.toNat = false :=
  ⟨run_reached (by decide +kernel), switches_lowerLayer (by decide +kernel) (by decide +kernel) (by decide +kernel),
    by decide +kernel⟩

/-! ## The offset between the streams -/

def captureTs (clockRate offset : UInt32) (ntpMs : Nat) : UInt32 :=
  UInt32.ofNat (clockRate.toNat * ntpMs / 1000) + offset

structure OnLine (clockRate offset : UInt32) (s : RtpStreamRecv) : Prop where
  reported : s.lastSenderReportNtpMs ≠ 0
  ts : s.lastSenderReportTs = captureTs clockRate offset s.lastSenderReportNtpMs

def lineOffset (clockRate : UInt32) (s : RtpStreamRecv) : UInt32 :=
  s.lastSenderReportTs - UInt32.ofNat (clockRate.toNat * s.lastSenderReportNtpMs / 1000)

def ProductFits (clockRate : UInt32) (reference target : RtpStreamRecv) : Prop :=
  let product := ((target.lastSenderReportNtpMs : Int) - reference.lastSenderReportNtpMs) * clockRate.toNat
  product < 2 ^ 63 ∧ -2 ^ 63 ≤ product

/-- The consumer computes this base offset for the layer, without a failed assertion and without an overflow of `int64_t`. -/
def ComputesOffset (c : SimulcastConsumer κ) (layer : Int) (offset : UInt32) : Prop :=
  c.syncOffset layer = .ok offset ∧ (layer ≠ c.tsReferenceSpatialLayer →
      ∀ reference target, c.stream c.tsReferenceSpatialLayer = some reference → c.stream c.targetSpatialLayer = some target →
        ProductFits c.rtpStream.params.clockRate reference target)

/-- The base offset for the layer is the one between the two lines, and so packets of the same time get the same timestamp. -/
def Aligned (c : SimulcastConsumer κ) (layer : Int) (offsetRef offsetX : UInt32) : Prop :=
  ∃ offset, c.ComputesOffset layer offset ∧ offset = offsetX - offsetRef ∧
    ∀ ntpMs, captureTs c.rtpStream.params.clockRate offsetX ntpMs - offset =
      captureTs c.rtpStream.params.clockRate offsetRef ntpMs

/-- The layer is the reference, or the stream of the target layer has a Sender Report on the line of the layer's stream. -/
def TargetOnLine (c : SimulcastConsumer κ) (layer : Int) (reference : RtpStreamRecv) (offsetX : UInt32) : Prop :=
  layer = c.tsReferenceSpatialLayer ∨
    ∃ target, c.stream c.targetSpatialLayer = some target ∧ OnLine c.rtpStream.params.clockRate offsetX target ∧
      ProductFits c.rtpStream.params.clockRate reference target

section
variable {clockRate offset : UInt32} {reference target s : RtpStreamRecv}

theorem OnLine.lineOffset_eq (h : OnLine clockRate offset s) : lineOffset clockRate s = offset := by
  rw [lineOffset, h.ts, captureTs]
  grind

theorem onLine_of_lineOffset (hreported : s.lastSenderReportNtpMs ≠ 0) (h : lineOffset clockRate s = offset) :
    OnLine clockRate offset s := by
  refine ⟨hreported, ?_⟩
  rw [← h, captureTs, lineOffset]
  grind

theorem uint32_ofInt_natCast (n : Nat) : UInt32.ofInt (n : Int) = UInt32.ofNat n :=
  UInt32.toNat_inj.mp (by simp [UInt32.ofInt]; omega)

theorem uint32_ofInt_sub (x y : Int) : UInt32.ofInt (x - y) = UInt32.ofInt x - UInt32.ofInt y := by
  rw [Int.sub_eq_add_neg, UInt32.ofInt_add, UInt32.ofInt_neg, UInt32.sub_eq_add_neg]

theorem ntpOffset_eq (hrate : clockRate.toNat % 1000 = 0) :
    ntpOffset clockRate reference target = lineOffset clockRate target - lineOffset clockRate reference := by
  obtain ⟨q, hq⟩ := Nat.dvd_of_mod_eq_zero hrate
  have hdiff (diffMs : Int) : (diffMs * clockRate.toNat).tdiv 1000 = diffMs * q := by
    rw [hq, Int.natCast_mul, Int.mul_left_comm]
    exact Int.mul_tdiv_cancel_left _ (by decide)
  have hline (s : RtpStreamRecv) : clockRate.toNat * s.lastSenderReportNtpMs / 1000 = q * s.lastSenderReportNtpMs := by
    rw [hq, Nat.mul_assoc, Nat.mul_div_cancel_left _ (by decide)]
  simp only [ntpOffset, lineOffset, hdiff, hline, uint32_ofInt_sub, UInt32.ofInt_mul, uint32_ofInt_natCast,
    UInt32.ofNat_toNat, UInt32.ofNat_mul]
  grind

end

theorem captureTs_sub {clockRate offsetRef offsetX : UInt32} (ntpMs : Nat) :
    captureTs clockRate offsetX ntpMs - (offsetX - offsetRef) = captureTs clockRate offsetRef ntpMs := by
  unfold captureTs
  grind

theorem computesOffset_iff {layer : Int} {reference : RtpStreamRecv} {offset : UInt32}
    (hlayer : layer ≠ c.tsReferenceSpatialLayer) (href : c.stream c.tsReferenceSpatialLayer = some reference)
    (hreported : reference.lastSenderReportNtpMs ≠ 0) :
    c.ComputesOffset layer offset ↔ ∃ target, c.stream c.targetSpatialLayer = some target ∧ target.lastSenderReportNtpMs ≠ 0 ∧
        ProductFits c.rtpStream.params.clockRate reference target ∧
        ntpOffset c.rtpStream.params.clockRate reference target = offset := by
  rw [ComputesOffset, forall_prop_of_true hlayer, syncOffset, if_neg hlayer, href]
  dsimp only
  rw [if_neg hreported]
  cases htarget : c.stream c.targetSpatialLayer with
  | none => simp
  | some target =>
    dsimp only
    split
    · rename_i hnot
      simp [hnot]
    · rename_i hsome
      simp [hsome, and_comm]

/-- **The base offset is the one between the two streams** exactly if the stream of the target layer is on the line of the
stream that is synced. -/
theorem aligned_iff (c : SimulcastConsumer κ) (layer : Int) (reference x : RtpStreamRecv) (offsetRef offsetX : UInt32)
    (hrate : c.rtpStream.params.clockRate.toNat % 1000 = 0)
    (href : c.stream c.tsReferenceSpatialLayer = some reference) (hx : c.stream layer = some x)
    (hrefLine : OnLine c.rtpStream.params.clockRate offsetRef reference)
    (hxLine : OnLine c.rtpStream.params.clockRate offsetX x) :
    c.Aligned layer offsetRef offsetX ↔ c.TargetOnLine layer reference offsetX := by
  by_cases hlayer : layer = c.tsReferenceSpatialLayer
  · -- the two streams are one, and the offset is 0
    obtain rfl : reference = x := Option.some.inj (by rw [← href, ← hx, hlayer])
    obtain rfl : offsetRef = offsetX := hrefLine.lineOffset_eq.symm.trans hxLine.lineOffset_eq
    refine ⟨fun _ => .inl hlayer, fun _ => ⟨0, ⟨by rw [syncOffset, if_pos hlayer], fun hne => absurd hlayer hne⟩, ?_, ?_⟩⟩
    · grind
    · grind
  have hoffset (target : RtpStreamRecv) :
      ntpOffset c.rtpStream.params.clockRate reference target = offsetX - offsetRef ↔
        lineOffset c.rtpStream.params.clockRate target = offsetX := by
    rw [ntpOffset_eq hrate, hrefLine.lineOffset_eq]
    exact ⟨fun h => by grind, fun h => by rw [h]⟩
  rw [TargetOnLine, or_iff_right hlayer]
  constructor
  · rintro ⟨offset, hcomputes, rfl, -⟩
    obtain ⟨target, htarget, hreported, hfits, heq⟩ := (computesOffset_iff hlayer href hrefLine.reported).mp hcomputes
    exact ⟨target, htarget, onLine_of_lineOffset hreported ((hoffset target).mp heq), hfits⟩
  · rintro ⟨target, htarget, hline, hfits⟩
    refine ⟨_, (computesOffset_iff hlayer href hrefLine.reported).mpr ⟨target, htarget, hline.reported, hfits,
      (hoffset target).mpr hline.lineOffset_eq⟩, rfl, captureTs_sub⟩

/-! ### A stale target -/

def increase : Event VP8.PayloadDescriptor := .call 20000 (.increaseLayer ⟨fun _ _ => 1000, fun _ _ => 500⟩ 10000 10000)

/-- The bitrate is managed by the transport. The lower layer is sent, the timestamps of the streams at the same time differ by
2000, and the higher layer is the target. -/
def higherTarget : List (Event VP8.PayloadDescriptor) :=
  [.call 20000 .setExternallyManagedBitrate, .call 20000 .transportConnected,
    .call 20000 (.producerNewRtpStream (producerStream 1) 1000),
    .call 20000 (.producerNewRtpStream (producerStream 2) 2000),
    increase,
    .call 20000 .applyLayers,
    .packet ⟨20000, spines⟩ {} (keyFrame 1000 5000),
    .call 20000 (.senderReport 0 ⟨100, 0, 5000⟩ 10),
    .call 20000 (.senderReport 1 ⟨100, 0, 7000⟩ 10),
    increase,
    increase,
    .call 20000 .applyLayers]

/-- The consumer switches to the higher layer and is paused; when it is resumed the transport makes the lower layer the
target. -/
def lowerTarget : List (Event VP8.PayloadDescriptor) :=
  higherTarget ++ [.packet ⟨20000, spines⟩ {} (keyFrame 2000 12000), .call 20000 (.streamScore 0 0),
      .call 20000 (.streamScore 1 0),
      .call 20000 .pause,
      .call 20000 (.streamScore 0 10),
      .call 20000 (.streamScore 1 10),
      .call 20000 .resume,
      increase,
      .call 20000 .applyLayers]

def reportOffset (ts : UInt32) : UInt32 := ts - 90 * 100000

structure BothReported (c : SimulcastConsumer κ) (reference x : RtpStreamRecv) : Prop where
  referenceStream : c.stream c.tsReferenceSpatialLayer = some reference
  layerStream : c.stream 1 = some x
  referenceLine : OnLine c.rtpStream.params.clockRate (reportOffset 5000) reference
  layerLine : OnLine c.rtpStream.params.clockRate (reportOffset 7000) x

theorem bothReported_of_get {c : SimulcastConsumer κ} (href : (c.stream c.tsReferenceSpatialLayer).isSome = true)
    (hx : (c.stream 1).isSome = true)
    (hline : OnLine c.rtpStream.params.clockRate (reportOffset 5000) ((c.stream c.tsReferenceSpatialLayer).get href))
    (hxLine : OnLine c.rtpStream.params.clockRate (reportOffset 7000) ((c.stream 1).get hx)) :
    BothReported c ((c.stream c.tsReferenceSpatialLayer).get href) ((c.stream 1).get hx) :=
  ⟨(Option.some_get href).symm, (Option.some_get hx).symm, hline, hxLine⟩

theorem higherTarget_aligned : (∃ reference x, BothReported (reached higherTarget) reference x) ∧
      (reached higherTarget).Aligned 1 (reportOffset 5000) (reportOffset 7000) := by
  have h := bothReported_of_get (c := reached higherTarget) (by decide +kernel) (by decide +kernel)
    ⟨by decide +kernel, by decide +kernel⟩ ⟨by decide +kernel, by decide +kernel⟩
  refine ⟨⟨_, _, h⟩, (aligned_iff _ _ _ _ _ _ (by decide +kernel) h.referenceStream h.layerStream h.referenceLine h.layerLine).mpr
    (.inr ⟨_, ?_, h.layerLine, ?_⟩)⟩
  · exact h.layerStream
  · exact ⟨by decide +kernel, by decide +kernel⟩

/-- **The Sender Report of the target layer is taken for the current one**: the key frame of the higher layer is sent with its
own timestamp. -/
theorem lowerTarget_not_aligned : lowerTarget.foldlM (step VP8.codec) twoLayers = .ok (reached lowerTarget) ∧
      (reached lowerTarget).rtpStream.params.clockRate = 90000 ∧
      (∃ reference x, BothReported (reached lowerTarget) reference x) ∧
      (reached lowerTarget).syncRequired = true ∧
      (sentBy (reached lowerTarget) (keyFrame 2000 16000)).map (·.timestamp) = some 16000 ∧
      ¬(reached lowerTarget).Aligned 1 (reportOffset 5000) (reportOffset 7000) := by
  refine ⟨run_reached (by decide +kernel), by decide +kernel, ⟨_, _, bothReported_of_get (by decide +kernel) (by decide +kernel)
    ⟨by decide +kernel, by decide +kernel⟩ ⟨by decide +kernel, by decide +kernel⟩⟩, by decide +kernel, by decide +kernel, ?_⟩
  rintro ⟨offset, ⟨hoffset, -⟩, rfl, -⟩
  have hzero : (reached lowerTarget).syncOffset 1 = .ok 0 := by decide +kernel
  exact absurd (Except.ok.inj (hzero.symm.trans hoffset)) (by decide)

end Mediasoup.Consumer.SimulcastConsumer
