import Mathlib.Data.Int.Range
import Mediasoup.Rtp.NackWindow
import Mediasoup.Rtp.StreamRecv

/-!
# What happens to skipped packets

When the NACK generator's `lastSeq` moves on, the numbers it passes are either held in `nackList`, or were handed on to the
producer before, or the list was cleared and a key frame was requested (`Covered`). But a packet recovered by RTX before its gap
is known is noted in `recoveredList` and not handed on, and later taken for present (`early_recovery_loses_packet`); and without
PLI and FIR no key frame can be requested.

Packets are told apart by their positions, the sequence numbers counted on over the wraps.
-/

namespace Mediasoup.Rtp

open Lib Mediasoup.Seq List RtpStreamRecv NackGenerator

/-! ## Runs -/

structure Trace where
  stream : RtpStreamRecv
  /-- of `lastSeq` -/
  position : Int := 0
  /-- the positions of the packets handed on since the generator was started -/
  handedOn : List Int := []
  /-- sent by the last call -/
  keyFrameRequests : List KeyFrameRequest := []
  deriving DecidableEq

inductive StreamEvent
  | packet (packet : Packet) (nowMs : Nat) (t : Trees)
  | rtxPacket (packet : Packet) (nowMs : Nat) (t : Trees)
  | timer (nowMs : Nat)
  | rtt (rtt : Nat)

namespace Trace

def generator (s : Trace) : NackGenerator := s.stream.nackGenerator.getD {}

/-- The position of a packet that arrives: ahead of `lastSeq` or behind it, as the generator judges. -/
def place (s : Trace) (seq : Nat) : Int :=
  if !s.generator.started then seq
  else if isSeqLowerThan 16 seq s.generator.lastSeq then s.position - age s.generator.lastSeq seq
  else s.position + age seq s.generator.lastSeq

/-- After a call that hands on the packets `seqs`; `OnNackGeneratorKeyFrameRequired` calls `RequestKeyFrame`. -/
def next (s : Trace) (stream : RtpStreamRecv) (seqs : List Nat) (requests : List NackRequest) : Trace where
  stream := stream
  position := s.place (stream.nackGenerator.getD {}).lastSeq
  handedOn := seqs.map s.place ++ s.handedOn
  keyFrameRequests := if .keyFrameRequired ∈ requests then stream.requestKeyFrame.toList else []

def step (isKeyFrame : List UInt8 → Bool) (s : Trace) : StreamEvent → Except Fault Trace
  | .packet packet nowMs t => do
    let (stream, passed, requests) ← s.stream.receivePacket isKeyFrame t packet nowMs
    return s.next stream (if passed then [packet.sequenceNumber.toNat] else []) requests
  | .rtxPacket packet nowMs t => do
    let (stream, original, requests) ← s.stream.receiveRtxPacket isKeyFrame t packet nowMs
    return s.next stream (original.map fun p => p.sequenceNumber.toNat).toList requests
  | .timer nowMs =>
    let (stream, requests) := s.stream.onNackTimer nowMs
    .ok (s.next stream [] requests)
  | .rtt rtt => .ok (s.next (s.stream.updateRtt rtt) [] [])

end Trace

/-- No packet that `lastSeq` passes, the one it leaves included, is lost silently. -/
def Covered (s : Trace) (_ : StreamEvent) (s' : Trace) : Prop :=
  s.generator.started = true → ∀ p, s.position ≤ p → p < s'.position →
    (p % 2 ^ 16).toNat ∈ s'.generator.nackList.map NackInfo.seq ∨ p ∈ s.handedOn ∨
      (s'.generator.nackList = [] ∧ s'.keyFrameRequests ≠ [])

instance (s : Trace) (e : StreamEvent) (s' : Trace) : Decidable (Covered s e s') :=
  inferInstanceAs (Decidable (_ → ∀ p, _ ≤ p → p < _ → _))

namespace NackGenerator

def newNacks (g : NackGenerator) (seq : Nat) : Nat := (seq + 2 ^ 16 - (g.lastSeq + 1) % 2 ^ 16) % 2 ^ 16

/-- The numbers between `lastSeq` and `seq`. -/
def skipped (g : NackGenerator) (seq : Nat) : List Nat :=
  (List.range (g.newNacks seq)).map fun i => ((g.lastSeq + 1) % 2 ^ 16 + i) % 2 ^ 16

/-- There is no room for the skipped numbers, also without those that precede a key frame. -/
def clears (g : NackGenerator) (t : Trees) (seq : Nat) : Bool :=
  tooLarge (g.makeRoom t (g.newNacks seq) seq).1 (g.newNacks seq)

end NackGenerator

/-- A valid packet that is newer than `lastSeq` skips no number of `recoveredList`, or more than there is room for where the
stream can request a key frame; and the generator is not started by a packet recovered from RTX. -/
def Recoverable (isKeyFrame : List UInt8 → Bool) (s : Trace) : StreamEvent → Prop
  | .packet packet nowMs t =>
    let seq := packet.sequenceNumber.toNat
    (s.stream.receive packet nowMs).2 = true → s.generator.started = true →
      isSeqHigherThan 16 seq s.generator.lastSeq = true →
      if (s.generator.updateKeyFrames t seq (s.stream.processedKeyFrame isKeyFrame packet)).clears t seq then
        s.stream.requestKeyFrame ≠ none
      else ∀ x ∈ s.generator.skipped seq, x ∉ s.generator.recoveredList
  | .rtxPacket packet nowMs _ => s.generator.started = true ∨ (s.stream.recoverPacket packet nowMs).2 = none
  | .timer _ => True
  | .rtt _ => True

instance (isKeyFrame : List UInt8 → Bool) (s : Trace) : (e : StreamEvent) → Decidable (Recoverable isKeyFrame s e)
  | .packet .. => inferInstanceAs (Decidable (_ → _ → _ → if clears _ _ _ then _ ≠ _ else ∀ x ∈ skipped _ _, _))
  | .rtxPacket .. => inferInstanceAs (Decidable (_ ∨ _))
  | .timer _ | .rtt _ => .isTrue trivial

/-! ## The NACK generator -/

namespace NackGenerator

variable {t : Trees} {g g' : NackGenerator} {nowMs seq : Nat} {requests : List NackRequest}

theorem addMissing_returns (recoveredList : List Nat) : ∀ (count seq : Nat) (l : List NackInfo), seq < 2 ^ 16 →
    Returns (fun l' => (∀ info ∈ l, info ∈ l') ∧ ∀ i < count,
        (∃ info ∈ l', info.seq = (seq + i) % 2 ^ 16 ∧ info.retries = 0) ∨ (seq + i) % 2 ^ 16 ∈ recoveredList)
      (addMissing t recoveredList nowMs count seq l)
  | 0, _, l, _ => ⟨fun _ hm => hm, fun i hi => absurd hi (Nat.not_lt_zero i)⟩
  | count + 1, seq, l, hseq => by
    rw [addMissing]
    cases hfind : t.nackList.find NackInfo.seq (isSeqLowerThan 16) l seq with
    | some info => trivial
    | none =>
      refine (addMissing_returns recoveredList count _ _ (Nat.mod_lt _ (by decide))).imp ?_
      rintro l' ⟨hkeep, hadd⟩
      have hfirst : (∀ info ∈ l, info ∈ l') ∧ ((∃ info ∈ l', info.seq = seq ∧ info.retries = 0) ∨ seq ∈ recoveredList) := by
        split at hkeep
        · rename_i hsome
          obtain ⟨y, hrec⟩ := Option.isSome_iff_exists.mp hsome
          obtain ⟨hmem, hlt, hgt⟩ := t.recoveredList.find_some hrec
          have hy : y = seq := eq_of_not_lower hlt hgt
          exact ⟨hkeep, .inr (hy ▸ hmem)⟩
        obtain ⟨pre, post, rfl, hins⟩ := t.nackList.insertUnique_of_find_eq_none
          (e := { createdAtMs := nowMs, seq := seq, sendAtSeq := seq }) hfind
        rw [hins] at hkeep
        exact ⟨fun info hm => hkeep info (perm_middle.mem_iff.mpr (mem_cons_of_mem _ hm)),
          .inl ⟨_, hkeep _ (mem_append_right _ mem_cons_self), rfl, rfl⟩⟩
      refine ⟨hfirst.1, fun i hi => ?_⟩
      cases i with
      | zero =>
        rw [Nat.add_zero, Nat.mod_eq_of_lt hseq]
        exact hfirst.2
      | succ i =>
        rw [show (seq + (i + 1)) % 2 ^ 16 = ((seq + 1) % 2 ^ 16 + i) % 2 ^ 16 by omega]
        exact hadd i (by omega)

theorem addPacketsToNackList_returns (g : NackGenerator) (seq : Nat) :
    Returns (fun r => r.1.started = g.started ∧ if g.clears t seq then r.1.nackList = [] ∧ .keyFrameRequired ∈ r.2
        else ∀ x ∈ g.skipped seq, (∃ info ∈ r.1.nackList, info.seq = x ∧ info.retries = 0) ∨ x ∈ g.recoveredList)
      (g.addPacketsToNackList t nowMs ((g.lastSeq + 1) % 2 ^ 16) seq) := by
  change Returns _ (g.addOrClear t nowMs (g.newNacks seq) _ (g.makeRoom t (g.newNacks seq) seq).1 _)
  unfold addOrClear clears
  split
  · exact ⟨rfl, rfl, mem_cons_self⟩
  · refine (addMissing_returns g.recoveredList _ _ _ (Nat.mod_lt _ (by decide))).bind fun l hl => ⟨rfl, fun x hx => ?_⟩
    obtain ⟨i, hi, rfl⟩ := mem_map.mp hx
    exact hl.2 i (mem_range.mp hi)

theorem retry_of_retries_eq_zero (g : NackGenerator) (filter : NackFilter) (nowMs : Nat) {info : NackInfo} (h : info.retries = 0) :
    ∃ info', g.retry filter nowMs info = some info' ∧ info'.seq = info.seq := by
  unfold retry
  split
  · rw [if_neg (by rw [h]; decide)]
    exact ⟨_, rfl, rfl⟩
  · exact ⟨info, rfl, rfl⟩

/-- **What `lastSeq` skips**: the list is cleared and a key frame required, or each skipped number is in the list or in
`recoveredList`. -/
structure Skipped (g : NackGenerator) (seq : Nat) (cleared : Bool) (g' : NackGenerator) (requests : List NackRequest) :
    Prop where
  started : g'.started = g.started
  lastSeq : g'.lastSeq = seq
  kept : if cleared then g'.nackList = [] ∧ .keyFrameRequired ∈ requests
    else ∀ x ∈ g.skipped seq, x ∈ g'.nackList.map NackInfo.seq ∨ x ∈ g.recoveredList

theorem advance_returns (g : NackGenerator) (seq : Nat) :
    Returns (fun r => Skipped g seq (g.clears t seq) r.1 r.2) (g.advance t nowMs seq) := by
  refine (addPacketsToNackList_returns g seq).bind ?_
  rintro ⟨g₁, requests₁⟩ ⟨hstarted, hcases⟩
  let g₂ := ({ g₁ with lastSeq := seq }.getNackBatch .seq nowMs).1
  obtain ⟨timerActive, heq⟩ : ∃ timerActive, (if g₂.timerActive then g₂ else g₂.mayRunTimer) =
      { g₂ with timerActive := timerActive } := by
    unfold mayRunTimer
    split_ifs <;> exact ⟨_, rfl⟩
  dsimp only [pure, Except.pure]
  rw [heq]
  refine ⟨hstarted, rfl, ?_⟩
  split at hcases <;> rename_i hclears
  · rw [if_pos hclears]
    refine ⟨?_, mem_append_left _ hcases.2⟩
    change g₁.nackList.filterMap _ = []
    rw [hcases.1, filterMap_nil]
  · rw [if_neg hclears]
    refine fun x hx => (hcases x hx).imp_left ?_
    rintro ⟨info, hmem, hseq, hzero⟩
    obtain ⟨info', hretry, hseq'⟩ := retry_of_retries_eq_zero { g₁ with lastSeq := seq } .seq nowMs hzero
    rw [← hseq, ← hseq']
    exact mem_map_of_mem (mem_filterMap.mpr ⟨info, hmem, hretry⟩)

theorem receivePacket_returns (g : NackGenerator) (seq : Nat) (isKeyFrame isRecovered : Bool) : Returns (fun r =>
        (g.started = false ∧ r.1.started = true ∧ r.1.lastSeq = seq) ∨
        (g.started = true ∧ r.1.started = true ∧ r.1.lastSeq = g.lastSeq) ∨
        (g.started = true ∧ isRecovered = false ∧ isSeqHigherThan 16 seq g.lastSeq = true ∧
          Skipped g seq ((g.updateKeyFrames t seq isKeyFrame).clears t seq) r.1 r.2.2))
      (g.receivePacket t nowMs seq isKeyFrame isRecovered) := by
  unfold receivePacket
  cases hst : g.started with
  | false => exact .inl ⟨rfl, rfl, rfl⟩
  | true =>
    rw [if_neg (by simp)]
    split
    · exact .inr (.inl ⟨rfl, hst, rfl⟩)
    rename_i heq
    split
    · obtain ⟨l, hl, -⟩ := receiveOlder_eq t g seq
      rw [hl]
      exact .inr (.inl ⟨rfl, hst, rfl⟩)
    rename_i hlow
    cases isRecovered with
    | true => exact .inr (.inl ⟨rfl, hst, rfl⟩)
    | false =>
      refine (advance_returns (g.updateKeyFrames t seq isKeyFrame) seq).bind fun r hskipped => ?_
      refine .inr (.inr ⟨rfl, rfl, ?_, hskipped.started, hskipped.lastSeq, hskipped.kept⟩)
      cases hhigh : isSeqHigherThan 16 seq g.lastSeq with
      | true => rfl
      | false => exact absurd (eq_of_not_lower (Bool.eq_false_of_not_eq_true hlow) hhigh) heq

end NackGenerator

/-! ## The stream -/

theorem RtpStreamRecv.onNackTimer_spec {s : RtpStreamRecv} {g : NackGenerator} (hg : s.nackGenerator = some g) (nowMs : Nat) :
    ∃ g', (s.onNackTimer nowMs).1.nackGenerator = some g' ∧ g'.started = g.started ∧ g'.lastSeq = g.lastSeq := by
  obtain ⟨g', hs, rfl | ⟨g₀, hg₀, rfl⟩⟩ := onNackTimer_cases s nowMs
  · exact ⟨g, by rw [hs]; exact hg, rfl, rfl⟩
  · obtain rfl : g = g₀ := Option.some.inj (hg.symm.trans hg₀)
    obtain ⟨timerActive, heq⟩ := NackGenerator.onTimer_eq g nowMs
    exact ⟨(g.onTimer nowMs).1, by rw [hs]; rfl, by rw [heq], by rw [heq]⟩

/-! ## Positions -/

theorem Trace.generator_eq {s : Trace} {g : NackGenerator} (h : s.stream.nackGenerator = some g) : s.generator = g := by
  simp [Trace.generator, h]

theorem Trace.place_of_not_lower {s : Trace} {seq : Nat} (hst : s.generator.started = true)
    (h : isSeqLowerThan 16 seq s.generator.lastSeq = false) : s.place seq = s.position + age seq s.generator.lastSeq := by
  rw [place, hst, h]
  rfl

theorem Trace.place_lastSeq {s : Trace} (hst : s.generator.started = true) : s.place s.generator.lastSeq = s.position := by
  rw [place_of_not_lower hst (isSeqLowerThan_irrefl 16 _), age]
  omega

theorem mem_skipped {g : NackGenerator} (seq : Nat) {k : Nat} {p : Int} (hp : p % 2 ^ 16 = g.lastSeq) (hk : 0 < k)
    (h : k < age seq g.lastSeq) : ((p + k) % 2 ^ 16).toNat ∈ g.skipped seq := by
  refine mem_map.mpr ⟨k - 1, mem_range.mpr ?_, ?_⟩
  · unfold newNacks
    unfold age at h
    omega
  · omega

/-! ## Recoverable runs -/

/-- The stream has NACK enabled, and its generator stands at a packet that was handed on. -/
structure Trace.Ok (s : Trace) : Prop where
  nack : ∃ g, s.stream.nackGenerator = some g
  handedOn : s.generator.started = true → s.position ∈ s.handedOn
  lastSeq : s.generator.started = true → s.position % 2 ^ 16 = s.generator.lastSeq

theorem covered_of_unmoved {s : Trace} {e : StreamEvent} {stream : RtpStreamRecv} {seqs : List Nat}
    {requests : List NackRequest} {g' : NackGenerator} (hok : s.Ok) (hg' : stream.nackGenerator = some g')
    (hst : g'.started = s.generator.started) (hlast : g'.lastSeq = s.generator.lastSeq) :
    Covered s e (s.next stream seqs requests) ∧ (s.next stream seqs requests).Ok := by
  have hgen' : (s.next stream seqs requests).generator = g' := Trace.generator_eq hg'
  have hposition (hstarted : s.generator.started = true) : (s.next stream seqs requests).position = s.position := by
    show s.place (s.next stream seqs requests).generator.lastSeq = _
    rw [hgen', hlast, Trace.place_lastSeq hstarted]
  refine ⟨fun hstarted p hp hp' => ?_, ⟨g', hg'⟩, fun hstarted => ?_, fun hstarted => ?_⟩
  · rw [hposition hstarted] at hp'
    omega
  · rw [hgen', hst] at hstarted
    rw [hposition hstarted]
    exact mem_append_right _ (hok.handedOn hstarted)
  · rw [hgen', hst] at hstarted
    rw [hposition hstarted, hgen', hlast]
    exact hok.lastSeq hstarted

theorem covered_of_receivePacket {s : Trace} (e : StreamEvent) {stream : RtpStreamRecv} {requests : List NackRequest}
    {g' : NackGenerator} {t : Trees} {nowMs seq : Nat} {keyFrame nacked : Bool} (hok : s.Ok) (hseq : seq < 2 ^ 16)
    (hg' : stream.nackGenerator = some g') (hparams : stream.params = s.stream.params)
    (h : s.generator.receivePacket t nowMs seq keyFrame false = .ok (g', nacked, requests))
    (hcond : s.generator.started = true → isSeqHigherThan 16 seq s.generator.lastSeq = true →
      if (s.generator.updateKeyFrames t seq keyFrame).clears t seq then s.stream.requestKeyFrame ≠ none
      else ∀ x ∈ s.generator.skipped seq, x ∉ s.generator.recoveredList) :
    Covered s e (s.next stream [seq] requests) ∧ (s.next stream [seq] requests).Ok := by
  have hgen' : (s.next stream [seq] requests).generator = g' := Trace.generator_eq hg'
  rcases (receivePacket_returns _ seq keyFrame false).of_ok h with
    ⟨hno, -, hlast⟩ | ⟨hst, hst', hlast⟩ | ⟨hst, -, hhigh, hstarted, hlast, hkept⟩
  · have hposition : (s.next stream [seq] requests).position = s.place seq := by
      show s.place (s.next stream [seq] requests).generator.lastSeq = _
      rw [hgen', hlast]
    refine ⟨fun hst => absurd (hno.symm.trans hst) nofun, ⟨g', hg'⟩, fun _ => ?_, fun _ => ?_⟩
    · rw [hposition]
      exact mem_cons_self
    · rw [hposition, hgen', hlast, Trace.place, hno]
      simp
      omega
  · exact covered_of_unmoved hok hg' (by rw [hst', hst]) hlast
  have hlow : isSeqLowerThan 16 seq s.generator.lastSeq = false := isSeqLowerThan_asymm hhigh
  have hposition : (s.next stream [seq] requests).position = s.position + age seq s.generator.lastSeq := by
    show s.place (s.next stream [seq] requests).generator.lastSeq = _
    rw [hgen', hlast, Trace.place_of_not_lower hst hlow]
  have hlastSeq := hok.lastSeq hst
  refine ⟨fun _ p hp hp' => ?_, ⟨g', hg'⟩, fun _ => ?_, fun _ => ?_⟩
  · rw [hposition] at hp'
    rcases hp.eq_or_lt with rfl | hlt
    · exact .inr (.inl (hok.handedOn hst))
    obtain ⟨k, rfl⟩ := Int.le.dest hp
    have hskipped := mem_skipped seq hlastSeq (show 0 < k by omega) (by omega)
    specialize hcond hst hhigh
    rw [hgen']
    split at hkept
    · rename_i hclears
      rw [if_pos hclears] at hcond
      refine .inr (.inr ⟨hkept.1, ?_⟩)
      show (if _ then stream.requestKeyFrame.toList else []) ≠ []
      rw [if_pos hkept.2, requestKeyFrame, hparams]
      exact mt Option.toList_eq_nil_iff.mp hcond
    · rename_i hclears
      rw [if_neg hclears] at hcond
      exact .inl ((hkept _ hskipped).resolve_right (hcond _ hskipped))
  · rw [hposition, ← Trace.place_of_not_lower hst hlow]
    exact mem_cons_self
  · rw [hposition, hgen', hlast]
    unfold age
    omega

theorem step_covered {isKeyFrame : List UInt8 → Bool} {s s' : Trace} {e : StreamEvent} (hok : s.Ok)
    (hcond : Recoverable isKeyFrame s e) (h : s.step isKeyFrame e = .ok s') : Covered s e s' ∧ s'.Ok := by
  obtain ⟨g, hg⟩ := hok.nack
  have hgen := Trace.generator_eq hg
  cases e with
  | packet packet nowMs t =>
    obtain ⟨⟨stream, passed, requests⟩, hnext, h⟩ := exists_of_bind_eq_ok h
    cases h
    obtain ⟨hvalid, g', n, hs', -, hcases⟩ := receivePacket_cases hnext
    have hg' : stream.nackGenerator = g' := by rw [hs', RtpStreamRecv.change]
    rcases hcases with rfl | ⟨rfl, g₀, g', nacked, hg₀, rfl, hrecv⟩
    · exact covered_of_unmoved hok (hg'.trans hg) (by rw [hgen]) (by rw [hgen])
    obtain rfl : g = g₀ := Option.some.inj (hg.symm.trans hg₀)
    rw [← hgen] at hrecv
    exact covered_of_receivePacket _ hok packet.sequenceNumber.toNat_lt hg' (by rw [hs', RtpStreamRecv.change]) hrecv
      (hcond hvalid.symm)
  | rtxPacket packet nowMs t =>
    obtain ⟨⟨stream, original, requests⟩, hnext, h⟩ := exists_of_bind_eq_ok h
    cases h
    obtain ⟨st, rtx, g', n, m, hs', -, -, -, hcases⟩ := receiveRtxPacket_cases hnext
    have hg' : stream.nackGenerator = g' := by rw [hs', RtpStreamRecv.change]
    rcases hcases with rfl | ⟨hrec, g₀, g', seq, keyFrame, nacked, hg₀, rfl, hrecv⟩
    · exact covered_of_unmoved hok (hg'.trans hg) (by rw [hgen]) (by rw [hgen])
    obtain rfl : g = g₀ := Option.some.inj (hg.symm.trans hg₀)
    have hst : g.started = true := by
      rcases hcond with hst | hnone
      · rwa [hgen] at hst
      · exact absurd hnone hrec
    -- a recovered packet moves `lastSeq` only when it starts the generator
    rcases (receivePacket_returns g seq keyFrame true).of_ok hrecv with
      ⟨hno, -, -⟩ | ⟨-, hst', hlast⟩ | ⟨-, hfalse, -, -⟩
    · simp [hst] at hno
    · exact covered_of_unmoved hok hg' (by rw [hgen, hst, hst']) (by rw [hgen, hlast])
    · cases hfalse
  | timer nowMs =>
    cases h
    obtain ⟨g', hg', hst, hlast⟩ := onNackTimer_spec hg nowMs
    exact covered_of_unmoved hok hg' (by rw [hgen, hst]) (by rw [hgen, hlast])
  | rtt rtt =>
    cases h
    have hg' : (s.stream.updateRtt rtt).nackGenerator = some (g.updateRtt rtt) := by
      simp [RtpStreamRecv.updateRtt, hg]
    exact covered_of_unmoved hok hg' (by rw [hgen]; rfl) (by rw [hgen]; rfl)

/-- **Skipped packets are not lost silently** in a recoverable run, from any state of a stream whose NACK generator has just
been created or reset. -/
theorem covered_of_recoverable (isKeyFrame : List UInt8 → Bool) (stream : RtpStreamRecv) (g : NackGenerator)
    (hg : stream.nackGenerator = some g.reset) (es : List StreamEvent)
    (hcond : Along (Trace.step isKeyFrame) (Recoverable isKeyFrame) { stream := stream } es) :
    EachStep (Trace.step isKeyFrame) Covered { stream := stream } es := by
  have hstep : ∀ s e s', s.Ok → Recoverable isKeyFrame s e → s.step isKeyFrame e = .ok s' → Covered s e s' ∧ s'.Ok :=
    fun _ _ _ => step_covered
  have hfresh : ({ stream := stream } : Trace).generator.started = false := by
    rw [Trace.generator_eq hg]
    rfl
  refine eachStep_of_along hstep es _ ⟨⟨_, hg⟩, ?_, ?_⟩ hcond <;> exact fun hst => absurd (hfresh.symm.trans hst) nofun

/-! ## Runs on one stream -/

def nackStream : RtpStreamRecv :=
  { params := { ssrc := 1, payloadType := 100, useNack := true, rtxSsrc := 2, rtxPayloadType := 101 }
    rtxStream := some {}
    nackGenerator := some {} }

def spineTrees : Trees := ⟨.spine, .spine, .spine⟩

def mediaPacket (seq : UInt16) (nowMs : Nat) : StreamEvent :=
  .packet { payloadType := 100, sequenceNumber := seq, timestamp := 0, ssrc := 1, payload := [0] } nowMs spineTrees

def rtxPacket (seq : UInt8) (rtxSeq : UInt16) (nowMs : Nat) : StreamEvent :=
  .rtxPacket { payloadType := 101, sequenceNumber := rtxSeq, timestamp := 0, ssrc := 2, payload := [0, seq, 0] } nowMs
    spineTrees

theorem covered_late_recovery : EachStep (Trace.step fun _ => false) Covered { stream := nackStream }
    [mediaPacket 1 10, mediaPacket 3 20, rtxPacket 2 7 30, mediaPacket 4 40, .timer 60] :=
  covered_of_recoverable _ nackStream {} rfl _ (by decide +kernel)

/-- **Early recovery loses a packet**: 2 is recovered by RTX before 3 shows the gap. -/
theorem early_recovery_loses_packet : ∃ s s' : Trace,
    [mediaPacket 1 10, rtxPacket 2 7 20].foldlM (Trace.step fun _ => false) { stream := nackStream } = .ok s ∧
    s.step (fun _ => false) (mediaPacket 3 30) = .ok s' ∧ s.handedOn = [1] ∧ s'.handedOn = [3, 1] ∧
    s'.generator.lastSeq = 3 ∧ s'.generator.nackList = [] ∧ s'.keyFrameRequests = [] ∧
    ¬ Covered s (mediaPacket 3 30) s' := by
  let before : RtpStreamRecv :=
    { nackStream with
      started := true, baseSeq := 1, maxSeq := 2, badSeq := 65537, maxPacketMs := 10, packetsRetransmitted := 1
      rtxStream := some
        { started := true, baseSeq := 7, maxSeq := 7, badSeq := 65537, maxPacketMs := 20, packetsCount := 1 }
      nackGenerator := some { started := true, lastSeq := 1, recoveredList := [2] } }
  let after : RtpStreamRecv :=
    { before with maxSeq := 3, nackGenerator := some { started := true, lastSeq := 3, recoveredList := [2] } }
  refine ⟨⟨before, 1, [1], []⟩, ⟨after, 3, [3, 1], []⟩, ?_, ?_, rfl, rfl, rfl, rfl, rfl, ?_⟩ <;> decide +kernel

-- without PLI and FIR the list is cleared and no key frame is requested
example : ¬ Along (Trace.step fun _ => false) (Recoverable fun _ => false) { stream := nackStream }
    [mediaPacket 1 10, mediaPacket 1003 20] := by decide +kernel

end Mediasoup.Rtp
