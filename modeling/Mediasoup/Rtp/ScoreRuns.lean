import Mediasoup.Rtp.Score

/-!
# Runs with scores

Every call that counts a repaired packet counts a retransmitted one too, and without RTX a received one (`ScoredRecv.Counted`,
`ScoredSend.Counted`). So the assertion of `UpdateScore` holds, as long as the counters of an interval fit into 32 bits. But
packets are expected without one being received: the original of an RTX packet may be ahead, and is not counted. The ratio then
has no divisor (`ratio_of_nothing`). It has one in every run in which such an original comes only after a packet that is counted
(`sound_of_fed`).
-/

namespace Mediasoup.Rtp

open Lib Receiver RtpStreamRecv Retransmission

theorem Receiver.sub32_of_le {a b : Nat} (hle : b ≤ a) (hlt : a < b + 2 ^ 32) : sub32 a b = a - b := by
  unfold sub32
  omega

/-! ## Counters of received streams -/

namespace ScoredRecv

structure Counted (s : ScoredRecv) : Prop where
  received : s.receivedPriorScore ≤ s.mediaPacketCount
  repaired : s.repairedPriorScore ≤ s.stream.packetsRepaired
  retransmitted : s.retransmittedPriorScore ≤ s.stream.packetsRetransmitted
  /-- what is repaired is retransmitted -/
  repaired_le : s.stream.packetsRepaired - s.repairedPriorScore ≤ s.stream.packetsRetransmitted - s.retransmittedPriorScore
  /-- and, without RTX, received -/
  withoutRtx : s.stream.hasRtx = false →
    s.stream.packetsRepaired - s.repairedPriorScore ≤ s.mediaPacketCount - s.receivedPriorScore

/-- The counters of an interval fit into 32 bits when a score is computed. -/
def Few (s : ScoredRecv) : Call → Prop
  | .senderReport _ _ =>
    s.mediaPacketCount < s.receivedPriorScore + 2 ^ 32 ∧ s.stream.packetsRetransmitted < s.retransmittedPriorScore + 2 ^ 32
  | _ => True

def Sound (s : ScoredRecv) : Call → Prop
  | .senderReport _ _ => ∀ d, s.deliveries = some d → d.Sound
  | _ => True

instance (s : ScoredRecv) : (c : Call) → Decidable (s.Sound c)
  | .senderReport _ _ =>
    match hd : s.deliveries with
    | none => isTrue fun _ h => nomatch hd.symm.trans h
    | some d => decidable_of_iff d.Sound ⟨fun h _ hd' => Option.some.inj (hd.symm.trans hd') ▸ h, fun h => h d hd⟩
  | .packet _ _ _ | .rtxPacket _ _ _ | .setRtx _ _ | .inactivityTimer _ | .nackTimer _ | .rtt _ | .pause => isTrue trivial

instance (s : ScoredRecv) : (c : Call) → Decidable (s.Few c)
  | .senderReport _ _ => inferInstanceAs (Decidable (_ ∧ _))
  | .packet _ _ _ | .rtxPacket _ _ _ | .setRtx _ _ | .inactivityTimer _ | .nackTimer _ | .rtt _ | .pause => isTrue trivial

variable {s : ScoredRecv}

theorem lost_le_received (s : ScoredRecv) : s.lost ≤ s.received := by
  unfold lost
  dsimp only
  split_ifs <;> omega

theorem Counted.sound_iff (h : s.Counted) (hmedia : s.mediaPacketCount < s.receivedPriorScore + 2 ^ 32)
    (hretransmitted : s.stream.packetsRetransmitted < s.retransmittedPriorScore + 2 ^ 32) :
    (∀ d, s.deliveries = some d → d.Sound) ↔ s.inactive = true ∨ s.expected = 0 ∨ s.received ≠ 0 := by
  have hrepairedLt : s.stream.packetsRepaired < s.repairedPriorScore + 2 ^ 32 := by
    have hle := h.repaired_le
    omega
  have hrep : s.repaired = s.stream.packetsRepaired - s.repairedPriorScore := sub32_of_le h.repaired hrepairedLt
  have hret : s.retransmitted = s.stream.packetsRetransmitted - s.retransmittedPriorScore :=
    sub32_of_le h.retransmitted hretransmitted
  have hrec : s.received = s.mediaPacketCount - s.receivedPriorScore := sub32_of_le h.received hmedia
  have hle : s.repaired ≤ s.retransmitted := by
    rw [hrep, hret]
    exact h.repaired_le
  have hlost := s.lost_le_received
  -- whichever the fitted numbers are, they keep the assertion and the bound of the lost packets
  have hfits : ∀ d, s.deliveries = some d → d.total = s.received ∧ d.repaired ≤ d.retransmitted ∧ d.lost ≤ d.total := by
    intro d hd
    unfold deliveries at hd
    split_ifs at hd with hnone hmore hrtx
    · cases hd
      exact ⟨rfl, by dsimp only; omega, hlost⟩
    · cases hd
      have hwithout := h.withoutRtx (by simpa using hrtx)
      exact ⟨rfl, hle, by dsimp only; omega⟩
    · cases hd
      exact ⟨rfl, hle, hlost⟩
  have hnone : s.deliveries = none ↔ s.inactive = true ∨ s.expected = 0 := by
    unfold deliveries
    split_ifs <;> simp_all
  rw [← or_assoc, ← hnone]
  cases hd : s.deliveries with
  | none => exact iff_of_true nofun (.inl rfl)
  | some d =>
    obtain ⟨htotal, hassert, hbound⟩ := hfits d hd
    have hpos : d.Sound ↔ 0 < s.received := by
      rw [Deliveries.sound_iff hassert hbound, htotal]
    constructor
    · intro h
      exact .inr (Nat.ne_of_gt (hpos.mp (h d rfl)))
    · intro h d' hd'
      cases hd'
      exact hpos.mpr (Nat.pos_of_ne_zero (h.resolve_left nofun))

/-! ### Calls -/

def counters (s : ScoredRecv) : Nat × Nat × Nat × Bool × Nat × Nat × Nat :=
  (s.mediaPacketCount, s.stream.packetsRepaired, s.stream.packetsRetransmitted, s.stream.hasRtx,
    s.receivedPriorScore, s.repairedPriorScore, s.retransmittedPriorScore)

theorem Counted.congr {s' : ScoredRecv} (h : s.Counted) (heq : s'.counters = s.counters) : s'.Counted := by
  simp only [counters, Prod.mk.injEq] at heq
  obtain ⟨h₁, h₂, h₃, h₄, h₅, h₆, h₇⟩ := heq
  refine ⟨?_, ?_, ?_, ?_, ?_⟩
  · rw [h₁, h₅]
    exact h.received
  · rw [h₂, h₆]
    exact h.repaired
  · rw [h₃, h₇]
    exact h.retransmitted
  · rw [h₂, h₃, h₆, h₇]
    exact h.repaired_le
  · rw [h₁, h₂, h₄, h₅, h₆]
    exact h.withoutRtx

theorem counters_activate (s : ScoredRecv) (nowMs : Nat) : (s.activate nowMs).counters = s.counters := by
  unfold activate
  split_ifs <;> rfl

theorem counters_addScore (s : ScoredRecv) (score nowMs : Nat) : (s.addScore score nowMs).counters = s.counters := rfl

theorem counted_setPriorScores (s : ScoredRecv) : s.setPriorScores.Counted :=
  ⟨Nat.le_refl _, Nat.le_refl _, Nat.le_refl _, by simp [setPriorScores], by simp [setPriorScores]⟩

theorem Counted.updateScore {s' : ScoredRecv} {nowMs : Nat} (h : s.updateScore nowMs = .ok s') : s'.Counted := by
  have hprior := counted_setPriorScores s
  have hadd : ∀ score, (s.setPriorScores.addScore score nowMs).Counted := fun score =>
    hprior.congr (counters_addScore _ score nowMs)
  unfold ScoredRecv.updateScore at h
  split at h
  · cases h
    split_ifs
    · exact hprior
    · exact hadd 10
  rename_i d _
  cases hd : d.updateScore with
  | error f =>
    rw [hd] at h
    cases h
  | ok score =>
    rw [hd] at h
    cases h
    exact hadd score

variable {isKeyFrame : List UInt8 → Bool} {s' : ScoredRecv}

theorem Counted.receive (h : s.Counted) {st : SequenceState} {rtx : Option RtxStream} {g : Option NackGenerator}
    {n m count : Nat} (hrtx : rtx.isSome = s.stream.hasRtx) (hcount : s.mediaPacketCount ≤ count) (hle : m ≤ n)
    (hwithout : s.stream.hasRtx = false → m ≤ count - s.mediaPacketCount) :
    Counted { s with stream := s.stream.change st rtx g n m, mediaPacketCount := count } := by
  have h₁ := h.received
  have h₂ := h.repaired
  have h₃ := h.retransmitted
  have h₄ := h.repaired_le
  refine ⟨?_, ?_, ?_, ?_, fun hno => ?_⟩
  · exact Nat.le_trans h₁ hcount
  · exact Nat.le_add_right_of_le h₂
  · exact Nat.le_add_right_of_le h₃
  · dsimp only [RtpStreamRecv.change]
    omega
  · have hno : s.stream.hasRtx = false := hrtx.symm.trans hno
    have hold := h.withoutRtx hno
    have hnew := hwithout hno
    dsimp only [RtpStreamRecv.change]
    omega

theorem Counted.step (h : s.Counted) {c : Call} (hstep : s.step isKeyFrame c = .ok s') : s'.Counted := by
  cases c with
  | packet packet trees nowMs =>
    obtain ⟨⟨stream, valid, requests⟩, hrec, hreturn⟩ := exists_of_bind_eq_ok hstep
    obtain ⟨-, g', n, rfl, hn, -⟩ := RtpStreamRecv.receivePacket_cases (eq_ok_of_mapError hrec)
    cases hreturn
    cases valid with
    | false =>
      obtain rfl : n = 0 := hn.resolve_right fun h => nomatch h.2
      exact h.receive rfl (Nat.le_refl _) (Nat.le_refl _) fun _ => Nat.zero_le _
    | true =>
      exact (h.receive rfl (Nat.le_succ _) (Nat.le_refl n) fun _ => by omega).congr (counters_activate _ nowMs)
  | rtxPacket packet trees nowMs =>
    unfold ScoredRecv.step at hstep
    split_ifs at hstep with hrtx
    · obtain ⟨⟨stream, original, requests⟩, hrec, hreturn⟩ := exists_of_bind_eq_ok hstep
      obtain ⟨st, rtx, g', n, m, rfl, hle, hkeep, -⟩ := receiveRtxPacket_cases (eq_ok_of_mapError hrec)
      have hnext : Counted { s with stream := s.stream.change st rtx g' n m } := by
        refine h.receive hkeep.isSome (Nat.le_refl _) hle fun hno => ?_
        simp [hrtx] at hno
      cases hreturn
      split_ifs
      · exact hnext.congr (counters_activate _ nowMs)
      · exact hnext
    · cases hstep
      exact h
  | setRtx payloadType ssrc =>
    cases hstep
    exact ⟨h.received, h.repaired, h.retransmitted, h.repaired_le, nofun⟩
  | senderReport report nowMs => exact Counted.updateScore (eq_ok_of_mapError hstep)
  | inactivityTimer nowMs =>
    cases hstep
    exact h.congr rfl
  | nackTimer nowMs =>
    obtain ⟨g', hs, -⟩ := onNackTimer_cases s.stream nowMs
    cases hstep
    rw [hs]
    exact h.congr rfl
  | rtt rtt =>
    cases hstep
    exact h.congr rfl
  | pause =>
    cases hstep
    exact h.congr rfl

theorem counted_create (params : RtpStreamParams) (sendNackDelayMs : Nat) : (create params sendNackDelayMs).Counted :=
  ⟨Nat.le_refl _, Nat.le_refl _, Nat.le_refl _, Nat.le_refl _, fun _ => Nat.le_refl _⟩

end ScoredRecv

/-! ## What was counted since the last score -/

theorem SequenceState.getExpectedPackets_of_invalid {s : SequenceState} {packet : Packet} {nowMs : Nat}
    (h : (s.receive packet nowMs).2 = false) : (s.receive packet nowMs).1.getExpectedPackets = s.getExpectedPackets := by
  cases hstarted : s.started with
  | false =>
    -- the first packet comes next to what is taken for the highest number
    have hlt := packet.sequenceNumber.toNat_lt
    simp only [receive, hstarted, Bool.false_eq_true, if_false] at h
    split at h
    · rename_i st hst
      rw [updateSeq_eq, udelta, if_pos] at hst
      · cases hst
      · dsimp only [maxDropout]
        omega
    · split at h <;> cases h
  | true =>
    have hsame := (receive_started hstarted packet nowMs).1
    simp only [receive, hstarted, if_true] at h
    split at h
    · rename_i st hst
      rw [hsame.expected, hst]
      rw [updateSeq_eq] at hst
      split at hst
      · cases hst
      split at hst
      · split at hst <;> cases hst
        exact SameNumbers.expected ⟨rfl, rfl, rfl⟩
      · cases hst
    · split at h <;> cases h

/-- A received stream, whether it has counted a media packet since the last score, and whether the original of an RTX packet has
changed the number of expected packets since then. A new stream expects one packet. -/
structure ScoreTrace where
  scored : ScoredRecv
  counted : Bool := false
  moved : Bool := true

namespace ScoreTrace

def create (params : RtpStreamParams) (sendNackDelayMs : Nat) : ScoreTrace := { scored := .create params sendNackDelayMs }

def step (isKeyFrame : List UInt8 → Bool) (t : ScoreTrace) (c : ScoredRecv.Call) : Except ScoredRecv.CallFault ScoreTrace := do
  let s ← t.scored.step isKeyFrame c
  match c with
  | .packet _ _ _ => return { t with scored := s, counted := t.counted || s.mediaPacketCount != t.scored.mediaPacketCount }
  | .rtxPacket _ _ _ =>
    return { t with
      scored := s, moved := t.moved || s.stream.getExpectedPackets != t.scored.stream.getExpectedPackets }
  | .senderReport _ _ => return { scored := s, counted := false, moved := false }
  | _ => return { t with scored := s }

/-- When a score is computed the stream is inactive, it has counted a media packet since the last score, or no RTX packet has
changed what it expects. -/
def Fed (t : ScoreTrace) : ScoredRecv.Call → Prop
  | .senderReport _ _ => t.scored.inactive = true ∨ t.counted = true ∨ t.moved = false
  | _ => True

instance (t : ScoreTrace) : (c : ScoredRecv.Call) → Decidable (t.Fed c)
  | .senderReport _ _ => inferInstanceAs (Decidable (_ ∨ _ ∨ _))
  | .packet _ _ _ | .rtxPacket _ _ _ | .setRtx _ _ | .inactivityTimer _ | .nackTimer _ | .rtt _ | .pause => isTrue trivial

structure Inv (t : ScoreTrace) : Prop where
  counters : t.scored.Counted
  counted : t.counted = true → t.scored.receivedPriorScore < t.scored.mediaPacketCount
  moved : t.counted = false → t.moved = false → t.scored.stream.getExpectedPackets = t.scored.expectedPriorScore

variable {isKeyFrame : List UInt8 → Bool} {t t' : ScoreTrace}

/-- What the flags depend on. -/
def numbers (s : ScoredRecv) : Nat × Nat × SequenceState × Nat :=
  (s.mediaPacketCount, s.receivedPriorScore, s.stream.toSequenceState, s.expectedPriorScore)

theorem Inv.congr (h : t.Inv) {s : ScoredRecv} (hs : s.Counted) (heq : numbers s = numbers t.scored) :
    Inv { t with scored := s } := by
  simp only [numbers, Prod.mk.injEq] at heq
  obtain ⟨h₁, h₂, h₃, h₄⟩ := heq
  refine ⟨hs, fun hc => ?_, fun hc hm => ?_⟩
  · rw [h₁, h₂]
    exact h.counted hc
  · rw [h₃, h₄]
    exact h.moved hc hm

theorem numbers_activate (s : ScoredRecv) (nowMs : Nat) : numbers (s.activate nowMs) = numbers s := by
  unfold ScoredRecv.activate
  split_ifs <;> rfl

theorem expected_setPriorScores (s : ScoredRecv) :
    s.setPriorScores.stream.getExpectedPackets = s.setPriorScores.expectedPriorScore := by
  -- not by `rfl`, which compares the two streams field by field
  rw [ScoredRecv.setPriorScores]

theorem expected_addScore (s : ScoredRecv) (score nowMs : Nat) :
    (s.addScore score nowMs).stream.toSequenceState = s.stream.toSequenceState ∧
      (s.addScore score nowMs).expectedPriorScore = s.expectedPriorScore := ⟨rfl, rfl⟩

theorem expected_updateScore {s s' : ScoredRecv} {nowMs : Nat} (h : s.updateScore nowMs = .ok s') :
    s'.stream.getExpectedPackets = s'.expectedPriorScore := by
  have hadd (score : Nat) : (s.setPriorScores.addScore score nowMs).stream.getExpectedPackets =
      (s.setPriorScores.addScore score nowMs).expectedPriorScore := by
    rw [(expected_addScore ..).1, (expected_addScore ..).2, expected_setPriorScores]
  unfold ScoredRecv.updateScore at h
  split at h
  · cases h
    split_ifs
    · exact expected_setPriorScores s
    · exact hadd 10
  · rename_i d _
    cases hd : d.updateScore with
    | error f =>
      rw [hd] at h
      cases h
    | ok score =>
      rw [hd] at h
      cases h
      exact hadd score

theorem Inv.step (h : t.Inv) {c : ScoredRecv.Call} (hstep : t.step isKeyFrame c = .ok t') : t'.Inv := by
  obtain ⟨s, hs, hreturn⟩ := exists_of_bind_eq_ok hstep
  have hcounters := h.counters.step hs
  cases c with
  | packet packet trees nowMs =>
    cases hreturn
    obtain ⟨⟨stream, valid, requests⟩, hrec, hreturn⟩ := exists_of_bind_eq_ok hs
    obtain ⟨hvalid, g', n, rfl, -⟩ := RtpStreamRecv.receivePacket_cases (eq_ok_of_mapError hrec)
    cases hreturn
    cases valid with
    | false =>
      simp only [Bool.false_eq_true, if_false, bne_self_eq_false, Bool.or_false] at hcounters ⊢
      have hsame := SequenceState.getExpectedPackets_of_invalid hvalid.symm
      exact ⟨hcounters, h.counted, fun hc hm => hsame.trans (h.moved hc hm)⟩
    | true =>
      -- the packet is counted
      have hle := h.counters.received
      simp only [if_true] at hcounters ⊢
      have hnumbers := numbers_activate
        { t.scored with
          stream := t.scored.stream.change (t.scored.stream.receive packet nowMs).1 t.scored.stream.rtxStream g' n n
          mediaPacketCount := t.scored.mediaPacketCount + 1 } nowMs
      simp only [numbers, Prod.mk.injEq] at hnumbers
      obtain ⟨hmedia, hprior, -⟩ := hnumbers
      refine ⟨hcounters, fun _ => ?_, fun hnot => ?_⟩
      · rw [hmedia, hprior]
        exact Nat.lt_succ_of_le hle
      · simp [hmedia] at hnot
  | rtxPacket packet trees nowMs =>
    cases hreturn
    unfold ScoredRecv.step at hs
    split_ifs at hs
    · obtain ⟨⟨stream, original, requests⟩, hrec, hreturn⟩ := exists_of_bind_eq_ok hs
      obtain ⟨st, rtx, g', n, m, rfl, -⟩ := receiveRtxPacket_cases (eq_ok_of_mapError hrec)
      have hnumbers : numbers s = (t.scored.mediaPacketCount, t.scored.receivedPriorScore, st,
          t.scored.expectedPriorScore) := by
        cases hreturn
        split_ifs
        · exact numbers_activate _ nowMs
        · rfl
      simp only [numbers, Prod.mk.injEq] at hnumbers
      obtain ⟨hmedia, hprior, -, hexpected⟩ := hnumbers
      refine ⟨hcounters, fun hc => ?_, fun hc hm => ?_⟩
      · show s.receivedPriorScore < s.mediaPacketCount
        rw [hmedia, hprior]
        exact h.counted hc
      · obtain ⟨hm, hsame⟩ := Bool.or_eq_false_iff.mp hm
        show s.stream.getExpectedPackets = s.expectedPriorScore
        rw [hexpected, bne_eq_false_iff_eq.mp hsame]
        exact h.moved hc hm
    · cases hs
      simpa using h
  | senderReport report nowMs =>
    cases hreturn
    exact ⟨hcounters, nofun, fun _ _ => expected_updateScore (eq_ok_of_mapError hs)⟩
  | nackTimer nowMs =>
    cases hreturn
    obtain ⟨g', hstream, -⟩ := onNackTimer_cases t.scored.stream nowMs
    cases hs
    exact h.congr hcounters (by rw [hstream]; rfl)
  | _ =>
    cases hreturn
    cases hs
    exact h.congr hcounters rfl

theorem Inv.sound (h : t.Inv) {c : ScoredRecv.Call} (hfew : t.scored.Few c) (hfed : t.Fed c) : t.scored.Sound c := by
  cases c with
  | senderReport report nowMs =>
    refine (h.counters.sound_iff hfew.1 hfew.2).mpr (hfed.imp_right fun hfed => ?_)
    cases hcounted : t.counted with
    | true =>
      have hlt := h.counted hcounted
      have hrec : t.scored.received = t.scored.mediaPacketCount - t.scored.receivedPriorScore := sub32_of_le hlt.le hfew.1
      exact .inr (by omega)
    | false =>
      have hsame := h.moved hcounted (hfed.resolve_left (by simp [hcounted]))
      have hlt : t.scored.stream.getExpectedPackets < 2 ^ 32 := Nat.mod_lt _ (by decide)
      refine .inl ?_
      rw [ScoredRecv.expected, ← hsame, sub32]
      omega
  | _ => trivial

end ScoreTrace

/-! ## Counters of sent streams -/

namespace RtpStreamSend

/-- The counters of packets grow, that of the repaired ones by no more than that of the retransmitted ones. -/
structure CountsUp (s s' : RtpStreamSend) : Prop where
  repaired : s.packetsRepaired ≤ s'.packetsRepaired
  retransmitted : s.packetsRetransmitted ≤ s'.packetsRetransmitted
  le : s'.packetsRepaired - s.packetsRepaired ≤ s'.packetsRetransmitted - s.packetsRetransmitted

theorem CountsUp.of_eq {s s' : RtpStreamSend} (hrepaired : s'.packetsRepaired = s.packetsRepaired)
    (hretransmitted : s'.packetsRetransmitted = s.packetsRetransmitted) : CountsUp s s' :=
  ⟨by omega, by omega, by omega⟩

theorem CountsUp.trans {s t u : RtpStreamSend} (h : CountsUp s t) (h' : CountsUp t u) : CountsUp s u := by
  obtain ⟨h₁, h₂, h₃⟩ := h
  obtain ⟨h₁', h₂', h₃'⟩ := h'
  exact ⟨by omega, by omega, by omega⟩

theorem countsUp_countRtx (s : RtpStreamSend) : CountsUp s s.countRtx := by
  unfold countRtx
  split_ifs <;> exact .of_eq rfl rfl

theorem countsUp_request (nowMs : Nat) (f : Filling) (seq : UInt16) : CountsUp f.stream (f.request nowMs seq).stream := by
  unfold Filling.request
  split
  · exact .of_eq rfl rfl
  dsimp only
  split_ifs
  · exact .of_eq rfl rfl
  · exact (countsUp_countRtx f.stream).trans (.of_eq rfl rfl)

theorem countsUp_fill (s : RtpStreamSend) (clones : List Packet) (nowMs : Nat) (seq bitmask : UInt16) :
    CountsUp s (s.fillRetransmissionContainer clones nowMs seq bitmask).stream :=
  List.foldlRecOn (motive := fun f : Filling => CountsUp s f.stream) _ (Filling.request nowMs) (.of_eq rfl rfl)
    fun f hf seq _ => hf.trans (countsUp_request nowMs f seq)

theorem countsUp_send (r : Retransmission) (item : Item) : CountsUp r.stream (r.send item).stream := by
  have hrepaired : (r.send item).stream.packetsRepaired =
      if item.sentTimes = 1 then r.stream.packetsRepaired + 1 else r.stream.packetsRepaired := rfl
  have hretransmitted : (r.send item).stream.packetsRetransmitted = r.stream.packetsRetransmitted + 1 := rfl
  split_ifs at hrepaired <;> exact ⟨by omega, by omega, by omega⟩

theorem countsUp_receiveItem (nowMs : Nat) (r : Retransmission) (item : NackItem) :
    CountsUp r.stream (r.receiveItem nowMs item).stream := by
  unfold receiveItem
  refine List.foldlRecOn (motive := fun r' : Retransmission => CountsUp r.stream r'.stream) _ send ?_
    fun r' hr' item' _ => hr'.trans (countsUp_send r' item')
  exact CountsUp.trans (t := { r.stream with nackPacketCount := r.stream.nackPacketCount + item.countRequestedPackets })
    (.of_eq rfl rfl) (countsUp_fill _ _ _ _ _)

theorem countsUp_receiveNack (s : RtpStreamSend) (clones : List Packet) (nowMs : Nat) (items : List NackItem) :
    CountsUp s (s.receiveNack clones nowMs items).stream :=
  List.foldlRecOn (motive := fun r : Retransmission => CountsUp s r.stream) _ (receiveItem nowMs)
    (.of_eq rfl rfl) fun r hr item _ => hr.trans (countsUp_receiveItem nowMs r item)

theorem countsUp_receivePacket {s s' : RtpStreamSend} {sh sh' : SharedPackets} {packet : Packet} {size nowMs : Nat} {valid : Bool}
    (h : s.receivePacket sh packet size nowMs = .ok (s', sh', valid)) : CountsUp s s' := by
  obtain ⟨-, ⟨st, b, rfl⟩, -⟩ := receivePacket_cases h
  exact .of_eq rfl rfl

end RtpStreamSend

namespace ScoredSend

structure Counted (s : ScoredSend) : Prop where
  repaired : s.repairedPriorScore ≤ s.stream.packetsRepaired
  retransmitted : s.retransmittedPriorScore ≤ s.stream.packetsRetransmitted
  repaired_le : s.stream.packetsRepaired - s.repairedPriorScore ≤ s.stream.packetsRetransmitted - s.retransmittedPriorScore

/-- The retransmitted packets of an interval fit into 32 bits when a score is computed. -/
def Few (s : ScoredSend) : Call → Prop
  | .receiverReport _ _ _ => s.stream.packetsRetransmitted < s.retransmittedPriorScore + 2 ^ 32
  | _ => True

instance (s : ScoredSend) : (c : Call) → Decidable (s.Few c)
  | .receiverReport _ _ _ => inferInstanceAs (Decidable (_ < _))
  | .packet _ _ _ _ | .nack _ _ _ | .setRtx _ _ _ | .pause => isTrue trivial

def Sound (s : ScoredSend) : Call → Prop
  | .receiverReport totalLost _ _ => ∀ d, s.deliveries totalLost = some d → d.Sound
  | _ => True

variable {s s' : ScoredSend}

theorem lost_le_sent (s : ScoredSend) (totalLost : Int) : s.lost totalLost ≤ s.sent := by
  unfold lost
  dsimp only
  split_ifs <;> omega

theorem Counted.sound (h : s.Counted) (hfew : s.stream.packetsRetransmitted < s.retransmittedPriorScore + 2 ^ 32)
    {totalLost : Int} {d : Deliveries} (hd : s.deliveries totalLost = some d) : d.Sound := by
  have hrepairedLt : s.stream.packetsRepaired < s.repairedPriorScore + 2 ^ 32 := by
    have hle := h.repaired_le
    omega
  have hle : s.repaired ≤ s.retransmitted := by
    rw [ScoredSend.repaired, ScoredSend.retransmitted, sub32_of_le h.repaired hrepairedLt,
      sub32_of_le h.retransmitted hfew]
    exact h.repaired_le
  unfold deliveries at hd
  split_ifs at hd with hsent hmore
  · cases hd
    exact (Deliveries.sound_iff (by dsimp only; omega) (s.lost_le_sent totalLost)).mpr (Nat.pos_of_ne_zero hsent)
  · cases hd
    exact (Deliveries.sound_iff hle (s.lost_le_sent totalLost)).mpr (Nat.pos_of_ne_zero hsent)

theorem Counted.countUp (h : s.Counted) {stream : RtpStreamSend} (hcounts : s.stream.CountsUp stream) (count : Nat) :
    Counted { s with stream, packetCount := count } := by
  obtain ⟨h₁, h₂, h₃⟩ := h
  obtain ⟨h₁', h₂', h₃'⟩ := hcounts
  exact ⟨Nat.le_trans h₁ h₁', Nat.le_trans h₂ h₂', by dsimp only; omega⟩

theorem Counted.updateScore {totalLost : Int} {nowMs : Nat} (h : s.updateScore totalLost nowMs = .ok s') : s'.Counted := by
  have hadd : ∀ score, ((s.setPriorScores totalLost).addScore score nowMs).Counted := fun score =>
    ⟨Nat.le_refl _, Nat.le_refl _, by simp [setPriorScores, addScore]⟩
  unfold ScoredSend.updateScore at h
  split at h
  · cases h
    exact hadd 10
  rename_i d _
  cases hd : d.updateScore with
  | error f =>
    rw [hd] at h
    cases h
  | ok score =>
    rw [hd] at h
    cases h
    exact hadd score

theorem Counted.step (h : s.Counted) {c : Call} (hstep : s.step c = .ok s') : s'.Counted := by
  cases c with
  | packet shared packet size nowMs =>
    obtain ⟨⟨stream, shared', valid⟩, hrec, hreturn⟩ := exists_of_bind_eq_ok hstep
    cases hreturn
    exact h.countUp (RtpStreamSend.countsUp_receivePacket (eq_ok_of_mapError hrec)) _
  | nack clones items nowMs =>
    cases hstep
    exact h.countUp (RtpStreamSend.countsUp_receiveNack s.stream clones nowMs items) _
  | receiverReport totalLost rtt nowMs => exact Counted.updateScore (eq_ok_of_mapError hstep)
  | setRtx payloadType ssrc rtxSeq =>
    have hcounts : s.stream.CountsUp (s.stream.setRtx payloadType ssrc rtxSeq) := .of_eq rfl rfl
    cases hstep
    exact h.countUp hcounts _
  | pause =>
    have hcounts : s.stream.CountsUp s.stream.clearBuffer := .of_eq rfl rfl
    cases hstep
    exact h.countUp hcounts _

theorem counted_create (params : RtpStreamParams) (type : MimeType.Kind) : (create params type).Counted :=
  ⟨Nat.le_refl _, Nat.le_refl _, Nat.le_refl _⟩

end ScoredSend

/-! ## All scores -/

/-- **In every run** of calls of a received and of a sent stream, the numbers are sound if no RTX packet changes what the received
stream expects between two scores without a media packet. -/
theorem sound_of_fed (isKeyFrame : List UInt8 → Bool) (params sendParams : RtpStreamParams) (sendNackDelayMs : Nat)
    (type : MimeType.Kind) (calls : List ScoredRecv.Call) (sendCalls : List ScoredSend.Call)
    (hfed : Along (ScoreTrace.step isKeyFrame) (fun t c => t.scored.Few c ∧ t.Fed c) (.create params sendNackDelayMs) calls)
    (hsendFew : Along ScoredSend.step ScoredSend.Few (.create sendParams type) sendCalls) :
    Along (ScoreTrace.step isKeyFrame) (fun t c => t.scored.Sound c) (.create params sendNackDelayMs) calls ∧
      Along ScoredSend.step ScoredSend.Sound (.create sendParams type) sendCalls := by
  constructor
  · refine along_of_along (I := ScoreTrace.Inv) (fun t c hI hC => ⟨hI.sound hC.1 hC.2, fun t' ht' => hI.step ht'⟩) calls _
      ⟨ScoredRecv.counted_create params sendNackDelayMs, nofun, fun _ => nofun⟩ hfed
  · refine along_of_along (I := ScoredSend.Counted) (fun s c hI hC => ⟨?_, fun s' hs' => hI.step hs'⟩) sendCalls _
      (ScoredSend.counted_create sendParams type) hsendFew
    cases c with
    | receiverReport totalLost rtt nowMs => exact fun d hd => hI.sound hC hd
    | _ => trivial

/-! ### Two runs -/

def videoParams : RtpStreamParams := { ssrc := 1, payloadType := 100, clockRate := 90000, useNack := true }

def numbered (number : UInt16) : Packet :=
  { payloadType := 100, sequenceNumber := number, timestamp := 0, ssrc := 1, payload := [0] }

def receive (number : UInt16) : ScoredRecv.Call := .packet (numbered number) ⟨.spine, .spine, .spine⟩ 0

def receiveRtx (number : UInt8) : ScoredRecv.Call :=
  .rtxPacket { payloadType := 101, sequenceNumber := 7, timestamp := 0, ssrc := 2, payload := [0, number, 0] }
    ⟨.spine, .spine, .spine⟩ 0

def report : ScoredRecv.Call := .senderReport ⟨0, 0, 0⟩ 0

theorem sound_repaired : Along (ScoreTrace.step fun _ => false) (fun t c => t.scored.Sound c) (.create videoParams 0)
      [receive 1, .setRtx 101 2, receive 3, receiveRtx 2, report] ∧
    Along ScoredSend.step ScoredSend.Sound (.create videoParams .video)
      [.packet {} (numbered 1) 100 0, .nack [numbered 1] [⟨1, 0⟩] 10, .receiverReport 0 none 20] :=
  sound_of_fed (fun _ => false) videoParams videoParams 0 .video _ _ (by decide +kernel) (by decide +kernel)

/-- After packet 1 and a score, the RTX packet of packet 5 arrives: four packets are expected and none is received. -/
theorem ratio_of_nothing : (([receive 1, .setRtx 101 2, report, receiveRtx 5].foldlM (ScoredRecv.step fun _ => false)
        (.create videoParams 0)).toOption.map fun s => (s.expected, s.deliveries)) = some (4, some ⟨0, 0, 0, 1⟩) ∧
      ¬ Along (ScoredRecv.step fun _ => false) ScoredRecv.Sound (.create videoParams 0)
        [receive 1, .setRtx 101 2, report, receiveRtx 5, report] := by
  decide +kernel

end Mediasoup.Rtp
