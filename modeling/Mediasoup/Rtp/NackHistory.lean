import Mediasoup.Lib.Run
import Mediasoup.Rtp.NackWindow

/-!
# What a NACK generator asks for

`NackTrace` is a generator with the numbers received and asked for since the last `Reset`. No packet should be asked for more than
`MaxNackRetries` times, nor after it has been received. As long as all numbers are in one half of the sequence space their offsets
order them (`History`). It fails for a packet that is recovered more than `MaxPacketAge` ahead of another one, which leaves
`recoveredList` (`recovered_then_requested`).
-/

namespace Mediasoup.Rtp

open Lib Mediasoup.Seq List

def NackRequest.numbers : NackRequest → List Nat
  | .nackRequired seqNumbers => seqNumbers
  | .keyFrameRequired => []

structure NackTrace where
  generator : NackGenerator
  /-- since the last `Reset` -/
  received : List Nat := []
  requested : List Nat := []
  /-- the numbers asked for when they had been received already -/
  late : List Nat := []

inductive NackEvent
  | packet (t : Trees) (nowMs : Nat) (seq : UInt16) (isKeyFrame isRecovered : Bool)
  | timer (nowMs : Nat)
  | updateRtt (rtt : Nat)
  | reset

namespace NackTrace

def note (s : NackTrace) (generator : NackGenerator) (received : List Nat) (requests : List NackRequest) : NackTrace :=
  let numbers := requests.flatMap NackRequest.numbers
  { generator := generator
    received := received
    requested := s.requested ++ numbers
    late := s.late ++ numbers.filter fun n => decide (n ∈ received) }

def step (s : NackTrace) : NackEvent → Except Fault NackTrace
  | .packet t nowMs seq isKeyFrame isRecovered => do
    let (g, _, requests) ← s.generator.receivePacket t nowMs seq.toNat isKeyFrame isRecovered
    return s.note g (seq.toNat :: s.received) requests
  | .timer nowMs => .ok (s.note (s.generator.onTimer nowMs).1 s.received (s.generator.onTimer nowMs).2)
  | .updateRtt rtt => .ok { s with generator := s.generator.updateRtt rtt }
  | .reset => .ok { generator := s.generator.reset }

end NackTrace

namespace NackGenerator

/-! ## Counting requests -/

/-- Every entry has been asked for at most as often as it says, and no number too often. -/
structure Counted (requested : List Nat) (l : List NackInfo) : Prop where
  entries : ∀ info ∈ l, requested.count info.seq ≤ info.retries
  all : ∀ n, requested.count n ≤ maxNackRetries

variable {l : List NackInfo} {lastSeq : Nat}

def batch (g : NackGenerator) (filter : NackFilter) (nowMs : Nat) (l : List NackInfo) : List Nat :=
  (l.filter (g.due filter nowMs)).map NackInfo.seq

theorem numbers_getNackBatch (g : NackGenerator) (filter : NackFilter) (nowMs : Nat) :
    (g.getNackBatch filter nowMs).2.flatMap NackRequest.numbers = g.batch filter nowMs g.nackList := by
  unfold getNackBatch batch
  dsimp only
  split
  · rw [flatMap_singleton]
    rfl
  rename_i hempty
  rw [not_not] at hempty
  rw [hempty]
  rfl

theorem mem_batch {g : NackGenerator} {filter : NackFilter} {nowMs n : Nat} (h : n ∈ g.batch filter nowMs l) :
    ∃ info ∈ l, g.due filter nowMs info = true ∧ info.seq = n := by
  obtain ⟨info, hinfo, rfl⟩ := mem_map.mp h
  obtain ⟨hmem, hdue⟩ := mem_filter.mp hinfo
  exact ⟨info, hmem, hdue, rfl⟩

theorem nodup_batch (h : Window lastSeq l) (g : NackGenerator) (filter : NackFilter) (nowMs : Nat) :
    (g.batch filter nowMs l).Nodup :=
  h.nodup.sublist ((filter_sublist).map _)

theorem count_batch (h : Window lastSeq l) (g : NackGenerator) (filter : NackFilter) (nowMs : Nat) {info : NackInfo}
    (hinfo : info ∈ l) :
    (g.batch filter nowMs l).count info.seq ≤ if g.due filter nowMs info then 1 else 0 := by
  by_cases hdue : g.due filter nowMs info = true
  · rw [if_pos hdue]
    exact nodup_iff_count_le_one.mp (nodup_batch h g filter nowMs) _
  rw [if_neg hdue, Nat.le_zero, count_eq_zero]
  intro hmem
  obtain ⟨info', hinfo', hdue', hseq⟩ := mem_batch hmem
  rw [inj_on_of_nodup_map h.nodup hinfo' hinfo hseq] at hdue'
  exact hdue hdue'

theorem Counted.batch {requested : List Nat} (hc : Counted requested l) (h : Window lastSeq l) (g : NackGenerator)
    (filter : NackFilter) (nowMs : Nat) :
    Counted (requested ++ g.batch filter nowMs l) (l.filterMap (g.retry filter nowMs)) := by
  constructor
  · intro info' hinfo'
    obtain ⟨info, hinfo, hretry⟩ := mem_filterMap.mp hinfo'
    have hbatch := count_batch h g filter nowMs hinfo
    have hentry := hc.entries info hinfo
    rw [(retry_eq_some hretry).1, (retry_eq_some hretry).2.1, count_append]
    omega
  · intro n
    rw [count_append]
    by_cases hmem : n ∈ g.batch filter nowMs l
    · obtain ⟨info, hinfo, _, rfl⟩ := mem_batch hmem
      have hbatch := nodup_iff_count_le_one.mp (nodup_batch h g filter nowMs) info.seq
      have hentry := hc.entries info hinfo
      have hretries := h.retries info hinfo
      omega
    · rw [count_eq_zero.mpr hmem, Nat.add_zero]
      exact hc.all n

/-! ## One half of the sequence space -/

/-- How far a number is after the start of the half. -/
def offset (b x : Nat) : Nat := (x + 2 ^ 16 - b) % 2 ^ 16

theorem isSeqLowerThan_iff_offset {b x y : Nat} (hb : b < 2 ^ 16) (hx : x < 2 ^ 16) (hy : y < 2 ^ 16)
    (hbx : offset b x < 2 ^ 15) (hby : offset b y < 2 ^ 15) :
    isSeqLowerThan 16 x y = true ↔ offset b x < offset b y := by
  unfold offset at hbx hby ⊢
  unfold isSeqLowerThan maxValue
  rw [decide_eq_true_eq]
  omega

theorem eq_of_offset_eq {b x y : Nat} (hb : b < 2 ^ 16) (hx : x < 2 ^ 16) (hy : y < 2 ^ 16)
    (h : offset b x = offset b y) : x = y := by
  unfold offset at h
  omega

theorem offset_lt_of_newer {b lastSeq seq : Nat} (hb : b < 2 ^ 16) (hs : seq < 2 ^ 16) (hl : lastSeq < 2 ^ 16)
    (hbs : offset b seq < 2 ^ 15) (hbl : offset b lastSeq < 2 ^ 15) (hne : seq ≠ lastSeq)
    (hnewer : isSeqLowerThan 16 seq lastSeq = false) : offset b lastSeq < offset b seq := by
  have hnot : ¬ offset b seq < offset b lastSeq := by
    rw [← isSeqLowerThan_iff_offset hb hs hl hbs hbl, hnewer]
    exact Bool.false_ne_true
  rcases Nat.lt_or_eq_of_le (not_lt.mp hnot) with hlt | heq
  · exact hlt
  · exact absurd (eq_of_offset_eq hb hl hs heq).symm hne

theorem offset_of_age {b lastSeq seq x : Nat} (hb : b < 2 ^ 16) (hl : lastSeq < 2 ^ 16) (hs : seq < 2 ^ 16)
    (hx : x < 2 ^ 16) (hlt : offset b lastSeq < offset b seq) (hpos : 1 ≤ age seq x) (hage : age seq x < age seq lastSeq) :
    offset b lastSeq < offset b x ∧ offset b x < offset b seq := by
  unfold offset at *
  unfold age at *
  omega

theorem isSeqLowerThan_oldest_iff {b seq x : Nat} (hb : b < 2 ^ 16) (hs : seq < 2 ^ 16) (hx : x < 2 ^ 16)
    (hbs : offset b seq < 2 ^ 15) (hle : offset b x ≤ offset b seq) :
    isSeqLowerThan 16 x (oldest seq) = true ↔ offset b x + maxPacketAge < offset b seq := by
  unfold offset at hbs hle ⊢
  unfold isSeqLowerThan maxValue oldest maxPacketAge
  rw [decide_eq_true_eq]
  omega

end NackGenerator

namespace NackTrace

open NackGenerator

variable {b : Nat} {s : NackTrace}

/-- All numbers received are in the half of the sequence space that starts at `b`. -/
structure InHalf (b : Nat) (s : NackTrace) : Prop where
  start_lt : b < 2 ^ 16
  offset_lt : ∀ r ∈ s.received, offset b r < 2 ^ 15

structure Sound (s : NackTrace) : Prop where
  inv : s.generator.Inv
  received_lt : ∀ r ∈ s.received, r < 2 ^ 16
  last : s.generator.started = true → s.generator.lastSeq ∈ s.received
  idle : s.generator.started = false → s.received = [] ∧ s.requested = [] ∧ s.late = []

/-- What has been received and asked for, in a half of the sequence space: the entries of the list have not been received,
everything asked for is before the last number, and what has been received after it is in `recoveredList`. -/
structure History (b : Nat) (s : NackTrace) : Prop where
  counted : Counted s.requested s.generator.nackList
  missing : ∀ info ∈ s.generator.nackList, info.seq ∉ s.received
  listed : ∀ info ∈ s.generator.nackList, offset b info.seq < offset b s.generator.lastSeq
  passed : ∀ n ∈ s.requested, offset b n < offset b s.generator.lastSeq
  ahead : ∀ r ∈ s.received, offset b s.generator.lastSeq < offset b r → r ∈ s.generator.recoveredList
  recovered : ∀ r ∈ s.generator.recoveredList, r ∈ s.received
  sorted : s.generator.recoveredList.Pairwise fun x y => offset b x < offset b y
  late : s.late = []

variable {requests : List NackRequest}

theorem History.batch (h : History b s) (hwindow : Window s.generator.lastSeq s.generator.nackList)
    (g₁ : NackGenerator) (filter : NackFilter) (nowMs : Nat) (timerActive : Bool)
    (hnumbers : requests.flatMap NackRequest.numbers = g₁.batch filter nowMs s.generator.nackList) :
    History b (s.note { s.generator with nackList := s.generator.nackList.filterMap (g₁.retry filter nowMs),
                                         timerActive := timerActive } s.received requests) := by
  simp only [note, hnumbers]
  refine ⟨h.counted.batch hwindow g₁ filter nowMs, forall_filterMap_retry (P := (· ∉ s.received)) h.missing,
    forall_filterMap_retry (P := fun n => offset b n < offset b s.generator.lastSeq) h.listed,
    forall_mem_append.mpr ⟨h.passed, ?_⟩, h.ahead, h.recovered, h.sorted, ?_⟩
  · intro n hn
    obtain ⟨info, hinfo, -, rfl⟩ := mem_batch hn
    exact h.listed info hinfo
  · rw [h.late, nil_append, filter_eq_nil_iff]
    intro n hn
    obtain ⟨info, hinfo, -, rfl⟩ := mem_batch hn
    simpa using h.missing info hinfo

variable {t : Trees} {seq nowMs : Nat}

theorem History.advance (h : History b s) (hs : Sound s) (hstarted : s.generator.started = true) (hseq : seq < 2 ^ 16)
    (hhalf : InHalf b { s with received := seq :: s.received }) (hne : seq ≠ s.generator.lastSeq)
    (hnewer : isSeqLowerThan 16 seq s.generator.lastSeq = false) {l : List NackInfo}
    (hadvanced : Advanced t s.generator seq l) (k : List Nat) :
    History b
      { s with
        generator := { s.generator with nackList := l, keyFrameList := k, lastSeq := seq }
        received := seq :: s.received } := by
  have hb := hhalf.start_lt
  have hlast := hs.inv.lastSeq_lt
  have hoff : ∀ r ∈ s.received, offset b r < 2 ^ 15 := fun r hr => hhalf.offset_lt r (mem_cons_of_mem _ hr)
  have hoffseq := hhalf.offset_lt seq mem_cons_self
  have hlt := offset_lt_of_newer hb hseq hlast hoffseq (hoff _ (hs.last hstarted)) hne hnewer
  -- a number that is skipped is after the last one and has not been received
  have hentry : ∀ info ∈ l, s.requested.count info.seq ≤ info.retries ∧ offset b info.seq < offset b seq ∧
      info.seq ∉ s.received := by
    intro info hinfo
    rcases hadvanced.origin info hinfo with hold | ⟨h0, hage, hfind⟩
    · exact ⟨h.counted.entries info hold, (h.listed info hold).trans hlt, h.missing info hold⟩
    obtain ⟨hafter, hbefore⟩ := offset_of_age hb hlast hseq (hadvanced.window.seq_lt info hinfo) hlt
      (hadvanced.window.pos info hinfo) hage
    refine ⟨?_, hbefore, fun hmem => ?_⟩
    · rw [h0, Nat.le_zero, count_eq_zero]
      exact fun hmem => absurd (h.passed _ hmem) hafter.not_gt
    · have hlower : s.generator.recoveredList.Pairwise fun x y => isSeqLowerThan 16 (id x) (id y) = true := by
        refine h.sorted.imp_of_mem ?_
        intro x y hx hy hxy
        have hx' := h.recovered x hx
        have hy' := h.recovered y hy
        exact (isSeqLowerThan_iff_offset hb (hs.received_lt x hx') (hs.received_lt y hy') (hoff x hx') (hoff y hy')).mpr hxy
      have hfound : t.recoveredList.find id (isSeqLowerThan 16) s.generator.recoveredList info.seq = some info.seq :=
        t.recoveredList.find_of_mem (fun _ _ => isSeqLowerThan_asymm) hlower (h.ahead _ hmem hafter)
      simp [hfind] at hfound
  refine ⟨⟨fun info hinfo => (hentry info hinfo).1, h.counted.all⟩, ?_, fun info hinfo => (hentry info hinfo).2.1,
    fun n hn => (h.passed n hn).trans hlt, ?_, fun r hr => mem_cons_of_mem _ (h.recovered r hr), h.sorted, h.late⟩
  · intro info hinfo
    obtain ⟨-, hbefore, hnot⟩ := hentry info hinfo
    exact not_mem_cons_of_ne_of_not_mem (fun heq => by rw [heq] at hbefore; exact lt_irrefl _ hbefore) hnot
  · exact forall_mem_cons.mpr ⟨fun hafter => absurd hafter (lt_irrefl _), fun r hr hafter => h.ahead r hr (hlt.trans hafter)⟩

/-- The condition on a packet that came by retransmission ahead of the last number: it is not more than `MaxPacketAge`
ahead of another one that did. -/
def RecoveredNear (s : NackTrace) : NackEvent → Prop
  | .packet _ _ seq _ true =>
    s.generator.started = true → isSeqHigherThan 16 seq.toNat s.generator.lastSeq = true →
      ∀ r ∈ s.generator.recoveredList, isSeqHigherThan 16 r s.generator.lastSeq = true →
        isSeqLowerThan 16 r (oldest seq.toNat) = false
  | _ => True

instance : ∀ (s : NackTrace) (e : NackEvent), Decidable (RecoveredNear s e)
  | s, .packet _ _ _ _ true =>
    inferInstanceAs (Decidable (_ → _ → ∀ r ∈ s.generator.recoveredList, _ → _))
  | _, .packet _ _ _ _ false | _, .timer _ | _, .updateRtt _ | _, .reset => .isTrue trivial

theorem History.addRecovered (h : History b s) (hs : Sound s) (hstarted : s.generator.started = true) (hseq : seq < 2 ^ 16)
    (hhalf : InHalf b { s with received := seq :: s.received }) (hne : seq ≠ s.generator.lastSeq)
    (hnewer : isSeqLowerThan 16 seq s.generator.lastSeq = false)
    (hnear : ∀ r ∈ s.generator.recoveredList, isSeqHigherThan 16 r s.generator.lastSeq = true →
      isSeqLowerThan 16 r (oldest seq) = false) (k : List Nat) :
    History b
      { s with
        generator := ({ s.generator with keyFrameList := k } : NackGenerator).addRecovered t seq
        received := seq :: s.received } := by
  have hb := hhalf.start_lt
  have hlast := hs.inv.lastSeq_lt
  have hoff : ∀ r ∈ s.received, offset b r < 2 ^ 15 := fun r hr => hhalf.offset_lt r (mem_cons_of_mem _ hr)
  have hoffseq := hhalf.offset_lt seq mem_cons_self
  have hlt := offset_lt_of_newer hb hseq hlast hoffseq (hoff _ (hs.last hstarted)) hne hnewer
  -- insertion
  obtain ⟨hsorted, hmem, hkeep, x, hx, hxseq⟩ := t.recoveredList.insertUnique_ranked id (isSeqLowerThan 16)
    (e := seq) h.sorted (by
      intro d hd
      have hd' := h.recovered d hd
      exact ⟨isSeqLowerThan_iff_offset hb (hs.received_lt d hd') hseq (hoff d hd') hoffseq,
        isSeqLowerThan_iff_offset hb hseq (hs.received_lt d hd') hoffseq (hoff d hd')⟩)
  simp only [NackGenerator.addRecovered, removeOld]
  generalize t.recoveredList.insertUnique id (isSeqLowerThan 16) s.generator.recoveredList seq = inserted
    at hsorted hmem hkeep hx ⊢
  have hreceived : ∀ r ∈ inserted, r ∈ seq :: s.received := by
    intro r hr
    rcases hmem r hr with rfl | hr
    · exact mem_cons_self
    · exact mem_cons_of_mem _ (h.recovered r hr)
  have hrange : ∀ r ∈ seq :: s.received, r < 2 ^ 16 := forall_mem_cons.mpr ⟨hseq, hs.received_lt⟩
  obtain rfl : x = seq := eq_of_offset_eq hb (hrange x (hreceived x hx)) hseq hxseq
  -- what is removed is before the last number
  have hafter : ∀ r ∈ inserted, offset b s.generator.lastSeq < offset b r → isSeqLowerThan 16 r (oldest x) = false := by
    intro r hr hlt'
    rcases hmem r hr with rfl | hr
    · refine Bool.eq_false_of_not_eq_true fun hlow => ?_
      have := (isSeqLowerThan_oldest_iff hb hseq hseq hoffseq le_rfl).mp hlow
      omega
    · refine hnear r hr ?_
      have hr' := h.recovered r hr
      exact (isSeqLowerThan_iff_offset hb hlast (hs.received_lt r hr') (hoff _ (hs.last hstarted)) (hoff r hr')).mpr hlt'
  have hbefore : ∀ r ∈ inserted, ¬ offset b s.generator.lastSeq < offset b r →
      (isSeqLowerThan 16 r (oldest x) = true ↔ offset b r + maxPacketAge < offset b x) := by
    intro r hr hle
    exact isSeqLowerThan_oldest_iff hb hseq (hrange r (hreceived r hr)) hoffseq (by omega)
  have hclosed : inserted.Pairwise fun a c =>
      isSeqLowerThan 16 (id c) (oldest x) = true → isSeqLowerThan 16 (id a) (oldest x) = true := by
    refine hsorted.imp_of_mem ?_
    intro a c ha hc hac hlow
    have hcle : ¬ offset b s.generator.lastSeq < offset b c := by
      intro hgt
      simp [id_eq, hafter c hc hgt] at hlow
    have hc' := (hbefore c hc hcle).mp hlow
    exact (hbefore a ha (by omega)).mpr (by omega)
  obtain ⟨pre, post, rfl, hpos, hpre, -⟩ := t.recoveredList.lowerBound_spec hclosed
  rw [hpos, drop_left]
  have hstays : ∀ r ∈ pre ++ post, offset b s.generator.lastSeq < offset b r → r ∈ post := by
    intro r hr hlt'
    rcases mem_append.mp hr with hpre' | hr
    · have htrue := hpre r hpre'
      simp [id_eq, hafter r hr hlt'] at htrue
    · exact hr
  refine ⟨h.counted, ?_, h.listed, h.passed, ?_, fun r hr => hreceived r (mem_append_right _ hr),
    (pairwise_append.mp hsorted).2.1, h.late⟩
  · intro info hinfo
    refine not_mem_cons_of_ne_of_not_mem (fun heq => ?_) (h.missing info hinfo)
    have hlisted := h.listed info hinfo
    rw [heq] at hlisted
    omega
  · exact forall_mem_cons.mpr ⟨hstays x hx, fun r hr hlt' => hstays r (hkeep r (h.ahead r hr hlt')) hlt'⟩

theorem History.receive (h : History b s) (hmissing : ∀ info ∈ s.generator.nackList, info.seq ≠ seq)
    (hahead : ¬ offset b s.generator.lastSeq < offset b seq) : History b { s with received := seq :: s.received } := by
  exact ⟨h.counted, fun info hinfo => not_mem_cons_of_ne_of_not_mem (hmissing info hinfo) (h.missing info hinfo), h.listed,
    h.passed, forall_mem_cons.mpr ⟨fun hlt => absurd hlt hahead, h.ahead⟩,
    fun r hr => mem_cons_of_mem _ (h.recovered r hr), h.sorted, h.late⟩

theorem History.sublist (h : History b s) {l : List NackInfo} (hsub : l.Sublist s.generator.nackList) :
    History b { s with generator := { s.generator with nackList := l } } :=
  ⟨⟨fun info hinfo => h.counted.entries info (hsub.subset hinfo), h.counted.all⟩,
    fun info hinfo => h.missing info (hsub.subset hinfo), fun info hinfo => h.listed info (hsub.subset hinfo), h.passed,
    h.ahead, h.recovered, h.sorted, h.late⟩

variable {g' : NackGenerator}

theorem history_first (hs : Sound s) (hstarted : s.generator.started = false)
    (hlast : g'.lastSeq = seq) (hlist : g'.nackList = s.generator.nackList)
    (hrecovered : g'.recoveredList = s.generator.recoveredList) :
    History b { s with generator := g', received := seq :: s.received } := by
  obtain ⟨hreceived, hrequested, hlate⟩ := hs.idle hstarted
  rw [(hs.inv.idle hstarted).1] at hlist
  rw [(hs.inv.idle hstarted).2] at hrecovered
  refine ⟨⟨?_, ?_⟩, ?_, ?_, ?_, ?_, ?_, ?_, hlate⟩
  · simp [hlist]
  · simp [hrequested]
  · simp [hlist]
  · simp [hlist]
  · simp [hrequested]
  · simp [hreceived, hlast]
  · simp [hrecovered]
  · simp [hrecovered]

theorem note_nil (s : NackTrace) (g : NackGenerator) (received : List Nat) :
    s.note g received [] = { s with generator := g, received := received } := by
  simp [note]

theorem History.packet (h : History b s) (hs : Sound s) {seq : UInt16}
    (hhalf : InHalf b { s with received := seq.toNat :: s.received }) {isKeyFrame isRecovered : Bool}
    (hnear : RecoveredNear s (.packet t nowMs seq isKeyFrame isRecovered)) (heffect : Effect t s.generator nowMs seq.toNat isRecovered g' requests) :
    History b (s.note g' (seq.toNat :: s.received) requests) := by
  have hb := hhalf.start_lt
  have hseq := seq.toNat_lt
  have hlast := hs.inv.lastSeq_lt
  have hoffseq := hhalf.offset_lt seq.toNat mem_cons_self
  have hofflast : s.generator.started = true → offset b s.generator.lastSeq < 2 ^ 15 := fun hstarted =>
    hhalf.offset_lt _ (mem_cons_of_mem _ (hs.last hstarted))
  cases heffect with
  | first hstarted k =>
    rw [note_nil]
    exact history_first hs hstarted rfl rfl rfl
  | same hstarted heq =>
    rw [note_nil]
    refine h.receive ?_ (by rw [heq]; exact lt_irrefl _)
    intro info hinfo heq'
    have hlisted := h.listed info hinfo
    rw [heq', heq] at hlisted
    exact lt_irrefl _ hlisted
  | older hstarted hlower =>
    have hlt := (isSeqLowerThan_iff_offset hb hseq hlast hoffseq (hofflast hstarted)).mp hlower
    obtain ⟨l, hl, hsub⟩ := receiveOlder_eq t s.generator seq.toNat
    have hmissing : ∀ info ∈ l, info.seq ≠ seq.toNat := fun info hinfo =>
      not_mem_receiveOlder (t := t) hs.inv (by rwa [hl])
    rw [note_nil, hl]
    exact (h.sublist hsub).receive hmissing hlt.not_gt
  | recovered hstarted hne hnewer hrecovered k =>
    subst hrecovered
    rw [note_nil]
    refine h.addRecovered hs hstarted hseq hhalf hne hnewer (hnear hstarted ?_) k
    exact (isSeqLowerThan_iff_offset hb hlast hseq (hofflast hstarted) hoffseq).mpr
      (offset_lt_of_newer hb hseq hlast hoffseq (hofflast hstarted) hne hnewer)
  | @advanced hstarted hne hnewer l hadvanced k timerActive keyFrames hkeyFrames =>
    -- the numbers skipped are added first, and then asked for
    have hadded := h.advance hs hstarted hseq hhalf hne hnewer hadvanced k
    refine hadded.batch hadvanced.window { s.generator with nackList := l, keyFrameList := k, lastSeq := seq.toNat } .seq nowMs
      timerActive ?_
    have hnone : keyFrames.flatMap NackRequest.numbers = [] := by
      rw [flatMap_eq_nil_iff]
      intro r hr
      rw [hkeyFrames r hr]
      rfl
    rw [flatMap_append, hnone, nil_append, numbers_getNackBatch]

theorem Sound.packet (hs : Sound s) {seq : UInt16} {isRecovered : Bool} (heffect : Effect t s.generator nowMs seq.toNat isRecovered g' requests) :
    Sound (s.note g' (seq.toNat :: s.received) requests) := by
  have hstarted' : g'.started = true ∧ (g'.lastSeq = seq.toNat ∨ g'.lastSeq = s.generator.lastSeq ∧
      s.generator.started = true) := by
    cases heffect with
    | first hstarted k => exact ⟨rfl, Or.inl rfl⟩
    | same hstarted heq => exact ⟨hstarted, Or.inl heq.symm⟩
    | older hstarted hlower =>
      obtain ⟨l, hl, -⟩ := receiveOlder_eq t s.generator seq.toNat
      rw [hl]
      exact ⟨hstarted, Or.inr ⟨rfl, hstarted⟩⟩
    | recovered hstarted hne hnewer hrecovered k => exact ⟨hstarted, Or.inr ⟨rfl, hstarted⟩⟩
    | advanced hstarted hne hnewer hadvanced k timerActive hrequests => exact ⟨hstarted, Or.inl rfl⟩
  refine ⟨heffect.inv hs.inv seq.toNat_lt, forall_mem_cons.mpr ⟨seq.toNat_lt, hs.received_lt⟩, ?_, ?_⟩
  · intro _
    change g'.lastSeq ∈ seq.toNat :: s.received
    rcases hstarted'.2 with heq | ⟨heq, hstarted⟩ <;> rw [heq]
    · exact mem_cons_self
    · exact mem_cons_of_mem _ (hs.last hstarted)
  · intro hfalse
    change g'.started = false at hfalse
    simp [hstarted'.1] at hfalse

theorem numbers_onTimer (g : NackGenerator) (nowMs : Nat) : (g.onTimer nowMs).2.flatMap NackRequest.numbers =
      ({ g with timerActive := false } : NackGenerator).batch .time nowMs g.nackList :=
  numbers_getNackBatch { g with timerActive := false } .time nowMs

theorem Sound.timer (hs : Sound s) (nowMs : Nat) :
    Sound (s.note (s.generator.onTimer nowMs).1 s.received (s.generator.onTimer nowMs).2) := by
  have hinv := hs.inv.onTimer nowMs
  obtain ⟨timerActive, heq⟩ := onTimer_eq s.generator nowMs
  rw [heq] at hinv ⊢
  refine ⟨hinv, hs.received_lt, hs.last, ?_⟩
  intro hfalse
  obtain ⟨hreceived, hrequested, hlate⟩ := hs.idle hfalse
  have hnone : (s.generator.onTimer nowMs).2.flatMap NackRequest.numbers = [] := by
    rw [numbers_onTimer, (hs.inv.idle hfalse).1]
    rfl
  simp [note, hnone, hreceived, hrequested, hlate]

/-! ## Runs -/

def NotTooOften (s : NackTrace) : Prop :=
  ∀ b, InHalf b s → s.late = [] ∧ ∀ n, s.requested.count n ≤ maxNackRetries

theorem step_sound (hs : Sound s) (e : NackEvent) : ∃ s', s.step e = .ok s' ∧ Sound s' := by
  cases e with
  | packet t nowMs seq isKeyFrame isRecovered =>
    obtain ⟨g', nacked, requests, hreceive, heffect⟩ :=
      receivePacket_effect (t := t) hs.inv seq.toNat_lt nowMs isKeyFrame isRecovered
    refine ⟨_, ?_, hs.packet heffect⟩
    rw [step, hreceive]
    rfl
  | timer nowMs => exact ⟨_, rfl, hs.timer nowMs⟩
  | updateRtt rtt => exact ⟨_, rfl, ⟨hs.inv.lastSeq_lt, hs.inv.window, hs.inv.idle⟩, hs.received_lt, hs.last, hs.idle⟩
  | reset =>
    exact ⟨_, rfl, inv_reset s.generator, by simp, nofun, fun _ => ⟨rfl, rfl, rfl⟩⟩

theorem step_history (hs : Sound s) (hhistory : ∀ b, InHalf b s → History b s) {e : NackEvent} (hnear : RecoveredNear s e)
    {s' : NackTrace} (hstep : s.step e = .ok s') : ∀ b, InHalf b s' → History b s' := by
  intro b hhalf
  cases e with
  | packet t nowMs seq isKeyFrame isRecovered =>
    obtain ⟨g', nacked, requests, hreceive, heffect⟩ :=
      receivePacket_effect (t := t) hs.inv seq.toNat_lt nowMs isKeyFrame isRecovered
    rw [step, hreceive] at hstep
    cases hstep
    have hbefore : InHalf b s := ⟨hhalf.start_lt, fun r hr => hhalf.offset_lt r (mem_cons_of_mem _ hr)⟩
    exact (hhistory b hbefore).packet hs ⟨hhalf.start_lt, hhalf.offset_lt⟩ hnear heffect
  | timer nowMs =>
    cases hstep
    obtain ⟨timerActive, heq⟩ := onTimer_eq s.generator nowMs
    rw [heq]
    exact (hhistory b ⟨hhalf.start_lt, hhalf.offset_lt⟩).batch hs.inv.window _ _ _ _ (numbers_onTimer s.generator nowMs)
  | updateRtt rtt =>
    cases hstep
    have h := hhistory b ⟨hhalf.start_lt, hhalf.offset_lt⟩
    exact ⟨h.counted, h.missing, h.listed, h.passed, h.ahead, h.recovered, h.sorted, h.late⟩
  | reset =>
    cases hstep
    exact ⟨⟨by simp [NackGenerator.reset], by simp⟩, by simp, by simp [NackGenerator.reset], by simp, by simp,
      by simp [NackGenerator.reset], by simp [NackGenerator.reset], rfl⟩

theorem sound_new (sendNackDelayMs : Nat) : Sound { generator := { sendNackDelayMs := sendNackDelayMs } } :=
  ⟨inv_reset { sendNackDelayMs := sendNackDelayMs }, by simp, by simp, fun _ => ⟨rfl, rfl, rfl⟩⟩

/-- In every run of a new generator no assertion fires, every loop ends, and the list stays within its window. If moreover
recovered packets are near each other, then, as long as the numbers are in one half of the sequence space, no number is asked
for too often, and none that has been received. -/
theorem safe_nacks (sendNackDelayMs : Nat) (events : List NackEvent) :
    Safe step (fun s => Window s.generator.lastSeq s.generator.nackList)
        { generator := { sendNackDelayMs := sendNackDelayMs } } events ∧
      (∀ (t : Trees) (numNewNacks more : Nat) (nackList : List NackInfo) (keyFrameList : List Nat),
        shrink t numNewNacks (nackList.length + 1 + more) nackList keyFrameList =
          shrink t numNewNacks (nackList.length + 1) nackList keyFrameList) ∧
      (Along step RecoveredNear { generator := { sendNackDelayMs := sendNackDelayMs } } events →
        Safe step NotTooOften { generator := { sendNackDelayMs := sendNackDelayMs } } events) := by
  have hnew := sound_new sendNackDelayMs
  refine ⟨?_, ?_, ?_⟩
  · refine safe_of_along (C := fun _ _ => True) (I := Sound) (fun s e hs _ => step_sound hs e)
      (fun s hs => hs.inv.window) events _ hnew (along_of_forall (fun _ _ => trivial) events _)
  · exact fun t numNewNacks more nackList keyFrameList => shrink_eq numNewNacks (Nat.lt_succ_self _) more
  · refine safe_of_along (I := fun s => Sound s ∧ ∀ b, InHalf b s → History b s) ?_ ?_ events _ ⟨hnew, ?_⟩
    · intro s e hs hnear
      obtain ⟨s', hstep, hsound⟩ := step_sound hs.1 e
      exact ⟨s', hstep, hsound, step_history hs.1 hs.2 hnear hstep⟩
    · intro s hs b hhalf
      exact ⟨(hs.2 b hhalf).late, (hs.2 b hhalf).counted.all⟩
    · intro b _
      exact ⟨⟨by simp, by simp⟩, by simp, by simp, by simp, by simp, by simp, by simp, rfl⟩

def arrivals (packets : List (UInt16 × Bool)) : List NackEvent :=
  packets.map fun (seq, isRecovered) => .packet ⟨.spine, .spine, .spine⟩ 1000 seq false isRecovered

def lossAndRecovery : List NackEvent :=
  arrivals [(65534, false), (1, true), (2, false)] ++ [.timer 2000] ++ arrivals [(65535, false), (0, true)] ++ [.timer 3000]

theorem safe_lossAndRecovery : ((lossAndRecovery.foldlM step { generator := {} }).toOption.map fun s => (s.requested, s.late)) =
        some ([65535, 0, 65535, 0], []) ∧
      Safe step NotTooOften { generator := {} } lossAndRecovery :=
  ⟨by decide +kernel, (safe_nacks 0 lossAndRecovery).2.2 (by decide +kernel)⟩

/-- 5 is received by retransmission before its turn, and so is 20000, which removes it from `recoveredList`. When 10 arrives,
5 is asked for. -/
theorem recovered_then_requested :
    ¬ Safe step NotTooOften { generator := {} } (arrivals [(0, false), (5, true), (20000, true), (10, false)]) := by
  intro hsafe
  have hrun : ((arrivals [(0, false), (5, true), (20000, true), (10, false)]).foldlM step
      { generator := {} }).toOption.map (fun s => (s.received, s.late)) = some ([10, 20000, 5, 0], [5]) := by
    decide +kernel
  cases hlast : (arrivals [(0, false), (5, true), (20000, true), (10, false)]).foldlM step { generator := {} } with
  | error f =>
    rw [hlast] at hrun
    cases hrun
  | ok s =>
    rw [hlast] at hrun
    obtain ⟨hreceived, hlate⟩ := Prod.mk.inj (Option.some.inj hrun)
    have hhalf : InHalf 0 s := by
      refine ⟨by decide, ?_⟩
      rw [hreceived]
      decide
    have hnever := (hsafe.last (fun b _ => ⟨rfl, fun n => Nat.zero_le _⟩) hlast 0 hhalf).1
    simp [hlate] at hnever

end NackTrace

end Mediasoup.Rtp
