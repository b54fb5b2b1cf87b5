import Mediasoup.Rtp.NackGenerator

/-!
# The window of the NACK list

The numbers in `nackList` are those skipped on the way to `lastSeq`. By their age, the distance to `lastSeq`, they are sorted and
at most `MaxPacketAge` old (`Window`). There the circular comparison is the order of the ages, so every walk through the search
tree ends at the right place whatever its shape, and the assertion of `AddPacketsToNackList` cannot fire. `receivePacket_effect`:
a call has one of five effects, which all keep the invariant.
-/

namespace Mediasoup.Rtp

open Lib Mediasoup.Seq List

namespace NackGenerator

/-! ## Ages -/

def age (lastSeq seq : Nat) : Nat := (lastSeq + 2 ^ 16 - seq) % 2 ^ 16

variable {lastSeq seq : Nat} {l l' : List NackInfo}

theorem eq_of_age_eq {a b : Nat} (ha : a < 2 ^ 16) (hb : b < 2 ^ 16) (h : age lastSeq a = age lastSeq b)
    (hl : lastSeq < 2 ^ 16) : a = b := by
  unfold age at h
  omega

theorem isSeqLowerThan_of_age {a b : Nat} (hl : lastSeq < 2 ^ 16) (ha : a < 2 ^ 16) (hb : b < 2 ^ 16)
    (hlt : age lastSeq b < age lastSeq a) (hspan : age lastSeq a < age lastSeq b + 2 ^ 15) :
    isSeqLowerThan 16 a b = true := by
  unfold age at hlt hspan
  unfold isSeqLowerThan maxValue
  rw [decide_eq_true_eq]
  omega

theorem age_oldest (hseq : seq < 2 ^ 16) : age seq (oldest seq) = maxPacketAge := by
  unfold age oldest maxPacketAge
  omega

theorem oldest_lt (seq : Nat) : oldest seq < 2 ^ 16 := Nat.mod_lt _ (Nat.two_pow_pos 16)

theorem age_advance {x : Nat} (hl : lastSeq < 2 ^ 16) (hs : seq < 2 ^ 16) (hx : x < 2 ^ 16)
    (h : age lastSeq x + age seq lastSeq < 2 ^ 16) : age seq x = age lastSeq x + age seq lastSeq := by
  unfold age at h ⊢
  omega

/-! ## The invariant -/

structure Window (lastSeq : Nat) (l : List NackInfo) : Prop where
  seq_lt : ∀ info ∈ l, info.seq < 2 ^ 16
  pos : ∀ info ∈ l, 1 ≤ age lastSeq info.seq
  aged : ∀ info ∈ l, age lastSeq info.seq ≤ maxPacketAge
  sorted : l.Pairwise fun a b => age lastSeq b.seq < age lastSeq a.seq
  size : l.length ≤ maxNackPackets
  retries : ∀ info ∈ l, info.retries < maxNackRetries

theorem window_nil (lastSeq : Nat) : Window lastSeq [] :=
  ⟨by simp, by simp, by simp, List.Pairwise.nil, Nat.zero_le _, by simp⟩

namespace Window

theorem sublist (h : Window lastSeq l) (hsub : l'.Sublist l) : Window lastSeq l' :=
  ⟨fun i hi => h.seq_lt i (hsub.subset hi), fun i hi => h.pos i (hsub.subset hi), fun i hi => h.aged i (hsub.subset hi),
    h.sorted.sublist hsub, hsub.length_le.trans h.size, fun i hi => h.retries i (hsub.subset hi)⟩

theorem lower (h : Window lastSeq l) (hl : lastSeq < 2 ^ 16) : l.Pairwise fun a b => isSeqLowerThan 16 a.seq b.seq = true := by
  refine h.sorted.imp_of_mem ?_
  intro a b ha hb hlt
  have haged := h.aged a ha
  unfold maxPacketAge at haged
  exact isSeqLowerThan_of_age hl (h.seq_lt a ha) (h.seq_lt b hb) hlt (by omega)

theorem nodup (h : Window lastSeq l) : (l.map NackInfo.seq).Nodup := by
  refine pairwise_map.mpr (h.sorted.imp ?_)
  intro a b hlt heq
  rw [heq] at hlt
  exact lt_irrefl _ hlt

end Window

/-! ## `GetNackBatch` -/

section

variable {g : NackGenerator} {filter : NackFilter} {nowMs : Nat} {info info' : NackInfo}

theorem retry_eq_some (h : g.retry filter nowMs info = some info') :
    info'.seq = info.seq ∧ info'.retries = (info.retries + if g.due filter nowMs info then 1 else 0) ∧
      (info.retries < maxNackRetries → info'.retries < maxNackRetries) := by
  unfold retry at h
  split_ifs at h ⊢ with hdue hmax
  · cases h
    exact ⟨rfl, rfl, fun _ => Nat.lt_of_not_le hmax⟩
  · cases h
    exact ⟨rfl, rfl, id⟩

theorem forall_filterMap_retry {P : Nat → Prop} (h : ∀ info ∈ l, P info.seq) :
    ∀ info ∈ l.filterMap (g.retry filter nowMs), P info.seq := by
  intro info' hinfo'
  obtain ⟨info, hinfo, hretry⟩ := mem_filterMap.mp hinfo'
  rw [(retry_eq_some hretry).1]
  exact h info hinfo

theorem filterMap_retry_sublist : ∀ l : List NackInfo,
    ((l.filterMap (g.retry filter nowMs)).map NackInfo.seq).Sublist (l.map NackInfo.seq)
  | [] => List.Sublist.refl _
  | info :: l => by
    have ih := filterMap_retry_sublist l
    rw [filterMap_cons]
    split
    · exact ih.cons _
    · rename_i info' hinfo
      rw [map_cons, map_cons, (retry_eq_some hinfo).1]
      exact ih.cons_cons _

theorem Window.filterMap_retry (h : Window lastSeq l) : Window lastSeq (l.filterMap (g.retry filter nowMs)) where
  seq_lt := forall_filterMap_retry (P := (· < 2 ^ 16)) h.seq_lt
  pos := forall_filterMap_retry (P := fun n => 1 ≤ age lastSeq n) h.pos
  aged := forall_filterMap_retry (P := fun n => age lastSeq n ≤ maxPacketAge) h.aged
  sorted := by
    have hsorted : (l.map NackInfo.seq).Pairwise fun a b => age lastSeq b < age lastSeq a := pairwise_map.mpr h.sorted
    exact pairwise_map.mp (hsorted.sublist (filterMap_retry_sublist l))
  size := (length_filterMap_le _ _).trans h.size
  retries info' hinfo' := by
    obtain ⟨info, hinfo, hretry⟩ := mem_filterMap.mp hinfo'
    exact (retry_eq_some hretry).2.2 (h.retries info hinfo)

end

/-! ## `AddPacketsToNackList` -/

variable {t : Trees}

theorem removeNackItems_suffix (nackList : List NackInfo) : ∀ keyFrameList : List Nat,
    (removeNackItemsUntilKeyFrame t nackList keyFrameList).1 <:+ nackList
  | [] => suffix_rfl
  | keyFrame :: keyFrameList => by
    simp only [removeNackItemsUntilKeyFrame]
    split
    · exact drop_suffix _ _
    · exact removeNackItems_suffix nackList keyFrameList

theorem shrink_suffix (numNewNacks : Nat) : ∀ (fuel : Nat) (nackList : List NackInfo) (keyFrameList : List Nat),
    (shrink t numNewNacks fuel nackList keyFrameList).1 <:+ nackList
  | 0, _, _ => suffix_rfl
  | fuel + 1, nackList, keyFrameList => by
    have hsuffix := removeNackItems_suffix (t := t) nackList keyFrameList
    rw [shrink]
    generalize removeNackItemsUntilKeyFrame t nackList keyFrameList = r at hsuffix ⊢
    obtain ⟨l, k, removed⟩ := r
    cases removed with
    | false => exact hsuffix
    | true =>
      dsimp only
      split
      · exact (shrink_suffix numNewNacks fuel l k).trans hsuffix
      · exact hsuffix

theorem shrink_eq (numNewNacks : Nat) : ∀ {fuel : Nat} {nackList : List NackInfo} {keyFrameList : List Nat},
    nackList.length < fuel → ∀ more, shrink t numNewNacks (fuel + more) nackList keyFrameList =
      shrink t numNewNacks fuel nackList keyFrameList
  | 0, _, _, hlt, _ => absurd hlt (Nat.not_lt_zero _)
  | fuel + 1, nackList, keyFrameList, hlt, more => by
    rw [Nat.succ_add, shrink, shrink]
    cases hrem : removeNackItemsUntilKeyFrame t nackList keyFrameList with
    | mk l rest =>
      obtain ⟨k, removed⟩ := rest
      cases removed with
      | false => rfl
      | true =>
        have hshort := length_lt_of_removeNackItems hrem
        dsimp only
        rw [shrink_eq numNewNacks (by omega) more]

theorem isSeqLowerThan_oldest {seqEnd x : Nat} (hs : seqEnd < 2 ^ 16) (hx : x < 2 ^ 16)
    (hspan : age seqEnd x < maxPacketAge + 2 ^ 15) :
    isSeqLowerThan 16 x (oldest seqEnd) = true ↔ maxPacketAge < age seqEnd x := by
  have hold := age_oldest hs
  constructor
  · intro hlow
    by_contra hle
    rcases Nat.lt_or_eq_of_le (not_lt.mp hle) with hlt | heq
    · have hrev := isSeqLowerThan_of_age hs (oldest_lt seqEnd) hx (by omega) (by unfold maxPacketAge at *; omega)
      simp [isSeqLowerThan_asymm hrev] at hlow
    · simp [eq_of_age_eq hx (oldest_lt seqEnd) (heq.trans hold.symm) hs, isSeqLowerThan_irrefl] at hlow
  · intro hlt
    exact isSeqLowerThan_of_age hs hx (oldest_lt seqEnd) (by omega) (by omega)

variable {g : NackGenerator}

theorem Window.age_advance (h : Window lastSeq l) (hl : lastSeq < 2 ^ 16)
    (hs : seq < 2 ^ 16) (hfew : age seq lastSeq ≤ maxNackPackets + 1) {info : NackInfo} (hinfo : info ∈ l) :
    age seq info.seq = age lastSeq info.seq + age seq lastSeq := by
  have haged := h.aged info hinfo
  unfold maxPacketAge at haged
  unfold maxNackPackets at hfew
  exact NackGenerator.age_advance hl hs (h.seq_lt info hinfo) (by omega)

theorem makeRoom_spec (h : Window g.lastSeq g.nackList) (hl : g.lastSeq < 2 ^ 16) (hs : seq < 2 ^ 16) (n : Nat) :
    (g.makeRoom t n seq).1 <:+ g.nackList ∧
      (age seq g.lastSeq ≤ maxNackPackets + 1 → ∀ info ∈ (g.makeRoom t n seq).1, age seq info.seq ≤ maxPacketAge) := by
  have hdrop : (g.makeRoom t n seq).1 <:+
      g.nackList.drop (t.nackList.lowerBound NackInfo.seq (isSeqLowerThan 16) g.nackList (oldest seq)) := by
    simp only [makeRoom]
    split
    · exact shrink_suffix _ _ _ _
    · exact suffix_rfl
  refine ⟨hdrop.trans (drop_suffix _ _), ?_⟩
  intro hfew info hinfo
  have hage := fun {info : NackInfo} (hinfo : info ∈ g.nackList) => h.age_advance hl hs hfew hinfo
  have hlower : ∀ info ∈ g.nackList, (isSeqLowerThan 16 info.seq (oldest seq) = true ↔ maxPacketAge < age seq info.seq) := by
    intro info hinfo
    refine isSeqLowerThan_oldest hs (h.seq_lt info hinfo) ?_
    have haged := h.aged info hinfo
    rw [hage hinfo]
    unfold maxNackPackets at hfew
    omega
  -- the entries that are too old come first
  have hclosed : g.nackList.Pairwise fun a b =>
      isSeqLowerThan 16 b.seq (oldest seq) = true → isSeqLowerThan 16 a.seq (oldest seq) = true := by
    refine h.sorted.imp_of_mem ?_
    intro a b ha hb hlt hb'
    rw [hlower b hb, hage hb] at hb'
    rw [hlower a ha, hage ha]
    omega
  obtain ⟨pre, post, happ, hpos, -, hpost⟩ := t.nackList.lowerBound_spec hclosed
  have hmem := hdrop.subset hinfo
  rw [hpos, happ, drop_left'] at hmem
  · have hnot := hpost info hmem
    have hin : info ∈ g.nackList := by rw [happ]; exact mem_append_right _ hmem
    by_contra hgt
    simp [(hlower info hin).mpr (not_le.mp hgt)] at hnot
  · rfl

/-- The entries that the loop of `AddPacketsToNackList` finds when `count` numbers are left: all are older than these. -/
structure Adding (seqEnd count : Nat) (l : List NackInfo) : Prop where
  seq_lt : ∀ info ∈ l, info.seq < 2 ^ 16
  older : ∀ info ∈ l, count < age seqEnd info.seq
  aged : ∀ info ∈ l, age seqEnd info.seq ≤ maxPacketAge
  sorted : l.Pairwise fun a b => age seqEnd b.seq < age seqEnd a.seq
  retries : ∀ info ∈ l, info.retries < maxNackRetries

theorem Adding.next {seqEnd count : Nat} (h : Adding seqEnd (count + 1) l) : Adding seqEnd count l :=
  ⟨h.seq_lt, fun i hi => (Nat.lt_succ_self _).trans (h.older i hi), h.aged, h.sorted, h.retries⟩

theorem Adding.concat {seqEnd count : Nat} (h : Adding seqEnd (count + 1) l) (info : NackInfo)
    (hinfo : age seqEnd info.seq = count + 1) (hseq : info.seq < 2 ^ 16) (hcount : count + 1 ≤ maxPacketAge)
    (hretries : info.retries < maxNackRetries) : Adding seqEnd count (l ++ [info]) := by
  have hforall : ∀ {P : NackInfo → Prop}, (∀ i ∈ l, P i) → P info → ∀ i ∈ l ++ [info], P i := fun hP hnew =>
    forall_mem_append.mpr ⟨hP, forall_mem_singleton.mpr hnew⟩
  refine ⟨hforall h.seq_lt hseq, hforall h.next.older (by omega), hforall h.aged (by omega), ?_, hforall h.retries hretries⟩
  refine pairwise_append.mpr ⟨h.sorted, pairwise_singleton _ _, ?_⟩
  intro a ha b hb
  rw [mem_singleton.mp hb, hinfo]
  exact h.older a ha

def missing (nowMs seq : Nat) : NackInfo := { createdAtMs := nowMs, seq := seq, sendAtSeq := seq }

theorem addMissing_succ (recoveredList : List Nat) (nowMs : Nat) {seqEnd count : Nat} (hend : seqEnd < 2 ^ 16)
    (hseq : seq < 2 ^ 16) (hage : age seqEnd seq = count + 1) (h : Adding seqEnd (count + 1) l) :
    addMissing t recoveredList nowMs (count + 1) seq l = addMissing t recoveredList nowMs count ((seq + 1) % 2 ^ 16)
      (if (t.recoveredList.find id (isSeqLowerThan 16) recoveredList seq).isSome then l else l ++ [missing nowMs seq]) := by
  have hfind : t.nackList.find NackInfo.seq (isSeqLowerThan 16) l seq = none := by
    cases hf : t.nackList.find NackInfo.seq (isSeqLowerThan 16) l seq with
    | none => rfl
    | some info =>
      obtain ⟨hmem, h1, h2⟩ := t.nackList.find_some hf
      have holder := h.older info hmem
      rw [eq_of_not_lower h1 h2, hage] at holder
      exact absurd holder (lt_irrefl _)
  have hlast : t.nackList.insertUnique NackInfo.seq (isSeqLowerThan 16) l (missing nowMs seq) = l ++ [missing nowMs seq] := by
    refine t.nackList.insertUnique_last ?_
    intro x hx
    have haged := h.aged x hx
    unfold maxPacketAge at haged
    exact isSeqLowerThan_of_age hend (h.seq_lt x hx) hseq (by rw [missing, hage]; exact h.older x hx)
      (by rw [missing, hage]; omega)
  rw [addMissing, if_neg (by rw [hfind]; exact Bool.false_ne_true), ← missing, hlast]

theorem addMissing_ok (recoveredList : List Nat) (nowMs : Nat) {seqEnd : Nat} (hend : seqEnd < 2 ^ 16) :
    ∀ {count seq : Nat} {l : List NackInfo}, seq < 2 ^ 16 → age seqEnd seq = count → count ≤ maxNackPackets →
      Adding seqEnd count l → ∃ l', addMissing t recoveredList nowMs count seq l = .ok l' ∧ Adding seqEnd 0 l' ∧
        l'.length ≤ l.length + count ∧ ∀ info ∈ l', info ∈ l ∨ info.retries = 0 ∧ age seqEnd info.seq ≤ count ∧
          t.recoveredList.find id (isSeqLowerThan 16) recoveredList info.seq = none
  | 0, seq, l, _, _, _, h => ⟨l, rfl, h, le_rfl, fun info hinfo => Or.inl hinfo⟩
  | count + 1, seq, l, hseq, hage, hcount, h => by
    have hnext : age seqEnd ((seq + 1) % 2 ^ 16) = count := by
      unfold age at hage ⊢
      omega
    have hrest := fun l => addMissing_ok (l := l) recoveredList nowMs hend (Nat.mod_lt _ (Nat.two_pow_pos 16)) hnext
      (Nat.le_of_succ_le hcount)
    rw [addMissing_succ recoveredList nowMs hend hseq hage h]
    split
    · obtain ⟨l', hl', hadding, hlen, hmem⟩ := hrest l h.next
      refine ⟨l', hl', hadding, by omega, fun info hinfo => ?_⟩
      exact (hmem info hinfo).imp_right fun ⟨h0, hle, hnone⟩ => ⟨h0, hle.trans (Nat.le_succ _), hnone⟩
    rename_i hrec
    obtain ⟨l', hl', hadding, hlen, hmem⟩ := hrest (l ++ [missing nowMs seq])
      (h.concat _ hage hseq (hcount.trans (by decide)) (Nat.zero_lt_succ 9))
    rw [length_append, length_singleton] at hlen
    refine ⟨l', hl', hadding, by omega, fun info hinfo => ?_⟩
    rcases hmem info hinfo with hold | ⟨h0, hle, hnone⟩
    · rcases mem_append.mp hold with hold | hnew
      · exact .inl hold
      · rw [mem_singleton.mp hnew]
        exact .inr ⟨rfl, hage.le, by simpa [missing] using hrec⟩
    · exact .inr ⟨h0, hle.trans (Nat.le_succ _), hnone⟩

theorem age_of_ne (hl : lastSeq < 2 ^ 16) (hs : seq < 2 ^ 16) (hne : seq ≠ lastSeq) : 1 ≤ age seq lastSeq := by
  unfold age
  omega

/-- What the last number advances over: the entries that stay, and the numbers skipped that are not recovered. -/
structure Advanced (t : Trees) (g : NackGenerator) (seq : Nat) (l : List NackInfo) : Prop where
  window : Window seq l
  origin : ∀ info ∈ l, info ∈ g.nackList ∨ info.retries = 0 ∧ age seq info.seq < age seq g.lastSeq ∧
    t.recoveredList.find id (isSeqLowerThan 16) g.recoveredList info.seq = none

theorem addPacketsToNackList_ok (h : Window g.lastSeq g.nackList) (hl : g.lastSeq < 2 ^ 16) (hs : seq < 2 ^ 16)
    (hne : seq ≠ g.lastSeq) (nowMs : Nat) :
    ∃ l k requests, g.addPacketsToNackList t nowMs ((g.lastSeq + 1) % 2 ^ 16) seq =
        .ok ({ g with nackList := l, keyFrameList := k }, requests) ∧
      (∀ r ∈ requests, r = .keyFrameRequired) ∧ Advanced t g seq l := by
  have hpos := age_of_ne hl hs hne
  have hnum : (seq + 2 ^ 16 - (g.lastSeq + 1) % 2 ^ 16) % 2 ^ 16 = age seq g.lastSeq - 1 := by
    unfold age at hpos ⊢
    omega
  obtain ⟨hsuffix, haged⟩ := makeRoom_spec (t := t) h hl hs (age seq g.lastSeq - 1)
  have hroom := h.sublist hsuffix.sublist
  simp only [addPacketsToNackList, hnum]
  generalize g.makeRoom t (age seq g.lastSeq - 1) seq = room at hsuffix haged hroom ⊢
  obtain ⟨l, k⟩ := room
  dsimp only at hsuffix haged hroom ⊢
  unfold addOrClear
  by_cases hlarge : tooLarge l (age seq g.lastSeq - 1) = true
  · rw [if_pos hlarge]
    exact ⟨[], k, [.keyFrameRequired], rfl, by simp, ⟨window_nil seq, by simp⟩⟩
  rw [if_neg hlarge]
  have hsize := hroom.size
  simp only [tooLarge, decide_eq_true_eq, not_lt] at hlarge
  rw [Nat.mod_eq_of_lt (lt_of_le_of_lt hsize (by decide))] at hlarge
  have hfew : age seq g.lastSeq ≤ maxNackPackets + 1 := by omega
  have hage := fun {info : NackInfo} (hinfo : info ∈ l) => hroom.age_advance hl hs hfew hinfo
  have hadding : Adding seq (age seq g.lastSeq - 1) l := by
    refine ⟨hroom.seq_lt, ?_, haged hfew, ?_, hroom.retries⟩
    · intro info hinfo
      rw [hage hinfo]
      omega
    · refine hroom.sorted.imp_of_mem ?_
      intro a b ha hb hlt
      rw [hage ha, hage hb]
      omega
  have hstart : age seq ((g.lastSeq + 1) % 2 ^ 16) = age seq g.lastSeq - 1 := by
    unfold age at hpos ⊢
    omega
  obtain ⟨l', hl', hdone, hlen, hmem⟩ := addMissing_ok (t := t) g.recoveredList nowMs hs
    (Nat.mod_lt _ (Nat.two_pow_pos 16)) hstart (by omega) hadding
  rw [hl']
  refine ⟨l', k, [], rfl, by simp, ⟨⟨hdone.seq_lt, hdone.older, hdone.aged, hdone.sorted, by omega, hdone.retries⟩, ?_⟩⟩
  intro info hinfo
  rcases hmem info hinfo with hold | ⟨h0, hle, hnone⟩
  · exact Or.inl (hsuffix.subset hold)
  · exact Or.inr ⟨h0, by omega, hnone⟩

/-! ## `ReceivePacket` -/

structure Inv (g : NackGenerator) : Prop where
  lastSeq_lt : g.lastSeq < 2 ^ 16
  window : Window g.lastSeq g.nackList
  idle : g.started = false → g.nackList = [] ∧ g.recoveredList = []

inductive Effect (t : Trees) (g : NackGenerator) (nowMs seq : Nat) (isRecovered : Bool) :
    NackGenerator → List NackRequest → Prop
  | first (hstarted : g.started = false) (k : List Nat) :
    Effect t g nowMs seq isRecovered { g with started := true, lastSeq := seq, keyFrameList := k } []
  | same (hstarted : g.started = true) (hseq : seq = g.lastSeq) : Effect t g nowMs seq isRecovered g []
  | older (hstarted : g.started = true) (hlower : isSeqLowerThan 16 seq g.lastSeq = true) :
    Effect t g nowMs seq isRecovered (g.receiveOlder t seq).1 []
  | recovered (hstarted : g.started = true) (hne : seq ≠ g.lastSeq) (hnewer : isSeqLowerThan 16 seq g.lastSeq = false)
    (hrecovered : isRecovered = true) (k : List Nat) :
    Effect t g nowMs seq isRecovered ({ g with keyFrameList := k }.addRecovered t seq) []
  | advanced (hstarted : g.started = true) (hne : seq ≠ g.lastSeq) (hnewer : isSeqLowerThan 16 seq g.lastSeq = false)
    {l : List NackInfo} (hadvanced : Advanced t g seq l) (k : List Nat) (timerActive : Bool)
    {requests : List NackRequest} (hrequests : ∀ r ∈ requests, r = .keyFrameRequired) :
    Effect t g nowMs seq isRecovered
      { ({ g with nackList := l, keyFrameList := k, lastSeq := seq }.getNackBatch .seq nowMs).1 with
        timerActive := timerActive }
      (requests ++ ({ g with nackList := l, keyFrameList := k, lastSeq := seq }.getNackBatch .seq nowMs).2)

theorem advance_effect (h : Inv g) (hs : seq < 2 ^ 16) (hstarted : g.started = true) (hne : seq ≠ g.lastSeq)
    (hnewer : isSeqLowerThan 16 seq g.lastSeq = false) (isRecovered : Bool) (nowMs : Nat) (k : List Nat) :
    ∃ g' requests, ({ g with keyFrameList := k } : NackGenerator).advance t nowMs seq = .ok (g', requests) ∧
      Effect t g nowMs seq isRecovered g' requests := by
  have hwindow : Window ({ g with keyFrameList := k } : NackGenerator).lastSeq
      ({ g with keyFrameList := k } : NackGenerator).nackList := h.window
  obtain ⟨l, k', requests, hadd, hrequests, hadvanced⟩ :=
    addPacketsToNackList_ok (t := t) hwindow h.lastSeq_lt hs hne nowMs
  have hadvanced' : Advanced t g seq l := ⟨hadvanced.window, hadvanced.origin⟩
  simp only [advance, hadd, bind, Except.bind, pure, Except.pure]
  refine ⟨_, _, rfl, ?_⟩
  unfold mayRunTimer
  split
  · exact .advanced hstarted hne hnewer hadvanced' k' g.timerActive hrequests
  · split
    · exact .advanced hstarted hne hnewer hadvanced' k' true hrequests
    · exact .advanced hstarted hne hnewer hadvanced' k' g.timerActive hrequests

/-- **A packet.** No assertion fires, and the packet has one of the five effects. -/
theorem receivePacket_effect (h : Inv g) (hs : seq < 2 ^ 16) (nowMs : Nat) (isKeyFrame isRecovered : Bool) :
    ∃ g' nacked requests, g.receivePacket t nowMs seq isKeyFrame isRecovered = .ok (g', nacked, requests) ∧
      Effect t g nowMs seq isRecovered g' requests := by
  unfold receivePacket
  cases hstarted : g.started with
  | false => exact ⟨_, _, _, rfl, .first hstarted _⟩
  | true =>
    by_cases heq : seq = g.lastSeq
    · rw [if_pos heq]
      exact ⟨_, _, _, rfl, .same hstarted heq⟩
    rw [if_neg heq]
    by_cases hlower : isSeqLowerThan 16 seq g.lastSeq = true
    · rw [if_pos hlower]
      exact ⟨_, _, _, rfl, .older hstarted hlower⟩
    rw [if_neg hlower]
    have hnewer := Bool.eq_false_of_not_eq_true hlower
    unfold receiveNewer updateKeyFrames
    cases isRecovered with
    | true => exact ⟨_, _, _, rfl, .recovered hstarted heq hnewer rfl _⟩
    | false =>
      obtain ⟨g', requests, hadvance, heffect⟩ := advance_effect (t := t) h hs hstarted heq hnewer false nowMs
        (removeOld t.keyFrameList (if isKeyFrame = true then
          t.keyFrameList.insertUnique id (isSeqLowerThan 16) g.keyFrameList seq else g.keyFrameList) seq)
      rw [if_neg Bool.false_ne_true, hadvance]
      exact ⟨g', false, requests, rfl, heffect⟩

theorem receiveOlder_eq (t : Trees) (g : NackGenerator) (seq : Nat) :
    ∃ l, (g.receiveOlder t seq).1 = { g with nackList := l } ∧ l.Sublist g.nackList := by
  unfold receiveOlder
  split
  · exact ⟨_, rfl, eraseIdx_sublist _ _⟩
  · exact ⟨_, rfl, List.Sublist.refl _⟩

theorem not_mem_receiveOlder (h : Inv g) {info : NackInfo} (hinfo : info ∈ (g.receiveOlder t seq).1.nackList) :
    info.seq ≠ seq := by
  rintro rfl
  obtain ⟨l, hl, hsub⟩ := receiveOlder_eq t g info.seq
  have hmem : info ∈ g.nackList := hsub.subset (by rwa [hl] at hinfo)
  have hfind : t.nackList.find NackInfo.seq (isSeqLowerThan 16) g.nackList info.seq = some info :=
    t.nackList.find_of_mem (fun _ _ => isSeqLowerThan_asymm) (h.window.lower h.lastSeq_lt) hmem
  have hat := t.nackList.getElem?_of_find hfind
  simp only [receiveOlder, hfind] at hinfo
  -- the place of the entry is erased, and the entry is nowhere else
  obtain ⟨i, hne, hi⟩ := mem_eraseIdx_iff_getElem?.mp hinfo
  have hnodup : g.nackList.Nodup := h.window.nodup.of_map _
  obtain ⟨hlt, -⟩ := List.getElem?_eq_some_iff.mp hi
  exact hne ((List.getElem?_inj hlt hnodup).mp (hi.trans hat.symm))

theorem Inv.of_started (hl : g.lastSeq < 2 ^ 16) (hw : Window g.lastSeq g.nackList) (hstarted : g.started = true) : Inv g :=
  ⟨hl, hw, fun hfalse => absurd (hstarted.symm.trans hfalse) Bool.true_eq_false.mp⟩

theorem Effect.inv (h : Inv g) (hs : seq < 2 ^ 16) {nowMs : Nat} {isRecovered : Bool} {g' : NackGenerator}
    {requests : List NackRequest} (heffect : Effect t g nowMs seq isRecovered g' requests) : Inv g' := by
  cases heffect with
  | first hstarted k =>
    refine .of_started hs ?_ rfl
    rw [(h.idle hstarted).1]
    exact window_nil seq
  | same hstarted hseq => exact h
  | older hstarted hlower =>
    obtain ⟨l, hl, hsub⟩ := receiveOlder_eq t g seq
    rw [hl]
    exact .of_started h.lastSeq_lt (h.window.sublist hsub) hstarted
  | recovered hstarted hne hnewer hrecovered k => exact .of_started h.lastSeq_lt h.window hstarted
  | advanced hstarted hne hnewer hadvanced k timerActive hrequests =>
    exact .of_started hs hadvanced.window.filterMap_retry hstarted

/-! ## The timer and `Reset` -/

theorem onTimer_eq (g : NackGenerator) (nowMs : Nat) : ∃ timerActive, (g.onTimer nowMs).1 = { g with
      nackList := g.nackList.filterMap ({ g with timerActive := false }.retry .time nowMs), timerActive := timerActive } := by
  simp only [onTimer, mayRunTimer]
  split <;> exact ⟨_, rfl⟩

theorem Inv.onTimer (h : Inv g) (nowMs : Nat) : Inv (g.onTimer nowMs).1 := by
  obtain ⟨timerActive, heq⟩ := onTimer_eq g nowMs
  rw [heq]
  refine ⟨h.lastSeq_lt, h.window.filterMap_retry, ?_⟩
  intro hfalse
  simp only [(h.idle hfalse).1]
  exact ⟨rfl, (h.idle hfalse).2⟩

theorem inv_reset (g : NackGenerator) : Inv g.reset :=
  ⟨Nat.two_pow_pos 16, window_nil 0, fun _ => ⟨rfl, rfl⟩⟩

end NackGenerator

end Mediasoup.Rtp
