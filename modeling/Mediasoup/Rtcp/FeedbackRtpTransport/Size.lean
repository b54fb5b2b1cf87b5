import Mediasoup.Rtcp.FeedbackRtpTransport.RoundTrip

/-!
# The size of a feedback packet

`AddPacket` checks the limit on the size before it records a packet, for one more chunk and one more delta of two bytes. The
packet may need more chunks than that (`chunksFor`), so the limit is kept exactly if each recorded packet has room for all of
them (`written_iff_room`).
-/

namespace Mediasoup.Rtcp.FeedbackRtpTransport

open Mediasoup.Seq Lib List

/-! ## Calls -/

/-- The chunks that a packet makes, or leaves pending, after a gap: one, one more for a run of seven or more statuses that it
ends, and one or two more if the gap fills up the pending statuses to seven, or goes beyond. -/
def chunksFor (c : Context) (gap : Nat) (status : Status) : Nat :=
  let pending := if 7 ≤ c.statuses.length then 0 else c.statuses.length
  1 + (if 7 ≤ c.statuses.length ∧ (gap ≠ 0 ∨ status ≠ c.currentStatus) then 1 else 0) +
    if gap = 0 ∨ pending + gap < 7 then 0 else if pending + gap = 7 then 1 else 2

def bytesWith (p : Packet) (a : Arrival) : Nat :=
  let delta := delta64 a.timestamp p.latestTimestamp
  p.deltasAndChunksSize +
    2 * chunksFor p.context (missingBetween p.latestSequenceNumber a.sequenceNumber) (statusOf (some delta)) +
    deltaSize delta

def Room (maxRtcpPacketLen : Nat) (p : Packet) (a : Arrival) : Prop :=
  Recorded p a → padTo4 (20 + bytesWith p a) ≤ maxRtcpPacketLen

instance (maxRtcpPacketLen : Nat) (p : Packet) (a : Arrival) : Decidable (Room maxRtcpPacketLen p a) :=
  inferInstanceAs (Decidable (_ → _))

/-- The finished packet is within the limit, and its size is a multiple of 4 and the number of bytes written. -/
def Written (maxRtcpPacketLen : Nat) (p : Packet) : Prop :=
  ∃ q bytes, p.finish = .ok q ∧ q.getSize ≤ maxRtcpPacketLen ∧ 4 ∣ q.getSize ∧ q.serialize = .ok bytes ∧
    bytes.length = q.getSize

/-! ## What the counter of the size counts -/

def Chunk.Writable : Chunk → Prop
  | .runLength _ _ => True
  | .oneBitVector statuses => statuses.length ≤ 14
  | .twoBitVector statuses => statuses.length ≤ 7

structure Counted (p : Packet) : Prop where
  size : p.size = 0
  counter : p.deltasAndChunksSize = 2 * p.chunks.length + (p.deltas.map deltaSize).sum
  writable : ∀ c ∈ p.chunks, c.Writable

structure Sized (p : Packet) : Prop extends Counted p where
  sevenSame : 7 ≤ p.context.statuses.length → p.context.allSameStatus = true

def finishedBytes (p : Packet) : Nat := p.deltasAndChunksSize + if p.context.statuses = [] then 0 else 2

section Flush

variable {p : Packet}

theorem Counted.flush (h : Counted p) {c : Chunk} (hc : c.Writable) {q : Packet} (hsize : q.size = p.size)
    (hchunks : q.chunks = p.chunks ++ [c]) (hdeltas : q.deltas = p.deltas)
    (hcounter : q.deltasAndChunksSize = p.deltasAndChunksSize + 2) (hstatuses : q.context.statuses = []) : Sized q where
  size := hsize.trans h.size
  counter := by
    rw [hcounter, hchunks, hdeltas, h.counter, length_append, length_singleton]
    omega
  writable c' hc' := by
    rw [hchunks] at hc'
    rcases mem_append.mp hc' with hc' | hc'
    · exact h.writable c' hc'
    · rw [mem_singleton.mp hc']
      exact hc
  sevenSame hseven := by
    rw [hstatuses] at hseven
    exact absurd hseven (by decide)

theorem flushRun_sized (h : Counted p) : Sized p.flushRun := h.flush (c := .runLength _ _) trivial rfl rfl rfl rfl rfl

theorem flushVector_sized (h : Counted p) (hlen : p.context.statuses.length ≤ 7) : Sized p.flushVector :=
  h.flush (c := .twoBitVector _) hlen rfl rfl rfl rfl rfl

theorem Sized.setCurrentStatus (h : Sized p) (s : Status) : Sized (p.setCurrentStatus s) :=
  ⟨⟨h.size, h.counter, h.writable⟩, h.sevenSame⟩

theorem Counted.appendStatuses (h : Counted p) (s : Status) (statuses : List Status) :
    Counted ((p.setCurrentStatus s).appendStatuses statuses) := ⟨h.size, h.counter, h.writable⟩

/-! ## The missing packets -/

theorem flushLongRun_sized (h : Sized p) : Sized p.flushLongRun ∧
      p.flushLongRun.context.statuses.length = (if 7 ≤ p.context.statuses.length then 0 else p.context.statuses.length) ∧
      p.flushLongRun.deltasAndChunksSize = p.deltasAndChunksSize + if 7 ≤ p.context.statuses.length then 2 else 0 := by
  unfold Packet.flushLongRun
  by_cases hseven : 7 ≤ p.context.statuses.length
  · rw [if_pos ⟨hseven, h.sevenSame hseven⟩, if_pos hseven, if_pos hseven]
    exact ⟨(flushRun_sized h.toCounted).setCurrentStatus .none, rfl, rfl⟩
  · rw [if_neg fun hand => hseven hand.1, if_neg hseven, if_neg hseven]
    exact ⟨h, rfl, rfl⟩

theorem fillVector_sized (h : Sized p) {k : Nat} (hk : p.context.statuses.length + k ≤ 7) :
    Sized (p.fillVector k) ∧ (p.fillVector k).context.statuses.length < 7 ∧ (p.fillVector k).deltasAndChunksSize =
        p.deltasAndChunksSize + if p.context.statuses.length + k = 7 then 2 else 0 := by
  have hlen : ((p.setCurrentStatus .notReceived).appendStatuses (List.replicate k .notReceived)).context.statuses.length =
      p.context.statuses.length + k := by
    rw [length_appendStatuses, length_replicate]
  unfold Packet.fillVector
  dsimp only
  rw [hlen]
  by_cases hseven : p.context.statuses.length + k = 7
  · rw [if_pos hseven, if_pos hseven]
    have hvector := flushVector_sized (h.toCounted.appendStatuses .notReceived _) (hlen.trans hseven).le
    exact ⟨hvector.setCurrentStatus .none, Nat.succ_pos 6, rfl⟩
  rw [if_neg hseven, if_neg hseven]
  have hlt : p.context.statuses.length + k < 7 := lt_of_le_of_ne hk hseven
  refine ⟨⟨h.toCounted.appendStatuses .notReceived _, fun hlong => ?_⟩, hlen.trans_lt hlt, rfl⟩
  exact absurd (hlong.trans hlen.le) (not_le.mpr hlt)

theorem fillRun_sized (h : Sized p) (hshort : p.context.statuses.length < 7) (m : Nat) :
    Sized (p.fillRun m) ∧ (p.fillRun m).context.statuses.length < 7 ∧
      (p.fillRun m).deltasAndChunksSize = p.deltasAndChunksSize + if m = 0 then 0 else 2 := by
  unfold Packet.fillRun
  by_cases hm : m = 0
  · rw [if_neg (not_not.mpr hm), if_pos hm]
    exact ⟨h, hshort, rfl⟩
  · rw [if_pos hm, if_neg hm]
    exact ⟨h.toCounted.flush (c := .runLength _ _) trivial rfl rfl rfl rfl rfl, Nat.succ_pos 6, rfl⟩

theorem fillMissing_sized (h : Sized p) {gap : Nat} (hgap : gap ≠ 0) (status : Status) :
    Sized (p.fillMissing gap) ∧ (p.fillMissing gap).context.statuses.length < 7 ∧
      (p.fillMissing gap).deltasAndChunksSize + 2 = p.deltasAndChunksSize + 2 * chunksFor p.context gap status := by
  obtain ⟨hsized, hlen, hbytes⟩ := flushLongRun_sized h
  unfold Packet.fillMissing chunksFor
  generalize p.flushLongRun = q at hsized hlen hbytes ⊢
  have hq : q.context.statuses.length < 7 := by
    rw [hlen]
    split <;> omega
  obtain ⟨hsized', hshort', hbytes'⟩ :=
    fillVector_sized hsized (k := min gap (7 - q.context.statuses.length)) (by omega)
  obtain ⟨hsized'', hshort'', hbytes''⟩ :=
    fillRun_sized hsized' hshort' (gap - min gap (7 - q.context.statuses.length))
  refine ⟨hsized'', hshort'', ?_⟩
  rw [hbytes'', hbytes', hbytes, ← hlen]
  have hlong : (7 ≤ p.context.statuses.length ∧ (gap ≠ 0 ∨ status ≠ p.context.currentStatus)) ↔
      7 ≤ p.context.statuses.length := and_iff_left (.inl hgap)
  simp only [hlong, hgap, false_or]
  split_ifs <;> omega

/-! ## The received packet -/

theorem flushMixed_sized (h : Sized p) {d : Int} {status : Status} (hstatus : status = statusOf (some d))
    (hcontinues : 7 ≤ p.context.statuses.length → p.context.currentStatus = status) :
    Sized ((p.pushReceived status d).updateContext status).flushMixed ∧
      finishedBytes ((p.pushReceived status d).updateContext status).flushMixed = p.deltasAndChunksSize + 2 + deltaSize d := by
  have hbytes : (if status = .smallDelta then 1 else 2) = deltaSize d := by
    rw [hstatus, statusOf, deltaSize]
    split <;> rfl
  have hcounter : ((p.pushReceived status d).updateContext status).deltasAndChunksSize =
      p.deltasAndChunksSize + deltaSize d := congrArg _ hbytes
  have hcounted : Counted ((p.pushReceived status d).updateContext status) := by
    refine ⟨h.size, hcounter.trans ?_, h.writable⟩
    show _ = 2 * p.chunks.length + ((p.deltas ++ [d]).map deltaSize).sum
    rw [h.counter, map_append, sum_append, map_singleton, sum_singleton]
    omega
  have hcontext := updateContext_context p status d
  generalize (p.pushReceived status d).updateContext status = q at hcounter hcounted hcontext ⊢
  have hlen : q.context.statuses.length = p.context.statuses.length + 1 := by
    rw [hcontext, length_append, length_singleton]
  have hpending : q.context.statuses ≠ [] := ne_nil_of_length_eq_add_one hlen
  -- the statuses that stay pending
  have hkept (hsame : 7 ≤ q.context.statuses.length → q.context.allSameStatus = true) :
      Sized q ∧ finishedBytes q = p.deltasAndChunksSize + 2 + deltaSize d := by
    refine ⟨⟨hcounted, hsame⟩, ?_⟩
    rw [finishedBytes, if_neg hpending, hcounter]
    omega
  unfold Packet.flushMixed
  split
  · exact hkept fun hseven => absurd hseven (by omega)
  split
  · rename_i hmixed
    refine ⟨flushVector_sized (p := q.setCurrentStatus .none) ⟨hcounted.size, hcounted.counter, hcounted.writable⟩
      hmixed.1.le, ?_⟩
    show q.deltasAndChunksSize + 2 + 0 = _
    omega
  rename_i hnot
  refine hkept fun _ => ?_
  by_cases heq : q.context.statuses.length = 7
  · simpa [heq] using hnot
  · have hlong : 7 ≤ p.context.statuses.length := by omega
    rw [hcontext]
    exact decide_eq_true (.inr ⟨h.sevenSame hlong, hcontinues hlong⟩)

theorem fillReceived_sized (h : Sized p) (d : Int) : Sized (p.fillReceived d) ∧ finishedBytes (p.fillReceived d) =
        p.deltasAndChunksSize + 2 * chunksFor p.context 0 (statusOf (some d)) + deltaSize d := by
  have hchunks : chunksFor p.context 0 (statusOf (some d)) =
      1 + if 7 ≤ p.context.statuses.length ∧ statusOf (some d) ≠ p.context.currentStatus then 1 else 0 := by
    simp [chunksFor]
  rw [hchunks]
  show Sized (((p.flushOtherRun (statusOf (some d))).pushReceived _ d).updateContext _).flushMixed ∧
    finishedBytes (((p.flushOtherRun (statusOf (some d))).pushReceived _ d).updateContext _).flushMixed = _
  unfold Packet.flushOtherRun
  by_cases hother : 7 ≤ p.context.statuses.length ∧ statusOf (some d) ≠ p.context.currentStatus
  · rw [if_pos hother, if_pos ⟨hother.1, h.sevenSame hother.1, hother.2⟩]
    obtain ⟨hsized, hbytes⟩ := flushMixed_sized (flushRun_sized h.toCounted) rfl fun hlong => absurd hlong (Nat.not_succ_le_zero 6)
    exact ⟨hsized, hbytes.trans (by show p.deltasAndChunksSize + 2 + 2 + _ = _; omega)⟩
  rw [if_neg hother, if_neg fun hand => hother ⟨hand.1, hand.2.2⟩]
  obtain ⟨hsized, hbytes⟩ := flushMixed_sized h rfl fun hlong => by
    by_contra hne
    exact hother ⟨hlong, fun heq => hne heq.symm⟩
  exact ⟨hsized, hbytes.trans (by omega)⟩

theorem fillChunk_sized (h : Sized p) (previous sequenceNumber : Nat) (d : Int) :
    Sized (p.fillChunk previous sequenceNumber d) ∧
      finishedBytes (p.fillChunk previous sequenceNumber d) = p.deltasAndChunksSize +
        2 * chunksFor p.context (missingBetween previous sequenceNumber) (statusOf (some d)) + deltaSize d := by
  unfold Packet.fillChunk
  dsimp only
  split
  · rename_i hgap
    obtain ⟨hsized, hshort, hbytes⟩ := fillMissing_sized h hgap.ne' (statusOf (some d))
    obtain ⟨hsized', hbytes'⟩ := fillReceived_sized hsized d
    refine ⟨hsized', ?_⟩
    have hone : chunksFor (p.fillMissing (missingBetween previous sequenceNumber)).context 0 (statusOf (some d)) = 1 := by
      simp [chunksFor, not_le.mpr hshort]
    omega
  · have hzero : missingBetween previous sequenceNumber = 0 := by omega
    rw [hzero]
    exact fillReceived_sized h d

end Flush

/-! ## Calls and runs -/

variable {maxRtcpPacketLen : Nat} {p q : Packet} {a : Arrival}

theorem padTo4_mono {x y : Nat} (h : x ≤ y) : padTo4 x ≤ padTo4 y := by
  unfold padTo4
  omega

theorem addStep_sized (h : Sized p) (hstep : addStep p a = .ok q) :
    Sized q ∧ finishedBytes q = if Recorded p a then bytesWith p a else finishedBytes p := by
  rcases addStep_cases hstep with ⟨hbase, _, _, _, _, rfl⟩ | ⟨hnot, rfl⟩ | ⟨hrecorded, -, -, rfl⟩
  · rw [if_neg fun hrecorded => hrecorded.1 hbase]
    exact ⟨⟨⟨h.size, h.counter, h.writable⟩, h.sevenSame⟩, rfl⟩
  · rw [if_neg hnot]
    exact ⟨h, rfl⟩
  rw [if_pos hrecorded]
  obtain ⟨hsized, hbytes⟩ := fillChunk_sized h p.latestSequenceNumber a.sequenceNumber
    (delta64 a.timestamp p.latestTimestamp)
  generalize p.fillChunk _ _ _ = r at hsized hbytes
  exact ⟨⟨⟨hsized.size, hsized.counter, hsized.writable⟩, hsized.sevenSame⟩, hbytes⟩

theorem finishedBytes_le_bytesWith (p : Packet) (a : Arrival) : finishedBytes p ≤ bytesWith p a := by
  simp only [finishedBytes, bytesWith, chunksFor]
  split <;> omega

theorem run_sized : ∀ {calls : List Arrival} {p : Packet}, Sized p → calls.foldlM addStep p = .ok q →
    Sized q ∧ (padTo4 (20 + finishedBytes q) ≤ maxRtcpPacketLen ↔ padTo4 (20 + finishedBytes p) ≤ maxRtcpPacketLen ∧
        Along addStep (Room maxRtcpPacketLen) p calls)
  | [], p, h, hrun => by
    cases hrun
    exact ⟨h, (and_iff_left trivial).symm⟩
  | a :: calls, p, h, hrun => by
    obtain ⟨p₁, hstep, hrest⟩ := exists_of_bind_eq_ok ((foldlM_cons ..).symm.trans hrun)
    obtain ⟨hsized, hbytes⟩ := addStep_sized h hstep
    obtain ⟨hlast, hiff⟩ := run_sized hsized hrest
    refine ⟨hlast, hiff.trans ?_⟩
    rw [along_cons_ok hstep, hbytes, ← and_assoc]
    refine and_congr_left fun _ => ?_
    by_cases hrecorded : Recorded p a
    · rw [if_pos hrecorded]
      have hle := padTo4_mono (Nat.add_le_add_left (finishedBytes_le_bytesWith p a) 20)
      exact ⟨fun hfits => ⟨hle.trans hfits, fun _ => hfits⟩, fun hand => hand.2 hrecorded⟩
    · rw [if_neg hrecorded]
      exact ⟨fun hfits => ⟨hfits, fun hrec => absurd hrec hrecorded⟩, And.left⟩

/-! ## What is written -/

theorem Chunk.Writable.serialize {c : Chunk} (hc : c.Writable) : ∃ bytes, c.serialize = .ok bytes ∧ bytes.length = 2 := by
  cases c with
  | runLength status count => exact ⟨_, rfl, rfl⟩
  | oneBitVector statuses => exact ⟨_, if_pos hc, rfl⟩
  | twoBitVector statuses => exact ⟨_, if_pos hc, rfl⟩

theorem serializeChunks_length : ∀ {cs : List Chunk}, (∀ c ∈ cs, c.Writable) →
    ∃ bytes, serializeChunks cs = .ok bytes ∧ bytes.length = 2 * cs.length
  | [], _ => ⟨[], rfl, rfl⟩
  | c :: cs, h => by
    obtain ⟨bytes, hbytes, hlen⟩ := (h c mem_cons_self).serialize
    obtain ⟨rest, hrest, hlen'⟩ := serializeChunks_length fun c hc => h c (mem_cons_of_mem _ hc)
    refine ⟨bytes ++ rest, ?_, ?_⟩
    · rw [serializeChunks, hbytes, hrest]
      rfl
    · rw [length_append, hlen, hlen', length_cons]
      omega

theorem length_deltas (ds : List Int) : (ds.flatMap serializeDelta).length = (ds.map deltaSize).sum := by
  rw [length_flatMap]
  exact congrArg List.sum (map_congr_left fun d _ => length_serializeDelta d)

theorem Counted.serialize (h : Counted p) (hnone : p.context.statuses = []) :
    ∃ bytes, p.serialize = .ok bytes ∧ bytes.length = p.getSize := by
  obtain ⟨chunks, hchunks, hlen⟩ := serializeChunks_length h.writable
  have hsize : p.getSize = padTo4 (20 + p.deltasAndChunksSize) := by
    rw [Packet.getSize, if_neg (not_not.mpr h.size)]
  have hbytes : (p.header ++ chunks ++ p.deltas.flatMap serializeDelta).length = 20 + p.deltasAndChunksSize := by
    rw [length_append, length_append, hlen, length_deltas, h.counter, ← Nat.add_assoc]
    rfl
  refine ⟨p.header ++ chunks ++ p.deltas.flatMap serializeDelta ++
    List.replicate (padTo4 (20 + p.deltasAndChunksSize) - (20 + p.deltasAndChunksSize)) 0, ?_, ?_⟩
  · simp only [Packet.serialize, Packet.addPendingChunks, if_pos hnone, hchunks, bind, Except.bind, pure, Except.pure, hbytes]
  · rw [length_append, length_replicate, hbytes, hsize]
    unfold padTo4
    omega

theorem Sized.finish (h : Sized p) :
    ∃ q, p.finish = .ok q ∧ Counted q ∧ q.context.statuses = [] ∧ q.deltasAndChunksSize = finishedBytes p := by
  unfold Packet.finish Packet.addPendingChunks finishedBytes
  split
  · rename_i hnone
    exact ⟨p, rfl, h.toCounted, hnone, rfl⟩
  split
  · exact ⟨_, rfl, (flushRun_sized h.toCounted).toCounted, rfl, rfl⟩
  rename_i hmixed
  split
  · rename_i hshort
    exact ⟨_, rfl, (flushVector_sized h.toCounted hshort.le).toCounted, rfl, rfl⟩
  · rename_i hlong
    exact absurd (h.sevenSame (not_lt.mp hlong)) hmixed

theorem Sized.written_iff (h : Sized p) : Written maxRtcpPacketLen p ↔ padTo4 (20 + finishedBytes p) ≤ maxRtcpPacketLen := by
  obtain ⟨q, hfinish, hcounted, hnone, hbytes⟩ := h.finish
  obtain ⟨bytes, hserialize, hlen⟩ := hcounted.serialize hnone
  have hsize : q.getSize = padTo4 (20 + finishedBytes p) := by
    rw [Packet.getSize, if_neg (not_not.mpr hcounted.size), hbytes]
  constructor
  · rintro ⟨q', -, hfinish', hle, -⟩
    cases hfinish.symm.trans hfinish'
    rwa [hsize] at hle
  · intro hle
    refine ⟨q, bytes, hfinish, hsize.trans_le hle, ?_, hserialize, hlen⟩
    rw [hsize]
    exact Dvd.intro_left _ rfl

/-- **The limit on the size is kept exactly if every recorded packet had room** for all the chunks it needs. -/
theorem written_iff_room (senderSsrc mediaSsrc feedbackPacketCount maxRtcpPacketLen : Nat) (calls : List Arrival)
    (p : Packet) (hrun : calls.foldlM addStep (fresh senderSsrc mediaSsrc feedbackPacketCount) = .ok p) :
    Written maxRtcpPacketLen p ↔ 20 ≤ maxRtcpPacketLen ∧
      Along addStep (Room maxRtcpPacketLen) (fresh senderSsrc mediaSsrc feedbackPacketCount) calls := by
  have hstart : Sized (fresh senderSsrc mediaSsrc feedbackPacketCount) :=
    ⟨⟨rfl, rfl, by rintro c ⟨⟩⟩, fun hlong => absurd hlong (Nat.not_succ_le_zero 6)⟩
  obtain ⟨hsized, hiff⟩ := run_sized hstart hrun
  have hempty : padTo4 (20 + finishedBytes (fresh senderSsrc mediaSsrc feedbackPacketCount)) = 20 := by
    simp [finishedBytes, fresh, padTo4]
  rw [hempty] at hiff
  exact hsized.written_iff.trans hiff

theorem sparse_timestamp_lt : 6400 < 2 ^ 64 := by decide

def sparseCalls (maxRtcpPacketLen n : Nat) : List Arrival := (List.range n).map fun i =>
  { sequenceNumber := 9 * i % 2 ^ 16, timestamp := 6400, maxRtcpPacketLen, sequenceNumber_lt := Nat.mod_lt _ (Nat.two_pow_pos 16)
    timestamp_lt := sparse_timestamp_lt }

def sparseSize (maxRtcpPacketLen n : Nat) : Option Nat :=
  match (sparseCalls maxRtcpPacketLen n).foldlM addStep (fresh 1 2 3) with
  | .ok p => p.finish.toOption.map Packet.getSize
  | .error _ => none

theorem exists_of_sparseSize {n k : Nat} (h : sparseSize maxRtcpPacketLen n = some k) :
    ∃ p q, (sparseCalls maxRtcpPacketLen n).foldlM addStep (fresh 1 2 3) = .ok p ∧ p.finish = .ok q ∧ q.getSize = k := by
  unfold sparseSize at h
  split at h
  · rename_i p hrun
    cases hfinish : p.finish with
    | error f =>
      rw [hfinish] at h
      cases h
    | ok q =>
      rw [hfinish] at h
      exact ⟨p, q, hrun, hfinish, Option.some.inj h⟩
  · cases h

theorem sparse_written : ∃ p, (sparseCalls 40 4).foldlM addStep (fresh 1 2 3) = .ok p ∧ Written 40 p := by
  have hsize : sparseSize 40 4 = some 40 := by decide +kernel
  obtain ⟨p, -, hrun, -⟩ := exists_of_sparseSize hsize
  exact ⟨p, hrun, (written_iff_room 1 2 3 40 _ p hrun).mpr ⟨by decide, by decide +kernel⟩⟩

/-- **A packet is recorded although it has no room**: the gap before the last packet needs two chunks, and the packet leaves
one pending. -/
theorem sparse_exceeds : ∃ p q, (sparseCalls 1500 297).foldlM addStep (fresh 1 2 3) = .ok p ∧ p.finish = .ok q ∧
    q.getSize = 1504 ∧ ¬Written 1500 p := by
  have hsize : sparseSize 1500 297 = some 1504 := by decide +kernel
  obtain ⟨p, q, hrun, hfinish, hsize⟩ := exists_of_sparseSize hsize
  refine ⟨p, q, hrun, hfinish, hsize, ?_⟩
  rintro ⟨q', -, hfinish', hle, -⟩
  cases hfinish.symm.trans hfinish'
  omega

end Mediasoup.Rtcp.FeedbackRtpTransport
