import Mediasoup.Rtcp.FeedbackRtpTransport.Size

/-!
# Any calls of `FillChunk`

The calls here have any numbers and deltas, not only those that `AddPacket` lets through. The vectors are full and the assertion of
`AddPendingChunks` does not fire (`Filled`). A run of equal statuses goes on without a limit, and its chunk counts in 16 bits:
the chunks and the pending statuses are those of the history exactly if no call ends a longer run (`foldl_fill_represents`).
-/

namespace Mediasoup.Rtcp.FeedbackRtpTransport

open Lib List Packet

structure FillCall where
  previousSequenceNumber : Nat
  sequenceNumber : Nat
  delta : Int

def FillCall.missing (c : FillCall) : Nat := missingBetween c.previousSequenceNumber c.sequenceNumber

def fill (p : Packet) (c : FillCall) : Packet := p.fillChunk c.previousSequenceNumber c.sequenceNumber c.delta

def FillCall.history (c : FillCall) : List (Option Int) := List.replicate c.missing none ++ [some c.delta]

/-- The statuses of the chunks, and then those pending. -/
def written (p : Packet) : List Status := p.chunks.flatMap Chunk.statuses ++ p.context.statuses

/-- A gap or another status ends the pending run, whose length fits 16 bits then. -/
def RunFits (p : Packet) (c : FillCall) : Prop :=
  p.context.statuses.length < 2 ^ 16 ∨ c.missing = 0 ∧ statusOf (some c.delta) = p.context.currentStatus

def FullVectors (p : Packet) : Prop := ∀ statuses, .twoBitVector statuses ∈ p.chunks → statuses.length = 7

/-- What holds of every packet that calls of `FillChunk` make. -/
structure Filled (p : Packet) : Prop where
  vectors : FullVectors p
  few : p.context.allSameStatus = false → p.context.statuses.length < 7
  same : p.context.allSameStatus = true → ∀ s ∈ p.context.statuses, s = p.context.currentStatus
  finish : ∃ q, p.addPendingChunks = .ok q

/-! ## The vectors -/

section Vectors

variable {p : Packet}

theorem FullVectors.append (h : FullVectors p) {q : Packet} {c : Chunk} (hchunks : q.chunks = p.chunks ++ [c])
    (hc : ∀ statuses, c = .twoBitVector statuses → statuses.length = 7) : FullVectors q := by
  intro statuses hmem
  rw [hchunks] at hmem
  rcases mem_append.mp hmem with hmem | hmem
  · exact h statuses hmem
  · exact hc statuses (mem_singleton.mp hmem).symm

theorem FullVectors.flushRun (h : FullVectors p) : FullVectors p.flushRun := h.append rfl nofun

theorem FullVectors.flushVector (h : FullVectors p) (hseven : p.context.statuses.length = 7) : FullVectors p.flushVector := by
  refine h.append rfl ?_
  rintro _ ⟨⟩
  exact hseven

theorem FullVectors.fillMissing (h : FullVectors p) (m : Nat) : FullVectors (p.fillMissing m) := by
  have hlong : FullVectors p.flushLongRun := by
    unfold Packet.flushLongRun
    split
    · exact h.flushRun
    · exact h
  unfold Packet.fillMissing
  generalize p.flushLongRun = q at hlong
  have hvector (k : Nat) : FullVectors (q.fillVector k) := by
    unfold Packet.fillVector
    dsimp only
    split
    · exact FullVectors.flushVector (p := (q.setCurrentStatus .notReceived).appendStatuses _) hlong ‹_›
    · exact hlong
  dsimp only
  unfold Packet.fillRun
  split
  · exact (hvector _).append rfl nofun
  · exact hvector _

theorem FullVectors.fillReceived (h : FullVectors p) (d : Int) : FullVectors (p.fillReceived d) := by
  have hother (status : Status) : FullVectors (p.flushOtherRun status) := by
    unfold Packet.flushOtherRun
    split
    · exact h.flushRun
    · exact h
  have hmixed {q : Packet} (hq : FullVectors q) : FullVectors q.flushMixed := by
    unfold Packet.flushMixed
    split
    · exact hq
    split
    · rename_i hseven
      exact FullVectors.flushVector (p := q.setCurrentStatus .none) hq hseven.1
    · exact hq
  exact hmixed (q := Packet.updateContext _ _) (hother _)

theorem FullVectors.fill (h : FullVectors p) (c : FillCall) : FullVectors (fill p c) := by
  unfold FeedbackRtpTransport.fill Packet.fillChunk
  dsimp only
  split
  · exact (h.fillMissing _).fillReceived _
  · exact h.fillReceived _

end Vectors

/-! ## The statuses -/

/-- The statuses are added to those of `p`, unless a run is ended that does not fit: then some are lost. -/
def Writes (fits : Prop) (p q : Packet) (statuses : List Status) : Prop :=
  (fits → written q = written p ++ statuses) ∧ (¬fits → (written q).length < (written p).length + statuses.length)

section Statuses

variable {fits : Prop} {p q r : Packet} {ss ts : List Status}

theorem Writes.append (h : Writes fits p q ss) (hr : written r = written q ++ ts) : Writes fits p r (ss ++ ts) := by
  refine ⟨fun hfits => ?_, fun hfits => ?_⟩
  · rw [hr, h.1 hfits, append_assoc]
  · have hlt := h.2 hfits
    rw [hr, length_append, length_append]
    omega

theorem Writes.refl (hfits : fits) (p : Packet) : Writes fits p p [] :=
  ⟨fun _ => (append_nil _).symm, fun hnot => absurd hfits hnot⟩

theorem writes_flushRun (hsame : ∀ s ∈ p.context.statuses, s = p.context.currentStatus) :
    Writes (p.context.statuses.length < 2 ^ 16) p p.flushRun [] := by
  have hrun : written p.flushRun = p.chunks.flatMap Chunk.statuses ++
      List.replicate (p.context.statuses.length % 2 ^ 16) p.context.currentStatus := by
    simp [written, Packet.flushRun, createRunLengthChunk, clearStatuses, Chunk.statuses]
  rw [Writes, hrun, append_nil]
  refine ⟨fun hfits => ?_, fun hlong => ?_⟩
  · rw [Nat.mod_eq_of_lt hfits, ← eq_replicate_of_mem hsame]
    rfl
  · simp only [written, length_append, length_replicate, length_nil]
    omega

theorem written_flushVector (p : Packet) : written p.flushVector = written p := by
  simp [written, Packet.flushVector, createTwoBitVectorChunk, clearStatuses, Chunk.statuses]

theorem writes_flushLongRun (hc : ContextOk p.context) : Writes (p.context.statuses.length < 2 ^ 16) p p.flushLongRun [] := by
  unfold Packet.flushLongRun
  split
  · rename_i hlong
    exact writes_flushRun (hc.same hlong.2)
  · rename_i hnot
    refine .refl (Nat.lt_of_not_le fun hlong => ?_) p
    have hseven : 7 ≤ p.context.statuses.length := by omega
    exact hnot ⟨hseven, hc.sevenSame hseven⟩

theorem written_fillVector (p : Packet) (k : Nat) :
    written (p.fillVector k) = written p ++ List.replicate k .notReceived := by
  have happ : written ((p.setCurrentStatus .notReceived).appendStatuses (List.replicate k .notReceived)) =
      written p ++ List.replicate k .notReceived := (append_assoc ..).symm
  unfold Packet.fillVector
  dsimp only
  split
  · exact (written_flushVector _).trans happ
  · exact happ

theorem written_fillRun {m : Nat} (hm : m < 2 ^ 16) (hs : m = 0 ∨ p.context.statuses = []) :
    written (p.fillRun m) = written p ++ List.replicate m .notReceived := by
  unfold Packet.fillRun
  split
  · rename_i hpos
    simpa [written, createRunLengthChunk, clearStatuses, setCurrentStatus, Chunk.statuses, hs.resolve_left hpos] using hm
  · rename_i hzero
    rw [not_not.mp hzero, replicate_zero, append_nil]

theorem writes_fillMissing (hc : ContextOk p.context) {m : Nat} (hm : m < 2 ^ 16) :
    Writes (p.context.statuses.length < 2 ^ 16) p (p.fillMissing m) (List.replicate m .notReceived) := by
  have hshort := length_flushLongRun hc
  have hwrites := writes_flushLongRun hc
  unfold Packet.fillMissing
  generalize p.flushLongRun = q at hshort hwrites
  dsimp only
  generalize hk : min m (7 - q.context.statuses.length) = k
  change Writes _ p _ ([] ++ List.replicate m .notReceived)
  refine hwrites.append ?_
  have hrest : m - k = 0 ∨ (q.fillVector k).context.statuses = [] := by
    by_cases hfull : q.context.statuses.length + k = 7
    · exact .inr ((fillVector_after (by omega)).2 hfull)
    · exact .inl (by omega)
  rw [written_fillRun (by omega) hrest, written_fillVector, append_assoc, ← replicate_add, show k + (m - k) = m by omega]

theorem written_fillReceived (p : Packet) (d : Int) :
    written (p.fillReceived d) = written (p.flushOtherRun (statusOf (some d))) ++ [statusOf (some d)] := by
  show written (((p.flushOtherRun (statusOf (some d))).pushReceived (statusOf (some d)) d).updateContext
    (statusOf (some d))).flushMixed = _
  generalize p.flushOtherRun (statusOf (some d)) = q
  have happ : written ((q.pushReceived (statusOf (some d)) d).updateContext (statusOf (some d))) =
      written q ++ [statusOf (some d)] := (append_assoc ..).symm
  unfold Packet.flushMixed
  split
  · exact happ
  split
  · exact (written_flushVector _).trans happ
  · exact happ

/-- **One call** adds the statuses of its history exactly if the run that it ends fits. -/
theorem writes_fill (hc : ContextOk p.context) (c : FillCall) : Writes (RunFits p c) p (fill p c) (c.history.map statusOf) := by
  have hhistory : c.history.map statusOf = List.replicate c.missing .notReceived ++ [statusOf (some c.delta)] := by
    simp [FillCall.history, statusOf]
  rw [hhistory]
  by_cases hgap : c.missing > 0
  · -- the gap ends the run, and so fewer than seven statuses are pending when the packet is added
    have hfill : fill p c = (p.fillMissing c.missing).fillReceived c.delta := by
      show (if c.missing > 0 then p.fillMissing c.missing else p).fillReceived c.delta = _
      rw [if_pos hgap]
    have hfits : RunFits p c ↔ p.context.statuses.length < 2 ^ 16 := or_iff_left fun hnone => hgap.ne' hnone.1
    have hafter := (fillMissing_after hc c.missing).short
    have hsame : (p.fillMissing c.missing).flushOtherRun (statusOf (some c.delta)) = p.fillMissing c.missing :=
      if_neg fun hlong => absurd hlong.1 (Nat.not_le.mpr hafter)
    rw [hfill, hfits]
    have hlt : c.missing < 2 ^ 16 := Nat.mod_lt _ (by decide)
    refine (writes_fillMissing hc hlt).append ?_
    rw [written_fillReceived, hsame]
  · have hfill : fill p c = p.fillReceived c.delta := by
      show (if c.missing > 0 then p.fillMissing c.missing else p).fillReceived c.delta = _
      rw [if_neg hgap]
    have hzero : c.missing = 0 := Nat.eq_zero_of_not_pos hgap
    rw [hfill, hzero]
    change Writes _ p _ ([] ++ _)
    refine Writes.append ?_ (written_fillReceived p c.delta)
    unfold Packet.flushOtherRun
    split
    · rename_i hother
      have hfits : RunFits p c ↔ p.context.statuses.length < 2 ^ 16 := or_iff_left fun hsame => hother.2.2 hsame.2
      rw [hfits]
      exact writes_flushRun (hc.same hother.2.1)
    · rename_i hnot
      refine .refl ?_ p
      by_contra hfits
      obtain ⟨hlong, hother⟩ := not_or.mp hfits
      have hseven : 7 ≤ p.context.statuses.length := by omega
      exact hnot ⟨hseven, hc.sevenSame hseven, fun heq => hother ⟨hzero, heq⟩⟩

end Statuses

/-! ## Runs -/

def fillStep (p : Packet) (c : FillCall) : Except Fault Packet := .ok (fill p c)

theorem writes_foldl : ∀ (calls : List FillCall) (p : Packet), ContextOk p.context →
    Writes (Along fillStep RunFits p calls) p (calls.foldl fill p) ((calls.flatMap FillCall.history).map statusOf)
  | [], p, _ => .refl trivial p
  | c :: calls, p, hc => by
    have hstep := writes_fill hc c
    have hrest := writes_foldl calls (fill p c) (fillChunk_contextOk hc _ _ _)
    have hfits : Along fillStep RunFits p (c :: calls) ↔ RunFits p c ∧ Along fillStep RunFits (fill p c) calls :=
      along_cons_ok rfl
    rw [flatMap_cons, map_append, foldl_cons, hfits]
    refine ⟨fun hboth => ?_, fun hnot => ?_⟩
    · rw [hrest.1 hboth.2, hstep.1 hboth.1, append_assoc]
    · -- what one call loses, no later call brings back
      have hle {fits : Prop} {p q : Packet} {ss : List Status} (h : Writes fits p q ss) :
          (written q).length ≤ (written p).length + ss.length := by
        by_cases hfits : fits
        · rw [h.1 hfits, length_append]
        · exact (h.2 hfits).le
      have hone := hle hstep
      have hall := hle hrest
      rw [length_append]
      by_cases hfirst : RunFits p c
      · have hlt := hrest.2 fun hlater => hnot ⟨hfirst, hlater⟩
        omega
      · have hlt := hstep.2 hfirst
        omega

/-- **Every sequence of calls of `FillChunk`** on an empty packet: the vectors are full, fewer than seven different statuses are
pending, and the assertion of `AddPendingChunks` does not fire. The packet represents all the statuses exactly if 16 bits count
each run that a call ends. -/
theorem foldl_fill_represents (senderSsrc mediaSsrc feedbackPacketCount : Nat) (calls : List FillCall) :
    Filled (calls.foldl fill (fresh senderSsrc mediaSsrc feedbackPacketCount)) ∧
      (written (calls.foldl fill (fresh senderSsrc mediaSsrc feedbackPacketCount)) =
          (calls.flatMap FillCall.history).map statusOf ↔
        Along fillStep RunFits (fresh senderSsrc mediaSsrc feedbackPacketCount) calls) := by
  have hsized : Sized (calls.foldl fill (fresh senderSsrc mediaSsrc feedbackPacketCount)) :=
    foldlRecOn calls fill ⟨⟨rfl, rfl, nofun⟩, fun h => absurd h (Nat.not_succ_le_zero 6)⟩
      fun p hp c _ => (fillChunk_sized hp c.previousSequenceNumber c.sequenceNumber c.delta).1
  have hvectors : FullVectors (calls.foldl fill (fresh senderSsrc mediaSsrc feedbackPacketCount)) :=
    foldlRecOn calls fill (nofun : FullVectors (fresh ..)) fun p hp c _ => hp.fill c
  have hcontext : ContextOk (calls.foldl fill (fresh senderSsrc mediaSsrc feedbackPacketCount)).context :=
    foldlRecOn calls fill (motive := fun p => ContextOk p.context) (contextOk_nil _ _)
      fun p hp c _ => fillChunk_contextOk hp _ _ _
  refine ⟨⟨hvectors, fun hmixed => ?_, hcontext.same, hsized.finish.imp fun q h => h.1⟩, ?_⟩
  · by_contra hseven
    simp [hcontext.sevenSame (not_lt.mp hseven)] at hmixed
  · obtain ⟨hfits, hlost⟩ := writes_foldl calls (fresh senderSsrc mediaSsrc feedbackPacketCount)
      (contextOk_nil _ _)
    refine ⟨fun heq => ?_, hfits⟩
    by_contra hnot
    have hlt := hlost hnot
    rw [heq] at hlt
    exact absurd hlt (by simp [written, fresh])

/-! ### A run of 65536 statuses -/

def received (n : Nat) : List FillCall := List.replicate n ⟨0, 1, 0⟩

theorem foldl_fill_received (n : Nat) : ((received (n + 1)).foldl fill (fresh 1 2 3)).chunks = [] ∧
    ((received (n + 1)).foldl fill (fresh 1 2 3)).context = ⟨true, .smallDelta, List.replicate (n + 1) .smallDelta⟩ := by
  induction n with
  | zero => decide
  | succ n ih =>
    rw [received, replicate_succ', foldl_append, ← received]
    generalize (received (n + 1)).foldl fill (fresh 1 2 3) = p at ih ⊢
    obtain ⟨hchunks, hcontext⟩ := ih
    have hfill : [(⟨0, 1, 0⟩ : FillCall)].foldl fill p = ((p.pushReceived .smallDelta 0).updateContext .smallDelta).flushMixed := by
      show ((((p.flushOtherRun .smallDelta).pushReceived .smallDelta 0).updateContext .smallDelta).flushMixed) = _
      rw [Packet.flushOtherRun, if_neg (by simp [hcontext])]
    have hpushed := updateContext_context p .smallDelta 0
    rw [hcontext, ← replicate_succ'] at hpushed
    rw [hfill, Packet.flushMixed]
    split_ifs with hfew hmixed
    · exact ⟨hchunks, hpushed⟩
    · rw [hpushed] at hmixed
      exact absurd hmixed.2 (by simp)
    · exact ⟨hchunks, hpushed⟩

def endedRun (n : Nat) : List FillCall := received (n + 1) ++ [⟨0, 1, 300⟩]

theorem length_endedRun (n : Nat) : ((endedRun n).flatMap FillCall.history).length = n + 2 := by
  simp [endedRun, received, FillCall.history, FillCall.missing, missingBetween]

theorem foldl_fill_endedRun {n : Nat} (hn : 6 ≤ n) :
    ((endedRun n).foldl fill (fresh 1 2 3)).chunks = [.runLength .smallDelta ((n + 1) % 2 ^ 16)] ∧
      ((endedRun n).foldl fill (fresh 1 2 3)).context.statuses = [.largeDelta] := by
  obtain ⟨hchunks, hcontext⟩ := foldl_fill_received n
  rw [endedRun, foldl_append]
  generalize (received (n + 1)).foldl fill (fresh 1 2 3) = p at hchunks hcontext ⊢
  have hflush : p.flushOtherRun .largeDelta = p.flushRun := if_pos (by simp [hcontext, hn])
  have hfill : [(⟨0, 1, 300⟩ : FillCall)].foldl fill p = (p.flushRun.pushReceived .largeDelta 300).updateContext .largeDelta := by
    show ((((p.flushOtherRun .largeDelta).pushReceived .largeDelta 300).updateContext .largeDelta).flushMixed) = _
    rw [hflush]
    exact if_pos (show 1 < 7 by decide)
  rw [hfill]
  refine ⟨?_, rfl⟩
  show p.chunks ++ [.runLength p.context.currentStatus (p.context.statuses.length % 2 ^ 16)] = _
  rw [hchunks, hcontext, length_replicate]
  rfl

/-- **A run of 65536 statuses** becomes one of the length 0. -/
theorem run_wraps : written ((endedRun 65535).foldl fill (fresh 1 2 3)) ≠
    ((endedRun 65535).flatMap FillCall.history).map statusOf := by
  intro h
  have hlen := congrArg List.length h
  obtain ⟨hchunks, hstatuses⟩ := foldl_fill_endedRun (n := 65535) (by decide)
  rw [length_map, length_endedRun, written, hchunks, hstatuses] at hlen
  exact absurd hlen (by decide)

end Mediasoup.Rtcp.FeedbackRtpTransport
