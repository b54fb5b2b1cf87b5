import Mediasoup.Rtcp.FeedbackRtpTransport.AddPacket
import Mediasoup.Rtcp.FeedbackRtpTransport.Parse

/-!
# What the chunks of a feedback packet say

The history of a packet being built is the list of the packets after its base: `none` for a missing one, the delta for a received
one. `Encodes p h`: the chunks and the pending statuses are the statuses of `h`, the deltas those of `h`, and the counters agree.
`FillChunk` keeps it while the history fits 16 bits and the runs fit 13 (`fillChunk_encodes`), and so does `AddPendingChunks`,
after which nothing is pending.
-/

namespace Mediasoup.Rtcp.FeedbackRtpTransport

open List Chunk Packet

/-! ## Histories -/

def statusOf : Option Int → Status
  | none => .notReceived
  | some d => if 0 ≤ d ∧ d ≤ 255 then .smallDelta else .largeDelta

def deltaSize (d : Int) : Nat := if 0 ≤ d ∧ d ≤ 255 then 1 else 2

def Status.OnWire (s : Status) : Prop := s = .notReceived ∨ s = .smallDelta ∨ s = .largeDelta

theorem statusOf_onWire (o : Option Int) : (statusOf o).OnWire := by
  cases o with
  | none => exact .inl rfl
  | some d =>
    by_cases hd : 0 ≤ d ∧ d ≤ 255
    · exact .inr (.inl (if_pos hd))
    · exact .inr (.inr (if_neg hd))

/-- A chunk that `FillChunk` makes: a run of 13 bits, or a full vector of two-bit statuses. -/
def Chunk.Full : Chunk → Prop
  | .runLength status count => status.OnWire ∧ 1 ≤ count ∧ count ≤ 8191
  | .twoBitVector statuses => statuses.length = 7 ∧ ∀ s ∈ statuses, s.OnWire
  | .oneBitVector _ => False

structure Encodes (p : Packet) (h : List (Option Int)) : Prop where
  statuses : p.chunks.flatMap Chunk.statuses ++ p.context.statuses = h.map statusOf
  full : ∀ c ∈ p.chunks, c.Full
  short : p.context.statuses.length ≤ 8191
  count : p.packetStatusCount = (p.chunks.map getCount).sum
  deltas : p.deltas = h.filterMap id
  size : p.deltasAndChunksSize = 2 * p.chunks.length + (p.deltas.map deltaSize).sum

/-- There are at least four statuses for every chunk. -/
def Dense (p : Packet) : Prop := 4 * p.chunks.length ≤ (p.chunks.map getCount).sum

/-- What building the chunks leaves as it is. -/
structure SameHeader (p q : Packet) : Prop where
  baseSequenceNumber : q.baseSequenceNumber = p.baseSequenceNumber
  referenceTime : q.referenceTime = p.referenceTime
  size : q.size = p.size

namespace SameHeader

variable {p q r : Packet}

theorem refl (p : Packet) : SameHeader p p := ⟨rfl, rfl, rfl⟩

theorem trans (h : SameHeader p q) (h' : SameHeader q r) : SameHeader p r :=
  ⟨h'.1.trans h.1, h'.2.trans h.2, h'.3.trans h.3⟩

theorem flushLongRun (p : Packet) : SameHeader p p.flushLongRun := by
  unfold Packet.flushLongRun
  split <;> exact ⟨rfl, rfl, rfl⟩

theorem fillVector (p : Packet) (m : Nat) : SameHeader p (p.fillVector m) := by
  unfold Packet.fillVector
  simp only
  split <;> exact ⟨rfl, rfl, rfl⟩

theorem fillRun (p : Packet) (m : Nat) : SameHeader p (p.fillRun m) := by
  unfold Packet.fillRun
  split <;> exact ⟨rfl, rfl, rfl⟩

theorem flushOtherRun (p : Packet) (s : Status) : SameHeader p (p.flushOtherRun s) := by
  unfold Packet.flushOtherRun
  split <;> exact ⟨rfl, rfl, rfl⟩

theorem updateContext (p : Packet) (s : Status) (d : Int) :
    SameHeader p ((p.pushReceived s d).updateContext s) := ⟨rfl, rfl, rfl⟩

theorem flushMixed (p : Packet) : SameHeader p p.flushMixed := by
  unfold Packet.flushMixed
  split
  · exact refl p
  · split <;> exact ⟨rfl, rfl, rfl⟩

theorem fillMissing (p : Packet) (m : Nat) : SameHeader p (p.fillMissing m) := by
  exact (flushLongRun p).trans ((fillVector _ _).trans (fillRun _ _))

theorem fillReceived (p : Packet) (d : Int) : SameHeader p (p.fillReceived d) := by
  exact (flushOtherRun p _).trans ((updateContext _ _ _).trans (flushMixed _))

theorem fillChunk (p : Packet) (prev seq : Nat) (d : Int) : SameHeader p (p.fillChunk prev seq d) := by
  unfold Packet.fillChunk
  simp only
  split
  · exact (fillMissing p _).trans (fillReceived _ d)
  · exact fillReceived p d

end SameHeader

/-! ## What is pending -/

/-- The pending statuses: seven or more are all the same, and the current status says which. -/
structure ContextOk (c : Context) : Prop where
  sevenSame : 7 ≤ c.statuses.length → c.allSameStatus = true
  same : c.allSameStatus = true → ∀ s ∈ c.statuses, s = c.currentStatus
  idle : c.currentStatus = .none → c.statuses = []

/-- What `FillChunk` leaves pending before it adds the received packet. -/
structure AfterMissing (c : Context) : Prop where
  short : c.statuses.length < 7
  status : c.currentStatus = .none ∧ c.statuses = [] ∨ c.currentStatus = .notReceived

/-- What is pending when a packet of the given status is recorded. -/
structure ReadyFor (c : Context) (status : Status) : Prop where
  sevenSame : 7 ≤ c.statuses.length → c.allSameStatus = true ∧ ∀ s ∈ c.statuses, s = c.currentStatus
  same : c.allSameStatus = true → c.currentStatus = status → ∀ s ∈ c.statuses, s = status
  idle : c.currentStatus = .none → c.statuses = []

section Pending

variable {p : Packet} {c : Context} {status : Status}

theorem contextOk_nil (allSameStatus : Bool) (status : Status) : ContextOk ⟨allSameStatus, status, []⟩ :=
  ⟨fun hseven => absurd hseven (Nat.not_succ_le_zero 6), fun _ => nofun, fun _ => rfl⟩

theorem ContextOk.readyFor (hc : ContextOk c) (status : Status) : ReadyFor c status where
  sevenSame hseven := ⟨hc.sevenSame hseven, hc.same (hc.sevenSame hseven)⟩
  same hall hcur := hcur ▸ hc.same hall
  idle := hc.idle

theorem AfterMissing.readyFor (hc : AfterMissing c) (hn : status ≠ .none) (hr : status ≠ .notReceived) :
    ReadyFor c status where
  sevenSame hseven := absurd hseven (Nat.not_le.mpr hc.short)
  same _ hcur := by
    rcases hc.status with ⟨hnone, _⟩ | hmiss
    · exact absurd (hcur.symm.trans hnone) hn
    · exact absurd (hcur.symm.trans hmiss) hr
  idle hnone := by
    rcases hc.status with ⟨_, hnil⟩ | hmiss
    · exact hnil
    · simp [hmiss] at hnone

theorem length_flushLongRun (hc : ContextOk p.context) : p.flushLongRun.context.statuses.length < 7 := by
  unfold Packet.flushLongRun
  split
  · exact Nat.succ_pos 6
  · rename_i hshort
    exact Nat.lt_of_not_le fun hseven => hshort ⟨hseven, hc.sevenSame hseven⟩

theorem length_appendStatuses (p : Packet) (s : Status) (ss : List Status) :
    ((p.setCurrentStatus s).appendStatuses ss).context.statuses.length = p.context.statuses.length + ss.length := by
  simp [appendStatuses, setCurrentStatus]

theorem fillVector_after {k : Nat} (hk : p.context.statuses.length + k ≤ 7) : AfterMissing (p.fillVector k).context ∧
    (p.context.statuses.length + k = 7 → (p.fillVector k).context.statuses = []) := by
  have hlen := length_appendStatuses p .notReceived (List.replicate k .notReceived)
  rw [length_replicate] at hlen
  unfold Packet.fillVector
  dsimp only
  rw [hlen]
  split
  · exact ⟨⟨Nat.succ_pos 6, .inl ⟨rfl, rfl⟩⟩, fun _ => rfl⟩
  · exact ⟨⟨by omega, .inr rfl⟩, fun hseven => absurd hseven ‹_›⟩

theorem fillMissing_after (hc : ContextOk p.context) (m : Nat) : AfterMissing (p.fillMissing m).context := by
  have hshort := length_flushLongRun hc
  unfold Packet.fillMissing Packet.fillRun
  dsimp only
  split
  · exact ⟨Nat.succ_pos 6, .inl ⟨rfl, rfl⟩⟩
  · exact (fillVector_after (by omega)).1

theorem flushOtherRun_ready (hr : ReadyFor p.context status) :
    ReadyFor (p.flushOtherRun status).context status ∧
      (7 ≤ (p.flushOtherRun status).context.statuses.length → (p.flushOtherRun status).context.currentStatus = status) := by
  unfold Packet.flushOtherRun
  split
  · exact ⟨(contextOk_nil _ _).readyFor status, fun hlong => absurd hlong (Nat.not_succ_le_zero 6)⟩
  · rename_i hflush
    refine ⟨hr, fun hseven => Classical.byContradiction fun hne => ?_⟩
    exact hflush ⟨hseven, (hr.sevenSame hseven).1, fun heq => hne heq.symm⟩

theorem updateContext_context (p : Packet) (status : Status) (d : Int) :
    ((p.pushReceived status d).updateContext status).context =
      { allSameStatus := decide (p.context.currentStatus = .none ∨
          (p.context.allSameStatus = true ∧ p.context.currentStatus = status))
        currentStatus := status
        statuses := p.context.statuses ++ [status] } := rfl

theorem ReadyFor.push_same (hr : ReadyFor c status)
    (hall : c.currentStatus = .none ∨ (c.allSameStatus = true ∧ c.currentStatus = status)) :
    ∀ s ∈ c.statuses ++ [status], s = status := by
  intro s hs
  rcases mem_append.mp hs with hs | hs
  · rcases hall with hnone | ⟨hall, hcur⟩
    · simp [hr.idle hnone] at hs
    · exact hr.same hall hcur s hs
  · exact mem_singleton.mp hs

theorem flushMixed_contextOk (hlong : 7 < p.context.statuses.length → p.context.allSameStatus = true)
    (hsame : p.context.allSameStatus = true → ∀ s ∈ p.context.statuses, s = p.context.currentStatus)
    (hnone : p.context.currentStatus ≠ .none) : ContextOk p.flushMixed.context := by
  unfold Packet.flushMixed
  split
  · exact ⟨fun hseven => absurd hseven (by omega), hsame, fun hn => absurd hn hnone⟩
  split
  · exact contextOk_nil _ _
  rename_i hmixed
  refine ⟨fun hseven => ?_, hsame, fun hn => absurd hn hnone⟩
  rcases Nat.eq_or_lt_of_le hseven with heq | hgt
  · simpa [← heq] using hmixed
  · exact hlong hgt

theorem statusOf_some (d : Int) : statusOf (some d) ≠ .none ∧ statusOf (some d) ≠ .notReceived := by
  by_cases hsmall : 0 ≤ d ∧ d ≤ 255 <;> simp [statusOf, hsmall]

theorem fillReceived_contextOk {d : Int} (hr : ReadyFor p.context (statusOf (some d))) :
    ContextOk (p.fillReceived d).context := by
  obtain ⟨hrq, hcur⟩ := flushOtherRun_ready hr
  show ContextOk (((p.flushOtherRun (statusOf (some d))).pushReceived (statusOf (some d)) d).updateContext
    (statusOf (some d))).flushMixed.context
  generalize p.flushOtherRun (statusOf (some d)) = q at hrq hcur ⊢
  refine flushMixed_contextOk (fun hlong => ?_) (fun hall => hrq.push_same (of_decide_eq_true hall))
    (statusOf_some d).1
  rw [updateContext_context, length_append, length_singleton] at hlong
  have hseven := Nat.le_of_lt_succ hlong
  simp [updateContext_context, (hrq.sevenSame hseven).1, hcur hseven]

theorem fillChunk_contextOk (hc : ContextOk p.context) (prev seq : Nat) (d : Int) :
    ContextOk (p.fillChunk prev seq d).context := by
  unfold Packet.fillChunk
  dsimp only
  split
  · exact fillReceived_contextOk ((fillMissing_after hc _).readyFor (statusOf_some d).1 (statusOf_some d).2)
  · exact fillReceived_contextOk (hc.readyFor _)

end Pending

namespace Encodes

variable {p : Packet} {h : List (Option Int)}

theorem length_eq (he : Encodes p h) : (p.chunks.map getCount).sum + p.context.statuses.length = h.length := by
  have hlen := congrArg List.length he.statuses
  rwa [length_append, length_flatMap_statuses, length_map] at hlen

theorem onWire (he : Encodes p h) : ∀ s ∈ p.context.statuses, s.OnWire := by
  intro s hs
  have hmem : s ∈ h.map statusOf := by
    rw [← he.statuses]
    exact mem_append_right _ hs
  obtain ⟨o, -, rfl⟩ := mem_map.mp hmem
  exact statusOf_onWire o

theorem congr_context (he : Encodes p h) {c : Context} (hc : c.statuses = p.context.statuses) :
    Encodes { p with context := c } h where
  statuses := (congrArg (p.chunks.flatMap Chunk.statuses ++ ·) hc).trans he.statuses
  full := he.full
  short := hc ▸ he.short
  count := he.count
  deltas := he.deltas
  size := he.size

theorem extend (he : Encodes p h) {q : Packet} (cs : List Chunk) {h' : List (Option Int)}
    (hchunks : q.chunks = p.chunks ++ cs)
    (hstatuses : cs.flatMap Chunk.statuses ++ q.context.statuses = p.context.statuses ++ h'.map statusOf)
    (hfull : ∀ c ∈ cs, c.Full) (hshort : q.context.statuses.length ≤ 8191) (hcount : q.packetStatusCount = p.packetStatusCount + (cs.map getCount).sum)
    (hdeltas : q.deltas = p.deltas ++ h'.filterMap id)
    (hsize : q.deltasAndChunksSize = p.deltasAndChunksSize + 2 * cs.length + ((h'.filterMap id).map deltaSize).sum) :
    Encodes q (h ++ h') where
  statuses := by
    rw [hchunks, flatMap_append, append_assoc, hstatuses, ← append_assoc, he.statuses, map_append]
  full c hc := by
    rw [hchunks] at hc
    exact (mem_append.mp hc).elim (he.full c) (hfull c)
  short := hshort
  count := by rw [hcount, he.count, hchunks, map_append, sum_append]
  deltas := by rw [hdeltas, he.deltas, filterMap_append]
  size := by
    rw [hsize, he.size, hdeltas, hchunks, length_append, map_append, sum_append]
    omega

theorem pending_lt (he : Encodes p h) (hlen : h.length < 2 ^ 16) : p.context.statuses.length < 2 ^ 16 := by
  have htotal := he.length_eq
  omega

theorem count_lt (he : Encodes p h) {m : Nat} (hlen : h.length + m < 2 ^ 16) :
    p.packetStatusCount + p.context.statuses.length + m < 65536 := by
  have htotal := he.length_eq
  rw [← he.count] at htotal
  omega

theorem flush (he : Encodes p h) {c : Chunk} (hc : c.statuses = p.context.statuses) (hfull : c.Full)
    (hlen : h.length < 2 ^ 16) : Encodes
      { p with
        chunks := p.chunks ++ [c]
        packetStatusCount := (p.packetStatusCount + c.getCount % 2 ^ 16) % 2 ^ 16
        deltasAndChunksSize := p.deltasAndChunksSize + 2
        context := { p.context with statuses := [] } } h := by
  have hcount : c.getCount = p.context.statuses.length := by rw [← hc, c.length_statuses]
  rw [← append_nil h]
  have hlt := he.count_lt (m := 0) hlen
  refine he.extend [c] rfl (by simp [hc]) (by simpa using hfull) (Nat.zero_le _) ?_ (append_nil _).symm rfl
  simp only [map_cons, map_nil, sum_cons, sum_nil]
  omega

theorem appendRun (he : Encodes p h) (hs : p.context.statuses = []) {m : Nat} (hm : 1 ≤ m) (hm' : m ≤ 8191)
    (hlen : h.length + m < 2 ^ 16) :
    Encodes (p.createRunLengthChunk .notReceived m) (h ++ List.replicate m none) := by
  have hlt := he.count_lt hlen
  rw [hs, length_nil, Nat.add_zero] at hlt
  refine he.extend [.runLength .notReceived m] ?_ ?_ ?_ ?_ ?_ ?_ ?_ <;>
    simp [createRunLengthChunk, Chunk.statuses, getCount, Chunk.Full, Status.OnWire, statusOf, hs, hm, hm', hlt]
  omega

theorem appendMissing (he : Encodes p h) {m : Nat} (hm : p.context.statuses.length + m ≤ 8191) :
    Encodes (p.appendStatuses (List.replicate m .notReceived)) (h ++ List.replicate m none) := by
  refine he.extend [] ?_ ?_ ?_ ?_ ?_ ?_ ?_ <;> simp [appendStatuses, statusOf, hm]

theorem appendReceived (he : Encodes p h) (hshort : p.context.statuses.length < 8191) (d : Int) : Encodes
    { p.appendStatuses [statusOf (some d)] with
      deltas := p.deltas ++ [d]
      deltasAndChunksSize := p.deltasAndChunksSize + deltaSize d } (h ++ [some d]) :=
  he.extend [] (append_nil _).symm (by simp [appendStatuses]) (by simp) (by simpa [appendStatuses] using hshort) rfl rfl rfl

end Encodes

/-! ## Making chunks of the pending statuses -/

section Flush

variable {p : Packet} {h : List (Option Int)}

theorem statuses_runLength {s : Status} {ss : List Status} (hsame : ∀ t ∈ ss, t = s) (hlen : ss.length < 2 ^ 16) :
    (Chunk.runLength s (ss.length % 2 ^ 16)).statuses = ss := by
  rw [Nat.mod_eq_of_lt hlen]
  exact (eq_replicate_of_mem hsame).symm

theorem flushRun_encodes (he : Encodes p h) (hsame : ∀ s ∈ p.context.statuses, s = p.context.currentStatus)
    (hpos : p.context.statuses ≠ []) (hlen : h.length < 2 ^ 16) :
    Encodes p.flushRun h := by
  have hlt := he.pending_lt hlen
  have hwire : p.context.currentStatus.OnWire := by
    obtain ⟨s, hs⟩ := exists_mem_of_ne_nil _ hpos
    exact hsame s hs ▸ he.onWire s hs
  have hone : 1 ≤ p.context.statuses.length := length_pos_iff.mpr hpos
  have hfull : (Chunk.runLength p.context.currentStatus (p.context.statuses.length % 2 ^ 16)).Full := by
    rw [Nat.mod_eq_of_lt hlt]
    exact ⟨hwire, hone, he.short⟩
  have hflush := he.flush (statuses_runLength hsame hlt) hfull hlen
  simp only [getCount, Nat.mod_mod] at hflush
  exact hflush

theorem flushVector_encodes (he : Encodes p h) (hseven : p.context.statuses.length = 7) (hlen : h.length < 2 ^ 16) :
    Encodes p.flushVector h :=
  he.flush (c := .twoBitVector p.context.statuses) rfl ⟨hseven, he.onWire⟩ hlen

theorem Dense.append (hd : Dense p) {q : Packet} {cs : List Chunk} (hq : q.chunks = p.chunks ++ cs)
    (hcs : 4 * cs.length ≤ (cs.map getCount).sum) : Dense q := by
  unfold Dense at hd ⊢
  rw [hq, length_append, map_append, sum_append]
  omega

theorem flushRun_dense (hd : Dense p) (hlen : 7 ≤ p.context.statuses.length)
    (hshort : p.context.statuses.length < 2 ^ 16) : Dense p.flushRun := by
  refine hd.append rfl ?_
  show 4 ≤ p.context.statuses.length % 2 ^ 16 + 0
  omega

end Flush

/-! ## The missing packets -/

variable {p : Packet} {h : List (Option Int)}

theorem flushLongRun_encodes (he : Encodes p h) (hc : ContextOk p.context) (hd : Dense p) (hlen : h.length < 2 ^ 16) :
    Encodes p.flushLongRun h ∧ Dense p.flushLongRun := by
  unfold Packet.flushLongRun
  by_cases hseven : 7 ≤ p.context.statuses.length
  · have hall := hc.sevenSame hseven
    have hne : p.context.statuses ≠ [] := by
      intro hnil
      simp [hnil] at hseven
    rw [if_pos ⟨hseven, hall⟩]
    exact ⟨(flushRun_encodes he (hc.same hall) hne hlen).congr_context rfl,
      flushRun_dense hd hseven (he.pending_lt hlen)⟩
  · rw [if_neg fun hand => hseven hand.1]
    exact ⟨he, hd⟩

theorem fillVector_pending (he : Encodes p h) {k : Nat} (hk : p.context.statuses.length + k < 7) :
    Encodes (p.fillVector k) (h ++ List.replicate k none) ∧ (p.fillVector k).chunks = p.chunks := by
  have hlen := length_appendStatuses p .notReceived (List.replicate k .notReceived)
  rw [length_replicate] at hlen
  have hfill : p.fillVector k =
      (p.setCurrentStatus .notReceived).appendStatuses (List.replicate k .notReceived) := if_neg (by omega)
  have hset : Encodes (p.setCurrentStatus .notReceived) h := he.congr_context rfl
  rw [hfill]
  exact ⟨hset.appendMissing (show p.context.statuses.length + k ≤ 8191 by omega), rfl⟩

theorem fillVector_full (he : Encodes p h) {k : Nat} (hk : p.context.statuses.length + k = 7)
    (hlen : h.length + k < 2 ^ 16) :
    Encodes (p.fillVector k) (h ++ List.replicate k none) ∧
      (p.fillVector k).chunks = p.chunks ++ [.twoBitVector (p.context.statuses ++ List.replicate k .notReceived)] ∧
      (p.fillVector k).context.statuses = [] := by
  have hseven := length_appendStatuses p .notReceived (List.replicate k .notReceived)
  rw [length_replicate, hk] at hseven
  have hfill : p.fillVector k = (((p.setCurrentStatus .notReceived).appendStatuses
      (List.replicate k .notReceived)).flushVector).setCurrentStatus .none := if_pos hseven
  have hset : Encodes (p.setCurrentStatus .notReceived) h := he.congr_context rfl
  have hvec := flushVector_encodes (hset.appendMissing (show p.context.statuses.length + k ≤ 8191 by omega)) hseven
    (by rw [length_append, length_replicate]; exact hlen)
  rw [hfill]
  exact ⟨hvec.congr_context rfl, rfl, rfl⟩

theorem fillRun_encodes (he : Encodes p h) (hs : p.context.statuses = []) {m : Nat} (hm : 1 ≤ m) (hm' : m ≤ 8191)
    (hlen : h.length + m < 2 ^ 16) :
    Encodes (p.fillRun m) (h ++ List.replicate m none) ∧ (p.fillRun m).chunks = p.chunks ++ [.runLength .notReceived m] := by
  have hrun : p.fillRun m = ((p.createRunLengthChunk .notReceived m).clearStatuses).setCurrentStatus .none :=
    if_pos (by omega)
  have hmod : m % 2 ^ 16 = m := Nat.mod_eq_of_lt (by omega)
  have happ := he.appendRun hs hm hm' hlen
  have hchunks : (p.createRunLengthChunk .notReceived m).chunks = p.chunks ++ [.runLength .notReceived m] := by
    show p.chunks ++ [.runLength .notReceived (m % 2 ^ 16)] = _
    rw [hmod]
  rw [hrun]
  exact ⟨happ.congr_context hs.symm, hchunks⟩

theorem fillMissing_encodes (he : Encodes p h) (hc : ContextOk p.context) (hd : Dense p) {m : Nat} (hm : m ≤ 8191)
    (hlen : h.length + m < 2 ^ 16) :
    Encodes (p.fillMissing m) (h ++ List.replicate m none) ∧ Dense (p.fillMissing m) := by
  obtain ⟨heq, hdq⟩ := flushLongRun_encodes he hc hd (by omega)
  have hshort := length_flushLongRun hc
  unfold Packet.fillMissing
  generalize p.flushLongRun = q at heq hdq hshort ⊢
  simp only
  by_cases hroom : q.context.statuses.length + m < 7
  · -- all missing packets stay pending
    obtain ⟨hpend, hchunks⟩ := fillVector_pending heq hroom
    rw [Nat.min_eq_left (by omega), Nat.sub_self]
    exact ⟨hpend, hdq.append (hchunks.trans (append_nil _).symm) (Nat.le_refl 0)⟩
  -- a full vector, and a run for the rest
  obtain ⟨hvec, hchunks, hs⟩ :=
    fillVector_full heq (k := 7 - q.context.statuses.length) (by omega) (by omega)
  rw [Nat.min_eq_right (by omega)]
  generalize hk : 7 - q.context.statuses.length = k at hvec hchunks hs ⊢
  have hseven : (q.context.statuses ++ List.replicate k Status.notReceived).length = 7 := by
    rw [length_append, length_replicate]
    omega
  by_cases hrest : m - k = 0
  · rw [hrest, show (q.fillVector k).fillRun 0 = q.fillVector k from rfl, show m = k by omega]
    exact ⟨hvec, hdq.append hchunks (by simp [getCount, hseven])⟩
  obtain ⟨hrun, hchunks'⟩ := fillRun_encodes hvec hs (m := m - k) (by omega) (by omega)
    (by rw [length_append, length_replicate]; omega)
  constructor
  · rw [append_assoc, ← replicate_add, show k + (m - k) = m by omega] at hrun
    exact hrun
  · rw [hchunks, append_assoc] at hchunks'
    refine hdq.append hchunks' ?_
    simp only [cons_append, nil_append, map_cons, map_nil, sum_cons, sum_nil, length_cons, length_nil, getCount, hseven]
    omega

/-! ## The received packet -/

theorem flushOtherRun_encodes (he : Encodes p h) {status : Status} (hr : ReadyFor p.context status) (hd : Dense p)
    (hlen : h.length < 2 ^ 16) :
    Encodes (p.flushOtherRun status) h ∧ Dense (p.flushOtherRun status) := by
  unfold Packet.flushOtherRun
  by_cases hflush : p.context.statuses.length ≥ 7 ∧ p.context.allSameStatus = true ∧ status ≠ p.context.currentStatus
  · obtain ⟨hseven, -, hne⟩ := hflush
    have hpos : p.context.statuses ≠ [] := by
      intro hnil
      simp [hnil] at hseven
    rw [if_pos ⟨hseven, (hr.sevenSame hseven).1, hne⟩]
    exact ⟨flushRun_encodes he (hr.sevenSame hseven).2 hpos hlen, flushRun_dense hd hseven (he.pending_lt hlen)⟩
  · rw [if_neg hflush]
    exact ⟨he, hd⟩

theorem flushMixed_encodes (he : Encodes p h) (hd : Dense p) (hlen : h.length < 2 ^ 16) :
    Encodes p.flushMixed h ∧ Dense p.flushMixed := by
  unfold Packet.flushMixed
  split
  · exact ⟨he, hd⟩
  split
  · rename_i hmixed
    have hset : Encodes (p.setCurrentStatus .none) h := he.congr_context rfl
    refine ⟨flushVector_encodes hset hmixed.1 hlen, hd.append rfl ?_⟩
    show 4 ≤ p.context.statuses.length + 0
    omega
  · exact ⟨he, hd⟩

theorem fillReceived_encodes (he : Encodes p h) {d : Int} (hr : ReadyFor p.context (statusOf (some d))) (hd : Dense p)
    (hshort : p.context.statuses.length < 8191) (hlen : h.length + 1 < 2 ^ 16) :
    Encodes (p.fillReceived d) (h ++ [some d]) ∧ Dense (p.fillReceived d) := by
  obtain ⟨heq, hdq⟩ := flushOtherRun_encodes he hr hd (by omega)
  have hshort' : (p.flushOtherRun (statusOf (some d))).context.statuses.length < 8191 := by
    unfold Packet.flushOtherRun
    split
    · exact Nat.succ_pos 8190
    · exact hshort
  have hfill : p.fillReceived d = (((p.flushOtherRun (statusOf (some d))).pushReceived (statusOf (some d)) d).updateContext
      (statusOf (some d))).flushMixed := rfl
  rw [hfill]
  generalize p.flushOtherRun (statusOf (some d)) = q at heq hdq hshort' ⊢
  have hsize : (if statusOf (some d) = .smallDelta then 1 else 2) = deltaSize d := by
    by_cases hsmall : 0 ≤ d ∧ d ≤ 255 <;> simp [statusOf, deltaSize, hsmall]
  have hpush : Encodes (q.pushReceived (statusOf (some d)) d) (h ++ [some d]) := by
    have happ := heq.appendReceived hshort' d
    rw [← hsize] at happ
    exact happ
  exact flushMixed_encodes (hpush.congr_context rfl) hdq (by simpa using hlen)

theorem fillChunk_encodes (he : Encodes p h) (hc : ContextOk p.context) (hd : Dense p)
    (hpend : p.context.statuses.length < 8191) {prev seq m : Nat} (hprev : missingBetween prev seq = m) (hm : m ≤ 8191)
    (hlen : h.length + m + 1 < 2 ^ 16) (d : Int) :
    Encodes (p.fillChunk prev seq d) (h ++ (List.replicate m none ++ [some d])) ∧ Dense (p.fillChunk prev seq d) := by
  have hfill : p.fillChunk prev seq d = (if m > 0 then p.fillMissing m else p).fillReceived d := by
    rw [← hprev]
    rfl
  rw [hfill, ← append_assoc]
  by_cases hpos : m > 0
  · rw [if_pos hpos]
    obtain ⟨heq, hdq⟩ := fillMissing_encodes he hc hd hm (by omega)
    have hafter := fillMissing_after hc m
    refine fillReceived_encodes heq (hafter.readyFor (statusOf_some d).1 (statusOf_some d).2) hdq ?_ ?_
    · exact hafter.short.trans (by decide)
    · rw [length_append, length_replicate]
      omega
  · obtain rfl : m = 0 := by omega
    rw [if_neg hpos, replicate_zero, append_nil]
    exact fillReceived_encodes he (hc.readyFor _) hd hpend (by omega)

/-! ## The last chunk -/

/-- The parser makes the chunk of its two bytes, where `remaining` statuses are still to come. -/
def Chunk.Fits (remaining : Nat) : Chunk → Prop
  | .runLength status count => status.OnWire ∧ count ≤ 8191
  | .twoBitVector statuses => statuses.length = min 7 remaining ∧ ∀ s ∈ statuses, s.OnWire
  | .oneBitVector _ => False

/-- The chunks stand for `remaining` statuses, and the parser makes each of them of its two bytes. -/
def ChunksFit : Nat → List Chunk → Prop
  | remaining, [] => remaining = 0
  | remaining, c :: cs =>
    c.Fits remaining ∧ 1 ≤ c.getCount ∧ c.getCount ≤ remaining ∧ ChunksFit (remaining - c.getCount) cs

theorem Chunk.Full.fits {c : Chunk} (hc : c.Full) (remaining : Nat) (hle : c.getCount ≤ remaining) :
    c.Fits remaining ∧ 1 ≤ c.getCount := by
  cases c with
  | runLength s n => exact ⟨⟨hc.1, hc.2.2⟩, hc.2.1⟩
  | oneBitVector ss => exact hc.elim
  | twoBitVector ss =>
    have hlen : ss.length ≤ remaining := hle
    have hseven := hc.1
    refine ⟨⟨?_, hc.2⟩, ?_⟩
    · omega
    · show 1 ≤ ss.length
      omega

theorem chunksFit_append {last : List Chunk} {r : Nat} (hlast : ChunksFit r last) :
    ∀ (cs : List Chunk), (∀ c ∈ cs, c.Full) → ChunksFit ((cs.map getCount).sum + r) (cs ++ last)
  | [], _ => by simpa using hlast
  | c :: cs, hfull => by
    have ih := chunksFit_append hlast cs fun d hd => hfull d (mem_cons_of_mem _ hd)
    rw [map_cons, sum_cons, cons_append]
    obtain ⟨hfits, hone⟩ := (hfull c mem_cons_self).fits
      (c.getCount + (cs.map getCount).sum + r) (by omega)
    refine ⟨hfits, hone, by omega, ?_⟩
    rw [show c.getCount + (cs.map getCount).sum + r - c.getCount = (cs.map getCount).sum + r by omega]
    exact ih

/-- The chunks, deltas and counters of a finished packet stand for the history. -/
structure Finished (p : Packet) (h : List (Option Int)) : Prop where
  pending : p.context.statuses = []
  statuses : p.chunks.flatMap Chunk.statuses = h.map statusOf
  fit : ChunksFit h.length p.chunks
  count : p.packetStatusCount = h.length
  deltas : p.deltas = h.filterMap id
  size : p.deltasAndChunksSize = 2 * p.chunks.length + (p.deltas.map deltaSize).sum
  few : 4 * p.chunks.length ≤ h.length + 3

theorem Encodes.finished (he : Encodes p h) (hd : Dense p) (hnil : p.context.statuses = []) : Finished p h where
  pending := hnil
  statuses := by
    have hstat := he.statuses
    rwa [hnil, append_nil] at hstat
  fit := by
    have hlen := he.length_eq
    have hnone : ChunksFit 0 [] := rfl
    have happ := chunksFit_append hnone _ he.full
    rw [hnil] at hlen
    rwa [append_nil, ← length_nil, hlen] at happ
  count := by
    have hlen := he.length_eq
    rw [hnil, ← he.count] at hlen
    exact hlen
  deltas := he.deltas
  size := he.size
  few := by
    have hlen := he.length_eq
    unfold Dense at hd
    omega

theorem Encodes.finished_flush (he : Encodes p h) (hd : Dense p) (hpos : 1 ≤ p.context.statuses.length)
    (hlen : h.length < 2 ^ 16) {c : Chunk} (hc : c.statuses = p.context.statuses)
    (hfits : c.Fits p.context.statuses.length) : Finished
      { p with
        chunks := p.chunks ++ [c]
        packetStatusCount := (p.packetStatusCount + c.getCount % 2 ^ 16) % 2 ^ 16
        deltasAndChunksSize := p.deltasAndChunksSize + 2
        context := { p.context with statuses := [] } } h := by
  have hcount : c.getCount = p.context.statuses.length := by rw [← hc, c.length_statuses]
  have htotal := he.length_eq
  constructor
  · rfl
  · simpa [hc] using he.statuses
  · have hlast : ChunksFit p.context.statuses.length [c] :=
      ⟨hfits, by omega, by omega, show p.context.statuses.length - c.getCount = 0 by omega⟩
    rw [← htotal]
    exact chunksFit_append hlast _ he.full
  · show (p.packetStatusCount + c.getCount % 2 ^ 16) % 2 ^ 16 = h.length
    rw [he.count]
    omega
  · exact he.deltas
  · show p.deltasAndChunksSize + 2 = 2 * (p.chunks ++ [c]).length + (p.deltas.map deltaSize).sum
    rw [he.size, length_append, length_singleton]
    omega
  · unfold Dense at hd
    rw [length_append, length_singleton]
    omega

theorem addPendingChunks_encodes (he : Encodes p h) (hc : ContextOk p.context) (hd : Dense p) (hlen : h.length < 2 ^ 16) :
    ∃ q, p.addPendingChunks = .ok q ∧ Finished q h ∧ SameHeader p q := by
  unfold addPendingChunks
  by_cases hnil : p.context.statuses = []
  · rw [if_pos hnil]
    exact ⟨p, rfl, he.finished hd hnil, ⟨rfl, rfl, rfl⟩⟩
  rw [if_neg hnil]
  have hpos : 1 ≤ p.context.statuses.length := length_pos_iff.mpr hnil
  by_cases hall : p.context.allSameStatus = true
  · rw [if_pos hall]
    refine ⟨p.flushRun, rfl, ?_, ⟨rfl, rfl, rfl⟩⟩
    have hshort := he.short
    have hlt : p.context.statuses.length < 2 ^ 16 := by omega
    have hwire : p.context.currentStatus.OnWire := by
      obtain ⟨s, hs⟩ := exists_mem_of_ne_nil _ hnil
      exact hc.same hall s hs ▸ he.onWire s hs
    have hfits : (Chunk.runLength p.context.currentStatus (p.context.statuses.length % 2 ^ 16)).Fits
        p.context.statuses.length := by
      rw [Nat.mod_eq_of_lt hlt]
      exact ⟨hwire, hshort⟩
    have hflush := he.finished_flush hd hpos hlen (statuses_runLength (hc.same hall) hlt) hfits
    simp only [getCount, Nat.mod_mod] at hflush
    exact hflush
  · rw [if_neg hall]
    have hfew : p.context.statuses.length < 7 :=
      Nat.lt_of_not_le fun hseven => hall (hc.sevenSame hseven)
    rw [if_pos hfew]
    refine ⟨p.flushVector, rfl, ?_, ⟨rfl, rfl, rfl⟩⟩
    exact he.finished_flush hd hpos hlen (c := .twoBitVector p.context.statuses) rfl
      ⟨(Nat.min_eq_right (by omega)).symm, he.onWire⟩

end Mediasoup.Rtcp.FeedbackRtpTransport
