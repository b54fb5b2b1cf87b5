import Mathlib.Algebra.BigOperators.Group.List.Basic
import Mediasoup.Rtcp.FeedbackRtpTransport.Packet

/-!
# What a parsed feedback packet says

A parsed packet is sound when its chunks carry `packetStatusCount` statuses and it has one delta for every received status. The
parser stops when its 16-bit counter reaches `packetStatusCount`, and a run length chunk is not limited to the statuses still to
come, so the counter can wrap past `packetStatusCount` (`sound_iff_runsFit`).
-/

namespace Mediasoup.Rtcp.FeedbackRtpTransport

open Utils List Chunk

structure Sound (p : Packet) : Prop where
  count_eq : (p.chunks.map getCount).sum = p.packetStatusCount
  received_eq : (p.chunks.flatMap Chunk.statuses).countP Status.received = p.deltas.length
  results : ∃ rs, p.getPacketResults = some rs ∧ rs.length = p.packetStatusCount

/-! ## The statuses in the bytes -/

def wordCount (b0 b1 : UInt8) (remaining : Nat) : Nat :=
  if get2Bytes b0 b1 / 2 ^ 15 % 2 = 0 then get2Bytes b0 b1 % 0x2000
  else if b0.toNat / 0x40 % 2 = 0 then min 14 remaining
  else min 7 remaining

/-- No chunk word, of those up to `psc` statuses, takes the total past 65535. -/
def WordsFit (psc : Nat) : List UInt8 → Nat → Prop
  | b0 :: b1 :: rest, total =>
    total < psc → total + wordCount b0 b1 (psc - total) < 2 ^ 16 ∧ WordsFit psc rest (total + wordCount b0 b1 (psc - total))
  | _, _ => True

instance decidableWordsFit (psc : Nat) : ∀ content total, Decidable (WordsFit psc content total)
  | b0 :: b1 :: rest, total =>
    have := decidableWordsFit psc rest (total + wordCount b0 b1 (psc - total))
    inferInstanceAs (Decidable (_ → _ ∧ _))
  | [], _ => isTrue trivial
  | [_], _ => isTrue trivial

def statusCountField (data : List UInt8) : Nat := get2Bytes (data.getD 14 0) (data.getD 15 0)

/-- The statuses of the chunk words of a packet fit 16 bits. -/
def RunsFit (data : List UInt8) : Prop := WordsFit (statusCountField data) (data.drop 20) 0

instance (data : List UInt8) : Decidable (RunsFit data) := inferInstanceAs (Decidable (WordsFit _ _ _))

/-! ## Counting the statuses of a chunk -/

theorem Chunk.parse_getCount {b0 b1 : UInt8} {remaining : Nat} {c : Chunk} (h : Chunk.parse b0 b1 remaining = some c) :
    c.getCount = wordCount b0 b1 remaining := by
  simp only [Chunk.parse] at h
  by_cases hrun : get2Bytes b0 b1 / 2 ^ 15 % 2 = 0
  · rw [if_pos hrun] at h
    split at h <;> rename_i heq <;> cases h <;> injection heq with _ hn <;>
      simp only [getCount, wordCount, if_pos hrun, hn]
  rw [if_neg hrun] at h
  by_cases hone : b0.toNat / 0x40 % 2 = 0
  · rw [if_pos hone] at h
    cases h
    rw [wordCount, if_neg hrun, if_pos hone]
    simp [getCount, parseOneBitVector]
  rw [if_neg hone] at h
  cases h
  rw [wordCount, if_neg hrun, if_neg hone]
  simp [getCount, parseTwoBitVector]

theorem Chunk.length_statuses (c : Chunk) : c.statuses.length = c.getCount := by
  cases c <;> simp [Chunk.statuses, getCount]

theorem Chunk.countP_statuses (c : Chunk) : c.statuses.countP Status.received = c.getReceivedStatusCount := by
  cases c with
  | runLength status count =>
    simp only [Chunk.statuses, getReceivedStatusCount, countP_replicate]
  | oneBitVector statuses => rfl
  | twoBitVector statuses => rfl

theorem Chunk.getReceivedStatusCount_le (c : Chunk) : c.getReceivedStatusCount ≤ c.getCount := by
  rw [← c.countP_statuses, ← c.length_statuses]
  exact countP_le_length

theorem length_flatMap_statuses (cs : List Chunk) : (cs.flatMap Chunk.statuses).length = (cs.map getCount).sum := by
  induction cs with
  | nil => rfl
  | cons c cs ih => simp [length_statuses, ih]

theorem countP_flatMap_statuses (cs : List Chunk) :
    (cs.flatMap Chunk.statuses).countP Status.received = (cs.map getReceivedStatusCount).sum := by
  induction cs with
  | nil => rfl
  | cons c cs ih => simp [countP_statuses, ih]

/-! ## The loop over the chunks -/

theorem scanChunks_cons {psc len count received : Nat} {b0 b1 : UInt8} {rest : List UInt8} {scan : ChunkScan}
    (h : scanChunks psc (b0 :: b1 :: rest) len count received = .ok scan) :
    (¬ (count < psc ∧ len > 0) ∧ scan.chunks = [] ∧ scan.count = count ∧ scan.receivedPacketStatusCount = received) ∨
    (count < psc ∧ ∃ chunk scan', Chunk.parse b0 b1 (psc - count) = some chunk ∧
      scanChunks psc rest (len - 2) ((count + chunk.getCount) % 2 ^ 16)
        ((received + chunk.getReceivedStatusCount) % 2 ^ 16) = .ok scan' ∧
      scan = { scan' with chunks := chunk :: scan'.chunks }) := by
  rw [scanChunks] at h
  by_cases hloop : count < psc ∧ len > 0
  · refine .inr ⟨hloop.1, ?_⟩
    rw [if_pos hloop] at h
    split at h
    · cases h
    cases hp : Chunk.parse b0 b1 (psc - count) with
    | none => simp [hp] at h
    | some chunk =>
      simp only [hp, bind, Except.bind] at h
      split at h
      · cases h
      · rename_i scan' hscan
        cases h
        exact ⟨chunk, scan', rfl, hscan, rfl⟩
  · rw [if_neg hloop] at h
    cases h
    exact .inl ⟨hloop, rfl, rfl, rfl⟩

theorem scanChunks_short {psc len count received : Nat} {content : List UInt8} {scan : ChunkScan}
    (hlen : content.length < 2) (h : scanChunks psc content len count received = .ok scan) :
    scan.chunks = [] ∧ scan.count = count ∧ scan.receivedPacketStatusCount = received := by
  match content, hlen with
  | [], _ | [_], _ =>
    rw [scanChunks] at h
    · split at h
      · split at h <;> cases h
      · cases h
        exact ⟨rfl, rfl, rfl⟩
    · simp

theorem scanChunks_of_wordsFit (psc : Nat) : ∀ (content : List UInt8) (len count received : Nat) (scan : ChunkScan),
    scanChunks psc content len count received = .ok scan → WordsFit psc content count → received ≤ count →
      scan.count = count + (scan.chunks.map getCount).sum ∧
      scan.receivedPacketStatusCount = received + (scan.chunks.map getReceivedStatusCount).sum
  | b0 :: b1 :: rest, len, count, received, scan, h, hfit, hle => by
    rcases scanChunks_cons h with ⟨-, hcs, hc, hr⟩ | ⟨hlt, chunk, scan', hparse, hscan, rfl⟩
    · simp [hcs, hc, hr]
    have hcount := parse_getCount hparse
    have hrle := chunk.getReceivedStatusCount_le
    obtain ⟨hbound, hrest⟩ := hfit hlt
    rw [← hcount] at hbound hrest
    rw [Nat.mod_eq_of_lt hbound, Nat.mod_eq_of_lt (by omega)] at hscan
    have ih := scanChunks_of_wordsFit psc rest _ _ _ scan' hscan hrest (by omega)
    simp only [map_cons, sum_cons]
    omega
  | [], _, _, _, _, h, _, _ => by
    obtain ⟨hcs, hc, hr⟩ := scanChunks_short (by simp) h
    simp [hcs, hc, hr]
  | [_], _, _, _, _, h, _, _ => by
    obtain ⟨hcs, hc, hr⟩ := scanChunks_short (by simp) h
    simp [hcs, hc, hr]

theorem le_sum_of_not_wordsFit (psc : Nat) : ∀ (content : List UInt8) (len count received : Nat) (scan : ChunkScan),
    scanChunks psc content len count received = .ok scan → ¬ WordsFit psc content count → scan.count = psc →
      2 ^ 16 ≤ count + (scan.chunks.map getCount).sum
  | b0 :: b1 :: rest, len, count, received, scan, h, hfit, hpsc => by
    have hlt : count < psc := by
      refine Classical.byContradiction fun hge => hfit fun hlt => absurd hlt hge
    rcases scanChunks_cons h with ⟨-, -, hc, -⟩ | ⟨-, chunk, scan', hparse, hscan, rfl⟩
    · omega
    have hcount := parse_getCount hparse
    simp only [map_cons, sum_cons]
    by_cases hbound : count + chunk.getCount < 2 ^ 16
    · have hrest : ¬ WordsFit psc rest (count + chunk.getCount) := by
        intro hrest
        rw [hcount] at hbound hrest
        exact hfit fun _ => ⟨hbound, hrest⟩
      rw [Nat.mod_eq_of_lt hbound] at hscan
      have ih := le_sum_of_not_wordsFit psc rest _ _ _ scan' hscan hrest hpsc
      omega
    · omega
  | [], _, _, _, _, _, hfit, _ => absurd trivial hfit
  | [_], _, _, _, _, _, hfit, _ => absurd trivial hfit

/-! ## The results -/

theorem length_fillResults (ss : List Status) : ∀ seq, (fillResults seq ss).length = ss.length := by
  induction ss with
  | nil => intro seq; rfl
  | cons s ss ih =>
    simp [fillResults, ih]

theorem countP_fillResults (ss : List Status) :
    ∀ seq, (fillResults seq ss).countP PacketResult.received = ss.countP Status.received := by
  induction ss with
  | nil => intro seq; rfl
  | cons s ss ih =>
    simp [fillResults, countP_cons, ih]

theorem fillDeltas_isSome (rs : List PacketResult) : ∀ (receivedAtMs : Int) (deltas : List Int),
    rs.countP PacketResult.received ≤ deltas.length →
      ∃ rs', fillDeltas receivedAtMs deltas rs = some rs' ∧ rs'.length = rs.length := by
  induction rs with
  | nil => intro t deltas _; exact ⟨[], rfl, rfl⟩
  | cons r rs ih =>
    intro t deltas hle
    by_cases hr : r.received = true
    · rw [countP_cons_of_pos hr] at hle
      cases deltas with
      | nil => simp at hle
      | cons d ds =>
        obtain ⟨rs', hrs', hlen⟩ := ih (t + d.tdiv 4) ds (by simpa using hle)
        refine ⟨{ r with delta := d, receivedAtMs := t + d.tdiv 4 } :: rs', ?_, by simp [hlen]⟩
        simp only [fillDeltas, if_pos hr, hrs', bind, Option.bind, pure]
    rw [countP_cons_of_neg hr] at hle
    obtain ⟨rs', hrs', hlen⟩ := ih t deltas hle
    refine ⟨r :: rs', ?_, by simp [hlen]⟩
    simp only [fillDeltas, if_neg hr, hrs', bind, Option.bind, pure]

theorem sound_of_sums {p : Packet} (hcount : (p.chunks.map getCount).sum = p.packetStatusCount)
    (hreceived : (p.chunks.map getReceivedStatusCount).sum = p.deltas.length) : Sound p := by
  have hrec : (p.chunks.flatMap Chunk.statuses).countP Status.received = p.deltas.length := by
    rw [countP_flatMap_statuses, hreceived]
  refine ⟨hcount, hrec, ?_⟩
  obtain ⟨rs, hrs, hlen⟩ := fillDeltas_isSome
    (fillResults ((p.baseSequenceNumber + 2 ^ 16 - 1) % 2 ^ 16) (p.chunks.flatMap Chunk.statuses))
    ((p.referenceTime * 64 % 2 ^ 32 : Nat)) p.deltas (by rw [countP_fillResults]; exact Nat.le_of_eq hrec)
  refine ⟨rs, hrs, ?_⟩
  rw [hlen, length_fillResults, length_flatMap_statuses, hcount]

/-! ## `Parse` -/

theorem parse_ok {data : List UInt8} {len : Nat} {p : Packet} (h : parse data len = .ok p) :
    ∃ contentLen scan, scanChunks (statusCountField data) (data.drop 20) contentLen 0 0 = .ok scan ∧
      scan.count = p.packetStatusCount ∧ p.packetStatusCount = statusCountField data ∧ p.chunks = scan.chunks ∧
      p.deltas.length = scan.receivedPacketStatusCount := by
  unfold parse at h
  split at h
  · cases h
  split at h
  · simp only at h
    split at h
    · cases h
    -- the fixed header
    unfold parseBody at h
    split at h
    · rename_i s0 s1 s2 s3 m0 m1 m2 m3 q0 q1 p0 p1 t0 t1 t2 f content
      simp only [bind, Except.bind, pure, Except.pure] at h
      split at h
      · cases h
      rename_i scan hscan
      by_cases hcount : scan.count = get2Bytes p0 p1
      · simp only [hcount, ne_eq, not_true, if_false] at h
        split at h
        · cases h
        rename_i r hdeltas
        by_cases hrec : r.1.length = scan.receivedPacketStatusCount
        · simp only [hrec, not_true, if_false, Except.ok.injEq] at h
          subst h
          exact ⟨_, scan, hscan, hcount, rfl, rfl, hrec⟩
        · simp [hrec, throw, throwThe, MonadExceptOf.throw] at h
      · simp [hcount, throw, throwThe, MonadExceptOf.throw] at h
    · cases h
  · cases h

theorem statusCountField_lt (data : List UInt8) : statusCountField data < 2 ^ 16 := get2Bytes_lt _ _

/-- **Accepted packets** are sound exactly when no chunk word takes the total of the statuses past 65535. -/
theorem sound_iff_runsFit (data : List UInt8) (len : Nat) (p : Packet) (h : parse data len = .ok p) :
    Sound p ↔ RunsFit data := by
  obtain ⟨contentLen, scan, hscan, hcount, hpsc, hchunks, hdeltas⟩ := parse_ok h
  constructor
  · intro hsound
    refine Classical.byContradiction fun hfit => ?_
    have hle := le_sum_of_not_wordsFit _ _ _ _ _ scan hscan hfit (hcount.trans hpsc)
    have hlt := statusCountField_lt data
    rw [← hchunks, hsound.count_eq] at hle
    omega
  · intro hfit
    obtain ⟨hc, hr⟩ := scanChunks_of_wordsFit _ _ _ _ _ scan hscan hfit (Nat.le_refl 0)
    apply sound_of_sums
    · rw [hchunks]
      omega
    · rw [hchunks]
      omega

def shortPacket : List UInt8 :=
  [0x8f, 205, 0, 6, 0, 0, 0, 0, 0, 0, 0, 1, 0, 10, 0, 3, 0, 0, 2, 0, 0x20, 2, 0, 1, 4, 8, 0, 0]

theorem shortPacket_sound : RunsFit shortPacket ∧ ∃ p, parse shortPacket 28 = .ok p ∧ Sound p := by
  have hp : parse shortPacket 28 = .ok
      { senderSsrc := 0, mediaSsrc := 1, baseSequenceNumber := 10, packetStatusCount := 3, referenceTime := 2,
        chunks := [.runLength .smallDelta 2, .runLength .notReceived 1], deltas := [4, 8],
        deltasAndChunksSize := 6, size := 28 } := by decide +kernel
  have hfit : RunsFit shortPacket := by decide +kernel
  exact ⟨hfit, _, hp, (sound_iff_runsFit shortPacket 28 _ hp).mpr hfit⟩

theorem getPacketResults_eq_none {p : Packet} {n : Nat} {cs : List Chunk} (hd : p.deltas = [])
    (hc : p.chunks = .runLength .smallDelta (n + 1) :: cs) : p.getPacketResults = none := by
  simp [Packet.getPacketResults, hd, hc, Chunk.statuses, replicate_succ, fillResults, fillDeltas, Status.received]

/-- Eight runs of 8191 received packets and one of 8, which take the 16-bit counters to 0, and then eight runs of 8191 missing
packets and one of 7. -/
def wrappingPacket : List UInt8 :=
  [0x8f, 205, 0, 13, 0, 0, 0, 0, 0, 0, 0, 1, 0, 10, 0xff, 0xff, 0, 0, 2, 0,
    0x3f, 0xff, 0x3f, 0xff, 0x3f, 0xff, 0x3f, 0xff, 0x3f, 0xff, 0x3f, 0xff, 0x3f, 0xff, 0x3f, 0xff, 0x20, 8,
    0x1f, 0xff, 0x1f, 0xff, 0x1f, 0xff, 0x1f, 0xff, 0x1f, 0xff, 0x1f, 0xff, 0x1f, 0xff, 0x1f, 0xff, 0, 7]

theorem wrappingPacket_unsound :
    ∃ p, parse wrappingPacket 56 = .ok p ∧ (p.chunks.map getCount).sum = 131071 ∧ p.packetStatusCount = 65535 ∧
      p.getPacketResults = none ∧ ¬ Sound p := by
  have hp : parse wrappingPacket 56 = .ok
      { senderSsrc := 0, mediaSsrc := 1, baseSequenceNumber := 10, packetStatusCount := 65535, referenceTime := 2,
        chunks := List.replicate 8 (.runLength .smallDelta 8191) ++ [.runLength .smallDelta 8] ++
          List.replicate 8 (.runLength .notReceived 8191) ++ [.runLength .notReceived 7],
        deltas := [], deltasAndChunksSize := 36, size := 56 } := by decide +kernel
  refine ⟨_, hp, by decide, rfl, getPacketResults_eq_none rfl rfl, fun h => ?_⟩
  exact absurd h.count_eq (by decide)

end Mediasoup.Rtcp.FeedbackRtpTransport
