import Mediasoup.Rtp.StreamSend

/-!
# The items of a NACK packet

The first number of a list of lost packets becomes the packet id of an item, the numbers at most 16 ahead of it become bits of
its mask, and so on with the next number (`nackItems`). The sender reads an item back in the loop of
`FillRetransmissionContainer` (`requestedSeqs`).
-/

namespace Mediasoup.Rtp

open List RtpStreamSend NackItem

/-! ## Building the items -/

/-- The inner loop: the numbers that fit the mask of an item, and those that are left. -/
def gather (seq : UInt16) (bitmask : UInt16) : List UInt16 → UInt16 × List UInt16
  | [] => (bitmask, [])
  | next :: rest =>
    if next - seq - 1 > 15 then (bitmask, next :: rest)
    else gather seq (bitmask ||| (1 <<< (next - seq - 1))) rest

theorem length_gather (seq : UInt16) : ∀ (bitmask : UInt16) (l : List UInt16), (gather seq bitmask l).2.length ≤ l.length
  | _, [] => le_rfl
  | bitmask, next :: rest => by
    rw [gather]
    split
    · exact le_rfl
    · exact (length_gather seq _ rest).trans (Nat.le_succ _)

def nackItems : List UInt16 → List NackItem
  | [] => []
  | seq :: rest =>
    { packetId := seq, lostPacketBitmask := (gather seq 0 rest).1 } :: nackItems (gather seq 0 rest).2
termination_by l => l.length
decreasing_by exact Nat.lt_succ_of_le (length_gather seq 0 rest)

/-! ## Reading them -/

/-- The numbers that `FillRetransmissionContainer` looks for. -/
def NackItem.requested (item : NackItem) : List UInt16 :=
  requestedSeqs 17 true item.lostPacketBitmask.toNat item.packetId

/-- The bits of a mask of `k` bits that are set, from the lowest. -/
def setBits (k bitmask : Nat) : List Nat := (List.range k).filter bitmask.testBit

theorem setBits_succ (k bitmask : Nat) :
    setBits (k + 1) bitmask = (if bitmask % 2 = 1 then [0] else []) ++ (setBits k (bitmask / 2)).map Nat.succ := by
  have htest : bitmask.testBit ∘ Nat.succ = (bitmask / 2).testBit := by
    funext i
    exact Nat.testBit_succ bitmask i
  rw [setBits, range_succ_eq_map, filter_cons, filter_map, htest, Nat.testBit_zero]
  by_cases hodd : bitmask % 2 = 1
  · rw [if_pos (decide_eq_true hodd), if_pos hodd]
    rfl
  · rw [if_neg (by simpa using hodd), if_neg hodd]
    rfl

theorem requestedSeqs_eq : ∀ (k : Nat) {n : Nat} (requested : Bool) {bitmask : Nat} (currentSeq : UInt16),
    bitmask < 2 ^ k → k < n → requestedSeqs n requested bitmask currentSeq =
      (if requested then [currentSeq] else []) ++ (setBits k bitmask).map fun i => currentSeq + 1 + UInt16.ofNat i
  | _, 0, _, _, _, _, hn => absurd hn (Nat.not_lt_zero _)
  | 0, n + 1, requested, bitmask, currentSeq, hmask, _ => by
    obtain rfl : bitmask = 0 := by simpa using hmask
    have hrest : requestedSeqs n false 0 (currentSeq + 1) = [] := by
      cases n <;> simp [requestedSeqs]
    cases requested <;> simp [requestedSeqs, setBits, hrest]
  | k + 1, n + 1, requested, bitmask, currentSeq, hmask, hn => by
    have hhalf : bitmask / 2 < 2 ^ k := by
      omega
    have ih := requestedSeqs_eq k (bitmask % 2 == 1) (currentSeq + 1) hhalf (Nat.lt_of_succ_lt_succ hn)
    have hshift : ∀ i : Nat, currentSeq + 1 + 1 + UInt16.ofNat i = currentSeq + 1 + UInt16.ofNat (i + 1) := by
      intro i
      rw [UInt16.ofNat_add, UInt16.add_assoc (currentSeq + 1), UInt16.add_comm 1]
      rfl
    rw [setBits_succ, map_append, map_map]
    unfold requestedSeqs
    by_cases hloop : (requested || decide (bitmask ≠ 0)) = true
    · rw [if_pos hloop, ih]
      by_cases hodd : bitmask % 2 = 1
      · simp [hodd, hshift, Function.comp_def]
        cases requested <;> simp
      · simp [hodd, hshift, Function.comp_def]
        cases requested <;> simp
    · -- the loop is over: nothing is requested and no bit is left
      obtain ⟨rfl, rfl⟩ : requested = false ∧ bitmask = 0 := by simpa using hloop
      simp [setBits]

/-! ## The round trip -/

/-- The numbers rise from the first one, and do not come round to it. -/
def CircularlyIncreasing : List UInt16 → Prop
  | [] => True
  | first :: rest => (first :: rest).Pairwise fun a b => (a - first).toNat < (b - first).toNat

instance : DecidablePred CircularlyIncreasing
  | [] => .isTrue trivial
  | first :: rest =>
    inferInstanceAs (Decidable ((first :: rest).Pairwise fun a b => (a - first).toNat < (b - first).toNat))

theorem CircularlyIncreasing.rest {first : UInt16} {l₁ l₂ : List UInt16}
    (h : CircularlyIncreasing (first :: (l₁ ++ l₂))) : CircularlyIncreasing l₂ := by
  have hpair : l₂.Pairwise fun a b => (a - first).toNat < (b - first).toNat :=
    (pairwise_append.mp (pairwise_cons.mp h).2).2.1
  cases l₂ with
  | nil => trivial
  | cons second rest =>
    -- the distances from the second number are those from the first, less its own
    have hle : ∀ a ∈ second :: rest, (second - first).toNat ≤ (a - first).toNat := by
      intro a ha
      rcases mem_cons.mp ha with rfl | ha
      · exact le_rfl
      · exact ((pairwise_cons.mp hpair).1 a ha).le
    refine hpair.imp_of_mem ?_
    intro a b ha hb hlt
    have hla := hle a ha
    have hlb := hle b hb
    simp only [UInt16.toNat_sub] at hlt hla hlb ⊢
    have := second.toNat_lt
    omega

theorem testBit_or_shiftLeft {bitmask shift : UInt16} (hshift : ¬ shift > 15) (i : Nat) :
    (bitmask ||| (1 <<< shift)).toNat.testBit i = (bitmask.toNat.testBit i || decide (shift.toNat = i)) := by
  have hlt : shift.toNat < 16 := by
    exact Nat.lt_succ_of_le (not_lt.mp hshift)
  have hpow : (1 <<< shift : UInt16).toNat = 2 ^ shift.toNat := by
    rw [UInt16.toNat_shiftLeft, UInt16.toNat_one, Nat.mod_eq_of_lt hlt, Nat.one_shiftLeft,
      Nat.mod_eq_of_lt (Nat.pow_lt_pow_right (by decide) hlt)]
  rw [UInt16.toNat_or, Nat.testBit_or, hpow, Nat.testBit_two_pow]

theorem gather_spec (seq : UInt16) : ∀ (bitmask : UInt16) (l : List UInt16), ∃ taken,
    l = taken ++ (gather seq bitmask l).2 ∧ (∀ s ∈ taken, (s - seq - 1).toNat < 16) ∧
      ∀ i, (gather seq bitmask l).1.toNat.testBit i = true ↔
        bitmask.toNat.testBit i = true ∨ ∃ s ∈ taken, (s - seq - 1).toNat = i
  | bitmask, [] => ⟨[], rfl, by simp, by simp [gather]⟩
  | bitmask, next :: rest => by
    rw [gather]
    by_cases hshift : next - seq - 1 > 15
    · rw [if_pos hshift]
      exact ⟨[], rfl, by simp, by simp⟩
    rw [if_neg hshift]
    obtain ⟨taken, heq, hlt, hbits⟩ := gather_spec seq (bitmask ||| (1 <<< (next - seq - 1))) rest
    refine ⟨next :: taken, congrArg (next :: ·) heq, ?_, ?_⟩
    · intro s hs
      rcases mem_cons.mp hs with rfl | hs
      · exact Nat.lt_succ_of_le (not_lt.mp hshift)
      · exact hlt s hs
    · intro i
      rw [hbits, testBit_or_shiftLeft hshift, Bool.or_eq_true, decide_eq_true_eq]
      simp only [mem_cons, exists_eq_or_imp]
      exact or_assoc

theorem setBits_gather {seq : UInt16} {rest taken : List UInt16} (h : CircularlyIncreasing (seq :: rest))
    (heq : rest = taken ++ (gather seq 0 rest).2) (hlt : ∀ s ∈ taken, (s - seq - 1).toNat < 16)
    (hbits : ∀ i, (gather seq 0 rest).1.toNat.testBit i = true ↔
      (0 : UInt16).toNat.testBit i = true ∨ ∃ s ∈ taken, (s - seq - 1).toNat = i) :
    setBits 16 (gather seq 0 rest).1.toNat = taken.map fun s => (s - seq - 1).toNat := by
  obtain ⟨hpos, hpair⟩ := pairwise_cons.mp h
  rw [heq] at hpair hpos
  -- both lists rise and have the same members
  refine List.Pairwise.eq_of_mem_iff (r := (· < ·)) ?_ ?_ ?_
  · exact pairwise_lt_range.filter _
  · refine pairwise_map.mpr ((pairwise_append.mp hpair).1.imp_of_mem ?_)
    intro a b ha _ hab
    have ha0 := hpos a (mem_append_left _ ha)
    simp only [UInt16.toNat_sub, UInt16.toNat_one] at hab ha0 ⊢
    omega
  · intro i
    simp only [setBits, mem_filter, mem_range, mem_map, hbits, UInt16.toNat_zero, Nat.zero_testBit,
      Bool.false_eq_true, false_or]
    constructor
    · exact fun hi => hi.2
    · rintro ⟨s, hs, rfl⟩
      exact ⟨hlt s hs, s, hs, rfl⟩

theorem NackItem.requested_eq (item : NackItem) : item.requested =
      item.packetId :: (setBits 16 item.lostPacketBitmask.toNat).map fun i => item.packetId + 1 + UInt16.ofNat i :=
  requestedSeqs_eq 16 true item.packetId item.lostPacketBitmask.toNat_lt (by decide)

theorem NackItem.countRequestedPackets_eq (item : NackItem) : item.countRequestedPackets = item.requested.length := by
  rw [item.requested_eq, length_cons, length_map, setBits, ← countP_eq_length_filter]
  rfl

theorem flatMap_requested_nackItems : ∀ (l : List UInt16), CircularlyIncreasing l → (nackItems l).flatMap NackItem.requested = l
  | [], _ => by simp [nackItems]
  | seq :: rest, h => by
    obtain ⟨taken, heq, hlt, hbits⟩ := gather_spec seq 0 rest
    have hrest : CircularlyIncreasing (gather seq 0 rest).2 := by
      rw [heq] at h
      exact h.rest
    have hback : ∀ s : UInt16, seq + 1 + UInt16.ofNat (s - seq - 1).toNat = s := by
      intro s
      rw [UInt16.ofNat_toNat, UInt16.add_assoc, UInt16.add_comm 1, UInt16.sub_add_cancel, UInt16.add_comm,
        UInt16.sub_add_cancel]
    rw [nackItems, flatMap_cons, requested_eq, setBits_gather h heq hlt hbits, map_map,
      flatMap_requested_nackItems _ hrest]
    simp only [Function.comp_def, hback, map_id', cons_append]
    rw [← heq]
termination_by l => l.length
decreasing_by exact Nat.lt_succ_of_le (length_gather seq 0 rest)

/-! ## The container -/

/-- `MaxRequestedPackets + 1`, the size of the vector. -/
def retransmissionContainerSize : Nat := 18

theorem length_request (nowMs : Nat) (f : Filling) (seq : UInt16) :
    (f.request nowMs seq).container.length ≤ f.container.length + 1 := by
  unfold Filling.request
  split
  · exact Nat.le_succ _
  dsimp only
  split
  · exact Nat.le_succ _
  · simp [Filling.resend]

theorem length_requests (nowMs : Nat) : ∀ (seqs : List UInt16) (f : Filling),
    (seqs.foldl (Filling.request nowMs) f).container.length ≤ f.container.length + seqs.length
  | [], _ => le_rfl
  | seq :: seqs, f => by
    have ih := length_requests nowMs seqs (f.request nowMs seq)
    have hone := length_request nowMs f seq
    rw [foldl_cons, length_cons]
    omega

theorem length_container_lt (s : RtpStreamSend) (clones : List Packet) (nowMs : Nat) (item : NackItem) :
    (s.fillRetransmissionContainer clones nowMs item.packetId item.lostPacketBitmask).container.length <
      retransmissionContainerSize := by
  have hbound := length_requests nowMs item.requested { stream := s, clones := clones }
  have hrequested : item.requested.length ≤ 17 := by
    have hbits := length_filter_le item.lostPacketBitmask.toNat.testBit (List.range 16)
    rw [length_range] at hbits
    rw [item.requested_eq, length_cons, length_map, setBits]
    omega
  have hnil : ({ stream := s, clones := clones } : Filling).container.length = 0 := rfl
  unfold fillRetransmissionContainer retransmissionContainerSize
  unfold NackItem.requested at hbound hrequested
  omega

/-- The sender visits exactly the numbers that the receiver has put into the items, once each and in their order, and has room
for them. -/
theorem decode_nackItems (seqNumbers : List UInt16) (h : CircularlyIncreasing seqNumbers) :
    (nackItems seqNumbers).flatMap NackItem.requested = seqNumbers ∧
      ((nackItems seqNumbers).map countRequestedPackets).sum = seqNumbers.length ∧
      ∀ item ∈ nackItems seqNumbers, ∀ (s : RtpStreamSend) (clones : List Packet) (nowMs : Nat),
        (s.fillRetransmissionContainer clones nowMs item.packetId item.lostPacketBitmask).container.length <
          retransmissionContainerSize := by
  have hround := flatMap_requested_nackItems seqNumbers h
  refine ⟨hround, ?_, fun item _ s clones nowMs => length_container_lt s clones nowMs item⟩
  rw [show countRequestedPackets = fun item => item.requested.length from
    funext countRequestedPackets_eq, ← length_flatMap, hround]

theorem decode_wrap : nackItems [65000, 65534, 65535, 0, 14, 15, 30] = [⟨65000, 0⟩, ⟨65534, 0x8003⟩, ⟨15, 0x4000⟩] ∧
    (nackItems [65000, 65534, 65535, 0, 14, 15, 30]).flatMap NackItem.requested = [65000, 65534, 65535, 0, 14, 15, 30] :=
  ⟨by decide +kernel, (decode_nackItems _ (by decide)).1⟩

end Mediasoup.Rtp
