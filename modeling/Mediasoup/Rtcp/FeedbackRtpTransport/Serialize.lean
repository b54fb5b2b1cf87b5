import Mediasoup.Rtcp.FeedbackRtpTransport.FillChunk

/-!
# Reading back a serialized feedback packet

The parser makes each chunk of the two bytes it was written as (`Chunk.parse_serialized`), stops after the last chunk
because the statuses add up (`scanChunks_serialize`), and reads the deltas with the widths the statuses announce
(`scanDeltas_serialize`). Together: `parse_serialize_finished`, for every finished packet whose history fits 16 bits.
-/

namespace Mediasoup.Rtcp.FeedbackRtpTransport

open Utils List Cursor Chunk

/-! ## Chunks -/

theorem Status.OnWire.ofBits_value {s : Status} (hs : s.OnWire) : Status.ofBits s.value = s := by
  rcases hs with rfl | rfl | rfl <;> rfl

theorem Status.OnWire.value_lt {s : Status} (hs : s.OnWire) : s.value < 4 := by
  rcases hs with rfl | rfl | rfl <;> decide

theorem vectorBits_lt : ∀ {ss : List Status} {k : Nat}, ss.length ≤ k + 1 → (∀ s ∈ ss, s.OnWire) →
    vectorBits 2 (2 * k) ss < 4 ^ (k + 1)
  | [], _, _, _ => by simp [vectorBits]
  | s :: ss, k, hlen, hs => by
    have hval := (hs s mem_cons_self).value_lt
    have hpow : (2 : Nat) ^ (2 * k) = 4 ^ k := by rw [Nat.pow_mul]
    have hrest : vectorBits 2 (2 * k - 2) ss < 4 ^ k := by
      cases k with
      | zero =>
        obtain rfl : ss = [] := length_eq_zero_iff.mp (by simpa using hlen)
        simp [vectorBits]
      | succ k => exact vectorBits_lt (by simpa using hlen) fun t ht => hs t (mem_cons_of_mem _ ht)
    have hmul : s.value * 4 ^ k ≤ 3 * 4 ^ k := Nat.mul_le_mul_right _ (by omega)
    rw [vectorBits, hpow, Nat.pow_succ]
    omega

theorem vectorBits_get : ∀ {ss : List Status} {k : Nat}, ss.length ≤ k + 1 → (∀ s ∈ ss, s.OnWire) →
    ∀ (above i : Nat) (hi : i < ss.length),
      (above * 4 ^ (k + 1) + vectorBits 2 (2 * k) ss) / 4 ^ (k - i) % 4 = (ss.get ⟨i, hi⟩).value
  | [], _, _, _, _, _, hi => absurd hi (Nat.not_lt_zero _)
  | s :: ss, k, hlen, hs, above, i, hi => by
    have hval := (hs s mem_cons_self).value_lt
    have htail : ∀ t ∈ ss, t.OnWire := fun t ht => hs t (mem_cons_of_mem _ ht)
    have hpow : (2 : Nat) ^ (2 * k) = 4 ^ k := by rw [Nat.pow_mul]
    have hsplit : above * 4 ^ (k + 1) + vectorBits 2 (2 * k) (s :: ss) =
        (above * 4 + s.value) * 4 ^ k + vectorBits 2 (2 * k - 2) ss := by
      rw [vectorBits, hpow]
      ring
    rw [hsplit]
    cases k with
    | zero =>
      obtain rfl : ss = [] := length_eq_zero_iff.mp (by simpa using hlen)
      obtain rfl : i = 0 := by simpa using hi
      simp only [vectorBits, get_eq_getElem, getElem_cons_zero, Nat.pow_zero]
      omega
    | succ k =>
      have hlen' : ss.length ≤ k + 1 := by simpa using hlen
      cases i with
      | zero =>
        have hlt := vectorBits_lt hlen' htail
        have hpos : 0 < 4 ^ (k + 1) := Nat.pow_pos (by decide)
        show ((above * 4 + s.value) * 4 ^ (k + 1) + vectorBits 2 (2 * k) ss) / 4 ^ (k + 1) % 4 = s.value
        rw [Nat.add_comm, Nat.add_mul_div_right _ _ hpos, Nat.div_eq_of_lt hlt]
        omega
      | succ i =>
        have ih := vectorBits_get hlen' htail (above * 4 + s.value) i (by simpa using hi)
        rw [Nat.succ_sub_succ]
        exact ih

variable {remaining : Nat}

theorem parseTwoBitVector_serialize {ss : List Status} (hlen : ss.length = min 7 remaining)
    (hs : ∀ s ∈ ss, s.OnWire) :
    parseTwoBitVector (0x8000 + 2 ^ 14 + vectorBits 2 12 ss) remaining = .twoBitVector ss := by
  have hle : ss.length ≤ 6 + 1 := by omega
  rw [parseTwoBitVector, ← hlen]
  congr 1
  apply ext_getElem (by simp)
  intro i hi hi'
  have hget := vectorBits_get hle hs 3 i hi'
  have hpow : (2 : Nat) ^ (2 * (7 - 1 - i)) = 4 ^ (6 - i) := by rw [Nat.pow_mul]
  rw [getElem_map, getElem_range, hpow]
  rw [show 0x8000 + 2 ^ 14 + vectorBits 2 12 ss = 3 * 4 ^ (6 + 1) + vectorBits 2 (2 * 6) ss from rfl, hget]
  exact (hs _ (getElem_mem hi')).ofBits_value

theorem Chunk.parse_serialized {c : Chunk} (hc : c.Fits remaining) :
    ∃ b0 b1, c.serialize = .ok [b0, b1] ∧ Chunk.parse b0 b1 remaining = some c := by
  cases c with
  | oneBitVector ss => exact hc.elim
  | runLength s n =>
    obtain ⟨hs, hn⟩ := hc
    refine ⟨_, _, rfl, ?_⟩
    have hmod : n % 0x2000 = n := Nat.mod_eq_of_lt (by omega)
    have hval : s.value < 3 := by rcases hs with rfl | rfl | rfl <;> decide
    have hword : get2Bytes (.ofNat ((s.value * 2 ^ 13 + n % 0x2000) / 256)) (.ofNat (s.value * 2 ^ 13 + n % 0x2000)) =
        s.value * 2 ^ 13 + n := by
      rw [get2Bytes_set2Bytes, hmod]
      omega
    have hrun : parseRunLength (s.value * 2 ^ 13 + n) = .runLength s n := by
      rw [parseRunLength, show (s.value * 2 ^ 13 + n) / 2 ^ 13 % 4 = s.value by omega, hs.ofBits_value,
        show (s.value * 2 ^ 13 + n) % 0x2000 = n by omega]
    rw [Chunk.parse, hword, if_pos (by omega), hrun]
    rcases hs with rfl | rfl | rfl <;> rfl
  | twoBitVector ss =>
    obtain ⟨hlen, hs⟩ := hc
    have hle : ss.length ≤ 6 + 1 := by omega
    have hlt : vectorBits 2 12 ss < 2 ^ 14 := vectorBits_lt (k := 6) hle hs
    have hparse := parseTwoBitVector_serialize hlen hs
    refine ⟨_, _, if_pos hle, ?_⟩
    generalize vectorBits 2 12 ss = v at hlt hparse ⊢
    have hword : get2Bytes (.ofNat ((0x8000 + 2 ^ 14 + v) / 256)) (.ofNat (0x8000 + 2 ^ 14 + v)) = 0x8000 + 2 ^ 14 + v := by
      rw [get2Bytes_set2Bytes]
      omega
    have hbit : (UInt8.ofNat ((0x8000 + 2 ^ 14 + v) / 256)).toNat / 0x40 % 2 = 1 := by
      rw [UInt8.toNat_ofNat']
      omega
    rw [Chunk.parse, hword, if_neg (by omega), hbit, if_neg (by decide), hparse]

theorem scanChunks_done {psc : Nat} (content : List UInt8) (len received : Nat) :
    scanChunks psc content len psc received = .ok ⟨[], ⟨content, len⟩, psc, received⟩ := by
  match content with
  | [] | [_] | _ :: _ :: _ => simp [scanChunks]

theorem scanChunks_serialize : ∀ {cs : List Chunk} {remaining : Nat}, ChunksFit remaining cs →
    ∃ bytes, serializeChunks cs = .ok bytes ∧ bytes.length = 2 * cs.length ∧
      ∀ (psc count received len : Nat) (rest : List UInt8), psc = count + remaining → psc < 2 ^ 16 →
        received ≤ count → bytes.length ≤ len →
        scanChunks psc (bytes ++ rest) len count received =
          .ok ⟨cs, ⟨rest, len - bytes.length⟩, psc, received + (cs.map getReceivedStatusCount).sum⟩
  | [], remaining, hfit => by
    refine ⟨[], rfl, rfl, fun psc count received len rest hpsc _ _ _ => ?_⟩
    obtain rfl : remaining = 0 := hfit
    subst hpsc
    exact scanChunks_done rest _ _
  | c :: cs, remaining, ⟨hc, hone, hle, hfit⟩ => by
    obtain ⟨b0, b1, hser, hparse⟩ := parse_serialized hc
    obtain ⟨bytes, hbytes, hlen, hscan⟩ := scanChunks_serialize hfit
    refine ⟨b0 :: b1 :: bytes, ?_, ?_, ?_⟩
    · simp [serializeChunks, hser, hbytes, bind, Except.bind, pure, Except.pure]
    · simp only [length_cons, hlen]
      omega
    · intro psc count received len rest hpsc hlt hrec hroom
      have hrle := c.getReceivedStatusCount_le
      simp only [length_cons] at hroom
      have hrem : psc - count = remaining := by omega
      have ih := hscan psc (count + c.getCount) (received + c.getReceivedStatusCount) (len - 2) rest
        (by omega) hlt (by omega) (by omega)
      simp only [cons_append, scanChunks, hrem, hparse]
      rw [if_pos ⟨by omega, by omega⟩, if_neg (by omega), Nat.mod_eq_of_lt (show count + c.getCount < 2 ^ 16 by omega),
        Nat.mod_eq_of_lt (show received + c.getReceivedStatusCount < 2 ^ 16 by omega), ih]
      simp only [bind, Except.bind, pure, Except.pure, map_cons, sum_cons, length_cons]
      rw [Nat.add_assoc, show len - 2 - bytes.length = len - (bytes.length + 1 + 1) by omega]

/-! ## Deltas -/

def Cursor.ofBytes (bytes : List UInt8) : Cursor := ⟨bytes, bytes.length⟩

def deltaBytes (h : List (Option Int)) : List UInt8 := (h.filterMap id).flatMap serializeDelta

@[simp] theorem deltaBytes_some (d : Int) (h : List (Option Int)) :
    deltaBytes (some d :: h) = serializeDelta d ++ deltaBytes h := rfl

theorem deltaBytes_append (h h' : List (Option Int)) : deltaBytes (h ++ h') = deltaBytes h ++ deltaBytes h' := by
  simp [deltaBytes]

def InRange (h : List (Option Int)) : Prop := ∀ d, some d ∈ h → -32768 ≤ d ∧ d ≤ 32767

theorem length_serializeDelta (d : Int) : (serializeDelta d).length = deltaSize d := by
  unfold serializeDelta deltaSize
  split <;> rfl

theorem get1Byte_serializeDelta {d : Int} (hd : 0 ≤ d ∧ d ≤ 255) (rest : List UInt8) :
    (ofBytes (serializeDelta d ++ rest)).get1Byte = .ok (d, .ofBytes rest) := by
  have hbyte : ((UInt8.ofNat d.toNat).toNat : Int) = d := by
    rw [UInt8.toNat_ofNat']
    omega
  rw [serializeDelta, if_pos hd]
  show Except.ok (((UInt8.ofNat d.toNat).toNat : Int), _) = _
  rw [hbyte]
  rfl

theorem get2Bytes_serializeDelta {d : Int} (hd : ¬ (0 ≤ d ∧ d ≤ 255)) (hlo : -32768 ≤ d) (hhi : d ≤ 32767)
    (rest : List UInt8) :
    (ofBytes (serializeDelta d ++ rest)).get2Bytes = .ok (d, .ofBytes rest) := by
  rw [serializeDelta, if_neg hd]
  show Except.ok (toInt16 (get2Bytes (.ofNat (ofInt16 d / 256)) (.ofNat (ofInt16 d))), _) = _
  rw [get2Bytes_set2Bytes, Nat.mod_eq_of_lt (ofInt16_lt d), toInt16_ofInt16 hlo hhi]
  rfl

theorem len_serializeDelta (d : Int) (rest : List UInt8) :
    (ofBytes (serializeDelta d ++ rest)).len = deltaSize d + rest.length := by
  rw [ofBytes, length_append, length_serializeDelta]

theorem readN_deltas (read : Cursor → Except Failure (Int × Cursor)) {n : Nat} (rest : List UInt8) :
    ∀ {h : List (Option Int)}, (∀ o ∈ h, ∃ d, o = some d ∧ deltaSize d = n ∧
      ∀ rest, read (.ofBytes (serializeDelta d ++ rest)) = .ok (d, .ofBytes rest)) →
    h.length * n ≤ (ofBytes (deltaBytes h ++ rest)).len ∧
      readN read h.length (.ofBytes (deltaBytes h ++ rest)) = .ok (h.filterMap id, .ofBytes rest)
  | [], _ => ⟨by simp, rfl⟩
  | o :: h, hs => by
    obtain ⟨d, rfl, hsize, hread⟩ := hs o mem_cons_self
    obtain ⟨hlen, ih⟩ := readN_deltas read rest (h := h) fun o ho => hs o (mem_cons_of_mem _ ho)
    rw [deltaBytes_some, append_assoc]
    constructor
    · rw [len_serializeDelta, hsize, length_cons, Nat.succ_mul, Nat.add_comm]
      exact Nat.add_le_add_left hlen _
    · rw [length_cons, readN, hread]
      simp [bind, Except.bind, pure, Except.pure, ih]

theorem exists_of_statusOf_small {o : Option Int} (h : statusOf o = .smallDelta) : ∃ d, o = some d ∧ 0 ≤ d ∧ d ≤ 255 := by
  cases o with
  | none => cases h
  | some d => exact ⟨d, rfl, by simpa [statusOf] using h⟩

theorem exists_of_statusOf_large {o : Option Int} (h : statusOf o = .largeDelta) : ∃ d, o = some d ∧ ¬(0 ≤ d ∧ d ≤ 255) := by
  cases o with
  | none => cases h
  | some d => exact ⟨d, rfl, by simpa [statusOf] using h⟩

theorem addTwoBitDeltas_serialize (rest : List UInt8) : ∀ {h : List (Option Int)}, InRange h →
    addTwoBitDeltas (h.map statusOf) (.ofBytes (deltaBytes h ++ rest)) = .ok (h.filterMap id, .ofBytes rest)
  | [], _ => rfl
  | none :: h, hr => addTwoBitDeltas_serialize rest (h := h) fun d hd => hr d (mem_cons_of_mem _ hd)
  | some d :: h, hr => by
    obtain ⟨hlo, hhi⟩ := hr d mem_cons_self
    have ih := addTwoBitDeltas_serialize rest (h := h) fun d hd => hr d (mem_cons_of_mem _ hd)
    have hroom := len_serializeDelta d (deltaBytes h ++ rest)
    rw [map_cons, deltaBytes_some, append_assoc]
    by_cases hd : 0 ≤ d ∧ d ≤ 255
    · rw [deltaSize, if_pos hd] at hroom
      rw [show statusOf (some d) = .smallDelta from if_pos hd, addTwoBitDeltas, if_neg (by omega),
        get1Byte_serializeDelta hd]
      simp [bind, Except.bind, pure, Except.pure, ih]
    rw [deltaSize, if_neg hd] at hroom
    rw [show statusOf (some d) = .largeDelta from if_neg hd, addTwoBitDeltas, if_neg (by omega),
      get2Bytes_serializeDelta hd hlo hhi]
    simp [bind, Except.bind, pure, Except.pure, ih]

variable {h : List (Option Int)}

theorem addDeltas_serialize {c : Chunk} (hc : c.Fits remaining)
    (hs : c.statuses = h.map statusOf) (hr : InRange h) (rest : List UInt8) :
    (ofBytes (deltaBytes h ++ rest)).addDeltas c = .ok (h.filterMap id, .ofBytes rest) := by
  cases c with
  | oneBitVector ss => exact hc.elim
  | twoBitVector ss =>
    obtain rfl : ss = h.map statusOf := hs
    exact addTwoBitDeltas_serialize rest hr
  | runLength s n =>
    have hn : n = h.length := by simpa [statuses] using congrArg List.length hs
    have hsame : ∀ o ∈ h, statusOf o = s := by
      intro o ho
      have hmem : statusOf o ∈ h.map statusOf := mem_map_of_mem ho
      rw [← hs] at hmem
      exact eq_of_mem_replicate hmem
    rw [hn]
    rcases hc.1 with rfl | rfl | rfl
    · have hnone : ∀ o ∈ h, o = none := by
        intro o ho
        have hmiss := hsame o ho
        cases o with
        | none => rfl
        | some d => by_cases hd : 0 ≤ d ∧ d ≤ 255 <;> simp [statusOf, hd] at hmiss
      have hnil : h.filterMap id = [] := filterMap_eq_nil_iff.mpr hnone
      rw [deltaBytes, hnil]
      rfl
    · obtain ⟨hlen, hread⟩ := readN_deltas get1Byte (n := 1) rest fun o ho => by
        obtain ⟨d, rfl, hd⟩ := exists_of_statusOf_small (hsame o ho)
        exact ⟨d, rfl, if_pos hd, get1Byte_serializeDelta hd⟩
      rw [addDeltas, if_neg (by omega), hread]
    · obtain ⟨hlen, hread⟩ := readN_deltas Cursor.get2Bytes (n := 2) rest fun o ho => by
        obtain ⟨d, rfl, hd⟩ := exists_of_statusOf_large (hsame o ho)
        exact ⟨d, rfl, if_neg hd, get2Bytes_serializeDelta hd (hr d ho).1 (hr d ho).2⟩
      rw [addDeltas, if_neg (by omega), hread]

theorem filterMap_eq_nil_of_deltaBytes (hnil : deltaBytes h = []) : h.filterMap id = [] := by
  cases hds : h.filterMap id with
  | nil => rfl
  | cons d ds =>
    have hsize := length_serializeDelta d
    rw [deltaBytes, hds, flatMap_cons, append_eq_nil_iff] at hnil
    rw [hnil.1] at hsize
    unfold deltaSize at hsize
    split at hsize <;> cases hsize

theorem scanDeltas_serialize (rest : List UInt8) : ∀ {cs : List Chunk} {remaining : Nat} {h : List (Option Int)},
    ChunksFit remaining cs → cs.flatMap statuses = h.map statusOf → InRange h →
    scanDeltas cs (.ofBytes (deltaBytes h ++ rest)) = .ok (h.filterMap id, .ofBytes rest)
  | [], _, h, _, hs, _ => by
    obtain rfl : h = [] := by simpa using hs.symm
    rfl
  | c :: cs, _, h, ⟨hc, _, _, hfit⟩, hs, hr => by
    obtain ⟨h₁, h₂, rfl, hs₁, hs₂⟩ := map_eq_append_iff.mp hs.symm
    have hr₁ : InRange h₁ := fun d hd => hr d (mem_append_left _ hd)
    have hr₂ : InRange h₂ := fun d hd => hr d (mem_append_right _ hd)
    have ih := scanDeltas_serialize rest hfit hs₂.symm hr₂
    by_cases hlen : (ofBytes (deltaBytes (h₁ ++ h₂) ++ rest)).len > 0
    · rw [scanDeltas, if_pos hlen, deltaBytes_append, append_assoc, addDeltas_serialize hc hs₁.symm hr₁]
      simp [bind, Except.bind, pure, Except.pure, ih]
    -- no bytes are left: the loop ends early, with all deltas read
    have hnil : deltaBytes (h₁ ++ h₂) ++ rest = [] := by
      simpa [ofBytes] using hlen
    obtain ⟨hbytes, rfl⟩ := append_eq_nil_iff.mp hnil
    rw [filterMap_eq_nil_of_deltaBytes hbytes, hbytes]
    rfl

/-! ## The packet -/

theorem length_deltaBytes (h : List (Option Int)) : (deltaBytes h).length = ((h.filterMap id).map deltaSize).sum := by
  unfold deltaBytes
  rw [length_flatMap]
  simp only [length_serializeDelta]

theorem sum_deltaSize_le (ds : List Int) : (ds.map deltaSize).sum ≤ 2 * ds.length := by
  induction ds with
  | nil => exact Nat.le_refl 0
  | cons d ds ih =>
    have hd : deltaSize d ≤ 2 := by
      unfold deltaSize
      split <;> decide
    rw [map_cons, sum_cons, length_cons]
    omega

theorem countP_statusOf (h : List (Option Int)) : (h.map statusOf).countP Status.received = (h.filterMap id).length := by
  induction h with
  | nil => rfl
  | cons o h ih =>
    cases o with
    | none => simpa [statusOf, Status.received] using ih
    | some d =>
      have hrec : (statusOf (some d)).received = true := by
        by_cases hd : 0 ≤ d ∧ d ≤ 255 <;> simp [statusOf, hd, Status.received]
      rw [map_cons, countP_cons_of_pos hrec, ih]
      rfl

variable {p : Packet}

theorem serialize_finished (hf : Finished p h) {bytes : List UInt8}
    (hbytes : serializeChunks p.chunks = .ok bytes) : ∃ padding, p.serialize =
      .ok (p.header ++ (bytes ++ (deltaBytes h ++ padding))) ∧
      (p.header ++ (bytes ++ (deltaBytes h ++ padding))).length = padTo4 (20 + bytes.length + (deltaBytes h).length) := by
  have hpend : p.addPendingChunks = .ok p := if_pos hf.pending
  have hdeltas : p.deltas.flatMap serializeDelta = deltaBytes h := by rw [hf.deltas, deltaBytes]
  have hlen : (p.header ++ bytes ++ deltaBytes h).length = 20 + bytes.length + (deltaBytes h).length := by
    simp [Packet.header, set1Byte, set2Bytes, set3Bytes, set4Bytes]
    omega
  have hpad : 20 + bytes.length + (deltaBytes h).length ≤ padTo4 (20 + bytes.length + (deltaBytes h).length) := by
    unfold padTo4
    omega
  refine ⟨List.replicate (padTo4 (20 + bytes.length + (deltaBytes h).length) -
    (20 + bytes.length + (deltaBytes h).length)) 0, ?_, ?_⟩
  · simp only [Packet.serialize, hpend, hbytes, bind, Except.bind, pure, Except.pure, hdeltas, hlen]
    simp only [append_assoc]
  · rw [← append_assoc, ← append_assoc, length_append, hlen, length_replicate]
    omega

/-- The size of a packet that its length field can carry. -/
structure SizeFits (p : Packet) : Prop where
  low : 20 ≤ p.getSize
  high : p.getSize ≤ 262144
  words : p.getSize / 4 * 4 = p.getSize

theorem parse_header (hsize : SizeFits p) (hbase : p.baseSequenceNumber < 2 ^ 16)
    (href : p.referenceTime < 2 ^ 24) (hpsc : p.packetStatusCount < 2 ^ 16) {content : List UInt8} {scan : ChunkScan}
    {deltas : List Int} {cursor : Cursor} (hscan : scanChunks p.packetStatusCount content (p.getSize - 20) 0 0 = .ok scan)
    (hcount : scan.count = p.packetStatusCount) (hdeltas : scanDeltas scan.chunks scan.cursor = .ok (deltas, cursor))
    (hrec : deltas.length = scan.receivedPacketStatusCount) :
    ∃ q, parse (p.header ++ content) p.getSize = .ok q ∧ q.baseSequenceNumber = p.baseSequenceNumber ∧
      q.referenceTime = p.referenceTime ∧ q.packetStatusCount = p.packetStatusCount ∧ q.chunks = scan.chunks ∧
      q.deltas = deltas := by
  obtain ⟨hlow, hhigh, hwords⟩ := hsize
  have hfield : ((p.getSize / 4 - 1) % 65536 + 1) * 4 = p.getSize := by omega
  have hcontent : (p.getSize + 2 ^ 64 - (4 + 8 + 8)) % 2 ^ 64 = p.getSize - 20 := by omega
  have hpsc' : p.packetStatusCount % 65536 = p.packetStatusCount := Nat.mod_eq_of_lt hpsc
  have hbase' : p.baseSequenceNumber % 65536 = p.baseSequenceNumber := Nat.mod_eq_of_lt hbase
  have href' : p.referenceTime % 16777216 = p.referenceTime := Nat.mod_eq_of_lt href
  simp only [Packet.header, set1Byte, set2Bytes, set3Bytes, set4Bytes, cons_append, nil_append, parse,
    parseBody, get2Bytes_set2Bytes, get3Bytes_set3Bytes, hfield, hcontent, hpsc', hbase', href']
  rw [if_neg (by omega), if_neg (by omega)]
  simp only [hscan, hcount, hdeltas, hrec, bind, Except.bind, pure, Except.pure, ne_eq, not_true_eq_false, if_false]
  exact ⟨_, rfl, rfl, rfl, rfl, rfl, rfl⟩

theorem parse_serialize_finished (hf : Finished p h) (hlen : h.length < 2 ^ 16)
    (hr : InRange h) (hsize : p.size = 0) (hbase : p.baseSequenceNumber < 2 ^ 16) (href : p.referenceTime < 2 ^ 24) :
    ∃ bytes q, p.serialize = .ok bytes ∧ parse bytes bytes.length = .ok q ∧
      q.baseSequenceNumber = p.baseSequenceNumber ∧ q.referenceTime = p.referenceTime ∧
      q.packetStatusCount = h.length ∧ q.chunks = p.chunks ∧ q.deltas = h.filterMap id := by
  obtain ⟨chunks, hchunks, hclen, hscan⟩ := scanChunks_serialize hf.fit
  obtain ⟨padding, hser, htotal⟩ := serialize_finished hf hchunks
  have hdlen := length_deltaBytes h
  have hbound := sum_deltaSize_le (h.filterMap id)
  have hfew := hf.few
  have hcountd : (h.filterMap id).length ≤ h.length := length_filterMap_le _ _
  have hget : p.getSize = padTo4 (20 + chunks.length + (deltaBytes h).length) := by
    rw [Packet.getSize, if_neg (by simp [hsize]), hf.size, hf.deltas, hdlen, hclen]
    congr 1
    omega
  have hfits : SizeFits p := by
    constructor <;> rw [hget] <;> unfold padTo4 <;> omega
  have hroom : chunks.length ≤ p.getSize - 20 := by
    rw [hget]
    unfold padTo4
    omega
  have hrest : p.getSize - 20 - chunks.length = (deltaBytes h ++ padding).length := by
    have hsum := htotal
    simp only [length_append, show p.header.length = 20 from rfl] at hsum
    rw [hget, length_append]
    omega
  have hchunkScan := hscan p.packetStatusCount 0 0 (p.getSize - 20) (deltaBytes h ++ padding)
    (by rw [hf.count, Nat.zero_add]) (by rw [hf.count]; exact hlen) (Nat.le_refl 0) hroom
  rw [hrest] at hchunkScan
  have hdeltaScan := scanDeltas_serialize padding hf.fit hf.statuses hr
  have hreceived : (h.filterMap id).length = 0 + (p.chunks.map getReceivedStatusCount).sum := by
    rw [Nat.zero_add, ← countP_flatMap_statuses, hf.statuses, countP_statusOf]
  obtain ⟨q, hparse, hqb, hqr, hqp, hqc, hqd⟩ := parse_header hfits hbase href (by rw [hf.count]; exact hlen) hchunkScan
    rfl hdeltaScan hreceived
  refine ⟨_, q, hser, ?_, hqb, hqr, hqp.trans hf.count, hqc, hqd⟩
  rw [htotal, ← hget]
  exact hparse

end Mediasoup.Rtcp.FeedbackRtpTransport
