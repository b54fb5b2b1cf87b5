import Mediasoup.Rtp.BufferInvariant

/-!
# What the retransmission buffer finds

`Get` finds the items whose number is not taken for a lower one than that of the oldest item (`get_eq_some_iff`).

A packet for a blank place, with a timestamp between those of the nearest items, is stored there, unless the wrap of the
timestamps lies between the two items: they are compared as plain numbers (`stored_iff`).
-/

namespace Mediasoup.Rtp

open Lib Mediasoup.Seq List

namespace RetransmissionBuffer

variable {b b' : RetransmissionBuffer} {oldest newest item : Item} {packet : Packet} {sh : SharedPackets}

/-! ## Numbers -/

theorem seqLower_self (a : UInt16) : seqLower a a = false := isSeqLowerThan_irrefl _ _

theorem seqHigher_self (a : UInt16) : seqHigher a a = false := isSeqLowerThan_irrefl _ _

theorem ne_of_seqHigher {a c : UInt16} (h : seqHigher a c = true) : a ≠ c := by
  rintro rfl
  simp [seqHigher_self] at h

theorem seqLower_of_distance {a o : UInt16} (h : (a - o).toNat < 2 ^ 15) : seqLower a o = false := by
  have ha := a.toNat_lt
  rw [UInt16.toNat_sub] at h
  unfold seqLower isSeqLowerThan maxValue
  rw [decide_eq_false_iff_not]
  omega

theorem distance_of_seqLower {a o : UInt16} (h : seqLower a o = false) : (a - o).toNat ≤ 2 ^ 15 := by
  have ho := o.toNat_lt
  unfold seqLower isSeqLowerThan maxValue at h
  rw [decide_eq_false_iff_not] at h
  rw [UInt16.toNat_sub]
  omega

theorem toNat_add_ofNat_sub (o : UInt16) {i : Nat} (hi : i < 2 ^ 16) : (o + UInt16.ofNat i - o).toNat = i := by
  have heq : o + UInt16.ofNat i - o = UInt16.ofNat i := by grind
  rw [heq, UInt16.toNat_ofNat_of_lt' hi]

/-! ## Which items are found -/

theorem mem_reduceOption_iff {l : List (Option Item)} : item ∈ l.reduceOption ↔ ∃ i : Nat, l[i]?.join = some item := by
  rw [reduceOption_mem_iff, mem_iff_getElem?]
  simp only [Option.join_eq_some_iff]

theorem mem_items_iff : item ∈ b.items ↔ ∃ i, b.itemAt i = some item := mem_reduceOption_iff

theorem lt_length_of_join {l : List (Option Item)} {i : Nat} (h : l[i]?.join = some item) : i < l.length := by
  obtain ⟨hlt, -⟩ := List.getElem?_eq_some_iff.mp (Option.join_eq_some_iff.mp h)
  exact hlt

theorem ne_nil_of_getOldest (hold : b.getOldest = some oldest) : b.buffer ≠ [] := by
  intro hnil
  simp [getOldest, hnil] at hold

theorem ne_nil_of_getNewest (hnew : b.getNewest = some newest) : b.buffer ≠ [] := by
  intro hnil
  simp [getNewest, hnil] at hnew

theorem mem_items_of_getOldest (hold : b.getOldest = some oldest) : oldest ∈ b.items := by
  rw [getOldest, List.head?_eq_getElem?] at hold
  exact mem_items_iff.mpr ⟨0, hold⟩

theorem seqLower_of_get (hold : b.getOldest = some oldest) {seq : UInt16} (hget : b.get seq = some item) :
    seqLower seq oldest.sequenceNumber = false := by
  obtain ⟨i, hi, -⟩ := Option.bind_eq_some_iff.mp hget
  simp only [indexOf, hold] at hi
  split at hi
  · cases hi
  · rename_i hlow
    exact Bool.eq_false_of_not_eq_true hlow

/-- **`Get`** finds the items whose number is not taken for a lower one than that of the oldest. -/
theorem get_eq_some_iff (h : WellFormed b) (hmax : b.maxItems < 2 ^ 16) (hold : b.getOldest = some oldest) {seq : UInt16} :
    b.get seq = some item ↔ item ∈ b.items ∧ item.sequenceNumber = seq ∧ seqLower seq oldest.sequenceNumber = false := by
  constructor
  · intro hget
    obtain ⟨i, -, hitem⟩ := Option.bind_eq_some_iff.mp hget
    exact ⟨mem_items_iff.mpr ⟨i, hitem⟩, h.consistent.found _ _ hget, seqLower_of_get hold hget⟩
  · rintro ⟨hmem, rfl, hlow⟩
    obtain ⟨i, hi⟩ := mem_items_iff.mp hmem
    have hlt := lt_length_of_join hi
    have hsize := h.size
    have hdist : (item.sequenceNumber - oldest.sequenceNumber).toNat = i := by
      rw [h.consistent.numbered _ _ _ hold hi]
      exact toNat_add_ofNat_sub _ (by omega)
    rw [get_eq_itemAt hold hlow (by omega) (by omega), hdist, hi]

theorem distance_newest (h : WellFormed b) (hmax : b.maxItems < 2 ^ 16) (hnew : b.getNewest = some newest) {i : Nat}
    (hi : b.itemAt i = some item) : (newest.sequenceNumber - item.sequenceNumber).toNat = b.buffer.length - 1 - i := by
  obtain ⟨oldest, hold⟩ := Option.isSome_iff_exists.mp (h.places.first (ne_nil_of_getNewest hnew))
  have hlt := lt_length_of_join hi
  have hsize := h.size
  have hlast := congrArg UInt16.toNat (h.places.sequenceNumber_last hold hnew)
  have hitem := congrArg UInt16.toNat (h.consistent.numbered _ _ _ hold hi)
  simp only [UInt16.toNat_add, UInt16.toNat_ofNat'] at hlast hitem
  rw [UInt16.toNat_sub]
  omega

/-! ## A packet for a blank place -/

/-- The place is blank, and these are the nearest items before and after it. -/
structure Blank (b : RetransmissionBuffer) (i : Nat) (older newer : Item) : Prop where
  blank : b.buffer[i]? = some none
  before : (b.buffer.take i).reduceOption.getLast? = some older
  after : (b.buffer.drop (i + 1)).reduceOption.head? = some newer

/-- The packet is stored at the place, where `Get` finds it, and no other place changes. -/
def Stores (b : RetransmissionBuffer) (sh : SharedPackets) (packet : Packet) (i : Nat) : Prop :=
  ∃ b' sh', b.insert sh packet = .ok (b', sh') ∧
    (∃ item, b'.get packet.sequenceNumber = some item ∧ item.sequenceNumber = packet.sequenceNumber ∧
      item.timestamp = packet.timestamp) ∧
    b'.buffer.length = b.buffer.length ∧ ∀ j ≠ i, b'.buffer[j]? = b.buffer[j]?

/-- The wrap of the timestamps is not between the nearest items. Besides, the packet is taken neither for a newer one than the
newest nor for an older one than the oldest item, and the oldest item is not too old. -/
structure Fits (b : RetransmissionBuffer) (packet : Packet) (oldest newest older newer : Item) : Prop where
  unwrapped : older.timestamp ≤ newer.timestamp
  timestamp : timestampHigher packet.timestamp newest.timestamp = false
  higher : seqHigher packet.sequenceNumber newest.sequenceNumber = false
  lower : seqLower packet.sequenceNumber oldest.sequenceNumber = false
  young : b.isTooOldTimestamp oldest.timestamp newest.timestamp = .ok false

section
variable {older newer : Item} {i : Nat}

theorem buffer_eq_cons (hold : b.getOldest = some oldest) : ∃ rest, b.buffer = some oldest :: rest := by
  obtain ⟨rest, hrest⟩ := List.head?_eq_some_iff.mp (Option.join_eq_some_iff.mp hold)
  exact ⟨rest, hrest⟩

theorem Blank.pos (hblank : Blank b i older newer) (hold : b.getOldest = some oldest) : 0 < i := by
  obtain ⟨rest, hrest⟩ := buffer_eq_cons hold
  have hplace := hblank.blank
  rw [hrest] at hplace
  cases i with
  | zero => cases hplace
  | succ i => exact Nat.succ_pos i

theorem Blank.lt (hblank : Blank b i older newer) : i + 1 < b.buffer.length := by
  have hafter := hblank.after
  apply Nat.lt_of_not_le
  intro hle
  simp [drop_eq_nil_of_le hle] at hafter

theorem toNat_sub_of_place (hmax : b.buffer.length < 2 ^ 16) (hi : i < b.buffer.length)
    (hseq : packet.sequenceNumber = oldest.sequenceNumber + UInt16.ofNat i) :
    (packet.sequenceNumber - oldest.sequenceNumber).toNat = i := by
  rw [hseq]
  exact toNat_add_ofNat_sub _ (by omega)

theorem Blank.get_eq_none (hblank : Blank b i older newer) (hmax : b.buffer.length < 2 ^ 16)
    (hold : b.getOldest = some oldest) (hseq : packet.sequenceNumber = oldest.sequenceNumber + UInt16.ofNat i) :
    b.get packet.sequenceNumber = none := by
  have hlt := hblank.lt
  cases hindex : b.indexOf packet.sequenceNumber with
  | none => rw [get, hindex, Option.bind_none]
  | some j =>
    obtain ⟨oldest', hold', rfl, -⟩ := indexOf_eq_some hindex
    cases hold.symm.trans hold'
    rw [get, hindex, Option.bind_some, toNat_sub_of_place hmax (by omega) hseq, itemAt, hblank.blank]
    rfl

theorem ne_oldest (hmax : b.buffer.length < 2 ^ 16) (hi : 0 < i) (hlt : i < b.buffer.length)
    (hseq : packet.sequenceNumber = oldest.sequenceNumber + UInt16.ofNat i) :
    packet.sequenceNumber ≠ oldest.sequenceNumber := by
  intro heq
  have hplace := toNat_sub_of_place hmax hlt hseq
  rw [heq, UInt16.sub_self, UInt16.toNat_zero] at hplace
  omega

theorem makeRoom_eq (hnew : b.getNewest = some newest) (seq : UInt16) (timestamp : UInt32) : b.makeRoom seq timestamp =
      if seqLower seq newest.sequenceNumber && timestampHigher timestamp newest.timestamp then .ok b.clear
      else b.clearTooOldByTimestamp (if timestampHigher timestamp newest.timestamp then timestamp else newest.timestamp) := by
  rw [makeRoom, if_neg (ne_nil_of_getNewest hnew), hnew]

theorem clearTooOldByTimestamp_eq_ok_iff (hold : b.getOldest = some oldest) {timestamp : UInt32} {c : RetransmissionBuffer} :
    b.clearTooOldByTimestamp timestamp = .ok c ↔
      (∃ old, b.isTooOldTimestamp oldest.timestamp timestamp = .ok old) ∧ c = b.clearTooOld timestamp := by
  rw [clearTooOldByTimestamp, hold]
  dsimp only
  cases b.isTooOldTimestamp oldest.timestamp timestamp with
  | error f => simp [bind, Except.bind]
  | ok old => simp [bind, Except.bind, pure, Except.pure, eq_comm]

theorem clearTooOldByTimestamp_of_young (hold : b.getOldest = some oldest) {timestamp : UInt32}
    (hyoung : b.isTooOldTimestamp oldest.timestamp timestamp = .ok false) :
    b.clearTooOldByTimestamp timestamp = .ok b := by
  obtain ⟨rest, hrest⟩ := buffer_eq_cons hold
  have hkeep : b.clearTooOld timestamp = b := by
    rw [clearTooOld, hrest, removeOldestWhile, tooOld, hyoung, if_neg (by decide), ← hrest]
  exact (clearTooOldByTimestamp_eq_ok_iff hold).mpr ⟨⟨false, hyoung⟩, hkeep.symm⟩

theorem not_mem_clearTooOld (h : WellFormed b) (hmax : b.maxItems < 2 ^ 16) (hold : b.getOldest = some oldest)
    {timestamp : UInt32} (hold' : b.tooOld oldest.timestamp timestamp = true) :
    oldest ∉ (b.clearTooOld timestamp).items := by
  obtain ⟨rest, hrest⟩ := buffer_eq_cons hold
  intro hmem
  have hsub : (b.clearTooOld timestamp).items.Sublist rest.reduceOption := by
    rw [clearTooOld, hrest, removeOldestWhile, hold', if_pos rfl]
    exact reduceOption_removeWhile _ rest
  obtain ⟨j, hj⟩ := mem_reduceOption_iff.mp (hsub.mem hmem)
  have hplace : b.itemAt (j + 1) = some oldest := by
    rw [itemAt, hrest, List.getElem?_cons_succ, hj]
  have hlt := lt_length_of_join hplace
  have hsize := h.size
  have hdist := toNat_add_ofNat_sub oldest.sequenceNumber (show j + 1 < 2 ^ 16 by omega)
  rw [← h.consistent.numbered _ _ _ hold hplace, UInt16.sub_self, UInt16.toNat_zero] at hdist
  omega

theorem between_of_unwrapped {a c t : UInt32} (h : t - a ≤ c - a) (hle : a ≤ c) : ¬t < a ∧ ¬c < t := by
  rw [UInt32.le_iff_toNat_le, UInt32.toNat_sub, UInt32.toNat_sub] at h
  rw [UInt32.le_iff_toNat_le] at hle
  rw [UInt32.lt_iff_toNat_lt, UInt32.lt_iff_toNat_lt]
  have hc := c.toNat_lt
  have ht := t.toNat_lt
  omega

theorem exists_of_insert {sh' : SharedPackets} (hinsert : b.insert sh packet = .ok (b', sh')) :
    ∃ c, b.makeRoom packet.sequenceNumber packet.timestamp = .ok c ∧
      (b' = c ∨ c.place (fillItem sh packet).2 = .ok (some b')) := by
  obtain ⟨c, hc, hinsert⟩ := exists_of_bind_eq_ok hinsert
  obtain ⟨o, ho, hinsert⟩ := exists_of_bind_eq_ok hinsert
  refine ⟨c, hc, ?_⟩
  cases o with
  | none =>
    cases hinsert
    exact .inl rfl
  | some d =>
    cases hinsert
    exact .inr ho

@[simp] theorem fillItem_sequenceNumber (sh : SharedPackets) (packet : Packet) :
    (fillItem sh packet).2.sequenceNumber = packet.sequenceNumber := rfl

theorem getNewest_pushBack (b : RetransmissionBuffer) (n : Nat) (item : Item) : (b.pushBack n item).getNewest = some item := by
  rw [getNewest, pushBack, List.getLast?_concat]
  rfl

theorem getNewest_of_insertNewest (h : b.insertNewest newest item = .ok (some b')) : b'.getNewest = some item := by
  unfold insertNewest at h
  split at h
  · cases h
  · obtain ⟨⟨c, n⟩, -, h⟩ := exists_of_bind_eq_ok h
    exact (checkSize_returns (P := (·.getNewest = some item)) (getNewest_pushBack c n item)).of_ok h _ rfl

theorem Blank.insertBetween_eq (hblank : Blank b i older newer) (hsize : b.buffer.length ≤ b.maxItems)
    (hget : b.get item.sequenceNumber = none)
    (hplace : (item.sequenceNumber - oldest.sequenceNumber).toNat = i) :
    b.insertBetween oldest item = if item.timestamp < older.timestamp ∨ newer.timestamp < item.timestamp then .ok none
      else .ok (some (b.setItem i item)) := by
  have hlt := hblank.lt
  have hbefore : nearest (b.buffer.take i).reverse = some older := by rw [nearest_reverse, hblank.before]
  have hafter : nearest (b.buffer.drop (i + 1)) = some newer := by rw [nearest_eq_head?, hblank.after]
  have hcheck : (b.setItem i item).checkSize = .ok (some (b.setItem i item)) := by
    rw [checkSize, if_pos]
    simpa [setItem] using hsize
  simp only [insertBetween, hget, hplace, hbefore, hafter, Option.isSome_none, Option.any_some, decide_eq_true_eq,
    if_neg Bool.false_ne_true, if_neg (Nat.not_lt.mpr (Nat.le_of_succ_le (Nat.le_of_succ_le hlt)))]
  by_cases holder : item.timestamp < older.timestamp
  · rw [if_pos holder, if_pos (.inl holder)]
  rw [if_neg holder]
  by_cases hnewer : newer.timestamp < item.timestamp
  · rw [if_pos hnewer, if_pos (.inr hnewer)]
  · rw [if_neg hnewer, if_neg (not_or.mpr ⟨holder, hnewer⟩), if_pos (Nat.lt_of_succ_lt hlt)]
    exact hcheck

theorem Fits.stores (hfits : Fits b packet oldest newest older newer) (h : WellFormed b) (hmax : b.maxItems < 2 ^ 16)
    (hold : b.getOldest = some oldest) (hnew : b.getNewest = some newest) (hblank : Blank b i older newer)
    (hseq : packet.sequenceNumber = oldest.sequenceNumber + UInt16.ofNat i)
    (hts : packet.timestamp - older.timestamp ≤ newer.timestamp - older.timestamp) (sh : SharedPackets) :
    b.Stores sh packet i := by
  have hsize := h.size
  have hlt := hblank.lt
  have hpos := hblank.pos hold
  have hplace := toNat_sub_of_place (b := b) (by omega) (by omega) hseq
  have hget := hblank.get_eq_none (by omega) hold hseq
  have hroom : b.makeRoom packet.sequenceNumber packet.timestamp = .ok b := by
    rw [makeRoom_eq hnew, hfits.timestamp, Bool.and_false, if_neg Bool.false_ne_true, if_neg Bool.false_ne_true,
      clearTooOldByTimestamp_of_young hold hfits.young]
  have hset : b.place (fillItem sh packet).2 = .ok (some (b.setItem i (fillItem sh packet).2)) := by
    rw [place, if_neg (ne_nil_of_getOldest hold), hold, hnew]
    dsimp only
    rw [fillItem_sequenceNumber, hfits.higher, hfits.lower, if_neg Bool.false_ne_true, if_neg Bool.false_ne_true,
      hblank.insertBetween_eq hsize hget hplace, if_neg]
    exact not_or.mpr (between_of_unwrapped hts hfits.unwrapped)
  refine ⟨b.setItem i (fillItem sh packet).2, (fillItem sh packet).1, ?_,
    ⟨(fillItem sh packet).2, ?_, rfl, rfl⟩, length_set, fun j hj => List.getElem?_set_ne (Ne.symm hj)⟩
  · rw [insert, hroom]
    show (b.place _ >>= _) = _
    rw [hset]
    rfl
  · have hold' : (b.setItem i (fillItem sh packet).2).getOldest = some oldest := by
      rw [getOldest, setItem, List.head?_eq_getElem?, List.getElem?_set_ne (by omega), ← List.head?_eq_getElem?]
      exact hold
    have hlength : (b.setItem i (fillItem sh packet).2).buffer.length = b.buffer.length := length_set
    rw [get_eq_itemAt hold' hfits.lower (by omega) (by omega), hplace, itemAt, setItem, List.getElem?_set_self (by omega)]
    rfl

theorem not_cleared_of_insert {sh' : SharedPackets} (hnew : b.getNewest = some newest)
    (hinsert : b.insert sh packet = .ok (b', sh')) (hlength : 1 < b'.buffer.length) :
    (seqLower packet.sequenceNumber newest.sequenceNumber && timestampHigher packet.timestamp newest.timestamp) = false := by
  apply Bool.eq_false_of_not_eq_true
  intro hclear
  obtain ⟨c, hc, hplaced⟩ := exists_of_insert hinsert
  rw [makeRoom_eq hnew, if_pos hclear] at hc
  cases hc
  rcases hplaced with rfl | hplaced
  · exact absurd hlength (by simp [clear])
  · cases hplaced
    exact absurd hlength (by simp [clear, pushBack, blanks])

theorem young_of_insert {sh' : SharedPackets} (h : WellFormed b) (hmax : b.maxItems < 2 ^ 16)
    (hold : b.getOldest = some oldest) (hnew : b.getNewest = some newest)
    (hinsert : b.insert sh packet = .ok (b', sh'))
    (hkept : (seqLower packet.sequenceNumber newest.sequenceNumber &&
      timestampHigher packet.timestamp newest.timestamp) = false)
    (hne : packet.sequenceNumber ≠ oldest.sequenceNumber) (hmem : oldest ∈ b'.items) :
    b.isTooOldTimestamp oldest.timestamp
      (if timestampHigher packet.timestamp newest.timestamp then packet.timestamp else newest.timestamp) = .ok false := by
  obtain ⟨c, hc, hplaced⟩ := exists_of_insert hinsert
  rw [makeRoom_eq hnew, hkept, if_neg Bool.false_ne_true] at hc
  obtain ⟨⟨old, hok⟩, rfl⟩ := (clearTooOldByTimestamp_eq_ok_iff hold).mp hc
  cases old with
  | false => exact hok
  | true =>
  exfalso
  have hgone := not_mem_clearTooOld h hmax hold (decide_eq_true hok)
  rcases hplaced with heq | hplaced
  · rw [heq] at hmem
    exact hgone hmem
  obtain ⟨l₁, l₂, heq, hsub⟩ := (place_adds _ _).of_ok hplaced _ rfl
  rw [heq, mem_append, mem_cons, or_left_comm, ← mem_append] at hmem
  rcases hmem with rfl | hmem
  · exact hne rfl
  · exact hgone (hsub.mem hmem)

theorem Stores.fits (hstores : b.Stores sh packet i) (h : WellFormed b) (hmax : b.maxItems < 2 ^ 16)
    (hold : b.getOldest = some oldest) (hnew : b.getNewest = some newest) (hblank : Blank b i older newer)
    (hseq : packet.sequenceNumber = oldest.sequenceNumber + UInt16.ofNat i) :
    Fits b packet oldest newest older newer := by
  obtain ⟨b', sh', hinsert, ⟨item, hget, -, -⟩, hlength, hothers⟩ := hstores
  have hsize := h.size
  have hlt := hblank.lt
  have hpos := hblank.pos hold
  have hplace := toNat_sub_of_place (b := b) (by omega) (by omega) hseq
  have hne := ne_oldest (b := b) (by omega) hpos (by omega) hseq
  have hblankGet := hblank.get_eq_none (by omega) hold hseq
  -- the ends are the same
  have hold' : b'.getOldest = some oldest := by
    rw [getOldest, List.head?_eq_getElem?, hothers 0 (by omega), ← List.head?_eq_getElem?]
    exact hold
  have hnew' : b'.getNewest = some newest := by
    rw [getNewest, List.getLast?_eq_getElem?, hlength, hothers _ (by omega), ← List.getLast?_eq_getElem?]
    exact hnew
  have hkept := not_cleared_of_insert hnew hinsert (by omega)
  have hyoung := young_of_insert h hmax hold hnew hinsert hkept hne (mem_items_of_getOldest hold')
  obtain ⟨c, hc, hplaced⟩ := exists_of_insert hinsert
  rw [makeRoom_eq hnew, hkept, if_neg Bool.false_ne_true, clearTooOldByTimestamp_of_young hold hyoung] at hc
  cases hc
  -- the packet is not discarded, as it is found
  rcases hplaced with rfl | hplaced
  · simp [hblankGet] at hget
  rw [place, if_neg (ne_nil_of_getOldest hold), hold, hnew] at hplaced
  dsimp only at hplaced
  rw [fillItem_sequenceNumber] at hplaced
  have hlower := seqLower_of_get hold' hget
  have hhigher : seqHigher packet.sequenceNumber newest.sequenceNumber = false := by
    apply Bool.eq_false_of_not_eq_true
    intro hhigh
    rw [if_pos hhigh] at hplaced
    have heq := Option.some.inj (hnew'.symm.trans (getNewest_of_insertNewest hplaced))
    exact ne_of_seqHigher hhigh (congrArg (fun item => item.sequenceNumber) heq).symm
  rw [hhigher, hlower, if_neg Bool.false_ne_true, if_neg Bool.false_ne_true,
    hblank.insertBetween_eq hsize hblankGet hplace] at hplaced
  split at hplaced
  · cases hplaced
  rename_i hbetween
  obtain ⟨hbefore, hafter⟩ := not_or.mp hbetween
  -- the number is not that of the newest item, so it is lower
  have hlow : seqLower packet.sequenceNumber newest.sequenceNumber = true := by
    apply Bool.eq_true_of_not_eq_false
    intro hnot
    have heq : packet.sequenceNumber = newest.sequenceNumber := UInt16.toNat_inj.mp (eq_of_not_lower hnot hhigher)
    rw [heq, h.places.sequenceNumber_last hold hnew, toNat_add_ofNat_sub _ (by omega)] at hplace
    omega
  rw [hlow, Bool.true_and] at hkept
  rw [hkept, if_neg Bool.false_ne_true] at hyoung
  exact ⟨UInt32.le_trans (UInt32.not_lt.mp hbefore) (UInt32.not_lt.mp hafter), hkept, hhigher, hlower, hyoung⟩

end

/-- **A packet for a blank place**, with a timestamp between those of the nearest items, is stored exactly if the wrap of the
timestamps is not between them. -/
theorem stored_iff (b : RetransmissionBuffer) (sh : SharedPackets) (packet : Packet) (oldest newest older newer : Item) (i : Nat)
    (h : WellFormed b) (hmax : b.maxItems < 2 ^ 16) (hold : b.getOldest = some oldest) (hnew : b.getNewest = some newest)
    (hblank : Blank b i older newer) (hseq : packet.sequenceNumber = oldest.sequenceNumber + UInt16.ofNat i)
    (hts : packet.timestamp - older.timestamp ≤ newer.timestamp - older.timestamp) :
    b.Stores sh packet i ↔ b.Fits packet oldest newest older newer :=
  ⟨fun hstores => hstores.fits h hmax hold hnew hblank hseq, fun hfits => hfits.stores h hmax hold hnew hblank hseq hts sh⟩

/-! ### Around the wrap of the timestamps -/

def smallBuffer : RetransmissionBuffer := { maxItems := 8, maxRetransmissionDelayMs := 2000, clockRate := 90000 }

def packetAt (seq : UInt16) (timestamp : UInt32) : Packet :=
  { payloadType := 96, sequenceNumber := seq, timestamp := timestamp, ssrc := 1, payload := [] }

def insertions (packets : List (UInt16 × UInt32)) : List Operation :=
  packets.map fun p => .insert {} (packetAt p.1 p.2)

def bufferAfter (packets : List (UInt16 × UInt32)) : RetransmissionBuffer :=
  (((insertions packets).foldlM operate smallBuffer).toOption).getD smallBuffer

theorem run_bufferAfter {packets : List (UInt16 × UInt32)}
    (h : ((insertions packets).foldlM operate smallBuffer).toOption.isSome = true) :
    (insertions packets).foldlM operate smallBuffer = .ok (bufferAfter packets) := by
  unfold bufferAfter
  cases hrun : (insertions packets).foldlM operate smallBuffer with
  | error f =>
    rw [hrun] at h
    cases h
  | ok b => rfl

theorem wellFormed_bufferAfter {packets : List (UInt16 × UInt32)}
    (h : ((insertions packets).foldlM operate smallBuffer).toOption.isSome = true) : WellFormed (bufferAfter packets) :=
  (WellFormed.of_run (.of_empty rfl) (by decide) (by decide) (run_bufferAfter h)).wellFormed

def itemOf (seq : UInt16) (timestamp : UInt32) : Item :=
  { packet := 0, ssrc := 1, sequenceNumber := seq, timestamp := timestamp }

theorem stores_missing : (bufferAfter [(1, 1000), (3, 3000)]).Stores {} (packetAt 2 2000) 1 := by
  have hwf : WellFormed (bufferAfter [(1, 1000), (3, 3000)]) := wellFormed_bufferAfter (by decide +kernel)
  refine (stored_iff _ {} (packetAt 2 2000) (itemOf 1 1000) (itemOf 3 3000) (itemOf 1 1000) (itemOf 3 3000) 1 hwf
    (by decide +kernel) (by decide +kernel) (by decide +kernel)
    ⟨by decide +kernel, by decide +kernel, by decide +kernel⟩ (by decide) (by decide)).mpr
    ⟨by decide, by decide, by decide, by decide, by decide +kernel⟩

/-- **A missing packet while the timestamps wrap**: its timestamp is 0, between 4294964296 and 3000, and it is discarded. -/
theorem not_stores_wrapped : (insertions [(1, 4294964296), (3, 3000)]).foldlM operate smallBuffer =
        .ok (bufferAfter [(1, 4294964296), (3, 3000)]) ∧
      Blank (bufferAfter [(1, 4294964296), (3, 3000)]) 1 (itemOf 1 4294964296) (itemOf 3 3000) ∧
      (packetAt 2 0).sequenceNumber = (itemOf 1 4294964296).sequenceNumber + 1 ∧
      (packetAt 2 0).timestamp - (itemOf 1 4294964296).timestamp ≤ (itemOf 3 3000).timestamp - (itemOf 1 4294964296).timestamp ∧
      ¬(bufferAfter [(1, 4294964296), (3, 3000)]).Stores {} (packetAt 2 0) 1 := by
  refine ⟨run_bufferAfter (by decide +kernel), ⟨by decide +kernel, by decide +kernel, by decide +kernel⟩, by decide,
    by decide, ?_⟩
  rintro ⟨b', sh', hinsert, ⟨item, hget, -⟩, -⟩
  have hnone : ((bufferAfter [(1, 4294964296), (3, 3000)]).insert {} (packetAt 2 0)).toOption.map (·.1.get 2) =
      some none := by decide +kernel
  rw [hinsert] at hnone
  simp [show b'.get (packetAt 2 0).sequenceNumber = none from Option.some.inj hnone] at hget

end RetransmissionBuffer

end Mediasoup.Rtp
