import Mediasoup.Rtp.BufferLookup

/-!
# What the retransmission buffer keeps

When a packet comes that is newer than all others, items leave from the front: those too old for its timestamp, and those
`maxItems` numbers behind or more (`insert_newest`). The removal stops at the first item that is not too old, and it takes a
timestamp of more than half the circle ago for a newer one (`kept_iff`).
-/

namespace Mediasoup.Rtp

open Lib Mediasoup.Seq List

namespace RetransmissionBuffer

variable {b b' : RetransmissionBuffer} {oldest newest item : Item} {packet : Packet} {sh : SharedPackets}

/-! ## Removal -/

theorem reduceOption_removeWhile_old (old : Item → Bool) (l : List (Option Item)) :
    (removeWhile (fun item _ => old item) l).reduceOption = l.reduceOption.dropWhile old := by
  induction l with
  | nil => rfl
  | cons place rest ih =>
    cases place with
    | none => simpa [removeWhile] using ih
    | some item =>
      rw [removeWhile, reduceOption_cons_of_some, dropWhile_cons]
      split
      · exact ih
      · rw [reduceOption_cons_of_some]

theorem reduceOption_removeWhile_size (m : Nat) (l : List (Option Item)) :
    (removeWhile (fun _ size => decide (size > m)) l).reduceOption = (l.drop (l.length - m)).reduceOption := by
  induction l with
  | nil => rw [removeWhile, drop_nil]
  | cons place rest ih =>
    by_cases hsize : rest.length + 1 > m
    · have hdrop : (place :: rest).drop ((place :: rest).length - m) = rest.drop (rest.length - m) := by
        rw [length_cons, Nat.succ_sub (by omega), drop_succ_cons]
      rw [hdrop, ← ih]
      cases place with
      | none => rw [removeWhile]
      | some item => rw [removeWhile, if_pos (decide_eq_true hsize)]
    rw [show (place :: rest).length - m = 0 by simp only [length_cons]; omega, drop_zero]
    rw [show rest.length - m = 0 by omega, drop_zero] at ih
    cases place with
    | none => rw [removeWhile, ih, reduceOption_cons_of_none]
    | some item => rw [removeWhile, if_neg (by simpa using hsize)]

theorem items_makePlaces_eq (h : WellFormed b) {c : RetransmissionBuffer} {n m : Nat} (hn : n + 1 < 2 ^ 16)
    (hc : b.makePlaces n = .ok (c, m)) :
    c.items = (b.buffer.drop (b.buffer.length + n + 1 - b.maxItems)).reduceOption := by
  have hsize := h.size
  simp only [makePlaces] at hc
  split at hc
  · split at hc
    · cases hc
      rw [drop_eq_nil_of_le (by omega)]
      rfl
    rw [removeOldest, if_neg (by omega)] at hc
    cases hc
    rw [items, removeOldestWhile_eq h.places, reduceOption_removeWhile_size]
    congr 2
    omega
  · cases hc
    rw [show b.buffer.length + n + 1 - b.maxItems = 0 by omega, drop_zero]
    rfl

theorem items_clearTooOld (h : WellFormed b) (timestamp : UInt32) : (b.clearTooOld timestamp).items =
      b.items.dropWhile fun item => b.tooOld item.timestamp timestamp := by
  rw [clearTooOld, items, removeOldestWhile_eq h.places]
  exact reduceOption_removeWhile_old _ b.buffer

/-! ## A packet that is newer than all others -/

/-- How far the packet is ahead of an item, with the newest item between them. -/
def distance (newest : Item) (packet : Packet) (item : Item) : Nat :=
  (newest.sequenceNumber - item.sequenceNumber).toNat + (packet.sequenceNumber - newest.sequenceNumber).toNat

theorem toNat_sub_eq_distance (h : distance newest packet item < 2 ^ 16) :
    (packet.sequenceNumber - item.sequenceNumber).toNat = distance newest packet item := by
  unfold distance at h ⊢
  have hn := newest.sequenceNumber.toNat_lt
  simp only [UInt16.toNat_sub] at h ⊢
  omega

theorem ne_of_distance (hhigh : seqHigher packet.sequenceNumber newest.sequenceNumber = true)
    (h : distance newest packet item < 2 ^ 16) : item.sequenceNumber ≠ packet.sequenceNumber := by
  intro heq
  have hdist := toNat_sub_eq_distance h
  rw [distance, heq, UInt16.sub_self, UInt16.toNat_zero] at hdist
  have hzero : packet.sequenceNumber - newest.sequenceNumber = 0 := UInt16.toNat_inj.mp (by rw [UInt16.toNat_zero]; omega)
  exact ne_of_seqHigher hhigh (by grind)

theorem mem_drop_reduceOption_iff {l : List (Option Item)} {k : Nat} :
    item ∈ (l.drop k).reduceOption ↔ ∃ i, k ≤ i ∧ l[i]?.join = some item := by
  simp only [mem_reduceOption_iff, List.getElem?_drop]
  constructor
  · rintro ⟨i, hi⟩
    exact ⟨k + i, Nat.le_add_right k i, hi⟩
  · rintro ⟨i, hle, hi⟩
    exact ⟨i - k, by rwa [Nat.add_sub_cancel' hle]⟩

theorem mem_drop_iff_distance (h : WellFormed b) (hmax : b.maxItems < 2 ^ 16) (hnew : b.getNewest = some newest)
    (hhigh : seqHigher packet.sequenceNumber newest.sequenceNumber = true) {q : Item} :
    q ∈ (b.buffer.drop (b.buffer.length + (packet.sequenceNumber - newest.sequenceNumber - 1).toNat + 1 -
        b.maxItems)).reduceOption ↔
      q ∈ b.items ∧ distance newest packet q < b.maxItems := by
  have hgap : (packet.sequenceNumber - newest.sequenceNumber).toNat =
      (packet.sequenceNumber - newest.sequenceNumber - 1).toNat + 1 := by
    have hne := ne_of_seqHigher hhigh
    have hp := packet.sequenceNumber.toNat_lt
    have hn := newest.sequenceNumber.toNat_lt
    have hne' := mt UInt16.toNat_inj.mp hne
    simp only [UInt16.toNat_sub, UInt16.toNat_one]
    omega
  have hplace {i : Nat} (hi : b.itemAt i = some q) :
      b.buffer.length + (packet.sequenceNumber - newest.sequenceNumber - 1).toNat + 1 - b.maxItems ≤ i ↔
        distance newest packet q < b.maxItems := by
    have hlt := lt_length_of_join hi
    rw [distance, distance_newest h hmax hnew hi, hgap]
    omega
  rw [mem_drop_reduceOption_iff, mem_items_iff]
  constructor
  · rintro ⟨i, hle, hi⟩
    exact ⟨⟨i, hi⟩, (hplace hi).mp hle⟩
  · rintro ⟨⟨i, hi⟩, hdist⟩
    exact ⟨i, (hplace hi).mpr hdist, hi⟩

theorem place_newest (h : WellFormed b) (hpos : 0 < b.maxItems) (item : Item)
    (hnew : b.buffer = [] ∨ b.getNewest = some newest)
    (hhigh : seqHigher item.sequenceNumber newest.sequenceNumber = true)
    (hts : timestampLower item.timestamp newest.timestamp = false) :
    ∃ d, b.place item = .ok (some d) ∧ WellFormed d ∧ d.maxItems = b.maxItems ∧ d.getNewest = some item ∧
      d.items = (b.buffer.drop (b.buffer.length + (item.sequenceNumber - newest.sequenceNumber - 1).toNat + 1 -
        b.maxItems)).reduceOption ++ [item] := by
  rcases hnew with hnil | hnew
  · have hbuffer : (b.pushBack 0 item).buffer = [some item] := by simp [pushBack, hnil, blanks]
    refine ⟨b.pushBack 0 item, by rw [place, if_pos hnil], ⟨?_, ?_⟩, rfl, getNewest_pushBack b 0 item, ?_⟩
    · rw [hbuffer]
      exact hpos
    · rw [hbuffer]
      exact places_singleton item
    · rw [items_pushBack, items, hnil, drop_nil]
  have hne := ne_nil_of_getNewest hnew
  obtain ⟨oldest, hold⟩ := Option.isSome_iff_exists.mp (h.places.first hne)
  change b.getOldest = some oldest at hold
  obtain ⟨c, m, hc, -, -, hsize, -⟩ := h.makePlaces hpos hnew (toNat_sub_of_higher hhigh)
  have hplace : b.place item = .ok (some (c.pushBack m item)) := by
    rw [place, if_neg hne, hold, hnew]
    dsimp only
    rw [if_pos hhigh, insertNewest, if_neg (by rw [hts]; exact Bool.false_ne_true), hc]
    show (c.pushBack m item).checkSize = _
    rw [checkSize, if_pos]
    simp only [pushBack, blanks, length_append, length_replicate, length_singleton]
    exact hsize
  obtain ⟨o, ho, hplaced⟩ : Placed b (b.insertNewest newest item) := h.insertNewest hpos hnew hhigh
  have hplace' : b.place item = .ok o := by
    rw [place, if_neg hne, hold, hnew]
    dsimp only
    rw [if_pos hhigh, ho]
  obtain rfl : o = some (c.pushBack m item) := Except.ok.inj (hplace'.symm.trans hplace)
  obtain ⟨hwf, hmaxd, -⟩ := hplaced _ rfl
  refine ⟨_, hplace, hwf, hmaxd, getNewest_pushBack c m item, ?_⟩
  rw [items_pushBack, items_makePlaces_eq h (toNat_sub_of_higher hhigh) hc]

/-- The age of the oldest item can be computed: the clock rate is not 0, or the item is taken for a newer one. -/
def Dated (b : RetransmissionBuffer) (packet : Packet) : Prop :=
  ∀ oldest, b.getOldest = some oldest → ∃ old, b.isTooOldTimestamp oldest.timestamp packet.timestamp = .ok old

theorem makeRoom_newest (hnew : b.getNewest = some newest)
    (hhigh : seqHigher packet.sequenceNumber newest.sequenceNumber = true)
    (hts : timestampLower packet.timestamp newest.timestamp = false) :
    b.makeRoom packet.sequenceNumber packet.timestamp = b.clearTooOldByTimestamp packet.timestamp := by
  have hlow : seqLower packet.sequenceNumber newest.sequenceNumber = false := isSeqLowerThan_asymm hhigh
  rw [makeRoom_eq hnew, hlow, Bool.false_and, if_neg Bool.false_ne_true]
  split
  · rfl
  · -- neither lower nor higher: the two timestamps are equal
    rename_i hnot
    rw [UInt32.toNat_inj.mp (eq_of_not_lower hts (Bool.eq_false_of_not_eq_true hnot))]

theorem insert_newest (h : WellFormed b) (hmax : b.maxItems < 2 ^ 16) (hnew : b.getNewest = some newest)
    (hhigh : seqHigher packet.sequenceNumber newest.sequenceNumber = true)
    (hts : timestampLower packet.timestamp newest.timestamp = false) (hdated : b.Dated packet) (sh : SharedPackets) :
    ∃ b' sh', b.insert sh packet = .ok (b', sh') ∧ WellFormed b' ∧ b'.maxItems = b.maxItems ∧
      b'.getNewest = some (fillItem sh packet).2 ∧
      ∀ q, q ∈ b'.items ↔ q = (fillItem sh packet).2 ∨
        q ∈ b.items.dropWhile (fun item => b.tooOld item.timestamp packet.timestamp) ∧
          distance newest packet q < b.maxItems := by
  have hne := ne_nil_of_getNewest hnew
  have hpos : 0 < b.maxItems := (length_pos_of_ne_nil hne).trans_le h.size
  obtain ⟨oldest, hold⟩ := Option.isSome_iff_exists.mp (h.places.first hne)
  have hroom : b.makeRoom packet.sequenceNumber packet.timestamp = .ok (b.clearTooOld packet.timestamp) := by
    rw [makeRoom_newest hnew hhigh hts]
    exact (clearTooOldByTimestamp_eq_ok_iff hold).mpr ⟨hdated oldest hold, rfl⟩
  obtain ⟨hwf, hmaxc, -⟩ := h.clearTooOld packet.timestamp
  have hitems := items_clearTooOld h packet.timestamp
  have hlast : (b.clearTooOld packet.timestamp).buffer = [] ∨
      (b.clearTooOld packet.timestamp).getNewest = some newest := by
    by_cases hnil : (b.clearTooOld packet.timestamp).buffer = []
    · exact .inl hnil
    obtain ⟨removed, heq⟩ : (b.clearTooOld packet.timestamp).buffer <:+ b.buffer := by
      rw [clearTooOld, removeOldestWhile_eq h.places]
      exact removeWhile_suffix _ b.buffer
    rw [getNewest, ← heq, List.getLast?_append_of_ne_nil _ hnil] at hnew
    exact .inr hnew
  generalize b.clearTooOld packet.timestamp = c at hroom hwf hmaxc hitems hlast
  obtain ⟨d, hplace, hwfd, hmaxd, hnewd, hitemsd⟩ :=
    place_newest hwf (by omega) (fillItem sh packet).2 hlast hhigh hts
  refine ⟨d, (fillItem sh packet).1, ?_, hwfd, hmaxd.trans hmaxc, hnewd, fun q => ?_⟩
  · rw [insert, hroom]
    show (c.place _ >>= _) = _
    rw [hplace]
    rfl
  · rw [hitemsd, mem_append, mem_singleton, or_comm, ← hitems, ← hmaxc]
    rcases hlast with hnil | hlast
    · simp [hnil, items]
    · rw [← mem_drop_iff_distance hwf (by omega) hlast hhigh]
      rfl

theorem seqLower_of_newest (h : WellFormed b) (hmax : b.maxItems < 2 ^ 16) (hold : b.getOldest = some oldest)
    (hnew : b.getNewest = some newest) (hfound : seqLower newest.sequenceNumber oldest.sequenceNumber = false)
    (hmem : item ∈ b.items) :
    seqLower item.sequenceNumber oldest.sequenceNumber = false ∧
      seqLower newest.sequenceNumber item.sequenceNumber = false := by
  obtain ⟨i, hi⟩ := mem_items_iff.mp hmem
  have hlt := lt_length_of_join hi
  have hsize := h.size
  have hnumber := h.consistent.numbered _ _ _ hold hi
  have hnumber' := h.places.sequenceNumber_last hold hnew
  have hafter : (item.sequenceNumber - oldest.sequenceNumber).toNat = i := by
    rw [hnumber]
    exact toNat_add_ofNat_sub _ (by omega)
  have hbefore := distance_newest h hmax hnew hi
  have hall := distance_of_seqLower hfound
  rw [hnumber', toNat_add_ofNat_sub _ (by omega)] at hall
  by_cases hfirst : i = 0
  · have heq : item.sequenceNumber = oldest.sequenceNumber := by
      rw [hnumber, hfirst]
      exact UInt16.add_zero _
    rw [heq]
    exact ⟨seqLower_self _, hfound⟩
  refine ⟨?_, seqLower_of_distance (by omega)⟩
  by_cases hend : i = b.buffer.length - 1
  · rw [hnumber, hend, ← hnumber']
    exact hfound
  · exact seqLower_of_distance (by omega)

/-- What is found after an insertion: the new item, and of the others those that are neither too far behind nor too old. An
item equal to the new one is not told apart from it. -/
structure Kept (b b' : RetransmissionBuffer) (packet : Packet) (item : Item) : Prop where
  found : b'.get packet.sequenceNumber = some item
  stored : ∀ q ∈ b.items, q ≠ item → (b'.get q.sequenceNumber = some q ↔
      (packet.sequenceNumber - q.sequenceNumber).toNat < b.maxItems ∧ b.tooOld q.timestamp packet.timestamp = false)
  others : ∀ seq q, b'.get seq = some q → q = item ∨ q ∈ b.items

def Keeps (b : RetransmissionBuffer) (sh : SharedPackets) (packet : Packet) : Prop :=
  ∃ b' sh', b.insert sh packet = .ok (b', sh') ∧ Kept b b' packet (fillItem sh packet).2

/-- Behind an item that is not too old there is none that is too old, within `maxItems` numbers; and the number of the packet is
not taken for a lower one than that of an item that is to stay, nor has it gone around the circle. -/
structure Orderly (b : RetransmissionBuffer) (newest : Item) (packet : Packet) (item : Item) : Prop where
  dated : b.Dated packet
  ages : b.items.Pairwise fun q' q => b.tooOld q.timestamp packet.timestamp = true →
    distance newest packet q < b.maxItems → b.tooOld q'.timestamp packet.timestamp = true
  numbers : ∀ q ∈ b.items, q ≠ item → (packet.sequenceNumber - q.sequenceNumber).toNat < b.maxItems →
    b.tooOld q.timestamp packet.timestamp = false →
    distance newest packet q < 2 ^ 16 ∧ seqLower packet.sequenceNumber q.sequenceNumber = false

theorem mem_dropWhile_of_not {α : Type} {p : α → Bool} {a : α} (hp : p a = false) : ∀ {l : List α}, a ∈ l → a ∈ l.dropWhile p
  | x :: l, h => by
    rw [dropWhile_cons]
    split
    · rename_i hx
      rcases mem_cons.mp h with rfl | h
      · simp [hp] at hx
      · exact mem_dropWhile_of_not hp h
    · exact h

theorem pairwise_iff_dropWhile {α : Type} (p : α → Bool) (r : α → Prop) (l : List α) :
    (l.Pairwise fun a c => p c = true → r c → p a = true) ↔ ∀ c ∈ l.dropWhile p, r c → p c = false := by
  induction l with
  | nil => simp
  | cons a l ih =>
    rw [pairwise_cons, dropWhile_cons]
    by_cases hp : p a = true
    · rw [if_pos hp, ← ih, and_iff_right]
      exact fun _ _ _ _ => hp
    rw [if_neg hp]
    constructor
    · rintro ⟨hfirst, -⟩ c hc hr
      rcases mem_cons.mp hc with rfl | hc
      · exact Bool.eq_false_of_not_eq_true hp
      · exact Bool.eq_false_of_not_eq_true fun hpc => hp (hfirst c hc hpc hr)
    · intro h
      have hnone (c : α) (hc : c ∈ l) (hpc : p c = true) (hr : r c) : False := by
        simp [h c (mem_cons_of_mem a hc) hr] at hpc
      refine ⟨fun c hc hpc hr => (hnone c hc hpc hr).elim, ?_⟩
      exact pairwise_of_forall_mem_list fun _ _ c hc hpc hr => (hnone c hc hpc hr).elim

theorem numbers_of_le (h : WellFormed b) (hmax : b.maxItems ≤ 2 ^ 15) (hnew : b.getNewest = some newest)
    (hhigh : seqHigher packet.sequenceNumber newest.sequenceNumber = true) {q : Item} (hq : q ∈ b.items)
    (hdist : (packet.sequenceNumber - q.sequenceNumber).toNat < b.maxItems) :
    distance newest packet q < 2 ^ 16 ∧ seqLower packet.sequenceNumber q.sequenceNumber = false := by
  obtain ⟨i, hi⟩ := mem_items_iff.mp hq
  have hsize := h.size
  have hbehind := distance_newest h (by omega) hnew hi
  have hahead := distance_of_seqLower (isSeqLowerThan_asymm hhigh : seqLower _ _ = false)
  have hcircle : distance newest packet q < 2 ^ 16 := by
    unfold distance
    omega
  exact ⟨hcircle, seqLower_of_distance (hdist.trans_le hmax)⟩

theorem tooOld_mono {t t' newestTs : UInt32} (hrate : 500 ≤ b.clockRate)
    (hle : (newestTs - t).toNat ≤ (newestTs - t').toNat) (hlt : (newestTs - t').toNat < 2 ^ 31)
    (h : b.tooOld t newestTs = true) : b.tooOld t' newestTs = true := by
  have hhigher : timestampHigher t' newestTs = false := by
    have hn := newestTs.toNat_lt
    rw [UInt32.toNat_sub] at hlt
    unfold timestampHigher isSeqHigherThan maxValue
    rw [decide_eq_false_iff_not]
    omega
  have hms (d : Nat) (hd : d < 2 ^ 31) : d * 1000 / b.clockRate % 2 ^ 32 = d * 1000 / b.clockRate := by
    apply Nat.mod_eq_of_lt
    calc d * 1000 / b.clockRate ≤ d * 1000 / 500 := Nat.div_le_div_left hrate (by decide)
      _ < 2 ^ 32 := by omega
  rw [tooOld, decide_eq_true_eq, isTooOldTimestamp, hhigher, if_neg Bool.false_ne_true, if_neg (by omega), hms _ hlt,
    decide_eq_true]
  rw [tooOld, decide_eq_true_eq] at h
  unfold isTooOldTimestamp at h
  split at h
  · cases h
  · rw [if_neg (by omega), hms _ (by omega)] at h
    exact (of_decide_eq_true (Except.ok.inj h)).trans_le (Nat.div_le_div_right (by omega))

theorem ages_of_window (hrate : 500 ≤ b.clockRate)
    (hwindow : b.items.Pairwise fun q' q =>
      (packet.timestamp - q.timestamp).toNat ≤ (packet.timestamp - q'.timestamp).toNat ∧
        (packet.timestamp - q'.timestamp).toNat < 2 ^ 31) :
    b.items.Pairwise fun q' q => b.tooOld q.timestamp packet.timestamp = true →
      distance newest packet q < b.maxItems → b.tooOld q'.timestamp packet.timestamp = true :=
  hwindow.imp fun ⟨hle, hlt⟩ htooOld _ => tooOld_mono hrate hle hlt htooOld

/-- **A packet newer than all others**: what is found afterwards is as it should be exactly if the ages are in order. -/
theorem kept_iff (b : RetransmissionBuffer) (sh : SharedPackets) (packet : Packet) (newest : Item) (h : WellFormed b)
    (hmax : b.maxItems < 2 ^ 16) (hnew : b.getNewest = some newest)
    (hhigh : seqHigher packet.sequenceNumber newest.sequenceNumber = true)
    (hts : timestampLower packet.timestamp newest.timestamp = false) :
    b.Keeps sh packet ↔ b.Orderly newest packet (fillItem sh packet).2 := by
  by_cases hdated : b.Dated packet
  case neg =>
    -- the age of the oldest item is asked for first
    refine iff_of_false (fun ⟨c, _, hc, _⟩ => hdated fun oldest hold => ?_) fun horderly => hdated horderly.dated
    obtain ⟨d, hd, -⟩ := exists_of_insert hc
    rw [makeRoom_newest hnew hhigh hts] at hd
    exact ((clearTooOldByTimestamp_eq_ok_iff hold).mp hd).1
  obtain ⟨b', sh', hinsert, hwf, hmax', hnew', hmem⟩ := insert_newest h hmax hnew hhigh hts hdated sh
  obtain ⟨oldest', hold'⟩ := Option.isSome_iff_exists.mp (hwf.places.first (ne_nil_of_getNewest hnew'))
  have hmax'' : b'.maxItems < 2 ^ 16 := by omega
  have hsub {q : Item} (hq : q ∈ b.items.dropWhile
      fun item => b.tooOld item.timestamp packet.timestamp) : q ∈ b.items :=
    (dropWhile_sublist _).mem hq
  constructor
  · rintro ⟨c, sh'', hc, hkept⟩
    obtain ⟨rfl, -⟩ := Prod.mk.inj (Except.ok.inj (hinsert.symm.trans hc))
    obtain ⟨-, -, hlow⟩ := (get_eq_some_iff hwf hmax'' hold').mp hkept.found
    have hall := fun q (hq : q ∈ b'.items) => seqLower_of_newest hwf hmax'' hold' hnew' hlow hq
    refine ⟨hdated, (pairwise_iff_dropWhile _ _ _).mpr fun q hq hdist => ?_, fun q hq hne hdist hold => ?_⟩
    · -- an item that is left is found, and so it is not too old
      have hq' : q ∈ b'.items := (hmem q).mpr (.inr ⟨hq, hdist⟩)
      have hget := (get_eq_some_iff hwf hmax'' hold').mpr ⟨hq', rfl, (hall q hq').1⟩
      have hne : q ≠ (fillItem sh packet).2 := fun heq =>
        ne_of_distance hhigh (hdist.trans hmax) (congrArg (fun item => item.sequenceNumber) heq)
      exact ((hkept.stored q (hsub hq) hne).mp hget).2
    · have hget := (hkept.stored q hq hne).mpr ⟨hdist, hold⟩
      have hq' := ((get_eq_some_iff hwf hmax'' hold').mp hget).1
      rcases (hmem q).mp hq' with heq | ⟨-, hdist⟩
      · exact absurd heq hne
      · exact ⟨by omega, (hall q hq').2⟩
  · intro horderly
    have hyoung := (pairwise_iff_dropWhile _ _ _).mp horderly.ages
    have hlow : seqLower packet.sequenceNumber oldest'.sequenceNumber = false := by
      by_cases heq : oldest' = (fillItem sh packet).2
      · rw [heq]
        exact seqLower_self _
      · obtain ⟨hq, hdist⟩ := ((hmem oldest').mp (mem_items_of_getOldest hold')).resolve_left heq
        refine (horderly.numbers oldest' (hsub hq) heq ?_ (hyoung oldest' hq hdist)).2
        rwa [toNat_sub_eq_distance (hdist.trans hmax)]
    have hall := fun q (hq : q ∈ b'.items) => seqLower_of_newest hwf hmax'' hold' hnew' hlow hq
    refine ⟨b', sh', hinsert, ?_, fun q hq hne => ?_, fun seq q hget => ?_⟩
    · exact (get_eq_some_iff hwf hmax'' hold').mpr ⟨(hmem _).mpr (.inl rfl), rfl, hlow⟩
    · constructor
      · intro hget
        obtain ⟨hq', hdist⟩ :=
          ((hmem q).mp ((get_eq_some_iff hwf hmax'' hold').mp hget).1).resolve_left hne
        rw [toNat_sub_eq_distance (hdist.trans hmax)]
        exact ⟨hdist, hyoung q hq' hdist⟩
      · rintro ⟨hdist, hyoung⟩
        rw [toNat_sub_eq_distance (horderly.numbers q hq hne hdist hyoung).1] at hdist
        have hleft := mem_dropWhile_of_not (p := fun item => b.tooOld item.timestamp packet.timestamp) hyoung hq
        have hq' : q ∈ b'.items := (hmem q).mpr (.inr ⟨hleft, hdist⟩)
        exact (get_eq_some_iff hwf hmax'' hold').mpr ⟨hq', rfl, (hall q hq').1⟩
    · have hq := (hmem q).mp ((get_eq_some_iff hwf hmax'' hold').mp hget).1
      exact hq.imp_right fun hq => hsub hq.1

theorem keeps_window : (bufferAfter [(1, 0), (2, 90000)]).Keeps {} (packetAt 9 200000) := by
  have hwf : WellFormed (bufferAfter [(1, 0), (2, 90000)]) := wellFormed_bufferAfter (by decide +kernel)
  have hnew : (bufferAfter [(1, 0), (2, 90000)]).getNewest = some (itemOf 2 90000) := by decide +kernel
  refine (kept_iff _ {} (packetAt 9 200000) (itemOf 2 90000) hwf (by decide +kernel) hnew (by decide) (by decide)).mpr
    ⟨fun oldest hold => ⟨true, ?_⟩, ages_of_window (by decide +kernel) (by decide +kernel),
      fun q hq _ hdist _ => numbers_of_le hwf (by decide +kernel) hnew (by decide) hq hdist⟩
  cases hold.symm.trans (show _ = some (itemOf 1 0) by decide +kernel)
  decide +kernel

/-- **A jump of the timestamps by almost half the circle**: the oldest item is taken for a newer one, and so the other one, which
is too old, stays and is found. -/
theorem not_keeps_jump : (insertions [(1, 0), (2, 90000)]).foldlM operate smallBuffer = .ok (bufferAfter [(1, 0), (2, 90000)]) ∧
      (bufferAfter [(1, 0), (2, 90000)]).getNewest = some (itemOf 2 90000) ∧
      seqHigher (packetAt 3 2147573647).sequenceNumber (itemOf 2 90000).sequenceNumber = true ∧
      timestampLower (packetAt 3 2147573647).timestamp (itemOf 2 90000).timestamp = false ∧
      (bufferAfter [(1, 0), (2, 90000)]).isTooOldTimestamp (itemOf 2 90000).timestamp (packetAt 3 2147573647).timestamp = .ok true ∧
      ¬(bufferAfter [(1, 0), (2, 90000)]).Keeps {} (packetAt 3 2147573647) := by
  have htooOld : (bufferAfter [(1, 0), (2, 90000)]).isTooOldTimestamp (itemOf 2 90000).timestamp
      (packetAt 3 2147573647).timestamp = .ok true := by decide +kernel
  refine ⟨run_bufferAfter (by decide +kernel), by decide +kernel, by decide, by decide, htooOld, ?_⟩
  rintro ⟨b', sh', hinsert, hkept⟩
  have hfound : ((bufferAfter [(1, 0), (2, 90000)]).insert {} (packetAt 3 2147573647)).toOption.map (·.1.get 2) =
      some (some (itemOf 2 90000)) := by decide +kernel
  rw [hinsert] at hfound
  have hyoung := ((hkept.stored (itemOf 2 90000) (by decide +kernel) (by decide)).mp (Option.some.inj hfound)).2
  simp [tooOld, htooOld] at hyoung

end RetransmissionBuffer

end Mediasoup.Rtp
