import Mediasoup.Rtp.RetransmissionBuffer

/-!
# The places of the retransmission buffer

Whatever packets are inserted, the buffer stays `WellFormed`: its first and last places hold items, the item at place `i` has the
number of the first one plus `i`, there are at most `maxItems` places, and the timestamps rise circularly. An insertion takes
places away from the front (`WellFormed.suffix`), and then adds a place at the back, at the front, or fills a blank one.
-/

namespace Mediasoup.Rtp

open Lib Mediasoup.Seq List

namespace RetransmissionBuffer

/-! ## Numbered places -/

/-- The items stand at the places of their numbers, from `seq` on. -/
def Numbered : UInt16 → List (Option Item) → Prop
  | _, [] => True
  | seq, place :: rest => (∀ item ∈ place, item.sequenceNumber = seq) ∧ Numbered (seq + 1) rest

theorem add_ofNat_succ (seq : UInt16) (n : Nat) : seq + UInt16.ofNat (n + 1) = seq + 1 + UInt16.ofNat n := by
  rw [UInt16.ofNat_add, UInt16.add_assoc, UInt16.add_comm (UInt16.ofNat n)]
  rfl

theorem numbered_append : ∀ {l₁ l₂ : List (Option Item)} {seq : UInt16},
    Numbered seq (l₁ ++ l₂) ↔ Numbered seq l₁ ∧ Numbered (seq + UInt16.ofNat l₁.length) l₂
  | [], l₂, seq => by
    rw [nil_append, length_nil, show UInt16.ofNat 0 = 0 from rfl, UInt16.add_zero]
    exact ⟨fun h => ⟨trivial, h⟩, fun h => h.2⟩
  | place :: l₁, l₂, seq => by
    rw [cons_append, length_cons, add_ofNat_succ]
    change (_ ∧ Numbered (seq + 1) (l₁ ++ l₂)) ↔ (_ ∧ Numbered (seq + 1) l₁) ∧ _
    rw [numbered_append]
    exact and_assoc.symm

theorem numbered_blanks : ∀ {n : Nat} {seq : UInt16}, Numbered seq (blanks n)
  | 0, _ => trivial
  | _ + 1, _ => ⟨nofun, numbered_blanks⟩

/-- The number of an item is that of its place. -/
theorem Numbered.sequenceNumber : ∀ {l : List (Option Item)} {seq : UInt16} {i : Nat} {item : Item},
    Numbered seq l → l[i]?.join = some item → item.sequenceNumber = seq + UInt16.ofNat i
  | [], _, _, _, _, h => by simp at h
  | place :: l, seq, 0, item, hl, h => by
    rw [show UInt16.ofNat 0 = 0 from rfl, UInt16.add_zero]
    exact hl.1 item (by simpa using h)
  | place :: l, seq, i + 1, item, hl, h => by
    rw [add_ofNat_succ]
    exact hl.2.sequenceNumber (by simpa using h)

/-! ## The nearest items -/

theorem nearest_eq_head? : ∀ places : List (Option Item), nearest places = places.reduceOption.head?
  | [] => rfl
  | none :: rest => by
    rw [reduceOption_cons_of_none, ← nearest_eq_head? rest]
    rfl
  | some item :: rest => by
    rfl

theorem nearest_reverse (places : List (Option Item)) : nearest places.reverse = places.reduceOption.getLast? := by
  rw [nearest_eq_head?, List.reduceOption, filterMap_reverse, List.head?_reverse]

/-! ## The invariant -/

/-- The newer item has no lower timestamp, in the circular order. -/
def InOrder (older newer : Item) : Prop := timestampLower newer.timestamp older.timestamp = false

theorem InOrder.between {older newer item : Item} (h : InOrder older newer) (hold : ¬ item.timestamp < older.timestamp)
    (hnew : ¬ newer.timestamp < item.timestamp) : InOrder older item ∧ InOrder item newer := by
  rw [UInt32.lt_iff_toNat_lt] at hold hnew
  unfold InOrder timestampLower isSeqLowerThan maxValue at *
  simp only [decide_eq_false_iff_not] at h ⊢
  omega

/-- The ends are items, and the items are numbered and in order. -/
structure Places (l : List (Option Item)) : Prop where
  first : l ≠ [] → l.head?.join.isSome
  last : l ≠ [] → l.getLast?.join.isSome
  numbered : ∃ seq, Numbered seq l
  ordered : l.reduceOption.IsChain InOrder

/-- The invariant of the buffer. -/
structure WellFormed (b : RetransmissionBuffer) : Prop where
  size : b.buffer.length ≤ b.maxItems
  places : Places b.buffer

theorem places_nil : Places [] :=
  ⟨fun h => absurd rfl h, fun h => absurd rfl h, ⟨0, trivial⟩, isChain_nil⟩

theorem places_singleton (item : Item) : Places [some item] :=
  ⟨fun _ => rfl, fun _ => rfl, ⟨item.sequenceNumber, by rintro _ ⟨⟩; rfl, trivial⟩, isChain_singleton item⟩

namespace Places

variable {l : List (Option Item)} {oldest newest item : Item}

theorem numbered_first (h : Places l) (hold : l.head?.join = some oldest) : Numbered oldest.sequenceNumber l := by
  obtain ⟨seq, hseq⟩ := h.numbered
  cases l with
  | nil => exact trivial
  | cons place rest =>
    obtain rfl : oldest.sequenceNumber = seq := hseq.1 oldest (by simpa using hold)
    exact hseq

theorem sequenceNumber_last (h : Places l) (hold : l.head?.join = some oldest) (hnew : l.getLast?.join = some newest) :
    newest.sequenceNumber = oldest.sequenceNumber + UInt16.ofNat (l.length - 1) := by
  rw [List.getLast?_eq_getElem?] at hnew
  exact (h.numbered_first hold).sequenceNumber hnew

/-- `RemoveOldest` leaves a suffix, whose first place is an item. -/
theorem suffix {s : List (Option Item)} (h : Places l) (hs : s <:+ l) (hfirst : s ≠ [] → s.head?.join.isSome) : Places s := by
  obtain ⟨p, rfl⟩ := hs
  refine ⟨hfirst, ?_, ?_, ?_⟩
  · intro hne
    have hlast := h.last (append_ne_nil_of_right_ne_nil p hne)
    rwa [List.getLast?_append_of_ne_nil p hne] at hlast
  · obtain ⟨seq, hseq⟩ := h.numbered
    exact ⟨_, (numbered_append.mp hseq).2⟩
  · have hordered := h.ordered
    rw [reduceOption_append] at hordered
    exact hordered.right_of_append

theorem getLast?_reduceOption (hnew : l.getLast?.join = some newest) : l.reduceOption.getLast? = some newest := by
  obtain ⟨s, hs⟩ := List.getLast?_eq_some_iff.mp (Option.join_eq_some_iff.mp hnew)
  rw [hs, reduceOption_append]
  exact List.getLast?_concat

theorem head?_reduceOption (hold : l.head?.join = some oldest) : l.reduceOption.head? = some oldest := by
  obtain ⟨s, hs⟩ := List.head?_eq_some_iff.mp (Option.join_eq_some_iff.mp hold)
  rw [hs, reduceOption_cons_of_some]
  rfl

/-- An item behind the newest one, with blanks between them. -/
theorem pushBack (h : Places l) (hnew : l.getLast?.join = some newest) (hts : InOrder newest item) {n : Nat}
    (hseq : item.sequenceNumber = newest.sequenceNumber + UInt16.ofNat (n + 1)) :
    Places (l ++ blanks n ++ [some item]) := by
  have hne : l ≠ [] := by rintro rfl; cases hnew
  obtain ⟨oldest, hold⟩ := Option.isSome_iff_exists.mp (h.first hne)
  refine ⟨fun _ => ?_, fun _ => ?_, ⟨oldest.sequenceNumber, ?_⟩, ?_⟩
  · rw [append_assoc, List.head?_append_of_ne_nil _ hne, hold]
    rfl
  · rw [List.getLast?_concat]
    rfl
  · rw [numbered_append, numbered_append]
    refine ⟨⟨h.numbered_first hold, numbered_blanks⟩, ?_, trivial⟩
    rintro _ ⟨⟩
    -- the last place has number `length - 1` after the first, and the new one `n + 1` after it
    have hlen : (l ++ blanks n).length = l.length - 1 + (n + 1) := by
      have := length_pos_of_ne_nil hne
      simp only [length_append, blanks, length_replicate]
      omega
    rw [hseq, h.sequenceNumber_last hold hnew, hlen, UInt16.ofNat_add (l.length - 1), UInt16.add_assoc]
  · rw [reduceOption_append, reduceOption_append, reduceOption_blanks, append_nil]
    refine isChain_append.mpr ⟨h.ordered, isChain_singleton item, ?_⟩
    intro x hx y hy
    rw [getLast?_reduceOption hnew] at hx
    cases hx
    cases hy
    exact hts

/-- An item before the oldest one, with blanks between them. -/
theorem pushFront (h : Places l) (hold : l.head?.join = some oldest) (hts : InOrder item oldest) {n : Nat}
    (hseq : oldest.sequenceNumber = item.sequenceNumber + UInt16.ofNat (n + 1)) :
    Places (some item :: blanks n ++ l) := by
  have hne : l ≠ [] := by rintro rfl; cases hold
  refine ⟨fun _ => rfl, fun _ => ?_, ⟨item.sequenceNumber, ?_⟩, ?_⟩
  · rw [List.getLast?_append_of_ne_nil _ hne]
    exact h.last hne
  · rw [numbered_append]
    refine ⟨⟨by rintro _ ⟨⟩; rfl, numbered_blanks⟩, ?_⟩
    have hlen : (some item :: blanks n).length = n + 1 := by simp [blanks]
    rw [hlen, ← hseq]
    exact h.numbered_first hold
  · rw [reduceOption_append, reduceOption_cons_of_some, reduceOption_blanks]
    refine isChain_append.mpr ⟨isChain_singleton item, h.ordered, ?_⟩
    intro x hx y hy
    rw [head?_reduceOption hold] at hy
    cases hx
    cases hy
    exact hts

/-- An item at a blank place, in order with its neighbours. -/
theorem fill {l₁ l₂ : List (Option Item)} (h : Places (l₁ ++ none :: l₂))
    (hold : (l₁ ++ none :: l₂).head?.join = some oldest)
    (hseq : item.sequenceNumber = oldest.sequenceNumber + UInt16.ofNat l₁.length)
    (holder : ∀ older ∈ l₁.reduceOption.getLast?, ¬ item.timestamp < older.timestamp)
    (hnewer : ∀ newer ∈ l₂.reduceOption.head?, ¬ newer.timestamp < item.timestamp) :
    Places (l₁ ++ some item :: l₂) := by
  have hlast := h.last (by simp)
  have hnumbered := numbered_append.mp (h.numbered_first hold)
  -- neither end of the buffer is blank
  have hne₁ : l₁ ≠ [] := by rintro rfl; cases hold
  have hne₂ : l₂ ≠ [] := by
    rintro rfl
    rw [List.getLast?_concat] at hlast
    cases hlast
  rw [List.head?_append_of_ne_nil _ hne₁] at hold
  have hlast' : (some item :: l₂).getLast? = (none :: l₂).getLast? := by
    rw [List.getLast?_cons_of_ne_nil hne₂, List.getLast?_cons_of_ne_nil hne₂]
  rw [List.getLast?_append_of_ne_nil _ (cons_ne_nil _ _)] at hlast
  obtain ⟨newest, hnew⟩ := Option.isSome_iff_exists.mp hlast
  refine ⟨fun _ => ?_, fun _ => ?_, ⟨oldest.sequenceNumber, ?_⟩, ?_⟩
  · rw [List.head?_append_of_ne_nil _ hne₁, hold]
    rfl
  · rw [List.getLast?_append_of_ne_nil _ (cons_ne_nil _ _), hlast']
    exact hlast
  · refine numbered_append.mpr ⟨hnumbered.1, ?_, hnumbered.2.2⟩
    rintro _ ⟨⟩
    exact hseq
  · have hordered := h.ordered
    rw [reduceOption_append, reduceOption_cons_of_none] at hordered
    rw [reduceOption_append, reduceOption_cons_of_some]
    obtain ⟨h₁, h₂, hbetween⟩ := isChain_append.mp hordered
    -- the items next to the blank place
    obtain ⟨older, holder'⟩ : ∃ older, l₁.reduceOption.getLast? = some older := by
      apply Option.ne_none_iff_exists'.mp
      intro hnone
      have hhead := head?_reduceOption hold
      simp [List.getLast?_eq_none_iff.mp hnone] at hhead
    obtain ⟨newer, hnewer'⟩ : ∃ newer, l₂.reduceOption.head? = some newer := by
      apply Option.ne_none_iff_exists'.mp
      intro hnone
      rw [List.getLast?_cons_of_ne_nil hne₂] at hnew
      have hend := getLast?_reduceOption hnew
      simp [List.head?_eq_none_iff.mp hnone] at hend
    obtain ⟨hleft, hright⟩ :=
      (hbetween older holder' newer hnewer').between (holder older holder') (hnewer newer hnewer')
    refine isChain_append.mpr ⟨h₁, isChain_cons.mpr ⟨?_, h₂⟩, ?_⟩
    · intro y hy
      rw [hnewer'] at hy
      cases hy
      exact hright
    · intro x hx y hy
      rw [holder'] at hx
      cases hx
      cases hy
      exact hleft

end Places

/-! ## Removal from the front -/

theorem removeWhile_suffix (more : Item → Nat → Bool) : ∀ l : List (Option Item), removeWhile more l <:+ l
  | [] => suffix_rfl
  | none :: rest => (removeWhile_suffix more rest).trans (suffix_cons none rest)
  | some item :: rest => by
    rw [removeWhile]
    split
    · exact (removeWhile_suffix more rest).trans (suffix_cons _ rest)
    · exact suffix_rfl

theorem removeWhile_first (more : Item → Nat → Bool) : ∀ l : List (Option Item),
    removeWhile more l ≠ [] → (removeWhile more l).head?.join.isSome
  | [], h => absurd rfl h
  | none :: rest, h => removeWhile_first more rest h
  | some item :: rest, h => by
    rw [removeWhile] at h ⊢
    split at h
    · rw [if_pos ‹_›]
      exact removeWhile_first more rest h
    · rw [if_neg ‹_›]
      rfl

/-- The loop of `RemoveOldest` never meets a blank first place. -/
theorem removeOldestWhile_eq {l : List (Option Item)} (h : Places l) (more : Item → Nat → Bool) :
    removeOldestWhile more l = removeWhile more l := by
  match l, h with
  | [], _ => rfl
  | none :: rest, h => cases h.first (cons_ne_nil _ _)
  | some item :: rest, _ => rfl

theorem Places.removeOldestWhile {l : List (Option Item)} (h : Places l) (more : Item → Nat → Bool) :
    Places (removeOldestWhile more l) := by
  rw [removeOldestWhile_eq h]
  exact h.suffix (removeWhile_suffix more l) (removeWhile_first more l)

theorem getLast?_removeWhile {more : Item → Nat → Bool} {newest : Item} (hmore : more newest 1 = false) :
    ∀ {l : List (Option Item)}, l.getLast?.join = some newest → (removeWhile more l).getLast?.join = some newest
  | [], h => by cases h
  | [none], h => by cases h
  | [some item], h => by
    cases h
    rw [removeWhile, length_nil, Nat.zero_add, if_neg (by rw [hmore]; exact Bool.false_ne_true)]
    rfl
  | none :: place :: rest, h => getLast?_removeWhile hmore (l := place :: rest) h
  | some item :: place :: rest, h => by
    rw [removeWhile]
    split
    · exact getLast?_removeWhile hmore (l := place :: rest) h
    · exact h

theorem length_removeWhile (m : Nat) : ∀ l : List (Option Item), (removeWhile (fun _ size => decide (size > m)) l).length ≤ m
  | [] => Nat.zero_le m
  | none :: rest => length_removeWhile m rest
  | some item :: rest => by
    rw [removeWhile]
    split
    · exact length_removeWhile m rest
    · rename_i hsize
      simpa using hsize

/-! ## Insertion -/

variable {b : RetransmissionBuffer} {oldest newest item : Item}

theorem WellFormed.clear (b : RetransmissionBuffer) : WellFormed b.clear := ⟨Nat.zero_le _, places_nil⟩

/-- The buffer has the invariant, and the size limit and the clock rate of `b`. -/
structure Follows (b b' : RetransmissionBuffer) : Prop where
  wellFormed : WellFormed b'
  maxItems : b'.maxItems = b.maxItems
  clockRate : b'.clockRate = b.clockRate

theorem Follows.trans {b b' b'' : RetransmissionBuffer} (h : Follows b b') (h' : Follows b' b'') : Follows b b'' :=
  ⟨h'.wellFormed, h'.maxItems.trans h.maxItems, h'.clockRate.trans h.clockRate⟩

theorem Follows.traps {b b' : RetransmissionBuffer} {f : BufferFault} (h : Follows b b') : b'.Traps f → b.Traps f :=
  And.imp_right h.clockRate.symm.trans

/-- The computation returns, and a buffer that it returns follows `b`. -/
def Placed (b : RetransmissionBuffer) (r : Except BufferFault (Option RetransmissionBuffer)) : Prop :=
  ∃ o, r = .ok o ∧ ∀ b' ∈ o, Follows b b'

theorem placed_none (b : RetransmissionBuffer) : Placed b (.ok none) := ⟨none, rfl, nofun⟩

theorem Placed.ends {r : Except BufferFault (Option RetransmissionBuffer)} {E : BufferFault → Prop} (h : Placed b r) :
    Ends (fun o => ∀ b' ∈ o, Follows b b') E r := by
  obtain ⟨o, rfl, ho⟩ := h
  exact ho

theorem placed_checkSize {c : RetransmissionBuffer} (hmax : c.maxItems = b.maxItems) (hrate : c.clockRate = b.clockRate)
    (hsize : c.buffer.length ≤ c.maxItems) (hplaces : Places c.buffer) : Placed b c.checkSize := by
  refine ⟨some c, ?_, ?_⟩
  · unfold checkSize
    rw [if_pos hsize]
  · rintro _ ⟨⟩
    exact ⟨⟨hsize, hplaces⟩, hmax, hrate⟩

/-- Room for `n` blanks and an item behind the newest one: the oldest items go. -/
theorem WellFormed.makePlaces (h : WellFormed b) (hpos : 0 < b.maxItems) (hnew : b.getNewest = some newest) {n : Nat}
    (hn : n + 1 < 2 ^ 16) : ∃ c m, b.makePlaces n = .ok (c, m) ∧ c.maxItems = b.maxItems ∧ c.clockRate = b.clockRate ∧
      c.buffer.length + m + 1 ≤ c.maxItems ∧
      (c.buffer = [] ∧ m = 0 ∨ Places c.buffer ∧ c.getNewest = some newest ∧ m = n) := by
  have hsize := h.size
  simp only [RetransmissionBuffer.makePlaces]
  by_cases hfit : b.buffer.length + n + 1 > b.maxItems
  · rw [if_pos hfit, Nat.mod_eq_of_lt (by omega : b.buffer.length + n + 1 - b.maxItems < 2 ^ 16)]
    by_cases hall : b.buffer.length + n + 1 - b.maxItems > b.buffer.length - 1
    · rw [if_pos hall]
      exact ⟨b.clear, 0, rfl, rfl, rfl, hpos, Or.inl ⟨rfl, rfl⟩⟩
    -- at least one place is left, so the newest item is
    rw [if_neg hall, removeOldest, if_neg (by omega)]
    refine ⟨_, n, rfl, rfl, rfl, ?_, Or.inr ⟨?_, ?_, rfl⟩⟩
    · have := length_removeWhile (b.buffer.length - (b.buffer.length + n + 1 - b.maxItems)) b.buffer
      rw [removeOldestWhile_eq h.places]
      dsimp only
      omega
    · exact h.places.removeOldestWhile fun _ size => decide (size > _)
    · rw [getNewest, removeOldestWhile_eq h.places]
      exact getLast?_removeWhile (by simp only [gt_iff_lt, decide_eq_false_iff_not]; omega) hnew
  · rw [if_neg hfit]
    exact ⟨b, n, rfl, rfl, rfl, by omega, Or.inr ⟨h.places, hnew, rfl⟩⟩

theorem toNat_sub_of_higher {a c : UInt16} (h : seqHigher a c = true) : (a - c - 1).toNat + 1 < 2 ^ 16 := by
  unfold seqHigher isSeqHigherThan maxValue at h
  rw [decide_eq_true_eq] at h
  have hc := c.toNat_lt
  simp only [UInt16.toNat_sub, UInt16.toNat_one]
  omega

theorem eq_add_ofNat_toNat_sub (a c : UInt16) : a = c + UInt16.ofNat ((a - c - 1).toNat + 1) := by
  rw [UInt16.ofNat_add, UInt16.ofNat_toNat, show UInt16.ofNat 1 = 1 from rfl, UInt16.sub_add_cancel, UInt16.add_comm,
    UInt16.sub_add_cancel]

/-- A packet newer than the newest one. -/
theorem WellFormed.insertNewest (h : WellFormed b) (hpos : 0 < b.maxItems) (hnew : b.getNewest = some newest)
    (hhigh : seqHigher item.sequenceNumber newest.sequenceNumber = true) : Placed b (b.insertNewest newest item) := by
  unfold RetransmissionBuffer.insertNewest
  split
  · exact placed_none b
  rename_i hts
  obtain ⟨c, m, hc, hmax, hrate, hsize, hcases⟩ := h.makePlaces hpos hnew (toNat_sub_of_higher hhigh)
  rw [hc]
  refine placed_checkSize (c := c.pushBack m item) hmax hrate ?_ ?_
  · simp only [RetransmissionBuffer.pushBack, blanks, length_append, length_replicate, length_singleton]
    exact hsize
  · rcases hcases with ⟨hnil, rfl⟩ | ⟨hplaces, hlast, rfl⟩
    · simp only [RetransmissionBuffer.pushBack, hnil]
      exact places_singleton item
    · exact hplaces.pushBack hlast (Bool.eq_false_of_not_eq_true hts) (eq_add_ofNat_toNat_sub _ _)

/-- A packet older than the oldest one. -/
theorem WellFormed.insertOldest (h : WellFormed b) (hold : b.getOldest = some oldest) :
    Ends (fun o => ∀ b' ∈ o, Follows b b') b.Traps (b.insertOldest oldest newest item) := by
  refine Ends.bind (isTooOldTimestamp_ends b _ _) fun old _ => ?_
  split
  · exact (placed_none b).ends
  split
  · exact (placed_none b).ends
  rename_i hts
  dsimp only
  split
  · exact (placed_none b).ends
  refine (placed_checkSize (b := b) (c := b.pushFront _ item) rfl rfl ?_ ?_).ends
  · simp only [RetransmissionBuffer.pushFront, blanks, length_append, length_cons, length_replicate]
    omega
  · exact h.places.pushFront hold (Bool.eq_false_of_not_eq_true hts) (eq_add_ofNat_toNat_sub _ _)

theorem WellFormed.toNat_sub_lt (h : WellFormed b) (hold : b.getOldest = some oldest)
    (hnew : b.getNewest = some newest) {seq : UInt16} (hhigh : seqHigher seq newest.sequenceNumber = false)
    (hlow : seqLower seq oldest.sequenceNumber = false) :
    (seq - oldest.sequenceNumber).toNat < b.buffer.length := by
  have hpos : 0 < b.buffer.length := by
    apply length_pos_of_ne_nil
    intro hnil
    simp [getOldest, hnil] at hold
  have hlast := congrArg UInt16.toNat (h.places.sequenceNumber_last hold hnew)
  simp only [UInt16.toNat_add, UInt16.toNat_ofNat'] at hlast
  unfold seqHigher isSeqHigherThan maxValue at hhigh
  unfold seqLower isSeqLowerThan maxValue at hlow
  simp only [decide_eq_false_iff_not] at hhigh hlow
  have hs := seq.toNat_lt
  have ho := oldest.sequenceNumber.toNat_lt
  simp only [UInt16.toNat_sub]
  omega

theorem get_eq_itemAt (hold : b.getOldest = some oldest) {seq : UInt16}
    (hlow : seqLower seq oldest.sequenceNumber = false) (hsize : b.buffer.length ≤ 2 ^ 16)
    (hidx : (seq - oldest.sequenceNumber).toNat < b.buffer.length) :
    b.get seq = b.itemAt (seq - oldest.sequenceNumber).toNat := by
  have hmod : (b.buffer.length - 1) % 2 ^ 16 = b.buffer.length - 1 := Nat.mod_eq_of_lt (by omega)
  simp only [get, indexOf, hold, hlow, hmod]
  rw [if_neg Bool.false_ne_true, if_neg (by omega)]
  rfl

/-- A packet between the oldest and the newest one. -/
theorem WellFormed.insertBetween (h : WellFormed b) (hmax : b.maxItems ≤ 2 ^ 16) (hold : b.getOldest = some oldest)
    (hlow : seqLower item.sequenceNumber oldest.sequenceNumber = false)
    (hidx : (item.sequenceNumber - oldest.sequenceNumber).toNat < b.buffer.length) :
    Placed b (b.insertBetween oldest item) := by
  have hget := get_eq_itemAt hold hlow (h.size.trans hmax) hidx
  have hseq : item.sequenceNumber =
      oldest.sequenceNumber + UInt16.ofNat (item.sequenceNumber - oldest.sequenceNumber).toNat := by
    rw [UInt16.ofNat_toNat, UInt16.add_comm, UInt16.sub_add_cancel]
  simp only [RetransmissionBuffer.insertBetween]
  generalize (item.sequenceNumber - oldest.sequenceNumber).toNat = idx at hidx hget hseq ⊢
  split
  · exact placed_none b
  rename_i hblank
  rw [if_neg (by omega)]
  split
  · exact placed_none b
  rename_i holder
  split
  · exact placed_none b
  rename_i hnewer
  -- the place of the packet is a blank one
  rw [hget, itemAt, List.getElem?_eq_getElem hidx] at hblank
  have hplace : b.buffer[idx] = none := by simpa using hblank
  have hsplit : b.buffer = b.buffer.take idx ++ none :: b.buffer.drop (idx + 1) := by
    rw [← hplace, ← drop_eq_getElem_cons hidx, take_append_drop]
  have hset : b.buffer.set idx (some item) = b.buffer.take idx ++ some item :: b.buffer.drop (idx + 1) := by
    rw [set_eq_take_append_cons_drop, if_pos hidx]
  refine placed_checkSize rfl rfl ?_ ?_
  · rw [length_set]
    exact h.size
  · rw [hset]
    have hplaces := h.places
    rw [getOldest] at hold
    rw [hsplit] at hplaces hold
    refine hplaces.fill hold ?_ ?_ ?_
    · rw [length_take, min_eq_left hidx.le]
      exact hseq
    · intro older hmem hlt
      rw [nearest_reverse, hmem] at holder
      exact holder (decide_eq_true hlt)
    · intro newer hmem hlt
      rw [nearest_eq_head?, hmem] at hnewer
      exact hnewer (decide_eq_true hlt)

/-- **The branches of `Insert`**: the invariant is kept, and only a clock rate of 0 traps. -/
theorem WellFormed.place_ends (h : WellFormed b) (hpos : 0 < b.maxItems) (hmax : b.maxItems ≤ 2 ^ 16) (item : Item) :
    Ends (fun o => ∀ b' ∈ o, Follows b b') b.Traps (b.place item) := by
  unfold RetransmissionBuffer.place
  split
  · rename_i hnil
    rintro _ ⟨⟩
    have hbuffer : (b.pushBack 0 item).buffer = [some item] := by simp [RetransmissionBuffer.pushBack, hnil, blanks]
    exact ⟨⟨by rw [hbuffer]; exact hpos, by rw [hbuffer]; exact places_singleton item⟩, rfl, rfl⟩
  rename_i hne
  obtain ⟨oldest, hold⟩ := Option.isSome_iff_exists.mp (h.places.first hne)
  obtain ⟨newest, hnew⟩ := Option.isSome_iff_exists.mp (h.places.last hne)
  change b.getOldest = some oldest at hold
  change b.getNewest = some newest at hnew
  rw [hold, hnew]
  dsimp only
  split
  · exact (h.insertNewest hpos hnew ‹_›).ends
  split
  · exact h.insertOldest hold
  rename_i hhigh hlow
  have hlow := Bool.eq_false_of_not_eq_true hlow
  exact (h.insertBetween hmax hold hlow (h.toNat_sub_lt hold hnew (Bool.eq_false_of_not_eq_true hhigh) hlow)).ends

theorem WellFormed.clearTooOld (h : WellFormed b) (timestamp : UInt32) : Follows b (b.clearTooOld timestamp) := by
  refine ⟨⟨?_, ?_⟩, rfl, rfl⟩
  · rw [RetransmissionBuffer.clearTooOld, removeOldestWhile_eq h.places]
    exact (removeWhile_suffix _ b.buffer).length_le.trans h.size
  · exact h.places.removeOldestWhile fun item _ => b.tooOld item.timestamp _

theorem WellFormed.makeRoom (h : WellFormed b) (seq : UInt16) (timestamp : UInt32) :
    Ends (Follows b) b.Traps (b.makeRoom seq timestamp) := by
  unfold RetransmissionBuffer.makeRoom
  split
  · exact ⟨h, rfl, rfl⟩
  rename_i hne
  obtain ⟨newest, hnew⟩ := Option.isSome_iff_exists.mp (h.places.last hne)
  change b.getNewest = some newest at hnew
  rw [hnew]
  dsimp only
  split
  · exact ⟨.clear b, rfl, rfl⟩
  · refine (clearTooOldByTimestamp_ends b _).imp fun c hc => ?_
    rw [hc]
    exact h.clearTooOld _

/-! ## Runs -/

inductive Operation
  | insert (sh : SharedPackets) (packet : Packet)
  | clear

def operate (b : RetransmissionBuffer) : Operation → Except BufferFault RetransmissionBuffer
  | .insert sh packet => (b.insert sh packet).map Prod.fst
  | .clear => .ok b.clear

theorem WellFormed.operate_ends (h : WellFormed b) (hpos : 0 < b.maxItems) (hmax : b.maxItems ≤ 2 ^ 16)
    (operation : Operation) : Ends (Follows b) b.Traps (b.operate operation) := by
  cases operation with
  | clear => exact ⟨.clear b, rfl, rfl⟩
  | insert sh packet =>
    refine Ends.map (P := fun r => Follows b r.1) ?_ fun _ hr => hr
    refine Ends.bind (h.makeRoom packet.sequenceNumber packet.timestamp) fun c hc => ?_
    have hends := hc.wellFormed.place_ends (hc.maxItems ▸ hpos) (hc.maxItems ▸ hmax) (fillItem sh packet).2
    refine Ends.bind (hends.faults fun _ => hc.traps) fun o ho => ?_
    cases o with
    | none => exact hc
    | some d => exact hc.trans (ho d rfl)

theorem WellFormed.of_run {operations : List Operation} : ∀ {b b' : RetransmissionBuffer}, WellFormed b → 0 < b.maxItems →
    b.maxItems ≤ 2 ^ 16 → operations.foldlM operate b = .ok b' → Follows b b' := by
  induction operations with
  | nil =>
    rintro b b' h - - hrun
    cases hrun
    exact ⟨h, rfl, rfl⟩
  | cons operation operations ih =>
    intro b b' h hpos hmax hrun
    obtain ⟨c, hc, hrun⟩ := exists_of_bind_eq_ok hrun
    have hfollows := (h.operate_ends hpos hmax operation).of_ok hc
    exact hfollows.trans (ih hfollows.wellFormed (hfollows.maxItems ▸ hpos) (hfollows.maxItems ▸ hmax) hrun)

theorem WellFormed.of_empty (hempty : b.buffer = []) : WellFormed b :=
  ⟨by rw [hempty]; exact Nat.zero_le _, by rw [hempty]; exact places_nil⟩

/-- What a caller relies on, in terms of the places and of `Get`. -/
structure Consistent (b : RetransmissionBuffer) : Prop where
  size : b.buffer.length ≤ b.maxItems
  ends : b.buffer = [] ∨ b.getOldest.isSome ∧ b.getNewest.isSome
  numbered : ∀ oldest i item, b.getOldest = some oldest → b.itemAt i = some item →
    item.sequenceNumber = oldest.sequenceNumber + UInt16.ofNat i
  ordered : b.items.IsChain InOrder
  inRange : ∀ seq i, b.indexOf seq = some i → i < b.buffer.length
  found : ∀ seq item, b.get seq = some item → item.sequenceNumber = seq

theorem indexOf_eq_some {seq : UInt16} {i : Nat} (h : b.indexOf seq = some i) :
    ∃ oldest, b.getOldest = some oldest ∧ i = (seq - oldest.sequenceNumber).toNat ∧ i < b.buffer.length := by
  simp only [indexOf] at h
  split at h
  · cases h
  rename_i oldest hold
  split at h
  · cases h
  split at h
  · cases h
  cases h
  have hpos : 0 < b.buffer.length := by
    apply length_pos_of_ne_nil
    intro hnil
    simp [getOldest, hnil] at hold
  exact ⟨oldest, hold, rfl, by omega⟩

theorem WellFormed.consistent (h : WellFormed b) : Consistent b where
  size := h.size
  ends := by
    by_cases hnil : b.buffer = []
    · exact Or.inl hnil
    · exact Or.inr ⟨h.places.first hnil, h.places.last hnil⟩
  numbered _ _ _ hold hitem := (h.places.numbered_first hold).sequenceNumber hitem
  ordered := h.places.ordered
  inRange seq i hi := by
    obtain ⟨_, _, _, hlt⟩ := indexOf_eq_some hi
    exact hlt
  found seq item hget := by
    obtain ⟨i, hi, hitem⟩ := Option.bind_eq_some_iff.mp hget
    obtain ⟨oldest, hold, rfl, _⟩ := indexOf_eq_some hi
    rw [(h.places.numbered_first hold).sequenceNumber hitem, UInt16.ofNat_toNat, UInt16.add_comm, UInt16.sub_add_cancel]

/-- In every run of `Insert` and `Clear` on a new buffer, no assertion fires, every index is in range, and every state is
consistent. A call does not return only where `IsTooOldTimestamp` divides by a clock rate of 0. -/
theorem consistent_insertions (b : RetransmissionBuffer) (hempty : b.buffer = []) (hpos : 1 ≤ b.maxItems)
    (hmax : b.maxItems < 2 ^ 16) (operations : List Operation) :
    Outcomes operate (Ends Consistent b.Traps) b operations := by
  refine outcomes_of_along (C := fun _ _ => True) (I := Follows b) (fun c operation hc _ => ?_) operations b
    ⟨.of_empty hempty, rfl, rfl⟩ (along_of_forall (fun _ _ => trivial) operations b)
  have hends := hc.wellFormed.operate_ends (hc.maxItems ▸ hpos) (hc.maxItems ▸ hmax.le) operation
  exact ⟨(hends.imp fun d hd => hd.wellFormed.consistent).faults fun _ => hc.traps, fun d hd => hc.trans (hends.of_ok hd)⟩

def outOfOrder : List Operation :=
  [(65535, 300), (1, 500), (65533, 100), (65534, 200)].map fun (seq, timestamp) =>
    .insert {} { payloadType := 96, sequenceNumber := seq, timestamp := timestamp, ssrc := 1, payload := [] }

theorem consistent_outOfOrder :
    ((outOfOrder.foldlM operate { maxItems := 8, maxRetransmissionDelayMs := 2000, clockRate := 90000 }).toOption.map
      fun b => b.buffer.map fun place => place.map fun item => item.sequenceNumber) =
        some [some 65533, some 65534, some 65535, none, some 1] ∧
    Outcomes operate (Ends Consistent (Traps { maxItems := 8, maxRetransmissionDelayMs := 2000, clockRate := 90000 }))
      { maxItems := 8, maxRetransmissionDelayMs := 2000, clockRate := 90000 } outOfOrder :=
  ⟨by decide +kernel, consistent_insertions _ rfl (by decide) (by decide) _⟩

/-- With a clock rate of 0 the second `Insert` divides by it. -/
example : outOfOrder.foldlM operate { maxItems := 8, maxRetransmissionDelayMs := 2000, clockRate := 0 } =
    .error .divisionByZero := by decide +kernel

end RetransmissionBuffer

end Mediasoup.Rtp
