import Mediasoup.Lib.Ring
import Mediasoup.Lib.Run
import Mediasoup.Lib.Slots

/-!
# Rates over a sliding window

`RateCalculator` counts sizes in a ring of `windowItems` items, each of which stands for `itemSizeMs` of time from its first size
on. `RemoveOldData` takes the items away that started before the window. The items between the oldest and the newest index are
the slots of `Lib.Slots` (`Holds`).
-/

namespace Mediasoup.Rtp

open Lib List Slots Ring

/-- `uint64_t` and `size_t`. -/
def sub64 (a b : Nat) : Nat := if b ≤ a then a - b else a + 18446744073709551616 - b

def add64 (a b : Nat) : Nat := (a + b) % 18446744073709551616

theorem sub64_of_le {a b : Nat} (h : b ≤ a) : sub64 a b = a - b := if_pos h

theorem add64_of_lt {a b : Nat} (h : a + b < 18446744073709551616) : add64 a b = a + b := Nat.mod_eq_of_lt h

abbrev BufferItem := Slot

structure RateCalculator where
  windowSizeMs : Nat
  windowItems : Nat
  itemSizeMs : Nat
  buffer : List BufferItem
  newestItemStartTime : Nat := 0
  newestItemIndex : Int := -1
  oldestItemStartTime : Nat := 0
  oldestItemIndex : Int := -1
  totalCount : Nat := 0
  bytes : Nat := 0
  lastRate : Nat := 0
  lastTime : Nat := 0
  deriving DecidableEq

namespace RateCalculator

inductive Fault
  /-- "newest index overlaps with the oldest one" -/
  | overlap
  /-- After a whole round all items have the time 0, so that the loop goes on forever. -/
  | diverges
  deriving DecidableEq

def create (windowSizeMs windowItems : Nat) : RateCalculator where
  windowSizeMs
  windowItems
  itemSizeMs := max (windowSizeMs / windowItems) 1
  buffer := List.replicate windowItems {}

def reset (r : RateCalculator) : RateCalculator :=
  { r with
    buffer := List.replicate r.buffer.length {}
    newestItemStartTime := 0, newestItemIndex := -1, oldestItemStartTime := 0, oldestItemIndex := -1
    totalCount := 0, lastRate := 0, lastTime := 0 }

def wrap (r : RateCalculator) (index : Int) : Int := if index ≥ r.windowItems then 0 else index

def item (r : RateCalculator) (index : Int) : BufferItem := r.buffer.getD index.toNat {}

def setItem (r : RateCalculator) (index : Int) (item : BufferItem) : RateCalculator :=
  { r with buffer := r.buffer.set index.toNat item }

def removeOldestItem (r : RateCalculator) : RateCalculator :=
  let r' := { r with totalCount := sub64 r.totalCount (r.item r.oldestItemIndex).count }.setItem r.oldestItemIndex {}
  let index := r.wrap (r.oldestItemIndex + 1)
  { r' with oldestItemIndex := index, oldestItemStartTime := (r'.item index).time }

def removeItems (newOldestTime : Nat) : Nat → RateCalculator → Except Fault RateCalculator
  | 0, r => if newOldestTime ≥ r.oldestItemStartTime then .error .diverges else .ok r
  | rounds + 1, r =>
    if newOldestTime ≥ r.oldestItemStartTime then removeItems newOldestTime rounds r.removeOldestItem else .ok r

def removeOldData (r : RateCalculator) (nowMs : Nat) : Except Fault RateCalculator :=
  if r.newestItemIndex < 0 ∨ r.oldestItemIndex < 0 then .ok r
  else if sub64 nowMs r.windowSizeMs < r.oldestItemStartTime then .ok r
  else if sub64 nowMs r.windowSizeMs ≥ r.newestItemStartTime then .ok r.reset
  else removeItems (sub64 nowMs r.windowSizeMs) r.windowItems r

/-- "increase the item index", or "Update the newest item". -/
def countItem (r : RateCalculator) (size nowMs : Nat) : Except Fault RateCalculator :=
  if r.newestItemIndex < 0 ∨ sub64 nowMs r.newestItemStartTime ≥ r.itemSizeMs then
    let index := r.wrap (r.newestItemIndex + 1)
    if index ≠ r.oldestItemIndex ∨ r.oldestItemIndex = -1 then
      .ok ({ r with newestItemIndex := index, newestItemStartTime := nowMs }.setItem index ⟨size, nowMs⟩)
    else .error .overlap
  else
    let newest := r.item r.newestItemIndex
    .ok (r.setItem r.newestItemIndex { newest with count := add64 newest.count size })

/-- "Set the oldest item index and time, if not set", and what follows. -/
def finishUpdate (r : RateCalculator) (size nowMs : Nat) : RateCalculator :=
  let r := if r.oldestItemIndex < 0 then { r with oldestItemIndex := r.newestItemIndex, oldestItemStartTime := nowMs } else r
  { r with totalCount := add64 r.totalCount size, lastRate := 0, lastTime := 0 }

def update (r : RateCalculator) (size nowMs : Nat) : Except Fault RateCalculator :=
  if nowMs < r.oldestItemStartTime then .ok r
  else do
    let r ← { r with bytes := add64 r.bytes size }.removeOldData nowMs
    let r ← r.countItem size nowMs
    .ok (r.finishUpdate size nowMs)

/-- The rate of a total count is computed in floating point numbers; `rate` stands for it. -/
def getRate (rate : Nat → Nat) (r : RateCalculator) (nowMs : Nat) : Except Fault (Nat × RateCalculator) :=
  if nowMs = r.lastTime then .ok (r.lastRate, r)
  else do
    let r ← r.removeOldData nowMs
    .ok (rate r.totalCount, { r with lastTime := nowMs, lastRate := rate r.totalCount })

inductive Call
  | update (size nowMs : Nat)
  | getRate (nowMs : Nat)
  deriving DecidableEq

def Call.nowMs : Call → Nat
  | .update _ nowMs | .getRate nowMs => nowMs

def step (rate : Nat → Nat) (r : RateCalculator) : Call → Except Fault RateCalculator
  | .update size nowMs => r.update size nowMs
  | .getRate nowMs => (r.getRate rate nowMs).map (·.2)

/-! ## The slots in the ring -/

/-- Items from the index `o` on, the newest one `k` after it. -/
structure Active (r : RateCalculator) (o k : Nat) : Prop where
  oldest_lt : o < r.windowItems
  newest_lt : k < r.windowItems
  oldestItemIndex : r.oldestItemIndex = o
  newestItemIndex : r.newestItemIndex = ((o + k) % r.windowItems : Nat)
  oldestItemStartTime : r.oldestItemStartTime = (r.buffer.getD o {}).time
  newestItemStartTime : r.newestItemStartTime = (r.buffer.getD ((o + k) % r.windowItems) {}).time

structure Idle (r : RateCalculator) : Prop where
  newestItemIndex : r.newestItemIndex = -1
  oldestItemIndex : r.oldestItemIndex = -1
  oldestItemStartTime : r.oldestItemStartTime = 0

structure Holds (W n s : Nat) (r : RateCalculator) (slots : List Slot) : Prop where
  windowSizeMs : r.windowSizeMs = W
  windowItems : r.windowItems = n
  itemSizeMs : r.itemSizeMs = s
  length_buffer : r.buffer.length = n
  totalCount : r.totalCount = total slots
  spaced : Slots.Spaced s slots
  items : (slots = [] ∧ r.Idle) ∨ ∃ o k, r.Active o k ∧ slots = contents {} r.buffer o (k + 1)

variable {r : RateCalculator} {W n s : Nat} {slots : List Slot}

theorem wrap_succ (r : RateCalculator) {i : Nat} (hi : i < r.windowItems) :
    r.wrap ((i : Int) + 1) = ((i + 1) % r.windowItems : Nat) := by
  unfold wrap
  split
  · have heq : i + 1 = r.windowItems := by omega
    rw [heq, Nat.mod_self]
    rfl
  · rw [Nat.mod_eq_of_lt (by omega)]
    rfl

theorem getD_set_ne {buffer : List BufferItem} {i j : Nat} (h : i ≠ j) (x : BufferItem) :
    (buffer.set i x).getD j {} = buffer.getD j {} := by
  rw [getD_eq_getElem?_getD, List.getElem?_set_ne h, getD_eq_getElem?_getD]

theorem getD_set_self {buffer : List BufferItem} {i : Nat} (h : i < buffer.length) (x : BufferItem) :
    (buffer.set i x).getD i {} = x := by
  rw [getD_eq_getElem?_getD, List.getElem?_set_self h]
  rfl

theorem Active.contents_oldest {o k : Nat} (h : r.Active o k) (hlen : r.buffer.length = r.windowItems) (j : Nat) :
    contents {} r.buffer o (j + 1) = contents {} r.buffer (o + 1) j ++ [r.buffer.getD o {}] := by
  rw [contents_succ_oldest, hlen, Nat.mod_eq_of_lt h.oldest_lt]

theorem contents_newest (hlen : r.buffer.length = r.windowItems) (o k : Nat) : contents {} r.buffer o (k + 1) =
      r.buffer.getD ((o + k) % r.windowItems) {} :: contents {} r.buffer o k := by
  rw [contents, hlen]

theorem ne_add_mod {o k : Nat} (ho : o < n) (hk : k + 1 < n) : (o + (k + 1)) % n ≠ o := fun heq => by
  have := add_mod_inj hk (Nat.zero_lt_of_lt hk) (heq.trans (Nat.mod_eq_of_lt ho).symm)
  omega

theorem Holds.withRate (h : Holds W n s r slots) (bytes lastRate lastTime : Nat) :
    Holds W n s { r with bytes, lastRate, lastTime } slots :=
  ⟨h.windowSizeMs, h.windowItems, h.itemSizeMs, h.length_buffer, h.totalCount, h.spaced,
    h.items.imp (fun hi => ⟨hi.1, hi.2.newestItemIndex, hi.2.oldestItemIndex, hi.2.oldestItemStartTime⟩)
      fun ⟨o, k, ha, hs⟩ => ⟨o, k, ⟨ha.oldest_lt, ha.newest_lt, ha.oldestItemIndex, ha.newestItemIndex,
        ha.oldestItemStartTime, ha.newestItemStartTime⟩, hs⟩⟩

/-! ## Removing old data -/

theorem removeOldestItem_eq {o k : Nat} (h : r.Active o k) : r.removeOldestItem = { r with
      totalCount := sub64 r.totalCount (r.buffer.getD o {}).count
      buffer := r.buffer.set o {}
      oldestItemIndex := ((o + 1) % r.windowItems : Nat)
      oldestItemStartTime := ((r.buffer.set o {}).getD ((o + 1) % r.windowItems) {}).time } := by
  unfold removeOldestItem
  simp only [h.oldestItemIndex, wrap_succ r h.oldest_lt]
  rfl

theorem Holds.removeOldestItem {o k : Nat} (h : Holds W n s r (contents {} r.buffer o (k + 1 + 1)))
    (hactive : r.Active o (k + 1)) :
    r.removeOldestItem.Active ((o + 1) % n) k ∧
      Holds W n s r.removeOldestItem (contents {} r.removeOldestItem.buffer ((o + 1) % n) (k + 1)) ∧
      contents {} r.removeOldestItem.buffer ((o + 1) % n) (k + 1) = contents {} r.buffer (o + 1) (k + 1) ∧
      r.removeOldestItem.newestItemStartTime = r.newestItemStartTime := by
  have hlen := h.length_buffer
  have hn := h.windowItems
  subst hn
  have holt := hactive.oldest_lt
  have hklt := hactive.newest_lt
  have hcontents : contents {} (r.buffer.set o {}) ((o + 1) % r.windowItems) (k + 1) =
      contents {} r.buffer (o + 1) (k + 1) := by
    have hset : contents {} (r.buffer.set (o % r.buffer.length) {}) (o + 1) (k + 1) =
        contents {} r.buffer (o + 1) (k + 1) := contents_set_oldest (by omega)
    have hlen' : (r.buffer.set o ({} : BufferItem)).length = r.windowItems := by rw [length_set, hlen]
    rw [hlen, Nat.mod_eq_of_lt holt] at hset
    rw [← hset, ← hlen', contents_mod]
  have htotal := h.totalCount
  have hspaced := h.spaced
  rw [hactive.contents_oldest hlen] at hspaced htotal
  rw [total_append, total_cons, total_nil] at htotal
  have hnext : ((o + 1) % r.windowItems + k) % r.windowItems = (o + (k + 1)) % r.windowItems := by
    rw [Nat.mod_add_mod, Nat.add_assoc, Nat.add_comm 1 k]
  have hactive' : r.removeOldestItem.Active ((o + 1) % r.windowItems) k := by
    rw [removeOldestItem_eq hactive]
    refine ⟨Nat.mod_lt _ (by omega), Nat.lt_of_succ_lt hklt, rfl, ?_, rfl, ?_⟩ <;> dsimp only <;> rw [hnext]
    · exact hactive.newestItemIndex
    · rw [getD_set_ne (ne_add_mod holt hklt).symm]
      exact hactive.newestItemStartTime
  rw [removeOldestItem_eq hactive] at hactive' ⊢
  refine ⟨hactive', ⟨h.windowSizeMs, rfl, h.itemSizeMs, length_set.trans hlen, ?_, ?_, .inr ⟨_, k, hactive', rfl⟩⟩,
    hcontents, rfl⟩
  · dsimp only
    rw [hcontents, sub64_of_le (by omega)]
    omega
  · rw [hcontents]
    exact (pairwise_append.mp hspaced).1

theorem Holds.removeItems {θ : Nat} : ∀ (k : Nat) {rounds o : Nat} {r : RateCalculator},
    Holds W n s r (contents {} r.buffer o (k + 1)) → r.Active o k → θ < r.newestItemStartTime → k ≤ rounds →
    ∃ r', removeItems θ rounds r = .ok r' ∧ Holds W n s r' (expire θ (contents {} r.buffer o (k + 1)))
  | k, rounds, o, r, h, hactive, hθ, hrounds => by
    have holdest := hactive.contents_oldest (h.length_buffer.trans h.windowItems.symm) k
    by_cases hstop : θ < r.oldestItemStartTime
    · have hout : RateCalculator.removeItems θ rounds r = .ok r := by
        cases rounds <;> exact if_neg (Nat.not_le.mpr hstop)
      have hall : expire θ (contents {} r.buffer o (k + 1)) = contents {} r.buffer o (k + 1) := by
        have hspaced := h.spaced
        rw [hactive.oldestItemStartTime] at hstop
        rw [holdest] at hspaced ⊢
        exact hspaced.expire_of_lt hstop
      rw [hall]
      exact ⟨r, hout, h⟩
    · have hold : r.oldestItemStartTime ≤ θ := Nat.not_lt.mp hstop
      match k, rounds with
      | 0, _ =>
        -- the oldest item is the newest one
        have hsame : (o + 0) % r.windowItems = o := Nat.mod_eq_of_lt hactive.oldest_lt
        have htime := hactive.newestItemStartTime
        rw [hsame, ← hactive.oldestItemStartTime] at htime
        omega
      | k + 1, 0 => omega
      | k + 1, rounds + 1 =>
        obtain ⟨hactive', h', hcontents, hnewest⟩ := h.removeOldestItem hactive
        have hle : k ≤ rounds := by omega
        obtain ⟨r', hrun, hr'⟩ := Holds.removeItems k h' hactive' (hnewest ▸ hθ) hle
        have hout : RateCalculator.removeItems θ (rounds + 1) r = .ok r' := by
          rw [RateCalculator.removeItems, if_pos hold, hrun]
        rw [hcontents] at hr'
        have hgone : (r.buffer.getD o {}).time ≤ θ := hactive.oldestItemStartTime ▸ hold
        rw [hactive.contents_oldest (h.length_buffer.trans h.windowItems.symm), expire_append_of_le hgone]
        exact ⟨r', hout, hr'⟩

theorem holds_reset (h : Holds W n s r slots) : Holds W n s r.reset [] where
  windowSizeMs := h.windowSizeMs
  windowItems := h.windowItems
  itemSizeMs := h.itemSizeMs
  length_buffer := by rw [reset, length_replicate, h.length_buffer]
  totalCount := rfl
  spaced := List.Pairwise.nil
  items := .inl ⟨rfl, rfl, rfl, rfl⟩

theorem Holds.removeOldData {t : Nat} (h : Holds W n s r slots) (ht : W ≤ t) :
    ∃ r', r.removeOldData t = .ok r' ∧ Holds W n s r' (expire (t - W) slots) := by
  have hsub : sub64 t r.windowSizeMs = t - W := by rw [h.windowSizeMs, sub64_of_le ht]
  unfold RateCalculator.removeOldData
  rw [hsub]
  rcases h.items with ⟨rfl, hidle⟩ | ⟨o, k, hactive, rfl⟩
  · rw [if_pos (.inl (by rw [hidle.newestItemIndex]; decide))]
    exact ⟨r, rfl, h⟩
  have hset : ¬ (r.newestItemIndex < 0 ∨ r.oldestItemIndex < 0) := by
    rw [hactive.newestItemIndex, hactive.oldestItemIndex]
    omega
  have hlen := h.length_buffer.trans h.windowItems.symm
  have hnewest := contents_newest hlen o k
  have holdest := hactive.contents_oldest hlen k
  rw [if_neg hset]
  by_cases hnone : t - W < r.oldestItemStartTime
  · rw [if_pos hnone]
    refine ⟨r, rfl, ?_⟩
    have hspaced := h.spaced
    rw [hactive.oldestItemStartTime] at hnone
    rw [holdest] at hspaced h ⊢
    rw [hspaced.expire_of_lt hnone]
    exact h
  rw [if_neg hnone]
  by_cases hall : t - W ≥ r.newestItemStartTime
  · rw [if_pos hall]
    refine ⟨r.reset, rfl, ?_⟩
    have hspaced := h.spaced
    rw [hactive.newestItemStartTime] at hall
    rw [hnewest] at hspaced ⊢
    rw [hspaced.expire_of_newest_le hall]
    exact holds_reset h
  · rw [if_neg hall]
    exact Holds.removeItems k h hactive (Nat.not_le.mp hall) (Nat.le_of_lt hactive.newest_lt)

/-! ## Counting -/

theorem Holds.store {r' : RateCalculator} {o k : Nat} {item : BufferItem} {slots' : List Slot} (h : Holds W n s r slots)
    (ho : o < n) (hk : k < n)
    (hsame : r'.windowSizeMs = r.windowSizeMs ∧ r'.windowItems = r.windowItems ∧ r'.itemSizeMs = r.itemSizeMs)
    (hbuffer : r'.buffer = r.buffer.set ((o + k) % n) item) (holdest : r'.oldestItemIndex = o)
    (hnewest : r'.newestItemIndex = ((o + k) % n : Nat)) (holdestTime : r'.oldestItemStartTime = (r'.buffer.getD o {}).time)
    (hnewestTime : r'.newestItemStartTime = item.time) (hslots : slots' = item :: contents {} r.buffer o k)
    (htotal : r'.totalCount = total slots') (hspaced : Slots.Spaced s slots') : Holds W n s r' slots' := by
  have hlen := h.length_buffer
  have hn := hsame.2.1.trans h.windowItems
  subst hn
  refine ⟨hsame.1.trans h.windowSizeMs, rfl, hsame.2.2.trans h.itemSizeMs, ?_, htotal, hspaced, .inr ⟨o, k, ?_, ?_⟩⟩
  · rw [hbuffer, length_set, hlen]
  · refine ⟨ho, hk, holdest, hnewest, holdestTime, ?_⟩
    have hpos := Nat.mod_lt (o + k) (Nat.zero_lt_of_lt hk)
    rw [hbuffer, getD_set_self (hlen ▸ hpos), hnewestTime]
  · rw [hslots, hbuffer, ← hlen]
    exact (contents_push (hlen ▸ hk)).symm

theorem Holds.count_idle {size t : Nat} (h : Holds W n s r []) (hidle : r.Idle) (hn : 0 < n)
    (hsize : size < 18446744073709551616) :
    ∃ r', r.countItem size t = .ok r' ∧ Holds W n s (r'.finishUpdate size t) (add s t size []) := by
  have hwrap : r.wrap (r.newestItemIndex + 1) = 0 := by
    rw [hidle.newestItemIndex]
    unfold wrap
    split <;> rfl
  unfold countItem
  rw [if_pos (.inl (by rw [hidle.newestItemIndex]; decide)), hwrap, if_pos (.inr hidle.oldestItemIndex)]
  refine ⟨_, rfl, ?_⟩
  have hmod : (0 + 0) % n = 0 := Nat.zero_mod _
  unfold finishUpdate setItem
  simp only [hidle.oldestItemIndex, if_pos (by decide : (-1 : Int) < 0)]
  refine h.store hn hn ⟨rfl, rfl, rfl⟩ (by rw [hmod]; rfl) rfl (by rw [hmod]; rfl) ?_ rfl rfl ?_ (pairwise_singleton _ _)
  · exact congrArg Slot.time (getD_set_self (h.length_buffer.symm ▸ hn) ⟨size, t⟩).symm
  · rw [h.totalCount, add64_of_lt (by simpa using hsize), total_add]

theorem Holds.count_active {size t o k : Nat} (h : Holds W n s r (contents {} r.buffer o (k + 1))) (hactive : r.Active o k)
    (ht : r.newestItemStartTime ≤ t) (hroom : r.newestItemStartTime + s ≤ t → k + 1 < n)
    (hsize : total (contents {} r.buffer o (k + 1)) + size < 18446744073709551616) :
    ∃ r', r.countItem size t = .ok r' ∧
      Holds W n s (r'.finishUpdate size t) (add s t size (contents {} r.buffer o (k + 1))) := by
  have hlen := h.length_buffer
  have hn := h.windowItems
  subst hn
  have holt := hactive.oldest_lt
  have hklt := hactive.newest_lt
  have hnewest := contents_newest hlen o k
  have hset : ¬ r.newestItemIndex < 0 := by
    rw [hactive.newestItemIndex]
    omega
  have htime := hactive.newestItemStartTime
  have htotal : add64 r.totalCount size = total (add s t size (contents {} r.buffer o (k + 1))) := by
    rw [total_add, h.totalCount, add64_of_lt hsize]
  have hspaced := h.spaced.add t size
  unfold countItem
  rw [h.itemSizeMs, sub64_of_le ht]
  by_cases hnew : r.newestItemStartTime + s ≤ t
  · -- a new item
    have hroom := hroom hnew
    have hwrap : r.wrap (r.newestItemIndex + 1) = ((o + (k + 1)) % r.windowItems : Nat) := by
      rw [hactive.newestItemIndex, wrap_succ r (Nat.mod_lt _ (by omega)), Nat.mod_add_mod, Nat.add_assoc]
    have hother := ne_add_mod holt hroom
    have hassert : (((o + (k + 1)) % r.windowItems : Nat) : Int) ≠ r.oldestItemIndex := by
      rw [hactive.oldestItemIndex]
      omega
    rw [if_pos (.inr (by omega)), hwrap, if_pos (.inl hassert)]
    refine ⟨_, rfl, ?_⟩
    unfold finishUpdate setItem
    simp only [hactive.oldestItemIndex, Int.toNat_natCast, if_neg (Int.not_lt.mpr (Int.natCast_nonneg o))]
    refine h.store (o := o) (k := k + 1) holt hroom ⟨rfl, rfl, h.itemSizeMs.symm⟩ rfl rfl rfl ?_ rfl ?_ htotal hspaced
    · rw [getD_set_ne hother]
      exact hactive.oldestItemStartTime
    · rw [hnewest, add, ← htime, if_pos hnew]
  · -- the newest item
    rw [if_neg (by omega)]
    refine ⟨_, rfl, ?_⟩
    have hindex : r.newestItemIndex.toNat = (o + k) % r.windowItems := congrArg Int.toNat hactive.newestItemIndex
    have hcount : add64 (r.item r.newestItemIndex).count size = (r.item r.newestItemIndex).count + size := by
      rw [hnewest, total_cons, ← hindex] at hsize
      exact add64_of_lt (Nat.lt_of_le_of_lt (by unfold item; omega) hsize)
    unfold finishUpdate setItem
    simp only [hactive.oldestItemIndex, hindex, hcount, if_neg (Int.not_lt.mpr (Int.natCast_nonneg o))]
    refine h.store (o := o) (k := k) holt hklt ⟨rfl, rfl, rfl⟩ rfl rfl hactive.newestItemIndex ?_ ?_ ?_ htotal hspaced
    · rw [hactive.oldestItemStartTime]
      by_cases hsame : (o + k) % r.windowItems = o
      · rw [hsame, getD_set_self (hlen ▸ holt), item, hindex, hsame]
      · rw [getD_set_ne hsame]
    · exact htime.trans (by rw [item, hindex])
    · rw [hnewest, add, ← htime, if_neg hnew, item, hindex, htime]

theorem Holds.update {size t : Nat} (h : Holds W n s r slots) (hn : 0 < n) (hW : W ≤ n * s) (ht : W ≤ t)
    (htimes : ∀ x ∈ slots, x.time ≤ t) (hsize : total slots + size < 18446744073709551616) :
    ∃ r', r.update size t = .ok r' ∧ Holds W n s r' (add s t size (expire (t - W) slots)) := by
  have hrecent : ¬ t < r.oldestItemStartTime := by
    rcases h.items with ⟨-, hidle⟩ | ⟨o, k, hactive, rfl⟩
    · rw [hidle.oldestItemStartTime]
      exact Nat.not_lt_zero t
    rw [hactive.oldestItemStartTime]
    refine Nat.not_lt.mpr (htimes _ ?_)
    rw [hactive.contents_oldest (h.length_buffer.trans h.windowItems.symm)]
    exact mem_append_right _ mem_cons_self
  obtain ⟨r₁, hremove, h₁⟩ := (h.withRate (add64 r.bytes size) r.lastRate r.lastTime).removeOldData ht
  have htimes₁ : ∀ x ∈ expire (t - W) slots, x.time ≤ t := fun x hx => htimes x (mem_of_mem_filter hx)
  have hsize₁ : total (expire (t - W) slots) + size < 18446744073709551616 := by
    have := total_expire_le (t - W) slots
    omega
  have hlater : ∀ x ∈ expire (t - W) slots, t - W < x.time := fun x hx => of_decide_eq_true (mem_filter.mp hx).2
  generalize expire (t - W) slots = slots₁ at h₁ htimes₁ hsize₁ hlater
  obtain ⟨r₂, hcount, h₂⟩ : ∃ r₂, r₁.countItem size t = .ok r₂ ∧ Holds W n s (r₂.finishUpdate size t)
      (add s t size slots₁) := by
    rcases h₁.items with ⟨rfl, hidle⟩ | ⟨o, k, hactive, rfl⟩
    · exact h₁.count_idle hidle hn (by omega)
    have hnewest := contents_newest (h₁.length_buffer.trans h₁.windowItems.symm) o k
    have hspaced := h₁.spaced
    rw [hnewest] at hspaced hlater htimes₁
    have hle := hspaced.length_mul_le hlater
    have htime := htimes₁ _ mem_cons_self
    rw [← hactive.newestItemStartTime] at hle htime
    refine h₁.count_active hactive htime (fun hnew => ?_) hsize₁
    -- `k + 1` slots in the window, and a whole slot after them
    rw [length_contents] at hle
    by_contra hfull
    have hmul : n * s ≤ (k + 1) * s := Nat.mul_le_mul_right s (Nat.not_lt.mp hfull)
    rw [Nat.succ_mul] at hmul
    omega
  refine ⟨_, ?_, h₂⟩
  unfold RateCalculator.update
  rw [if_neg hrecent, hremove]
  show (r₁.countItem size t >>= _) = _
  rw [hcount]
  rfl

theorem Holds.getRate {t : Nat} (h : Holds W n s r slots) (ht : W ≤ t) (rate : Nat → Nat) :
    ∃ value r', r.getRate rate t = .ok (value, r') ∧ (Holds W n s r' slots ∨ Holds W n s r' (expire (t - W) slots)) := by
  unfold RateCalculator.getRate
  by_cases hlast : t = r.lastTime
  · rw [if_pos hlast]
    exact ⟨_, r, rfl, .inl h⟩
  · obtain ⟨r', hremove, h'⟩ := h.removeOldData ht
    rw [if_neg hlast, hremove]
    exact ⟨_, _, rfl, .inr (h'.withRate r'.bytes (rate r'.totalCount) t)⟩

/-! ## Runs -/

def samples (calls : List Call) : List (Nat × Nat) :=
  calls.filterMap fun
    | .update size nowMs => some (size, nowMs)
    | .getRate _ => none

def live (r : RateCalculator) : List BufferItem :=
  if r.oldestItemIndex < 0 then []
  else contents {} r.buffer r.oldestItemIndex.toNat
    (((r.newestItemIndex - r.oldestItemIndex) % r.windowItems).toNat + 1)

theorem Holds.live_eq (h : Holds W n s r slots) : r.live = slots := by
  unfold live
  rcases h.items with ⟨rfl, hidle⟩ | ⟨o, k, hactive, rfl⟩
  · rw [if_pos (by rw [hidle.oldestItemIndex]; decide)]
  have hk : ((((o + k) % r.windowItems : Nat) : Int) - o) % r.windowItems = k := by
    rw [Int.natCast_emod, Int.emod_sub_emod, Int.natCast_add, add_sub_cancel_left]
    exact Int.emod_eq_of_lt (Int.natCast_nonneg k) (Int.ofNat_lt.mpr hactive.newest_lt)
  rw [hactive.oldestItemIndex, hactive.newestItemIndex, if_neg (Int.not_lt.mpr (Int.natCast_nonneg o)), hk]
  rfl

/-- After some calls: the slots count what they have to at every later time. -/
structure Counts (W n s : Nat) (r : RateCalculator) (calls : List Call) (slots : List Slot) (h : Nat) : Prop where
  holds : Holds W n s r slots
  brackets : Slots.Brackets s h slots (samples calls)
  total_le : total slots ≤ sizes (fun _ => true) (samples calls)
  past : ∀ t, W ≤ t → (∀ c ∈ calls, c.nowMs ≤ t) → h + W ≤ t ∧ ∀ x ∈ slots, x.time ≤ t

theorem counts_create (W n : Nat) (s : Nat) (hs : s = max (W / n) 1) : Counts W n s (create W n) [] [] 0 where
  holds := ⟨rfl, rfl, hs.symm, length_replicate, rfl, List.Pairwise.nil, .inl ⟨rfl, rfl, rfl, rfl⟩⟩
  brackets := brackets_nil s 0
  total_le := Nat.le_refl _
  past t ht _ := ⟨by omega, nofun⟩

theorem mem_add_time {t size : Nat} {x : Slot} (hx : x ∈ add s t size slots) : x.time = t ∨ ∃ y ∈ slots, x.time = y.time := by
  cases slots with
  | nil => exact .inl (by rw [mem_singleton.mp hx])
  | cons y slots =>
    rw [add] at hx
    split at hx
    · rcases mem_cons.mp hx with rfl | hx
      · exact .inl rfl
      · exact .inr ⟨x, hx, rfl⟩
    · rcases mem_cons.mp hx with rfl | hx
      · exact .inr ⟨y, mem_cons_self, rfl⟩
      · exact .inr ⟨x, mem_cons_of_mem _ hx, rfl⟩

theorem Counts.step {calls : List Call} {c : Call} {h : Nat} (rate : Nat → Nat) (hc : Counts W n s r calls slots h) (hn : 0 < n)
    (hs : 0 < s) (hW : W ≤ n * s) (ht : W ≤ c.nowMs) (hlast : ∀ c' ∈ calls, c'.nowMs ≤ c.nowMs)
    (hsizes : sizes (fun _ => true) (samples (calls ++ [c])) < 18446744073709551616) :
    ∃ r' slots' h', r.step rate c = .ok r' ∧ Counts W n s r' (calls ++ [c]) slots' h' := by
  obtain ⟨hh, htimes⟩ := hc.past c.nowMs ht hlast
  have hle : h ≤ c.nowMs - W := by omega
  have hpast : ∀ t, (∀ c' ∈ calls ++ [c], c'.nowMs ≤ t) → c.nowMs ≤ t := fun t hall =>
    hall c (mem_append_right _ mem_cons_self)
  cases c with
  | update size t =>
    have hsamples : samples (calls ++ [.update size t]) = samples calls ++ [(size, t)] := filterMap_append
    rw [hsamples, sizes_append, sizes_singleton, if_pos rfl] at hsizes
    have htotal : total slots + size < 18446744073709551616 := by
      have := hc.total_le
      omega
    obtain ⟨r', hout, hr'⟩ := hc.holds.update hn hW ht htimes htotal
    change Holds W n s r' (add s t size (expire (t - W) slots)) at hr'
    refine ⟨r', _, t - W, hout, hr', ?_, ?_, fun t' _ hall => ⟨?_, fun x hx => ?_⟩⟩
    · rw [hsamples]
      exact (hc.brackets.expire hle).add hs (fun x hx => htimes x (mem_of_mem_filter hx)) size
    · have hexpire := total_expire_le (t - W) slots
      have hle := hc.total_le
      rw [hsamples, sizes_append, sizes_singleton, if_pos rfl, total_add]
      omega
    · have : t ≤ t' := hpast t' hall
      have : W ≤ t := ht
      omega
    · have hle' : t ≤ t' := hpast t' hall
      rcases mem_add_time hx with heq | ⟨y, hy, heq⟩
      · exact heq ▸ hle'
      · exact heq ▸ Nat.le_trans (htimes y (mem_of_mem_filter hy)) hle'
  | getRate t =>
    have hsamples : samples (calls ++ [.getRate t]) = samples calls := by
      rw [samples, filterMap_append]
      exact append_nil _
    obtain ⟨value, r', hout, hr'⟩ := hc.holds.getRate ht rate
    have hstep : r.step rate (.getRate t) = .ok r' := by
      show (r.getRate rate t).map (·.2) = _
      rw [show r.getRate rate t = _ from hout]
      rfl
    rcases hr' with hr' | hr'
    · refine ⟨r', slots, h, hstep, hr', ?_, ?_, fun t' hW' hall => ?_⟩
      · rw [hsamples]
        exact hc.brackets
      · rw [hsamples]
        exact hc.total_le
      · exact hc.past t' hW' fun c' hc' => hall c' (mem_append_left _ hc')
    refine ⟨r', _, t - W, hstep, hr', ?_, ?_, fun t' _ hall => ⟨?_, fun x hx => ?_⟩⟩
    · rw [hsamples]
      exact hc.brackets.expire hle
    · rw [hsamples]
      exact Nat.le_trans (total_expire_le _ _) hc.total_le
    · have : t ≤ t' := hpast t' hall
      have : W ≤ t := ht
      omega
    · exact Nat.le_trans (htimes x (mem_of_mem_filter hx)) (hpast t' hall)

theorem counts_run (rate : Nat → Nat) (hn : 0 < n) (hs : s = max (W / n) 1) (hW : W ≤ n * s) (calls : List Call)
    (hsorted : (calls.map (·.nowMs)).Pairwise (· ≤ ·)) (hwindow : ∀ c ∈ calls, W ≤ c.nowMs)
    (hsizes : sizes (fun _ => true) (samples calls) < 18446744073709551616) :
    ∃ r slots h, calls.foldlM (step rate) (create W n) = .ok r ∧ Counts W n s r calls slots h := by
  have hpos : 0 < s := by omega
  induction calls using List.reverseRecOn with
  | nil => exact ⟨_, _, _, rfl, counts_create W n s hs⟩
  | append_singleton calls c ih =>
    have hsamples : samples (calls ++ [c]) = samples calls ++ samples [c] := filterMap_append
    rw [map_append, pairwise_append] at hsorted
    have hsizes' := hsizes
    rw [hsamples, sizes_append] at hsizes'
    obtain ⟨r, slots, h, hrun, hc⟩ := ih hsorted.1 (fun c' hc' => hwindow c' (mem_append_left _ hc')) (by omega)
    have hlast : ∀ c' ∈ calls, c'.nowMs ≤ c.nowMs := fun c' hc' =>
      hsorted.2.2 _ (mem_map_of_mem hc') _ mem_cons_self
    obtain ⟨r', slots', h', hstep, hc'⟩ := hc.step rate hn hpos hW
      (hwindow c (mem_append_right _ mem_cons_self)) hlast hsizes
    refine ⟨r', slots', h', ?_, hc'⟩
    rw [foldlM_append, hrun]
    show (step rate r c >>= pure) = _
    rw [hstep]
    rfl

end RateCalculator

/-- **Every run** with times that do not decrease: nothing goes wrong, the total count is the sum of the live items, and it
lies between the sizes of the window without its oldest `itemSizeMs` and those of the window. -/
theorem totalCount_of_runs (rate : Nat → Nat) (windowSizeMs windowItems : Nat) (hitems : 0 < windowItems)
    (hmultiple : windowItems ∣ windowSizeMs) (calls : List RateCalculator.Call)
    (hsorted : (calls.map (·.nowMs)).Pairwise (· ≤ ·)) (hwindow : ∀ c ∈ calls, windowSizeMs ≤ c.nowMs)
    (hsizes : sizes (fun _ => true) (RateCalculator.samples calls) < 18446744073709551616) :
    ∃ r, calls.foldlM (RateCalculator.step rate) (.create windowSizeMs windowItems) = .ok r ∧
      r.totalCount = total r.live ∧
      ∀ t, windowSizeMs ≤ t → (∀ c ∈ calls, c.nowMs ≤ t) →
        ∃ r', r.removeOldData t = .ok r' ∧ r'.totalCount = total r'.live ∧
          sizes (t - windowSizeMs + max (windowSizeMs / windowItems) 1 ≤ ·) (RateCalculator.samples calls) ≤
            r'.totalCount ∧
          r'.totalCount ≤ sizes (t - windowSizeMs < ·) (RateCalculator.samples calls) := by
  have hW : windowSizeMs ≤ windowItems * max (windowSizeMs / windowItems) 1 := by
    calc windowSizeMs = windowItems * (windowSizeMs / windowItems) := (Nat.mul_div_cancel' hmultiple).symm
      _ ≤ _ := Nat.mul_le_mul_left _ (Nat.le_max_left _ _)
  obtain ⟨r, slots, h, hrun, hc⟩ := RateCalculator.counts_run rate hitems rfl hW calls hsorted hwindow hsizes
  refine ⟨r, hrun, ?_, fun t ht hall => ?_⟩
  · rw [hc.holds.live_eq]
    exact hc.holds.totalCount
  · obtain ⟨hle, -⟩ := hc.past t ht hall
    obtain ⟨r', hremove, hr'⟩ := hc.holds.removeOldData ht
    obtain ⟨hlower, hupper⟩ := hc.brackets (t - windowSizeMs) (by omega)
    refine ⟨r', hremove, ?_, ?_, ?_⟩
    · rw [hr'.live_eq]
      exact hr'.totalCount
    · rw [hr'.totalCount]
      exact hlower
    · rw [hr'.totalCount]
      exact hupper

theorem totalCount_of_run : ∃ r, [RateCalculator.Call.update 5 100, .update 7 112, .getRate 115, .update 11 120].foldlM
    (RateCalculator.step id) (.create 20 2) = .ok r ∧ ∃ r', r.removeOldData 121 = .ok r' ∧ r'.totalCount = 18 := by
  obtain ⟨r, hrun, -, hremove⟩ := totalCount_of_runs id 20 2 (by decide) (by decide)
    [.update 5 100, .update 7 112, .getRate 115, .update 11 120] (by decide) (by decide) (by decide)
  obtain ⟨r', hr', -, hlower, hupper⟩ := hremove 121 (by decide) (by decide)
  exact ⟨r, hrun, r', hr', Nat.le_antisymm hupper hlower⟩

end Mediasoup.Rtp
