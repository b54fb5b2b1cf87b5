import Mathlib.Data.List.ReduceOption
import Mediasoup.Lib.Run
import Mediasoup.Rtp.Packet
import Mediasoup.Seq.Manager

/-!
# The retransmission buffer

`RtpRetransmissionBuffer` holds the packets a stream has sent, each at the place its number has after the oldest one; a place
without packet is blank. The packets are shared between the consumers of a producer: an item refers to a clone in `SharedPackets`
and keeps only the SSRC, sequence number and timestamp of its own stream. The first consumer that stores a packet makes the clone,
of the packet as it has rewritten it (`fillItem`).
-/

namespace Mediasoup.Rtp

open Lib Mediasoup.Seq List

/-- The clones, in the order they are made; `shared` is the `sharedPacket` that the router hands from consumer to
consumer. -/
structure SharedPackets where
  clones : List Packet := []
  shared : Option Nat := none
  deriving DecidableEq

/-- What an item keeps as long as it is in the buffer. -/
structure Stored where
  packet : Nat
  ssrc : UInt32
  sequenceNumber : UInt16
  timestamp : UInt32
  deriving DecidableEq

structure Item extends Stored where
  resentAtMs : Nat := 0
  sentTimes : UInt8 := 0
  deriving DecidableEq

inductive BufferFault
  /-- "attempting to remove more items than current buffer size" -/
  | removedTooMany
  /-- "oldest item doesn't exist" -/
  | noOldestItem
  /-- "newest item doesn't exist" -/
  | noNewestItem
  /-- "buffer contains more than max items" -/
  | tooManyItems
  /-- a blank place is read as an item -/
  | nullItem
  /-- a place outside the buffer -/
  | outOfRange
  /-- a clock rate of 0 -/
  | divisionByZero
  deriving DecidableEq

structure RetransmissionBuffer where
  maxItems : Nat
  maxRetransmissionDelayMs : Nat
  clockRate : Nat
  buffer : List (Option Item) := []
  deriving DecidableEq

def SharedPackets.share (sh : SharedPackets) (packet : Packet) : SharedPackets × Nat :=
  match sh.shared with
  | some i => (sh, i)
  | none => ({ clones := sh.clones ++ [packet], shared := some sh.clones.length }, sh.clones.length)

def fillItem (sh : SharedPackets) (packet : Packet) : SharedPackets × Item :=
  ((sh.share packet).1,
    { packet := (sh.share packet).2
      ssrc := packet.ssrc
      sequenceNumber := packet.sequenceNumber
      timestamp := packet.timestamp })

def seqLower (a b : UInt16) : Bool := isSeqLowerThan 16 a.toNat b.toNat

def seqHigher (a b : UInt16) : Bool := isSeqHigherThan 16 a.toNat b.toNat

def timestampLower (a b : UInt32) : Bool := isSeqLowerThan 32 a.toNat b.toNat

def timestampHigher (a b : UInt32) : Bool := isSeqHigherThan 32 a.toNat b.toNat

namespace RetransmissionBuffer

/-! ## The functions -/

def getOldest (b : RetransmissionBuffer) : Option Item := b.buffer.head?.join

def getNewest (b : RetransmissionBuffer) : Option Item := b.buffer.getLast?.join

def indexOf (b : RetransmissionBuffer) (seq : UInt16) : Option Nat :=
  match b.getOldest with
  | none => none
  | some oldest =>
    if seqLower seq oldest.sequenceNumber then none
    else
      let idx := (seq - oldest.sequenceNumber).toNat
      if idx > (b.buffer.length - 1) % 2 ^ 16 then none else some idx

def itemAt (b : RetransmissionBuffer) (idx : Nat) : Option Item := b.buffer[idx]?.join

def get (b : RetransmissionBuffer) (seq : UInt16) : Option Item := (b.indexOf seq).bind b.itemAt

def setItem (b : RetransmissionBuffer) (idx : Nat) (item : Item) : RetransmissionBuffer :=
  { b with buffer := b.buffer.set idx (some item) }

def isTooOldTimestamp (b : RetransmissionBuffer) (timestamp newestTimestamp : UInt32) : Except BufferFault Bool :=
  if timestampHigher timestamp newestTimestamp then .ok false
  else if b.clockRate = 0 then .error .divisionByZero
  else .ok ((newestTimestamp - timestamp).toNat * 1000 / b.clockRate % 2 ^ 32 > b.maxRetransmissionDelayMs)

/-- `IsTooOldTimestamp` holds; it does not where it divides by 0. -/
def tooOld (b : RetransmissionBuffer) (timestamp newestTimestamp : UInt32) : Bool :=
  decide (b.isTooOldTimestamp timestamp newestTimestamp = .ok true)

/-- After an item has been removed from the front, blank places go too, and the items for which `more` holds of the
number of places left. -/
def removeWhile (more : Item → Nat → Bool) : List (Option Item) → List (Option Item)
  | [] => []
  | none :: rest => removeWhile more rest
  | some item :: rest => if more item (rest.length + 1) then removeWhile more rest else some item :: rest

variable (more : Item → Nat → Bool)

/-- `RemoveOldest` is called while there is an oldest item for which `more` holds. -/
def removeOldestWhile : List (Option Item) → List (Option Item)
  | some item :: rest => if more item (rest.length + 1) then removeWhile more rest else some item :: rest
  | buffer => buffer

/-- The loop of `ClearTooOldByTimestamp` where no division in it traps. -/
def clearTooOld (b : RetransmissionBuffer) (newestTimestamp : UInt32) : RetransmissionBuffer :=
  { b with buffer := removeOldestWhile (fun item _ => b.tooOld item.timestamp newestTimestamp) b.buffer }

def clearTooOldByTimestamp (b : RetransmissionBuffer) (newestTimestamp : UInt32) :
    Except BufferFault RetransmissionBuffer :=
  match b.getOldest with
  | none => .ok b
  | some oldest => do
    -- a clock rate of 0 traps here or, as the oldest item then stays, nowhere
    let _ ← b.isTooOldTimestamp oldest.timestamp newestTimestamp
    return b.clearTooOld newestTimestamp

def removeOldest (b : RetransmissionBuffer) (numItems : Nat) : Except BufferFault RetransmissionBuffer :=
  if numItems > b.buffer.length then .error .removedTooMany
  else
    let intendedBufferSize := b.buffer.length - numItems
    .ok { b with buffer := removeOldestWhile (fun _ size => decide (size > intendedBufferSize)) b.buffer }

def clear (b : RetransmissionBuffer) : RetransmissionBuffer := { b with buffer := [] }

def blanks (n : Nat) : List (Option Item) := List.replicate n none

/-- Pushes an item to the back after `numBlankSlots` blank places. -/
def pushBack (b : RetransmissionBuffer) (numBlankSlots : Nat) (item : Item) : RetransmissionBuffer :=
  { b with buffer := b.buffer ++ blanks numBlankSlots ++ [some item] }

def pushFront (b : RetransmissionBuffer) (numBlankSlots : Nat) (item : Item) : RetransmissionBuffer :=
  { b with buffer := some item :: blanks numBlankSlots ++ b.buffer }

/-- The first item in a list of places, the nearest one to the place of a new item. -/
def nearest (places : List (Option Item)) : Option Item := (places.find? Option.isSome).join

def checkSize (b : RetransmissionBuffer) : Except BufferFault (Option RetransmissionBuffer) :=
  if b.buffer.length ≤ b.maxItems then .ok (some b) else .error .tooManyItems

/-- The oldest items are removed so that the packet and the blank places before it fit. -/
def makePlaces (b : RetransmissionBuffer) (numBlankSlots : Nat) : Except BufferFault (RetransmissionBuffer × Nat) :=
  if b.buffer.length + numBlankSlots + 1 > b.maxItems then
    let numItemsToRemove := (b.buffer.length + numBlankSlots + 1 - b.maxItems) % 2 ^ 16
    if numItemsToRemove > b.buffer.length - 1 then .ok (b.clear, 0)
    else do return (← b.removeOldest numItemsToRemove, numBlankSlots)
  else .ok (b, numBlankSlots)

def insertNewest (b : RetransmissionBuffer) (newest item : Item) : Except BufferFault (Option RetransmissionBuffer) :=
  if timestampLower item.timestamp newest.timestamp then .ok none
  else do
    let (b, numBlankSlots) ← b.makePlaces (item.sequenceNumber - newest.sequenceNumber - 1).toNat
    (b.pushBack numBlankSlots item).checkSize

def insertOldest (b : RetransmissionBuffer) (oldest newest item : Item) :
    Except BufferFault (Option RetransmissionBuffer) := do
  if ← b.isTooOldTimestamp item.timestamp newest.timestamp then return none
  else if timestampHigher item.timestamp oldest.timestamp then return none
  else
    let numBlankSlots := (oldest.sequenceNumber - item.sequenceNumber - 1).toNat
    if b.buffer.length + numBlankSlots + 1 > b.maxItems then return none else (b.pushFront numBlankSlots item).checkSize

/-- A packet in between: its place must be blank and its timestamp fit those of the nearest items, which are compared
as plain numbers. -/
def insertBetween (b : RetransmissionBuffer) (oldest item : Item) : Except BufferFault (Option RetransmissionBuffer) :=
  if (b.get item.sequenceNumber).isSome then .ok none
  else
    let idx := (item.sequenceNumber - oldest.sequenceNumber).toNat
    -- `at(idx - 1)`
    if idx > b.buffer.length then .error .outOfRange
    else if (nearest (b.buffer.take idx).reverse).any fun older => decide (item.timestamp < older.timestamp) then .ok none
    else if (nearest (b.buffer.drop (idx + 1))).any fun newer => decide (newer.timestamp < item.timestamp) then .ok none
    else if idx < b.buffer.length then checkSize { b with buffer := b.buffer.set idx (some item) }
    else .error .outOfRange

/-- `Insert` into the buffer from which too old packets have been cleared; `none` if the packet is discarded. -/
def place (b : RetransmissionBuffer) (item : Item) : Except BufferFault (Option RetransmissionBuffer) :=
  if b.buffer = [] then .ok (some (b.pushBack 0 item))
  else
    match b.getOldest, b.getNewest with
    | none, _ => .error .noOldestItem
    | some _, none => .error .noNewestItem
    | some oldest, some newest =>
      if seqHigher item.sequenceNumber newest.sequenceNumber then b.insertNewest newest item
      else if seqLower item.sequenceNumber oldest.sequenceNumber then b.insertOldest oldest newest item
      else b.insertBetween oldest item

/-- The buffer before the packet is placed: emptied if the packet has a lower number but a higher timestamp than the
newest one, else without its too old packets. -/
def makeRoom (b : RetransmissionBuffer) (seq : UInt16) (timestamp : UInt32) : Except BufferFault RetransmissionBuffer :=
  if b.buffer = [] then .ok b
  else
    match b.getNewest with
    | none => .error .nullItem
    | some newest =>
      if seqLower seq newest.sequenceNumber && timestampHigher timestamp newest.timestamp then .ok b.clear
      else b.clearTooOldByTimestamp (if timestampHigher timestamp newest.timestamp then timestamp else newest.timestamp)

/-- `Insert`. The packet is cloned only if it is stored. -/
def insert (b : RetransmissionBuffer) (sh : SharedPackets) (packet : Packet) :
    Except BufferFault (RetransmissionBuffer × SharedPackets) := do
  let b ← b.makeRoom packet.sequenceNumber packet.timestamp
  match ← b.place (fillItem sh packet).2 with
  | none => return (b, sh)
  | some b => return (b, (fillItem sh packet).1)

/-! ## Which items there are -/

def items (b : RetransmissionBuffer) : List Item := b.buffer.reduceOption

theorem reduceOption_removeWhile (more : Item → Nat → Bool) : ∀ buffer : List (Option Item),
    (removeWhile more buffer).reduceOption.Sublist buffer.reduceOption
  | [] => List.Sublist.refl _
  | none :: rest => by
    exact reduceOption_removeWhile more rest
  | some item :: rest => by
    rw [removeWhile]
    split
    · exact (reduceOption_removeWhile more rest).cons item
    · exact List.Sublist.refl _

theorem reduceOption_removeOldestWhile (buffer : List (Option Item)) :
    (removeOldestWhile more buffer).reduceOption.Sublist buffer.reduceOption := by
  unfold removeOldestWhile
  split
  · split
    · exact (reduceOption_removeWhile more _).cons _
    · exact List.Sublist.refl _
  · exact List.Sublist.refl _

theorem items_removeOldestWhile (b : RetransmissionBuffer) :
    (items { b with buffer := removeOldestWhile more b.buffer }).Sublist b.items :=
  reduceOption_removeOldestWhile more b.buffer

@[simp] theorem reduceOption_blanks (n : Nat) : (blanks n).reduceOption = [] := reduceOption_replicate_none

@[simp] theorem items_pushBack (b : RetransmissionBuffer) (n : Nat) (item : Item) :
    (b.pushBack n item).items = b.items ++ [item] := by
  simp [items, pushBack, reduceOption_append]

@[simp] theorem items_pushFront (b : RetransmissionBuffer) (n : Nat) (item : Item) :
    (b.pushFront n item).items = item :: b.items := by
  simp [items, pushFront, reduceOption_append]

/-- The items of `b'` are `item` and some of the items of `b`, in their order. -/
def Adds (item : Item) (b b' : RetransmissionBuffer) : Prop :=
  ∃ l₁ l₂, b'.items = l₁ ++ item :: l₂ ∧ (l₁ ++ l₂).Sublist b.items

variable {b b' : RetransmissionBuffer} {item : Item}

theorem Adds.mono {c : RetransmissionBuffer} (h : Adds item c b') (hsub : c.items.Sublist b.items) : Adds item b b' := by
  obtain ⟨l₁, l₂, heq, hl⟩ := h
  exact ⟨l₁, l₂, heq, hl.trans hsub⟩

theorem adds_pushBack (b : RetransmissionBuffer) (n : Nat) (item : Item) : Adds item b (b.pushBack n item) :=
  ⟨b.items, [], items_pushBack b n item, by rw [append_nil]⟩

theorem adds_pushFront (b : RetransmissionBuffer) (n : Nat) (item : Item) : Adds item b (b.pushFront n item) :=
  ⟨[], b.items, items_pushFront b n item, List.Sublist.refl _⟩

theorem adds_set {idx : Nat} (hidx : idx < b.buffer.length) (item : Item) :
    Adds item b { b with buffer := b.buffer.set idx (some item) } := by
  refine ⟨(b.buffer.take idx).reduceOption, (b.buffer.drop (idx + 1)).reduceOption, ?_, ?_⟩
  · rw [items, set_eq_take_append_cons_drop, if_pos hidx, reduceOption_append, reduceOption_cons_of_some]
  · rw [← reduceOption_append, ← eraseIdx_eq_take_drop_succ]
    exact (eraseIdx_sublist b.buffer idx).filterMap id

/-- The fault is the division by a clock rate of 0. -/
def Traps (b : RetransmissionBuffer) (f : BufferFault) : Prop := f = .divisionByZero ∧ b.clockRate = 0

theorem isTooOldTimestamp_ends (b : RetransmissionBuffer) (timestamp newestTimestamp : UInt32) :
    Ends (b.tooOld timestamp newestTimestamp = ·) b.Traps (b.isTooOldTimestamp timestamp newestTimestamp) := by
  unfold tooOld
  fun_cases isTooOldTimestamp b timestamp newestTimestamp with
  | case1 => exact rfl
  | case2 _ hrate => exact ⟨rfl, hrate⟩
  | case3 => simp [Ends]

theorem clearTooOldByTimestamp_ends (b : RetransmissionBuffer) (newestTimestamp : UInt32) :
    Ends (· = b.clearTooOld newestTimestamp) b.Traps (b.clearTooOldByTimestamp newestTimestamp) := by
  unfold clearTooOldByTimestamp
  split
  · rename_i hnone
    have hkeep : removeOldestWhile (fun item _ => b.tooOld item.timestamp newestTimestamp) b.buffer = b.buffer := by
      unfold removeOldestWhile
      split
      · rename_i hbuffer
        simp [getOldest, hbuffer] at hnone
      · rfl
    show b = _
    rw [clearTooOld, hkeep]
  · exact Ends.bind (isTooOldTimestamp_ends b _ _) fun _ _ => rfl

theorem items_makeRoom (b : RetransmissionBuffer) (seq : UInt16) (timestamp : UInt32) :
    Returns (·.items.Sublist b.items) (b.makeRoom seq timestamp) := by
  unfold makeRoom
  split
  · exact List.Sublist.refl _
  split
  · trivial
  split
  · exact nil_sublist _
  · refine ((clearTooOldByTimestamp_ends b _).imp fun c hc => ?_).faults fun _ _ => trivial
    rw [hc]
    exact items_removeOldestWhile _ b

theorem items_makePlaces (b : RetransmissionBuffer) (n : Nat) : Returns (·.1.items.Sublist b.items) (b.makePlaces n) := by
  unfold makePlaces removeOldest
  split
  · dsimp only
    split
    · exact nil_sublist _
    split
    · trivial
    · exact items_removeOldestWhile _ b
  · exact List.Sublist.refl _

theorem checkSize_returns {P : RetransmissionBuffer → Prop} (h : P b) : Returns (fun o => ∀ c ∈ o, P c) b.checkSize := by
  unfold checkSize
  split
  · rintro c ⟨⟩
    exact h
  · trivial

theorem place_adds (b : RetransmissionBuffer) (item : Item) : Returns (fun o => ∀ c ∈ o, Adds item b c) (b.place item) := by
  unfold place
  split
  · rintro c ⟨⟩
    exact adds_pushBack b 0 item
  split
  · trivial
  · trivial
  split
  · unfold insertNewest
    split
    · nofun
    · refine Ends.bind (items_makePlaces b _) fun r hr => ?_
      exact checkSize_returns ((adds_pushBack r.1 r.2 item).mono hr)
  split
  · refine Ends.bind ((isTooOldTimestamp_ends b _ _).faults fun _ _ => trivial) fun old _ => ?_
    split
    · nofun
    split
    · nofun
    dsimp only
    split
    · nofun
    · exact checkSize_returns (adds_pushFront b _ item)
  simp only [insertBetween]
  split
  · nofun
  split
  · trivial
  split
  · nofun
  split
  · nofun
  split
  · exact checkSize_returns (adds_set ‹_› item)
  · trivial

theorem insert_cases {sh sh' : SharedPackets} {packet : Packet} (h : b.insert sh packet = .ok (b', sh')) :
    (b'.items.Sublist b.items ∧ sh' = sh) ∨ (Adds (fillItem sh packet).2 b b' ∧ sh' = (sh.share packet).1) := by
  obtain ⟨c, hc, h⟩ := exists_of_bind_eq_ok h
  have hroom := (items_makeRoom b _ _).of_ok hc
  obtain ⟨o, ho, h⟩ := exists_of_bind_eq_ok h
  cases o with
  | none =>
    cases h
    exact .inl ⟨hroom, rfl⟩
  | some d =>
    cases h
    exact .inr ⟨((place_adds c _).of_ok ho _ rfl).mono hroom, rfl⟩

/-! ## What does not depend on the clone -/

/-- Whether an item is stored, or which assertion fails. -/
def Agree (x y : Except BufferFault (Option RetransmissionBuffer)) : Prop := x.map Option.isSome = y.map Option.isSome

theorem agree_checkSize {b c : RetransmissionBuffer} (hlen : b.buffer.length = c.buffer.length)
    (hmax : b.maxItems = c.maxItems) : Agree b.checkSize c.checkSize := by
  unfold Agree checkSize
  rw [hlen, hmax]
  split <;> rfl

theorem agree_place (b : RetransmissionBuffer) (item item' : Item) (hseq : item.sequenceNumber = item'.sequenceNumber)
    (hts : item.timestamp = item'.timestamp) : Agree (b.place item) (b.place item') := by
  have hnewest : ∀ newest, Agree (b.insertNewest newest item) (b.insertNewest newest item') := by
    intro newest
    unfold insertNewest
    rw [hts, hseq]
    split
    · rfl
    cases b.makePlaces (item'.sequenceNumber - newest.sequenceNumber - 1).toNat with
    | error f => rfl
    | ok r =>
      apply agree_checkSize
      · simp [pushBack]
      · rfl
  have holdest : ∀ oldest newest, Agree (b.insertOldest oldest newest item) (b.insertOldest oldest newest item') := by
    intro oldest newest
    unfold insertOldest
    rw [hts, hseq]
    cases b.isTooOldTimestamp item'.timestamp newest.timestamp with
    | error f => rfl
    | ok old =>
    simp only [bind, Except.bind]
    split
    · rfl
    split
    · rfl
    split
    · rfl
    · apply agree_checkSize
      · simp [pushFront]
      · rfl
  have hbetween : ∀ oldest, Agree (b.insertBetween oldest item) (b.insertBetween oldest item') := by
    intro oldest
    unfold insertBetween
    rw [hts, hseq]
    split
    · rfl
    dsimp only
    split
    · rfl
    split
    · rfl
    split
    · rfl
    split
    · apply agree_checkSize
      · simp
      · rfl
    · rfl
  unfold place
  rw [hseq]
  split
  · rfl
  split
  · rfl
  · rfl
  split
  · exact hnewest _
  split
  · exact holdest _ _
  · exact hbetween _

theorem insert_fault_eq (b : RetransmissionBuffer) (sh sh' : SharedPackets) (packet : Packet) :
    (b.insert sh packet).map (fun _ => ()) = (b.insert sh' packet).map (fun _ => ()) := by
  unfold insert
  cases b.makeRoom packet.sequenceNumber packet.timestamp with
  | error f => rfl
  | ok b =>
    have hagree := b.agree_place (fillItem sh packet).2 (fillItem sh' packet).2 rfl rfl
    simp only [bind, Except.bind]
    generalize b.place (fillItem sh packet).2 = x at hagree ⊢
    generalize b.place (fillItem sh' packet).2 = y at hagree ⊢
    rcases x with f | _ | _ <;> rcases y with f' | _ | _ <;> first | rfl | (cases hagree <;> rfl)

end RetransmissionBuffer

end Mediasoup.Rtp
