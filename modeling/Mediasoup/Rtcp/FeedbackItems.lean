import Mediasoup.Rtcp.Packet

/-!
# Items of feedback packets

The loop that parses the items of a feedback packet asks for the header of an item only and then moves on by its size. For all
items but those of VBCM this is the same; such an item has a length field of its own, and may end behind the packet
(`truncated_vbcm_accepted`). The items lie within the packet exactly if, for VBCM, the messages are whole (`items_within_iff`).
-/

namespace Mediasoup.Rtcp

open Utils Lib List

/-- What the loop asks of an item, on the data from its header on. -/
structure ItemClass where
  headerSize : Nat
  isCorrect : List UInt8 → Bool := fun _ => true
  getSize : List UInt8 → Nat := fun _ => headerSize

/-- `(mantissa << exponent) >> exponent == mantissa`, in 64 bits. -/
def shiftsBack (mantissa exponent : Nat) : Bool := mantissa * 2 ^ exponent % 2 ^ 64 / 2 ^ exponent == mantissa

/-- The second word of a TMMB item: 6 bits of exponent, 17 of mantissa and 9 of overhead. -/
def tmmbCompact : List UInt8 → Nat
  | _ :: _ :: _ :: _ :: b0 :: b1 :: b2 :: b3 :: _ => get4Bytes b0 b1 b2 b3
  | _ => 0

def tmmbExponent (data : List UInt8) : Nat := tmmbCompact data / 2 ^ 26

def tmmbMantissa (data : List UInt8) : Nat := tmmbCompact data / 2 ^ 9 % 2 ^ 17

def tmmbItem : ItemClass where
  headerSize := 8
  isCorrect data := shiftsBack (tmmbMantissa data) (tmmbExponent data)

def rpsiItem : ItemClass where
  headerSize := 8
  isCorrect
    | paddingBits :: _ => paddingBits % 8 == 0 && paddingBits / 8 ≤ 6
    | _ => false

def vbcmItem : ItemClass where
  headerSize := 8
  getSize
    | _ :: _ :: _ :: _ :: _ :: _ :: l0 :: l1 :: _ => (8 + get2Bytes l0 l1 + 3) / 4 * 4
    | _ => 8

/-- The types of messages with items, five for the transport and seven for the payload. -/
inductive FeedbackType
  | nack | tmmbr | tmmbn | tllei | ecn
  | fir | sli | rpsi | tstr | tstn | vbcm | pslei
  deriving DecidableEq

namespace FeedbackType

def itemClass : FeedbackType → ItemClass
  | nack | tllei | sli | pslei => { headerSize := 4 }
  | tmmbr | tmmbn => tmmbItem
  | ecn => { headerSize := 20 }
  | fir | tstr | tstn => { headerSize := 8 }
  | rpsi => rpsiItem
  | vbcm => vbcmItem

/-- `FeedbackPsItemsPacket` ends at an item that is not correct, `FeedbackRtpItemsPacket` does not look at it. -/
def checksItems : FeedbackType → Bool
  | nack | tmmbr | tmmbn | tllei | ecn => false
  | fir | sli | rpsi | tstr | tstn | vbcm | pslei => true

def parseItem (t : FeedbackType) (data : List UInt8) : Option (List UInt8) :=
  if t.itemClass.headerSize > data.length then none
  else if t.checksItems && !t.itemClass.isCorrect data then none
  else some data

/-- `Parse` of the packet: its items, each by the data from it on. -/
def parse (t : FeedbackType) (data : List UInt8) : Option (List (List UInt8)) :=
  if data.length < 12 then none
  else some (readMany t.parseItem t.itemClass.getSize (data.drop 12).length (data.drop 12))

/-- The item begins in the packet and ends there. -/
def Within (t : FeedbackType) (data item : List UInt8) : Prop :=
  ∃ offset, item = data.drop offset ∧ offset + t.itemClass.getSize item ≤ data.length

/-- Whole messages one behind the other, and less than a header. -/
def WholeMessages (data : List UInt8) : Prop :=
  ∃ (messages : List (List UInt8)) (rest : List UInt8), data = messages.flatten ++ rest ∧ rest.length < 8 ∧
    ∀ m ∈ messages, 8 ≤ m.length ∧ vbcmItem.getSize m = m.length

variable {t : FeedbackType} {data item : List UInt8}

theorem parseItem_eq_some (h : t.parseItem data = some item) : item = data ∧ t.itemClass.headerSize ≤ data.length := by
  unfold parseItem at h
  split at h
  · cases h
  rename_i hsize
  split at h
  · cases h
  · cases h
    exact ⟨rfl, Nat.le_of_not_lt hsize⟩

theorem mem_items : ∀ {n : Nat} {data : List UInt8}, item ∈ readMany t.parseItem t.itemClass.getSize n data →
    ∃ k, item = data.drop k ∧ t.itemClass.headerSize ≤ item.length
  | 0, _, h => by cases h
  | n + 1, data, h => by
    cases hp : t.parseItem data with
    | none =>
      simp [readMany_of_none hp] at h
    | some a =>
      obtain ⟨rfl, hsize⟩ := parseItem_eq_some hp
      rw [readMany_of_some hp] at h
      rcases mem_cons.mp h with rfl | h
      · exact ⟨0, rfl, hsize⟩
      · obtain ⟨k, hk, hle⟩ := mem_items h
        exact ⟨_, by rw [hk, drop_drop], hle⟩

theorem within_iff (h : ∃ k, item = data.drop k) (hpos : 0 < item.length) :
    t.Within data item ↔ t.itemClass.getSize item ≤ item.length := by
  constructor
  · rintro ⟨offset, rfl, hle⟩
    rw [length_drop]
    omega
  · intro hle
    obtain ⟨k, rfl⟩ := h
    refine ⟨k, rfl, ?_⟩
    rw [length_drop] at hle hpos
    omega

theorem getSize_vbcm_append {m : List UInt8} (hm : 8 ≤ m.length) (rest : List UInt8) :
    vbcmItem.getSize (m ++ rest) = vbcmItem.getSize m := by
  match m, hm with
  | _ :: _ :: _ :: _ :: _ :: _ :: _ :: _ :: _, _ => rfl

theorem le_getSize_vbcm (data : List UInt8) : 8 ≤ vbcmItem.getSize data := by
  unfold vbcmItem
  dsimp only
  split <;> omega

theorem parseItem_vbcm : vbcm.parseItem data = if 8 > data.length then none else some data := rfl

theorem sizes_iff_wholeMessages {n : Nat} {data : List UInt8} (hn : data.length ≤ n) :
    (∀ item ∈ readMany vbcm.parseItem vbcmItem.getSize n data, vbcmItem.getSize item ≤ item.length) ↔ WholeMessages data := by
  constructor
  · induction n generalizing data with
    | zero => exact fun _ => ⟨[], data, rfl, by omega, by simp⟩
    | succ n ih =>
      intro hsizes
      by_cases hshort : 8 > data.length
      · exact ⟨[], data, rfl, hshort, by simp⟩
      have hle8 := le_getSize_vbcm data
      rw [readMany_of_some (by rw [parseItem_vbcm, if_neg hshort]), forall_mem_cons] at hsizes
      obtain ⟨messages, rest, hrest, hless, hall⟩ := ih (by rw [length_drop]; omega) hsizes.2
      have hlength : (data.take (vbcmItem.getSize data)).length = vbcmItem.getSize data := length_take_of_le hsizes.1
      refine ⟨data.take (vbcmItem.getSize data) :: messages, rest, ?_, hless, forall_mem_cons.mpr ⟨⟨by omega, ?_⟩, hall⟩⟩
      · rw [flatten_cons, append_assoc, ← hrest, take_append_drop]
      · rw [hlength, ← getSize_vbcm_append (by omega) (data.drop (vbcmItem.getSize data)), take_append_drop]
  · rintro ⟨messages, rest, rfl, hless, hall⟩
    induction messages generalizing n with
    | nil =>
      rw [flatten_nil, nil_append, readMany_of_none (by rw [parseItem_vbcm, if_pos hless])]
      simp
    | cons m messages ih =>
      obtain ⟨⟨hm, hsize⟩, hall⟩ := forall_mem_cons.mp hall
      rw [flatten_cons, append_assoc] at hn ⊢
      obtain ⟨n, rfl⟩ : ∃ n', n = n' + 1 := ⟨n - 1, by rw [length_append] at hn; omega⟩
      have hsize' := (getSize_vbcm_append hm (messages.flatten ++ rest)).trans hsize
      rw [readMany_of_some (by rw [parseItem_vbcm, if_neg (by rw [length_append]; omega)]), forall_mem_cons, hsize', drop_left]
      rw [length_append] at hn ⊢
      exact ⟨by omega, ih (by omega) hall⟩

/-- **The items of an accepted packet lie within it**, for every type of messages and all bytes, if and only if, for VBCM, the
messages are whole. -/
theorem items_within_iff (t : FeedbackType) (data : List UInt8) :
    (∀ items, t.parse data = some items → ∀ item ∈ items, t.Within data item) ↔
      (t = vbcm → 12 ≤ data.length → WholeMessages (data.drop 12)) := by
  unfold parse
  split
  · exact iff_of_true (by simp) fun _ _ => by omega
  rename_i hlen
  have hpos : 0 < t.itemClass.headerSize := by cases t <;> decide
  have hiff : ∀ item ∈ readMany t.parseItem t.itemClass.getSize (data.drop 12).length (data.drop 12),
      (t.Within data item ↔ t.itemClass.getSize item ≤ item.length) := by
    intro item hitem
    obtain ⟨k, hk, hle⟩ := mem_items hitem
    exact within_iff ⟨12 + k, by rw [hk, drop_drop]⟩ (by omega)
  simp only [Option.some.injEq, forall_eq']
  rw [forall₂_congr hiff]
  by_cases ht : t = vbcm
  · subst ht
    rw [imp_iff_right rfl, imp_iff_right (Nat.le_of_not_lt hlen)]
    exact sizes_iff_wholeMessages (Nat.le_refl _)
  refine iff_of_true (fun item hitem => ?_) fun h => absurd h ht
  obtain ⟨-, -, hle⟩ := mem_items hitem
  have hsize : t.itemClass.getSize item = t.itemClass.headerSize := by
    cases t <;> first | rfl | exact absurd rfl ht
  omega

theorem truncated_vbcm_accepted : vbcm.parse ([0x84, 206, 0, 4] ++ [0, 0, 0, 1, 0, 0, 0, 2] ++ [0, 0, 0, 5, 1, 96, 0, 4]) =
        some [[0, 0, 0, 5, 1, 96, 0, 4]] ∧
      ¬ vbcm.Within ([0x84, 206, 0, 4] ++ [0, 0, 0, 1, 0, 0, 0, 2] ++ [0, 0, 0, 5, 1, 96, 0, 4])
        [0, 0, 0, 5, 1, 96, 0, 4] := by
  refine ⟨by decide, fun h => ?_⟩
  have hle := (within_iff ⟨12, rfl⟩ (by decide)).mp h
  exact absurd hle (by decide)

end FeedbackType

end Mediasoup.Rtcp
