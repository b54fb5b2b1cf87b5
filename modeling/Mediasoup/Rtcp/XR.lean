import Mathlib.Algebra.BigOperators.Ring.List
import Mediasoup.Rtcp.Packet

/-!
# Extended Report packets

`ExtendedReportPacket` with its blocks `ReceiverReferenceTime` and `DelaySinceLastRr`. The loop of `DelaySinceLastRr::Parse` moves
the cursor twice for every sub-block, and is bounded by the end of the packet and not of the block: of two different sub-blocks
the second one is lost (`lost_sub_block`). Its 16-bit `reportLength` counts bytes, of a length field that counts words.
`parse_serialize_reports_iff` says which packets come back.
-/

namespace Mediasoup.Rtcp.XR

open Utils Lib List

/-! ## Sub-blocks -/

structure SsrcInfo where
  ssrc : UInt32
  lrr : UInt32
  dlrr : UInt32
  deriving DecidableEq

namespace SsrcInfo

def bodySize : Nat := 12

def serialize (i : SsrcInfo) : List UInt8 := set4 i.ssrc ++ (set4 i.lrr ++ set4 i.dlrr)

def parse (data : List UInt8) : Option SsrcInfo := do
  let (ssrc, data) ← take4 data
  let (lrr, data) ← take4 data
  let (dlrr, _) ← take4 data
  return ⟨ssrc, lrr, dlrr⟩

theorem length_serialize (i : SsrcInfo) : i.serialize.length = bodySize := rfl

theorem parse_eq_some_iff {data : List UInt8} {i : SsrcInfo} : parse data = some i ↔ i.serialize <+: data := by
  constructor
  · intro h
    simp only [parse, bind, Option.bind_eq_some_iff, Prod.exists, pure, Option.some.injEq] at h
    obtain ⟨ssrc, data₁, h₁, lrr, data₂, h₂, dlrr, rest, h₃, rfl⟩ := h
    refine ⟨rest, ?_⟩
    rw [eq_of_take4 h₁, eq_of_take4 h₂, eq_of_take4 h₃]
    simp only [serialize, append_assoc]
  · rintro ⟨rest, rfl⟩
    simp only [serialize, append_assoc, parse, take4_set4_append, bind, Option.bind, pure]

theorem length_of_parse {data : List UInt8} {i : SsrcInfo} (h : parse data = some i) : bodySize ≤ data.length := by
  exact (parse_eq_some_iff.mp h).length_le

end SsrcInfo

/-! ## Blocks -/

inductive Block
  | receiverReferenceTime (ntpSec ntpFrac : UInt32)
  | delaySinceLastRr (ssrcInfos : List SsrcInfo)
  deriving DecidableEq

namespace Block

def getSize : Block → Nat
  | receiverReferenceTime _ _ => 4 + 8
  | delaySinceLastRr ssrcInfos => 4 + SsrcInfo.bodySize * ssrcInfos.length

/-- The block type, a reserved byte and the length in words. -/
def serialize : Block → List UInt8
  | receiverReferenceTime ntpSec ntpFrac => [4, 0] ++ set2Bytes 2 ++ (set4 ntpSec ++ set4 ntpFrac)
  | delaySinceLastRr ssrcInfos =>
    [5, 0] ++ set2Bytes (SsrcInfo.bodySize * ssrcInfos.length / 4 % 2 ^ 16) ++ ssrcInfos.flatMap SsrcInfo.serialize

/-- The sub-blocks of a block with `length` words: the loop moves the cursor twice in every round. -/
def parseSsrcInfos (length : Nat) (data : List UInt8) : List SsrcInfo :=
  readMany SsrcInfo.parse (fun _ => SsrcInfo.bodySize + SsrcInfo.bodySize) (length * 4 % 2 ^ 16 / SsrcInfo.bodySize) data

def parse : List UInt8 → Option Block
  | blockType :: _ :: l0 :: l1 :: rest =>
    if blockType = 4 then do
      let (ntpSec, rest) ← take4 rest
      let (ntpFrac, _) ← take4 rest
      return receiverReferenceTime ntpSec ntpFrac
    else if blockType = 5 then some (delaySinceLastRr (parseSsrcInfos (get2Bytes l0 l1) rest))
    else none
  | _ => none

/-- Every sub-block stands at twice its distance from the start of the data. -/
def Spaced : List SsrcInfo → List UInt8 → Prop
  | [], _ => True
  | i :: is, data => i.serialize <+: data ∧ Spaced is (data.drop (SsrcInfo.bodySize + SsrcInfo.bodySize))

/-- A block is read back in front of `rest`. -/
def ReadBefore (rest : List UInt8) : Block → Prop
  | receiverReferenceTime _ _ => True
  | delaySinceLastRr ssrcInfos =>
    ssrcInfos.length ≤ 5461 ∧ Spaced ssrcInfos (ssrcInfos.flatMap SsrcInfo.serialize ++ rest)

theorem readMany_spaced_iff (is : List SsrcInfo) (data : List UInt8) :
    readMany SsrcInfo.parse (fun _ => SsrcInfo.bodySize + SsrcInfo.bodySize) is.length data = is ↔ Spaced is data := by
  induction is generalizing data with
  | nil => exact ⟨fun _ => trivial, fun _ => rfl⟩
  | cons i is ih =>
    rw [Spaced, ← SsrcInfo.parse_eq_some_iff, ← ih, length_cons]
    cases hp : SsrcInfo.parse data with
    | none => simp [readMany_of_none hp]
    | some j => simp [readMany_of_some hp]

theorem rounds_eq (n : Nat) : 12 * n / 4 % 2 ^ 16 * 4 % 2 ^ 16 / 12 = if n ≤ 5461 then n else 12 * n % 2 ^ 16 / 12 := by
  split <;> omega

theorem parseSsrcInfos_iff (is : List SsrcInfo) (rest : List UInt8) :
    parseSsrcInfos (SsrcInfo.bodySize * is.length / 4 % 2 ^ 16) (is.flatMap SsrcInfo.serialize ++ rest) = is ↔
      ReadBefore rest (delaySinceLastRr is) := by
  change readMany _ _ (12 * is.length / 4 % 2 ^ 16 * 4 % 2 ^ 16 / 12) _ = is ↔ _
  rw [rounds_eq]
  split
  · rename_i hfew
    rw [readMany_spaced_iff]
    exact ⟨fun h => ⟨hfew, h⟩, fun h => h.2⟩
  rename_i hmany
  refine iff_of_false (fun h => ?_) fun h => hmany h.1
  have hlen := length_readMany_le SsrcInfo.parse (fun _ => SsrcInfo.bodySize + SsrcInfo.bodySize)
    (12 * is.length % 2 ^ 16 / 12) (is.flatMap SsrcInfo.serialize ++ rest)
  rw [h] at hlen
  omega

theorem parse_serialize_append (b : Block) (rest : List UInt8) : parse (b.serialize ++ rest) = some b ↔ b.ReadBefore rest := by
  cases b with
  | receiverReferenceTime ntpSec ntpFrac =>
    refine iff_of_true ?_ trivial
    simp only [serialize, set2Bytes, cons_append, nil_append, append_assoc, parse, if_true,
      take4_set4_append, bind, Option.bind, pure]
  | delaySinceLastRr is =>
    rw [← parseSsrcInfos_iff]
    simp only [serialize, set2Bytes, cons_append, nil_append, parse, get2Bytes_set2Bytes, Option.some.injEq,
      delaySinceLastRr.injEq, if_true, show ¬(5 : UInt8) = 4 by decide, if_false]
    rw [show (65536 : Nat) = 2 ^ 16 from rfl, Nat.mod_mod]

theorem length_serialize (b : Block) : b.serialize.length = b.getSize := by
  cases b with
  | receiverReferenceTime ntpSec ntpFrac => rfl
  | delaySinceLastRr is =>
    simp only [serialize, set2Bytes, cons_append, nil_append, length_cons, length_flatMap,
      SsrcInfo.length_serialize, getSize, map_const', sum_replicate_nat, Nat.mul_comm is.length]
    omega

theorem length_parseSsrcInfos_le (n : Nat) (data : List UInt8) :
    SsrcInfo.bodySize * (readMany SsrcInfo.parse (fun _ => SsrcInfo.bodySize + SsrcInfo.bodySize) n data).length ≤
      data.length := by
  induction n generalizing data with
  | zero => exact Nat.zero_le _
  | succ n ih =>
    cases hp : SsrcInfo.parse data with
    | none =>
      rw [readMany_of_none hp]
      exact Nat.zero_le _
    | some i =>
      have hroom := SsrcInfo.length_of_parse hp
      have hrest := ih (data.drop (SsrcInfo.bodySize + SsrcInfo.bodySize))
      rw [length_drop] at hrest
      rw [readMany_of_some hp, length_cons, Nat.mul_succ]
      omega

theorem getSize_le_of_parse {data : List UInt8} {b : Block} (h : parse data = some b) : b.getSize ≤ data.length := by
  unfold parse at h
  split at h
  · split at h
    · simp only [bind, Option.bind_eq_some_iff, Prod.exists, pure, Option.some.injEq] at h
      obtain ⟨ntpSec, data₁, h₁, ntpFrac, data₂, h₂, rfl⟩ := h
      rw [eq_of_take4 h₁, eq_of_take4 h₂]
      simp only [length_cons, length_append, getSize, show ∀ v, (set4 v).length = 4 from fun _ => rfl]
      omega
    split at h
    · cases h
      rw [getSize, parseSsrcInfos, Nat.add_comm 4]
      exact Nat.add_le_add_right (length_parseSsrcInfos_le _ _) 4
    · cases h
  · cases h

end Block

/-! ## Packets -/

structure ExtendedReport where
  ssrc : UInt32
  reports : List Block
  deriving DecidableEq

namespace ExtendedReport

def getSize (p : ExtendedReport) : Nat := 4 + 4 + (p.reports.map Block.getSize).sum

def serialize (p : ExtendedReport) : List UInt8 :=
  Packet.header 0 .xr p.getSize ++ (set4 p.ssrc ++ p.reports.flatMap Block.serialize)

def parse (data : List UInt8) : Option ExtendedReport := do
  let (ssrc, data) ← take4 (data.drop 4)
  return ⟨ssrc, readMany Block.parse Block.getSize data.length data⟩

/-- Every block is read back in front of those that follow it. -/
def Legible : List Block → Prop
  | [] => True
  | b :: bs => b.ReadBefore (bs.flatMap Block.serialize) ∧ Legible bs

theorem readsBack_iff (bs : List Block) : ReadsBack Block.parse Block.serialize [] bs ↔ Legible bs := by
  induction bs with
  | nil => exact Iff.rfl
  | cons b bs ih => rw [ReadsBack, Legible, ih, append_nil, Block.parse_serialize_append]

theorem length_flatMap_blocks (bs : List Block) : (bs.flatMap Block.serialize).length = (bs.map Block.getSize).sum := by
  rw [length_flatMap]
  congr 1
  exact map_congr_left fun b _ => b.length_serialize

variable (p : ExtendedReport)

theorem length_serialize : p.serialize.length = p.getSize := by
  rw [serialize, length_append, length_append, length_flatMap_blocks, getSize, ← Nat.add_assoc]
  rfl

theorem drop_serialize : p.serialize.drop 4 = set4 p.ssrc ++ p.reports.flatMap Block.serialize := rfl

theorem parse_serialize_self_iff : parse p.serialize = some p ↔ Legible p.reports := by
  obtain ⟨n, hn⟩ : ∃ n, (p.reports.flatMap Block.serialize).length = p.reports.length + n := by
    have hcount := length_le_length_flatMap Block.serialize
      (fun b => by cases b <;> exact Nat.succ_pos _) p.reports
    exact ⟨_, (Nat.add_sub_cancel' hcount).symm⟩
  have hread := readMany_eq_iff Block.length_serialize p.reports
    (show readMany Block.parse _ n [] = [] from readMany_of_none rfl)
  rw [append_nil, readsBack_iff, ← hn] at hread
  rw [← hread, parse, drop_serialize, take4_set4_append]
  obtain ⟨ssrc, reports⟩ := p
  simp [bind, pure]

theorem parse_take_ne {n : Nat} (hlt : n < p.serialize.length) : parse (p.serialize.take n) ≠ some p := by
  intro h
  simp only [parse, bind, Option.bind_eq_some_iff, Prod.exists, pure, Option.some.injEq] at h
  obtain ⟨ssrc, data, h₁, rfl⟩ := h
  have hdata := congrArg List.length (eq_of_take4 h₁)
  have hsum := sum_size_readMany_le Block.parse Block.getSize (u := 1)
    (fun _ _ _ hb => ⟨Block.getSize_le_of_parse hb, Nat.one_dvd _⟩) data.length data (Nat.one_dvd _)
  rw [length_serialize, getSize] at hlt
  rw [length_drop, length_take, length_append] at hdata
  change _ = 4 + _ at hdata
  simp only at hlt
  omega

theorem isPacket_serialize : Packet.IsPacket .xr p.serialize := by
  refine ⟨0, set4 p.ssrc ++ p.reports.flatMap Block.serialize, ?_, ?_⟩
  · rw [serialize, length_append, length_flatMap_blocks, ← Nat.add_assoc]
    rfl
  · rw [length_append, length_flatMap_blocks]
    refine Nat.dvd_add (Nat.dvd_refl 4) (dvd_sum (R := Nat) fun n hn => ?_)
    obtain ⟨b, -, rfl⟩ := mem_map.mp hn
    cases b with
    | receiverReferenceTime ntpSec ntpFrac => exact ⟨3, rfl⟩
    | delaySinceLastRr is => exact Nat.dvd_add (Nat.dvd_refl 4) (Nat.dvd_mul_right_of_dvd ⟨3, rfl⟩ _)

/-- **A packet comes back exactly when its blocks are legible**, and, through `Packet::Parse`, when it also fits its
length field. -/
theorem parse_serialize_reports_iff {π : Type} (others : Packet.Switch π) (p : ExtendedReport) :
    (parse p.serialize = some p ↔ Legible p.reports) ∧
      (Packet.parse (.on .xr parse others) p.serialize = [.inl p] ↔ p.getSize ≤ 2 ^ 18 ∧ Legible p.reports) := by
  refine ⟨parse_serialize_self_iff p, ?_⟩
  have hchain := Packet.parse_flatMap_iff others isPacket_serialize
    (fun q n _ _ hlt => parse_take_ne q hlt) [p]
  rw [flatMap_singleton, map_singleton] at hchain
  rw [hchain, forall_mem_singleton, length_serialize, parse_serialize_self_iff]

theorem lost_sub_block :
    parse (serialize ⟨1, [.delaySinceLastRr [⟨2, 3, 4⟩, ⟨5, 6, 7⟩]]⟩) = some ⟨1, [.delaySinceLastRr [⟨2, 3, 4⟩]]⟩ ∧
      parse (serialize ⟨1, [.delaySinceLastRr [⟨2, 3, 4⟩, ⟨5, 6, 7⟩]]⟩) ≠
        some ⟨1, [.delaySinceLastRr [⟨2, 3, 4⟩, ⟨5, 6, 7⟩]]⟩ := by
  constructor <;> decide +kernel

end ExtendedReport

end Mediasoup.Rtcp.XR
