import Mathlib.Algebra.BigOperators.Ring.List
import Mediasoup.Lib.Batches
import Mediasoup.Rtcp.Packet

/-!
# SDES packets

`SdesItem`, `SdesChunk` and `SdesPacket`. A chunk ends where an item of type `END` or the end of the packet is found, but
`SdesChunk::Serialize` writes null bytes only to fill the last word. A chunk whose items end on a word boundary is not
terminated, and `SdesChunk::Parse` goes on into the SSRC of the next chunk (`swallowed_chunk`).
-/

namespace Mediasoup.Rtcp

open Utils Lib List Packet

/-! ## Items -/

/-- An item. The type `END` is not the type of an item, and the length is stored in a byte. -/
structure SdesItem where
  type : UInt8
  value : List UInt8
  type_ne : type ≠ 0 := by decide
  length_lt : value.length < 2 ^ 8 := by decide
  deriving DecidableEq

namespace SdesItem

def getSize (i : SdesItem) : Nat := 2 + i.value.length

def serialize (i : SdesItem) : List UInt8 := i.type :: .ofNat i.value.length :: i.value

def parse : List UInt8 → Option SdesItem
  | type :: length :: rest =>
    if h : type ≠ 0 ∧ length.toNat ≤ rest.length then
      some {
        type := type
        value := rest.take length.toNat
        type_ne := h.1
        length_lt := by
          rw [length_take, Nat.min_eq_left h.2]
          exact length.toNat_lt }
    else none
  | _ => none

theorem length_serialize (i : SdesItem) : i.serialize.length = i.getSize := by
  rw [serialize, getSize, length_cons, length_cons]
  omega

theorem parse_serialize_append (i : SdesItem) (tail : List UInt8) : parse (i.serialize ++ tail) = some i := by
  have hlen : (UInt8.ofNat i.value.length).toNat = i.value.length := by
    exact Nat.mod_eq_of_lt i.length_lt
  simp only [serialize, cons_append, parse, hlen, take_left]
  exact dif_pos ⟨i.type_ne, by rw [length_append]; omega⟩

theorem parse_null (tail : List UInt8) : parse (0 :: tail) = none := by
  cases tail with
  | nil => rfl
  | cons b tail => rw [parse, dif_neg fun h => h.1 rfl]

theorem readsBack (tail : List UInt8) (is : List SdesItem) : ReadsBack parse serialize tail is := by
  induction is with
  | nil => trivial
  | cons i is ih => exact ⟨parse_serialize_append i _, ih⟩

theorem getSize_le_of_parse {data : List UInt8} {i : SdesItem} (h : parse data = some i) : i.getSize ≤ data.length := by
  unfold parse at h
  split at h
  · split at h
    · cases h
      simp only [getSize, length_take, length_cons]
      omega
    · cases h
  · cases h

end SdesItem

/-! ## Chunks -/

structure SdesChunk where
  ssrc : UInt32
  items : List SdesItem
  deriving DecidableEq

namespace SdesChunk

def itemsSize (c : SdesChunk) : Nat := (c.items.map SdesItem.getSize).sum

def getSize (c : SdesChunk) : Nat := (4 + c.itemsSize + 3) / 4 * 4

def padding (offset : Nat) : Nat := (4 - offset % 4) % 4

def serialize (c : SdesChunk) : List UInt8 :=
  set4Bytes c.ssrc.toNat ++ (c.items.flatMap SdesItem.serialize ++ List.replicate (padding (4 + c.itemsSize)) 0)

def parseItems (data : List UInt8) : List SdesItem := readMany SdesItem.parse SdesItem.getSize data.length data

def parse : List UInt8 → Option SdesChunk
  | b0 :: b1 :: b2 :: b3 :: rest => some ⟨.ofNat (get4Bytes b0 b1 b2 b3), parseItems rest⟩
  | _ => none

theorem length_flatMap_items (is : List SdesItem) : (is.flatMap SdesItem.serialize).length = (is.map SdesItem.getSize).sum := by
  rw [length_flatMap]
  congr 1
  exact map_congr_left fun i _ => i.length_serialize

theorem length_serialize (c : SdesChunk) : c.serialize.length = c.getSize := by
  rw [serialize, length_append, length_append, length_flatMap_items, length_replicate]
  change 4 + (c.itemsSize + padding (4 + c.itemsSize)) = c.getSize
  unfold padding getSize
  omega

theorem parseItems_append_iff (is : List SdesItem) (tail : List UInt8) :
    parseItems (is.flatMap SdesItem.serialize ++ tail) = is ↔ SdesItem.parse tail = none := by
  have hcount := length_le_length_flatMap SdesItem.serialize (fun _ => Nat.succ_pos _) is
  obtain ⟨n, hn⟩ : ∃ n, (is.flatMap SdesItem.serialize ++ tail).length = is.length + (n + tail.length) :=
    ⟨(is.flatMap SdesItem.serialize).length - is.length, by rw [length_append]; omega⟩
  rw [parseItems, hn, readMany_append SdesItem.length_serialize (SdesItem.readsBack tail is)]
  cases tail with
  | nil => simp [readMany_of_none (show SdesItem.parse [] = none from rfl), SdesItem.parse]
  | cons b tail =>
    rw [length_cons, ← Nat.add_assoc, ← readMany_eq_nil_iff SdesItem.getSize]
    exact append_right_eq_self

theorem parse_serialize_append (c : SdesChunk) (rest : List UInt8) :
    parse (c.serialize ++ rest) = some c ↔ (c.itemsSize % 4 = 0 → SdesItem.parse rest = none) := by
  have hssrc : UInt32.ofNat (c.ssrc.toNat % 4294967296) = c.ssrc := by
    rw [Nat.mod_eq_of_lt c.ssrc.toNat_lt, UInt32.ofNat_toNat]
  simp only [serialize, set4Bytes, cons_append, nil_append, parse, get4Bytes_set4Bytes, hssrc, Option.some.injEq]
  rw [append_assoc]
  have hitems := parseItems_append_iff c.items (List.replicate (padding (4 + c.itemsSize)) 0 ++ rest)
  obtain ⟨ssrc, is⟩ := c
  simp only [SdesChunk.mk.injEq, true_and] at hitems ⊢
  rw [hitems]
  by_cases haligned : SdesChunk.itemsSize ⟨ssrc, is⟩ % 4 = 0
  · rw [show padding (4 + SdesChunk.itemsSize ⟨ssrc, is⟩) = 0 by unfold padding; omega]
    simp [haligned]
  obtain ⟨k, hk⟩ : ∃ k, padding (4 + SdesChunk.itemsSize ⟨ssrc, is⟩) = k + 1 :=
    ⟨padding (4 + SdesChunk.itemsSize ⟨ssrc, is⟩) - 1, by unfold padding; omega⟩
  rw [hk, replicate_succ, cons_append]
  simp only [haligned, false_implies, iff_true]
  exact SdesItem.parse_null _

theorem getSize_of_parse {data : List UInt8} {c : SdesChunk} (hwords : 4 ∣ data.length) (h : parse data = some c) :
    c.getSize ≤ data.length ∧ 4 ∣ c.getSize := by
  unfold parse at h
  split at h
  · rename_i b0 b1 b2 b3 rest
    cases h
    have hsum : itemsSize ⟨.ofNat (get4Bytes b0 b1 b2 b3), parseItems rest⟩ ≤ rest.length :=
      sum_size_readMany_le SdesItem.parse SdesItem.getSize (u := 1)
        (fun _ _ _ hi => ⟨SdesItem.getSize_le_of_parse hi, Nat.one_dvd _⟩) rest.length rest (Nat.one_dvd _)
    rw [length_cons, length_cons, length_cons, length_cons] at hwords ⊢
    unfold getSize
    omega
  · cases h

end SdesChunk

/-! ## Packets -/

namespace SdesPacket

def maxChunksPerPacket : Nat := 31

def serializeChunk (i : Nat) (c : Option PacketCursor) (chunk : SdesChunk) : Option PacketCursor :=
  if i % maxChunksPerPacket = 0 then
    some {
      before := PacketCursor.buffer .sdes c
      count := i % maxChunksPerPacket + 1
      length := 4 + chunk.serialize.length
      body := chunk.serialize }
  else
    c.map fun c =>
      { c with
        count := i % maxChunksPerPacket + 1
        length := c.length + chunk.serialize.length
        body := c.body ++ chunk.serialize }

def serializeFrom : Nat → Option PacketCursor → List SdesChunk → Option PacketCursor
  | _, c, [] => c
  | i, c, chunk :: chunks => serializeFrom (i + 1) (serializeChunk i c chunk) chunks

variable (chunks : List SdesChunk)

def serialize : List UInt8 := PacketCursor.buffer .sdes (serializeFrom 0 none chunks)

def parse : List UInt8 → List SdesChunk
  | b0 :: rest => readMany SdesChunk.parse SdesChunk.getSize (b0.toNat % 32) (rest.drop 3)
  | [] => []

/-! ### The packets of a list of chunks -/

/-- The packets into which `Serialize` splits the chunks: 31 in each, and the rest in the last one. -/
def packets : List (List SdesChunk) := batches maxChunksPerPacket chunks

variable (packet : List SdesChunk)

def bytes : List UInt8 :=
  header packet.length .sdes (4 + (packet.flatMap SdesChunk.serialize).length) ++ packet.flatMap SdesChunk.serialize

theorem buffer_serializeFrom (i : Nat) (packet : List SdesChunk) (before : List UInt8)
    (hcount : packet.length = i % maxChunksPerPacket + 1) :
    PacketCursor.buffer .sdes (serializeFrom (i + 1) (some ⟨before, packet.length, 4 + (packet.flatMap SdesChunk.serialize).length,
        packet.flatMap SdesChunk.serialize⟩) chunks) =
      before ++ (batchesFrom maxChunksPerPacket packet chunks).flatMap bytes := by
  induction chunks generalizing i packet before with
  | nil => simp [serializeFrom, PacketCursor.buffer, batchesFrom, bytes]
  | cons chunk chunks ih =>
    rw [serializeFrom, serializeChunk, batchesFrom]
    unfold maxChunksPerPacket at hcount ⊢ ih
    by_cases hfull : packet.length = 31
    · have hnew : (i + 1) % 31 = 0 := by omega
      have hrest := ih (i + 1) [chunk] (before ++ bytes packet) (by rw [hnew]; rfl)
      rw [if_pos hnew, if_pos hfull, flatMap_cons, ← append_assoc, ← hrest, hnew]
      simp [PacketCursor.buffer, bytes]
    have hsame : (i + 1) % 31 = packet.length := by omega
    have hrest := ih (i + 1) (packet ++ [chunk]) before
      (by rw [hsame, length_append]; rfl)
    rw [if_neg (by omega), if_neg hfull, ← hrest, hsame]
    simp [Nat.add_assoc]

theorem serialize_eq : serialize chunks = (packets chunks).flatMap bytes := by
  cases chunks with
  | nil => rfl
  | cons chunk chunks =>
    have h := buffer_serializeFrom chunks 0 [chunk] [] rfl
    simpa [serialize, serializeFrom, serializeChunk, packets, batches, PacketCursor.buffer] using h

theorem flatten_packets : (packets chunks).flatten = chunks := flatten_batches chunks

theorem length_le_of_mem_packets {chunks p : List SdesChunk} (hp : p ∈ packets chunks) : p.length ≤ maxChunksPerPacket :=
  length_le_of_mem_batches (by decide) hp

/-! ### Reading back -/

/-- The chunks, as they stand in the buffer, begin like an item that lies within the packet: the first byte of the SSRC
is its type, the second one its length. -/
def ReadAsItem : List SdesChunk → Prop
  | [] => False
  | chunk :: chunks =>
    2 ^ 24 ≤ chunk.ssrc.toNat ∧ 2 + chunk.ssrc.toNat / 2 ^ 16 % 2 ^ 8 ≤ ((chunk :: chunks).map SdesChunk.getSize).sum

/-- The chunks of a packet are told apart: one that ends on a word boundary is not followed by what reads as an item. -/
def Separated : List SdesChunk → Prop
  | [] => True
  | chunk :: chunks => (chunk.itemsSize % 4 = 0 → ¬ReadAsItem chunks) ∧ Separated chunks

theorem length_flatMap_chunks : (packet.flatMap SdesChunk.serialize).length = (packet.map SdesChunk.getSize).sum := by
  rw [length_flatMap]
  congr 1
  exact map_congr_left fun c _ => c.length_serialize

theorem length_serialize :
    (serialize chunks).length = 4 * ((chunks.length + 30) / 31) + (chunks.map SdesChunk.getSize).sum := by
  have hlen : ∀ ps : List (List SdesChunk),
      (ps.flatMap bytes).length = 4 * ps.length + (ps.flatten.map SdesChunk.getSize).sum := by
    intro ps
    induction ps with
    | nil => rfl
    | cons p ps ih =>
      have hp : (bytes p).length = 4 + (p.map SdesChunk.getSize).sum := by
        rw [bytes, length_append, length_flatMap_chunks]
        rfl
      rw [flatMap_cons, length_append, ih, hp, flatten_cons, map_append, sum_append, length_cons]
      omega
  rw [serialize_eq, hlen, flatten_packets, packets, length_batches (by decide)]
  rfl

theorem parse_item_eq_none_iff : SdesItem.parse (packet.flatMap SdesChunk.serialize) = none ↔ ¬ReadAsItem packet := by
  cases packet with
  | nil => simp [SdesItem.parse, ReadAsItem]
  | cons chunk chunks =>
    have hlen := length_flatMap_chunks (chunk :: chunks)
    have hlt := chunk.ssrc.toNat_lt
    rw [ReadAsItem, ← hlen]
    simp only [flatMap_cons, SdesChunk.serialize, set4Bytes, cons_append, nil_append, SdesItem.parse, length_cons]
    have htype : UInt8.ofNat (chunk.ssrc.toNat / 16777216) ≠ 0 ↔ 2 ^ 24 ≤ chunk.ssrc.toNat := by
      rw [Ne, ← UInt8.toNat_inj, UInt8.toNat_ofNat']
      simp only [UInt8.reduceToNat]
      omega
    have hbyte : (UInt8.ofNat (chunk.ssrc.toNat / 65536)).toNat = chunk.ssrc.toNat / 2 ^ 16 % 2 ^ 8 :=
      UInt8.toNat_ofNat'
    split
    · rename_i h
      rw [htype, hbyte] at h
      simp only [reduceCtorEq, false_iff, not_not]
      omega
    rename_i h
    rw [htype, hbyte] at h
    simp only [true_iff]
    omega

theorem readsBack_iff : ReadsBack SdesChunk.parse SdesChunk.serialize [] packet ↔ Separated packet := by
  induction packet with
  | nil => exact Iff.rfl
  | cons chunk chunks ih =>
    rw [ReadsBack, Separated, ih, append_nil, SdesChunk.parse_serialize_append, parse_item_eq_none_iff]

theorem parse_bytes_iff {packet : List SdesChunk} (hcount : packet.length ≤ maxChunksPerPacket) :
    parse (bytes packet) = packet ↔ Separated packet := by
  have hmax : maxChunksPerPacket = 31 := rfl
  have hfield : (UInt8.ofNat (0x80 + packet.length % 32)).toNat % 32 = packet.length := by
    rw [UInt8.toNat_ofNat']
    omega
  have hread := readMany_eq_iff SdesChunk.length_serialize packet (n := 0) (show readMany SdesChunk.parse _ 0 [] = [] from rfl)
  rw [append_nil, Nat.add_zero, readsBack_iff] at hread
  rw [← hread]
  simp only [bytes, header, set2Bytes, cons_append, nil_append, parse, hfield, drop_succ_cons, drop_zero]

theorem isPacket_bytes : Packet.IsPacket .sdes (bytes packet) := by
  refine ⟨packet.length, packet.flatMap SdesChunk.serialize, rfl, ?_⟩
  rw [length_flatMap_chunks]
  refine dvd_sum (R := Nat) fun n hn => ?_
  obtain ⟨c, -, rfl⟩ := mem_map.mp hn
  exact Nat.dvd_mul_left 4 _

theorem parse_take_ne {n : Nat} (hwords : 4 ∣ n) (hpos : 0 < n)
    (hlt : n < (bytes packet).length) : parse ((bytes packet).take n) ≠ packet := by
  obtain ⟨m, rfl⟩ : ∃ m, n = m + 4 := ⟨n - 4, by omega⟩
  have hlen : (bytes packet).length = 4 + (packet.map SdesChunk.getSize).sum := by
    rw [bytes, length_append, length_flatMap_chunks]
    rfl
  intro heq
  have hsum := sum_size_readMany_le SdesChunk.parse SdesChunk.getSize (u := 4)
    (fun _ _ hdata hc => SdesChunk.getSize_of_parse hdata hc)
    ((UInt8.ofNat (0x80 + packet.length % 32)).toNat % 32) ((packet.flatMap SdesChunk.serialize).take m)
    (by rw [length_take, length_flatMap_chunks]; omega)
  have hparse : parse ((bytes packet).take (m + 4)) = readMany SdesChunk.parse SdesChunk.getSize
      ((UInt8.ofNat (0x80 + packet.length % 32)).toNat % 32) ((packet.flatMap SdesChunk.serialize).take m) := by
    simp only [bytes, header, set2Bytes, cons_append, nil_append, take_succ_cons, parse, drop_succ_cons, drop_zero]
  rw [← hparse, heq, length_take] at hsum
  omega

/-- **The packets come back exactly when their chunks are told apart and they fit the length field.** -/
theorem parse_serialize_chunks_iff {π : Type} (others : Packet.Switch π) (chunks : List SdesChunk) :
    (packets chunks).flatten = chunks ∧ (∀ packet ∈ packets chunks, parse (bytes packet) = packet ↔ Separated packet) ∧
      (Packet.parse (.on .sdes (fun data => some (parse data)) others) (serialize chunks) = (packets chunks).map .inl ↔
        ∀ packet ∈ packets chunks, 4 + (packet.map SdesChunk.getSize).sum ≤ 2 ^ 18 ∧ Separated packet) := by
  refine ⟨flatten_packets chunks, fun packet hp => parse_bytes_iff (length_le_of_mem_packets hp), ?_⟩
  rw [serialize_eq, parse_flatMap_iff _ isPacket_bytes]
  · refine forall₂_congr fun packet hp => ?_
    rw [Option.some.injEq, parse_bytes_iff (length_le_of_mem_packets hp), bytes, length_append, length_flatMap_chunks]
    exact Iff.rfl
  · exact fun packet n hwords hpos hlt h => parse_take_ne packet hwords hpos hlt (Option.some.inj h)

def cname : SdesItem := { type := 1, value := [0x61, 0x62, 0x63, 0x64, 0x65, 0x66] }

/-- Two chunks with the CNAME `abcdef`: a single chunk with three items is what comes back. -/
theorem swallowed_chunk : Packet.parse (.on .sdes (fun data => some (parse data)) fun _ _ => (none : Option (List Empty)))
        (serialize [⟨0x11111111, [cname]⟩, ⟨0x01020304, [cname]⟩]) =
      [.inl [⟨0x11111111, [cname, { type := 1, value := [3, 4] }, cname]⟩]] ∧
    Packet.parse (.on .sdes (fun data => some (parse data)) fun _ _ => (none : Option (List Empty)))
        (serialize [⟨0x11111111, [cname]⟩, ⟨0x01020304, [cname]⟩]) ≠
      (packets [⟨0x11111111, [cname]⟩, ⟨0x01020304, [cname]⟩]).map .inl := by
  constructor <;> decide +kernel

end SdesPacket

end Mediasoup.Rtcp
