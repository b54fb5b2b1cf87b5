import Mediasoup.Rtp.RtpPacket

/-!
# The layout of an RTP packet

A `Layout` is an RTP packet cut into its parts: the fixed header, as many CSRCs as the header counts, the header extension
if the header announces one, the payload, and the padding, whose last byte counts it.

`Parse` gives a packet exactly when the bytes are those of a layout (`parse_eq_ok_iff`), and discards everything else without
leaving the buffer.
-/

namespace Mediasoup.Rtp

open Lib Utils List RtpPacket

/-- A header extension: its id, and a value of whole words that the length field can count. -/
structure Extension where
  id0 : UInt8
  id1 : UInt8
  value : List UInt8
  whole : 4 ∣ value.length
  fits : value.length / 4 < 2 ^ 16

theorem Extension.length_words (e : Extension) : e.value.length / 4 % 65536 * 4 = e.value.length := by
  have hfits : e.value.length / 4 < 65536 := e.fits
  rw [Nat.mod_eq_of_lt hfits, Nat.div_mul_cancel e.whole]

def Extension.bytes (e : Extension) : List UInt8 := e.id0 :: e.id1 :: (set2Bytes (e.value.length / 4) ++ e.value)

structure Layout where
  first : UInt8
  fixed : List UInt8
  csrcs : List UInt8
  extension : Option Extension
  payload : List UInt8
  padding : List UInt8
  rtp : 127 < first ∧ first < 192
  fixed_length : fixed.length = 11
  csrcs_length : csrcs.length = RtpPacket.csrcCount first * 4
  extension_bit : RtpPacket.hasExtension first = extension.isSome
  padding_count :
    if RtpPacket.hasPadding first then padding.getLast?.map UInt8.toNat = some padding.length else padding = []

namespace Layout

variable (l : Layout) (room : List UInt8)

def head : List UInt8 := l.first :: (l.fixed ++ l.csrcs)

def extensionBytes : List UInt8 := l.extension.elim [] Extension.bytes

def bytes : List UInt8 := l.head ++ (l.extensionBytes ++ (l.payload ++ l.padding))

def packet : RtpPacket :=
  .new (l.bytes ++ room) (l.extension.map fun _ => l.head.length) (l.head.length + l.extensionBytes.length) l.payload.length
    l.padding.length l.bytes.length

theorem length_head : l.head.length = 12 + RtpPacket.csrcCount l.first * 4 := by
  rw [head, length_cons, length_append, l.fixed_length, l.csrcs_length]
  omega

theorem length_bytes : l.bytes.length = l.head.length + l.extensionBytes.length + (l.payload.length + l.padding.length) := by
  rw [bytes, length_append, length_append, length_append]
  omega

theorem length_extension (e : Extension) : e.bytes.length = 4 + e.value.length := by
  simp only [Extension.bytes, set2Bytes, length_cons, length_append, length_nil]
  omega

theorem getElem?_zero : (l.bytes ++ room)[0]? = some l.first := rfl

end Layout

namespace RtpPacket

variable {l : Layout} {room : List UInt8}

variable {first : UInt8}

theorem version_of_rtp (h : 127 < first ∧ first < 192) : version first = 2 := by
  have hlow := UInt8.lt_iff_toNat_lt.mp h.1
  have hhigh := UInt8.lt_iff_toNat_lt.mp h.2
  simp only [UInt8.reduceToNat] at hlow hhigh
  unfold version
  omega

theorem isRtp_eq {memory : List UInt8} {len : Nat} (hlen : 12 ≤ len) (hfirst : memory[0]? = some first) :
    isRtp memory len = .ok (decide (127 < first ∧ first < 192)) := by
  rw [isRtp, if_neg (show ¬ len < headerSize from Nat.not_lt_of_le hlen), hfirst]
  refine congrArg Except.ok (decide_eq_decide.mpr ⟨fun h => ⟨h.1, h.2.1⟩, fun h => ⟨h.1, h.2, version_of_rtp h⟩⟩)

theorem parseHeaderExtension_append {head tail : List UInt8} {e : Option Extension} {len : Nat}
    (hbit : hasExtension first = e.isSome) (hlen : head.length + (e.elim [] Extension.bytes).length ≤ len) :
    parseHeaderExtension (head ++ (e.elim [] Extension.bytes ++ tail)) len head.length first =
      .ok (e.map fun _ => head.length, e.elim 0 fun e => e.value.length) := by
  unfold parseHeaderExtension
  cases e with
  | none =>
    rw [hbit]
    rfl
  | some e =>
    rw [Option.elim_some, Layout.length_extension] at hlen
    have hl0 : (head ++ (e.bytes ++ tail))[head.length + 2]? = some (.ofNat (e.value.length / 4 / 256)) := by
      rw [List.getElem?_append_right (by omega), Nat.add_sub_cancel_left]
      rfl
    have hl1 : (head ++ (e.bytes ++ tail))[head.length + 3]? = some (.ofNat (e.value.length / 4)) := by
      rw [List.getElem?_append_right (by omega), Nat.add_sub_cancel_left]
      rfl
    have hsize : get2Bytes (.ofNat (e.value.length / 4 / 256)) (.ofNat (e.value.length / 4)) * 4 = e.value.length := by
      rw [get2Bytes_set2Bytes, e.length_words]
    rw [hbit, Option.elim_some, hl0, hl1]
    simp only [Option.isSome_some, if_true, inBuffer, bind, Except.bind, hsize]
    rw [if_neg (by omega), if_neg (by omega)]
    rfl

theorem parseHeaderExtension_bytes : parseHeaderExtension (l.bytes ++ room) l.bytes.length l.head.length l.first =
      .ok (l.extension.map fun _ => l.head.length, l.extension.elim 0 fun e => e.value.length) := by
  have hlen := l.length_bytes
  rw [Layout.extensionBytes] at hlen
  have hmemory : l.bytes ++ room = l.head ++ (l.extension.elim [] Extension.bytes ++ (l.payload ++ l.padding ++ room)) := by
    simp only [Layout.bytes, Layout.extensionBytes, append_assoc]
  rw [hmemory]
  exact parseHeaderExtension_append l.extension_bit (by omega)

theorem parsePadding_bytes :
    parsePadding (l.bytes ++ room) l.bytes.length (l.payload.length + l.padding.length) l.first = .ok l.padding.length := by
  have hcount := l.padding_count
  unfold parsePadding
  cases hbit : hasPadding l.first with
  | false =>
    rw [hbit, if_neg Bool.false_ne_true] at hcount
    rw [hcount]
    rfl
  | true =>
    rw [hbit, if_pos rfl] at hcount
    obtain ⟨last, hlast, hnat⟩ := Option.map_eq_some_iff.mp hcount
    have hpos : 0 < l.padding.length := length_pos_of_ne_nil (by rintro h; rw [h] at hlast; cases hlast)
    have hread : (l.bytes ++ room)[l.bytes.length - 1]? = some last := by
      have hlen := l.length_bytes
      rw [List.getElem?_append_left (by omega), ← List.getLast?_eq_getElem?, Layout.bytes]
      simp only [List.getLast?_append, hlast, Option.some_or]
    have hnonzero : last ≠ 0 := by
      rintro rfl
      exact absurd hnat (by rw [UInt8.toNat_zero]; omega)
    rw [hread]
    simp only [if_true, inBuffer, bind, Except.bind]
    rw [if_neg (by omega), if_neg hnonzero, if_neg (by omega), hnat]
    rfl

theorem extensionSize_eq (e : Option Extension) (o : Nat) :
    extensionSize (e.map fun _ => o, e.elim 0 fun e => e.value.length) = (e.elim [] Extension.bytes).length := by
  cases e with
  | none => rfl
  | some e => exact (Layout.length_extension e).symm

theorem parseRest_bytes : parseRest (l.bytes ++ room) l.bytes.length l.head.length l.first = .ok (l.packet room) := by
  have hlen := l.length_bytes
  have hrest : l.bytes.length - (l.head.length + l.extensionBytes.length) = l.payload.length + l.padding.length := by omega
  unfold parseRest
  rw [parseHeaderExtension_bytes]
  simp only [bind, Except.bind, extensionSize_eq, ← Layout.extensionBytes.eq_1, hrest, parsePadding_bytes]
  rw [if_neg (by omega), if_neg (by omega), Nat.add_sub_cancel]
  rfl

theorem parse_bytes (l : Layout) (room : List UInt8) : parse (l.bytes ++ room) l.bytes.length = .ok (l.packet room) := by
  have hlen := l.length_bytes
  have hhead := l.length_head
  have hcsrcs : headerSize + csrcCount l.first * 4 = l.head.length := hhead.symm
  unfold parse
  rw [isRtp_eq (by omega) (l.getElem?_zero room), l.getElem?_zero room]
  simp only [l.rtp, and_self, decide_true, bind, Except.bind, Bool.not_true, Bool.false_eq_true, if_false, inBuffer, hcsrcs]
  rw [if_neg (by omega), parseRest_bytes]

/-! ## Every other datagram is discarded -/

theorem exists_extension (id0 id1 : UInt8) {l0 l1 : UInt8} {rest : List UInt8} (h : get2Bytes l0 l1 * 4 ≤ rest.length) :
    ∃ (e : Extension) (body : List UInt8), id0 :: id1 :: l0 :: l1 :: rest = e.bytes ++ body := by
  obtain ⟨value, body, hvalue, rfl⟩ : ∃ value body, value.length = get2Bytes l0 l1 * 4 ∧ rest = value ++ body :=
    ⟨_, _, length_take_of_le h, (take_append_drop _ rest).symm⟩
  have hwords : value.length / 4 = get2Bytes l0 l1 := by omega
  refine ⟨⟨id0, id1, value, ⟨get2Bytes l0 l1, by omega⟩, hwords ▸ get2Bytes_lt l0 l1⟩, body, ?_⟩
  show _ = id0 :: id1 :: (set2Bytes (value.length / 4) ++ value) ++ body
  rw [hwords, set2Bytes_get2Bytes]
  rfl

theorem exists_four_bytes {rest : List UInt8} (h : 4 ≤ rest.length) :
    ∃ id0 id1 l0 l1 value, rest = id0 :: id1 :: l0 :: l1 :: value :=
  match rest, h with
  | id0 :: id1 :: l0 :: l1 :: value, _ => ⟨id0, id1, l0, l1, value, rfl⟩

theorem parseHeaderExtension_cases (head rest room : List UInt8) (first : UInt8) :
    (∃ (e : Option Extension) (body : List UInt8), hasExtension first = e.isSome ∧ rest = e.elim [] Extension.bytes ++ body) ∨
    ∃ why, parseHeaderExtension (head ++ (rest ++ room)) (head.length + rest.length) head.length first =
      .error (.discarded why) := by
  cases hbit : hasExtension first with
  | false => exact .inl ⟨none, rest, rfl, rfl⟩
  | true =>
    by_cases hshort : rest.length < 4
    · refine .inr ⟨.headerExtension, ?_⟩
      rw [parseHeaderExtension, hbit, if_pos rfl, if_pos (by omega)]
    obtain ⟨id0, id1, l0, l1, rest, rfl⟩ := exists_four_bytes (Nat.le_of_not_lt hshort)
    by_cases hvalue : rest.length < get2Bytes l0 l1 * 4
    · refine .inr ⟨.headerExtensionValue, ?_⟩
      have hl0 : (head ++ ((id0 :: id1 :: l0 :: l1 :: rest) ++ room))[head.length + 2]? = some l0 := by
        rw [List.getElem?_append_right (by omega), Nat.add_sub_cancel_left]
        rfl
      have hl1 : (head ++ ((id0 :: id1 :: l0 :: l1 :: rest) ++ room))[head.length + 3]? = some l1 := by
        rw [List.getElem?_append_right (by omega), Nat.add_sub_cancel_left]
        rfl
      rw [parseHeaderExtension, hbit, if_pos rfl, if_neg (by omega), hl0, hl1]
      simp only [inBuffer, bind, Except.bind, length_cons]
      rw [if_pos (by omega)]
    · obtain ⟨e, body, heq⟩ := exists_extension id0 id1 (Nat.le_of_not_lt hvalue)
      exact .inl ⟨some e, body, rfl, heq⟩

theorem parsePadding_cases (front body room : List UInt8) (first : UInt8) :
    (∃ payload padding : List UInt8, body = payload ++ padding ∧
      if hasPadding first then padding.getLast?.map UInt8.toNat = some padding.length else padding = []) ∨
    ∃ why, parsePadding (front ++ (body ++ room)) (front.length + body.length) body.length first = .error (.discarded why) := by
  cases hbit : hasPadding first with
  | false => exact .inl ⟨body, [], (append_nil _).symm, by rw [if_neg Bool.false_ne_true]⟩
  | true =>
    cases hlast : body.getLast? with
    | none =>
      refine .inr ⟨.noPaddingByte, ?_⟩
      rw [List.getLast?_eq_none_iff.mp hlast, parsePadding, hbit, if_pos rfl]
      rfl
    | some last =>
      obtain ⟨init, rfl⟩ := List.getLast?_eq_some_iff.mp hlast
      have hlen : (init ++ [last]).length = init.length + 1 := length_append
      have hread : (front ++ (init ++ [last] ++ room))[front.length + (init ++ [last]).length - 1]? = some last := by
        rw [hlen, List.getElem?_append_right (by omega), List.getElem?_append_left (by omega)]
        rw [show front.length + (init.length + 1) - 1 - front.length = init.length by omega]
        exact List.getElem?_concat_length
      by_cases hfits : last = 0 ∨ init.length + 1 < last.toNat
      · have hwhy : ∃ why, (if last = 0 then Except.error (.discarded .zeroPadding)
            else if init.length + 1 < last.toNat then .error (.discarded .paddingTooLong)
            else pure last.toNat : Except Failure Nat) = .error (.discarded why) := by
          split_ifs with h0 hlong
          · exact ⟨_, rfl⟩
          · exact ⟨_, rfl⟩
          · exact absurd hfits (not_or.mpr ⟨h0, hlong⟩)
        obtain ⟨why, hwhy⟩ := hwhy
        refine .inr ⟨why, ?_⟩
        rw [parsePadding, hbit, if_pos rfl, hread, hlen, if_neg (by omega)]
        exact hwhy
      · obtain ⟨h0, hlong⟩ := not_or.mp hfits
        have hpos : 0 < last.toNat := Nat.pos_of_ne_zero fun h => h0 (UInt8.toNat_inj.mp h)
        have hdrop : ((init ++ [last]).drop (init.length + 1 - last.toNat)).length = last.toNat := by
          rw [length_drop, hlen]
          omega
        refine .inl ⟨_, _, (take_append_drop (init.length + 1 - last.toNat) (init ++ [last])).symm, ?_⟩
        rw [if_pos rfl, hdrop, List.getLast?_drop, if_neg (by omega), hlast]
        rfl

theorem parseRest_cases (head rest room : List UInt8) (first : UInt8) :
    (∃ (e : Option Extension) (payload padding : List UInt8), hasExtension first = e.isSome ∧
      (if hasPadding first then padding.getLast?.map UInt8.toNat = some padding.length else padding = []) ∧
      rest = e.elim [] Extension.bytes ++ (payload ++ padding)) ∨
    ∃ why, parseRest (head ++ (rest ++ room)) (head.length + rest.length) head.length first = .error (.discarded why) := by
  rcases parseHeaderExtension_cases head rest room first with ⟨e, body, hbit, rfl⟩ | ⟨why, hwhy⟩
  · have hlen : head.length + (e.elim [] Extension.bytes ++ body).length =
        (head ++ e.elim [] Extension.bytes).length + body.length := by
      simp only [length_append]
      omega
    rcases parsePadding_cases (head ++ e.elim [] Extension.bytes) body room first with
      ⟨payload, padding, rfl, hcount⟩ | ⟨why, hwhy⟩
    · exact .inl ⟨e, payload, padding, hbit, hcount, rfl⟩
    refine .inr ⟨why, ?_⟩
    rw [parseRest, append_assoc, parseHeaderExtension_append hbit (by simp only [length_append]; omega)]
    simp only [bind, Except.bind, extensionSize_eq]
    rw [hlen, length_append, Nat.add_sub_cancel_left, if_neg (by omega)]
    rw [append_assoc, length_append] at hwhy
    rw [hwhy]
  · refine .inr ⟨why, ?_⟩
    rw [parseRest, hwhy]
    rfl

theorem exists_head {data : List UInt8} {n : Nat} (h : 11 + n ≤ data.length) :
    ∃ fixed csrcs rest : List UInt8, fixed.length = 11 ∧ csrcs.length = n ∧ data = fixed ++ (csrcs ++ rest) := by
  refine ⟨data.take 11, (data.drop 11).take n, (data.drop 11).drop n, ?_, ?_, ?_⟩
  · rw [length_take]
    omega
  · rw [length_take, length_drop]
    omega
  · rw [take_append_drop, take_append_drop]

theorem parse_cases (data room : List UInt8) :
    (∃ l : Layout, l.bytes = data) ∨ ∃ why, parse (data ++ room) data.length = .error (.discarded why) := by
  by_cases hshort : data.length < 12
  · refine .inr ⟨.notRtp, ?_⟩
    rw [parse, isRtp, if_pos (show data.length < headerSize from hshort)]
    rfl
  match data, hshort with
  | first :: data, hshort =>
    have hrtp : isRtp (first :: data ++ room) (first :: data).length = .ok (decide (127 < first ∧ first < 192)) :=
      isRtp_eq (Nat.le_of_not_lt hshort) rfl
    by_cases hfirst : 127 < first ∧ first < 192
    · by_cases hcsrcs : (first :: data).length < headerSize + csrcCount first * 4
      · refine .inr ⟨.csrcList, ?_⟩
        have hcount : csrcCount first ≠ 0 := by
          intro h
          rw [h] at hcsrcs
          exact hshort hcsrcs
        rw [parse, hrtp, decide_eq_true hfirst]
        exact if_pos ⟨hcount, hcsrcs⟩
      have hlen : 11 + csrcCount first * 4 ≤ data.length := by
        rw [length_cons, headerSize] at hcsrcs
        omega
      obtain ⟨fixed, csrcs, rest, hfixed, hlist, rfl⟩ := exists_head hlen
      rcases parseRest_cases (first :: (fixed ++ csrcs)) rest room first with
        ⟨e, payload, padding, hbit, hcount, rfl⟩ | ⟨why, hwhy⟩
      · refine .inl ⟨⟨first, fixed, csrcs, e, payload, padding, hfirst, hfixed, hlist, hbit, hcount⟩, ?_⟩
        simp only [Layout.bytes, Layout.head, Layout.extensionBytes, cons_append, append_assoc]
      refine .inr ⟨why, ?_⟩
      have hhead : headerSize + csrcCount first * 4 = (first :: (fixed ++ csrcs)).length := by
        rw [length_cons, length_append, hfixed, hlist, headerSize]
        omega
      rw [parse, hrtp, decide_eq_true hfirst]
      refine (if_neg (fun h => hcsrcs h.2)).trans ?_
      rw [hhead, ← hwhy]
      simp only [cons_append, append_assoc, length_cons, length_append]
      congr 1
      omega
    · refine .inr ⟨.notRtp, ?_⟩
      rw [parse, hrtp, decide_eq_false hfirst]
      rfl

theorem parse_eq_ok_iff {data room : List UInt8} {p : RtpPacket} :
    parse (data ++ room) data.length = .ok p ↔ ∃ l : Layout, l.bytes = data ∧ p = l.packet room := by
  constructor
  · intro h
    rcases parse_cases data room with ⟨l, rfl⟩ | ⟨why, hwhy⟩
    · rw [parse_bytes] at h
      exact ⟨l, rfl, (Except.ok.inj h).symm⟩
    · simp [hwhy] at h
  · rintro ⟨l, rfl, rfl⟩
    exact parse_bytes l room

/-! ## What a parsed packet points at -/

section

variable (p : RtpPacket)

theorem parseExtensions_keeps {p : RtpPacket} {α : Type} (f : RtpPacket → α)
    (hf : ∀ one two, f { p with oneByteExtensions := one, mapTwoBytesExtensions := two } = f p) :
    f p.parseExtensions = f p := by
  unfold parseExtensions
  split_ifs
  · exact hf _ _
  · exact hf _ _
  · rfl

def Within (o n : Nat) : Prop := p.extensionStart ≤ o ∧ o + n ≤ p.extensionStart + p.getHeaderExtensionLength

theorem byte_of_value {before after : List UInt8} (h : p.getHeaderExtensionValue = before ++ after) {i : Nat}
    (hi : i < after.length) : p.byte (p.extensionStart + before.length + i) = after.getD i 0 := by
  have hvalue : p.getHeaderExtensionValue[before.length + i]? = p.memory[p.extensionStart + (before.length + i)]? := by
    have hlen : before.length + i < p.getHeaderExtensionLength := by
      have hle : p.getHeaderExtensionValue.length ≤ p.getHeaderExtensionLength := length_take_le _ _
      rw [h, length_append] at hle
      omega
    rw [getHeaderExtensionValue, Memory.getElem?_slice hlen]
  rw [h, List.getElem?_append_right (by omega), Nat.add_sub_cancel_left] at hvalue
  rw [byte, Nat.add_assoc, getD_eq_getElem?_getD, ← hvalue, getD_eq_getElem?_getD]

variable {n : Nat}

theorem within_of_next {g : Elements UInt8 UInt8} {before after : List UInt8} {k : Option UInt8}
    (h : p.getHeaderExtensionValue = before ++ after) (hnext : g.next after = some (k, n)) :
    p.Within (p.extensionStart + before.length) n := by
  have hle := g.next_le hnext
  have hlen : p.getHeaderExtensionValue.length ≤ p.getHeaderExtensionLength := length_take_le _ _
  rw [h, length_append] at hlen
  exact ⟨Nat.le_add_right _ _, by omega⟩

variable {id : UInt8}

theorem length_of_oneByte_next {after : List UInt8}
    (h : oneByte.next after = some (some id, n)) : 0 < after.length ∧ n = 1 + ((after.getD 0 0 % 16).toNat + 1) := by
  cases after with
  | nil => cases h
  | cons b rest =>
    dsimp only [oneByte] at h
    split_ifs at h
    · cases h
      exact ⟨Nat.succ_pos _, rfl⟩
    · cases h

theorem length_of_twoBytes_next {after : List UInt8}
    (h : twoBytes.next after = some (some id, n)) : 1 < after.length ∧ n = 2 + (after.getD 1 0).toNat := by
  match after, h with
  | id' :: len :: rest, h =>
    dsimp only [twoBytes] at h
    split_ifs at h
    · cases h
      exact ⟨by simp only [length_cons]; omega, rfl⟩
    · cases h

variable {p} (hone : p.oneByteExtensions = ∅) (htwo : p.mapTwoBytesExtensions = ∅)
include hone

/-- **An One-Byte element that is stored lies within the header extension**, with its value. -/
theorem within_oneByteExtensions {o : Nat} (h : p.parseExtensions.oneByteExtensions.lookup id = some o) :
    p.parseExtensions.Within o (1 + ((p.parseExtensions.byte o % 16).toNat + 1)) := by
  rw [parseExtensions_keeps (fun p => p.Within o (1 + ((p.byte o % 16).toNat + 1))) fun _ _ => rfl]
  unfold parseExtensions at h
  split_ifs at h
  · rcases Table.of_lookup_insertAll h with hmem | hempty
    · obtain ⟨before, after, n, hvalue, rfl, hnext⟩ := Elements.of_mem_scan hmem
      obtain ⟨hpos, rfl⟩ := length_of_oneByte_next hnext
      have hbyte := p.byte_of_value hvalue hpos
      rw [Nat.add_zero] at hbyte
      rw [hbyte]
      exact p.within_of_next hvalue hnext
    · cases hempty
  · simp [hone] at h
  · simp [hone] at h

omit hone
include htwo

/-- **A Two-Bytes element that is stored lies within the header extension**, with its value. -/
theorem within_mapTwoBytesExtensions {o : Nat}
    (h : p.parseExtensions.mapTwoBytesExtensions.lookup id = some o) :
    p.parseExtensions.Within o (2 + (p.parseExtensions.byte (o + 1)).toNat) := by
  rw [parseExtensions_keeps (fun p => p.Within o (2 + (p.byte (o + 1)).toNat)) fun _ _ => rfl]
  unfold parseExtensions at h
  split_ifs at h
  · simp [htwo] at h
  · rcases Table.of_lookup_insertAll h with hmem | hempty
    · obtain ⟨before, after, n, hvalue, rfl, hnext⟩ := Elements.of_mem_scan hmem
      obtain ⟨hlen, rfl⟩ := length_of_twoBytes_next hnext
      rw [p.byte_of_value hvalue hlen]
      exact p.within_of_next hvalue hnext
    · cases hempty
  · simp [htwo] at h

end

end RtpPacket

namespace Layout

variable (l : Layout) (room : List UInt8)

open RtpPacket

@[simp] theorem packet_memory : (l.packet room).memory = l.bytes ++ room := parseExtensions_keeps RtpPacket.memory fun _ _ => rfl

@[simp] theorem packet_headerExtension : (l.packet room).headerExtension = l.extension.map fun _ => l.head.length :=
  parseExtensions_keeps headerExtension fun _ _ => rfl

@[simp] theorem packet_payload : (l.packet room).payload = l.head.length + l.extensionBytes.length :=
  parseExtensions_keeps RtpPacket.payload fun _ _ => rfl

@[simp] theorem packet_payloadLength : (l.packet room).payloadLength = l.payload.length :=
  parseExtensions_keeps payloadLength fun _ _ => rfl

@[simp] theorem packet_payloadPadding : (l.packet room).payloadPadding = l.padding.length :=
  parseExtensions_keeps payloadPadding fun _ _ => rfl

@[simp] theorem packet_size : (l.packet room).size = l.bytes.length := parseExtensions_keeps size fun _ _ => rfl

theorem packet_first : (l.packet room).byte 0 = l.first := by
  rw [byte, packet_memory]
  rfl

theorem packet_getHeaderExtensionLength :
    (l.packet room).getHeaderExtensionLength = l.extension.elim 0 fun e => e.value.length := by
  rw [getHeaderExtensionLength]
  simp only [byte, packet_memory, packet_headerExtension, bytes, extensionBytes]
  cases l.extension with
  | none => rfl
  | some e =>
    simp only [Option.map_some, append_assoc, Option.elim_some]
    rw [Memory.getD_append_add, Memory.getD_append_add]
    show get2Bytes (.ofNat (e.value.length / 4 / 256)) (.ofNat (e.value.length / 4)) * 4 = _
    rw [get2Bytes_set2Bytes, e.length_words]

theorem packet_sizes : headerSize + csrcCount ((l.packet room).byte 0) * 4 +
        extensionSize ((l.packet room).headerExtension, (l.packet room).getHeaderExtensionLength) +
        (l.packet room).payloadLength + (l.packet room).payloadPadding = l.bytes.length := by
  rw [packet_first, packet_getHeaderExtensionLength, packet_headerExtension, packet_payloadLength, packet_payloadPadding,
    extensionSize_eq, length_bytes, length_head, extensionBytes, headerSize]
  omega

end Layout

namespace RtpPacket

/-- **The grammar of `Parse`.** A datagram gives a packet exactly when it is laid out as an RTP packet, and is discarded
otherwise. Its parts add up to the datagram, and the elements found by the walk lie within the header extension. -/
theorem parse_grammar (data room : List UInt8) :
    ((∃ p, parse (data ++ room) data.length = .ok p) ↔ ∃ l : Layout, l.bytes = data) ∧
    (∀ failure, parse (data ++ room) data.length = .error failure → ∃ why, failure = .discarded why) ∧
    ∀ p, parse (data ++ room) data.length = .ok p →
      headerSize + csrcCount (p.byte 0) * 4 + extensionSize (p.headerExtension, p.getHeaderExtensionLength) +
        p.payloadLength + p.payloadPadding = data.length ∧
      (∀ id o, p.oneByteExtensions.lookup id = some o → p.Within o (1 + ((p.byte o % 16).toNat + 1))) ∧
      ∀ id o, p.mapTwoBytesExtensions.lookup id = some o → p.Within o (2 + (p.byte (o + 1)).toNat) := by
  refine ⟨⟨?_, ?_⟩, ?_, ?_⟩
  · rintro ⟨p, h⟩
    obtain ⟨l, hl, -⟩ := parse_eq_ok_iff.mp h
    exact ⟨l, hl⟩
  · rintro ⟨l, rfl⟩
    exact ⟨_, parse_bytes l room⟩
  · intro failure h
    rcases parse_cases data room with ⟨l, rfl⟩ | ⟨why, hwhy⟩
    · simp [parse_bytes] at h
    · rw [hwhy] at h
      exact ⟨why, (Except.error.inj h).symm⟩
  · intro p h
    obtain ⟨l, rfl, rfl⟩ := parse_eq_ok_iff.mp h
    refine ⟨l.packet_sizes room, fun id o ho => ?_, fun id o ho => ?_⟩
    · exact within_oneByteExtensions rfl ho
    · exact within_mapTwoBytesExtensions rfl ho

end RtpPacket

end Mediasoup.Rtp
