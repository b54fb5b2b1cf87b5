import Mediasoup.Lib.Codec
import Mediasoup.Utils.Byte

/-!
# The chain of RTCP packets

`RTCP::Packet`: the common header and `Packet::Parse`, the loop that cuts a compound packet along the length fields and
hands every piece to the parser of its type. The parsers are a parameter (`Switch`). The length field has 16 bits and counts
words: `header` truncates it, and the loop cuts after `fieldLen`.
-/

namespace Mediasoup.Rtcp

open Utils Lib List

inductive PacketType
  | sr
  | rr
  | sdes
  | bye
  | app
  | rtpfb
  | psfb
  | xr
  deriving DecidableEq

def PacketType.value : PacketType → UInt8
  | sr => 200
  | rr => 201
  | sdes => 202
  | bye => 203
  | app => 204
  | rtpfb => 205
  | psfb => 206
  | xr => 207

/-! ## Fields of four bytes -/

def set4 (value : UInt32) : List UInt8 := set4Bytes value.toNat

/-- The field at the beginning, and what is behind it. -/
def take4 : List UInt8 → Option (UInt32 × List UInt8)
  | b0 :: b1 :: b2 :: b3 :: rest => some (.ofNat (get4Bytes b0 b1 b2 b3), rest)
  | _ => none

@[simp] theorem take4_set4_append (v : UInt32) (rest : List UInt8) : take4 (set4 v ++ rest) = some (v, rest) := by
  simp only [set4, set4Bytes, cons_append, nil_append, take4, get4Bytes_set4Bytes,
    Nat.mod_eq_of_lt v.toNat_lt, UInt32.ofNat_toNat]

theorem eq_of_take4 {data rest : List UInt8} {v : UInt32} (h : take4 data = some (v, rest)) : data = set4 v ++ rest := by
  unfold take4 at h
  split at h
  · cases h
    rw [set4, UInt32.toNat_ofNat', Nat.mod_eq_of_lt (get4Bytes_lt _ _ _ _), set4Bytes_get4Bytes]
    rfl
  · cases h

namespace Packet

/-- `Packet::Serialize`: the common header with version 2 and no padding bit, for a packet of `size` bytes. The count has
five bits. -/
def header (count : Nat) (type : PacketType) (size : Nat) : List UInt8 :=
  [.ofNat (0x80 + count % 32), type.value] ++ set2Bytes (size / 4 - 1)

/-- What a `Serialize` that splits its packet has written: the bytes before the current header, its fields, and what is behind it. -/
structure PacketCursor where
  before : List UInt8
  count : Nat
  length : Nat
  body : List UInt8

def PacketCursor.buffer (type : PacketType) : Option PacketCursor → List UInt8
  | none => []
  | some c => c.before ++ (header c.count type c.length ++ c.body)

def isRtcp : List UInt8 → Bool
  | b0 :: packetType :: _ :: _ :: _ =>
    decide (127 < b0 ∧ b0 < 192 ∧ b0.toNat / 64 = 2 ∧ 192 ≤ packetType ∧ packetType ≤ 223)
  | _ => false

def packetLen : List UInt8 → Nat
  | _ :: _ :: l0 :: l1 :: _ => (get2Bytes l0 l1 + 1) * 4
  | _ => 0

def packetType : List UInt8 → UInt8
  | _ :: type :: _ => type
  | _ => 0

/-- The parsers by packet type, on the bytes of one packet. The one of Sender Reports may give two packets. -/
def Switch (π : Type) : Type := UInt8 → List UInt8 → Option (List π)

/-- One round of the loop: the packets at the cursor, and how far the cursor moves. -/
def parseNext {π : Type} (switch : Switch π) (data : List UInt8) : Option (List π × Nat) :=
  if !isRtcp data then none
  else if data.length < packetLen data then none
  else (switch (packetType data) (data.take (packetLen data))).map fun packets => (packets, packetLen data)

/-- `Packet::Parse`: the chain of the packets before the first that is refused. -/
def parse {π : Type} (switch : Switch π) (data : List UInt8) : List π :=
  (readMany (parseNext switch) Prod.snd data.length data).flatMap Prod.fst

/-- The parser of one type, and any for the others. -/
def Switch.on {κ π : Type} (type : PacketType) (parseOwn : List UInt8 → Option κ) (others : Switch π) : Switch (κ ⊕ π) :=
  fun t data =>
    if t = type.value then (parseOwn data).map fun p => [.inl p]
    else (others t data).map (List.map .inr)

/-! ## The length field -/

def fieldLen (size : Nat) : Nat := ((size / 4 - 1) % 2 ^ 16 + 1) * 4

theorem fieldLen_of_le {size : Nat} (hunit : 4 ∣ size) (hpos : 0 < size) (hle : size ≤ 2 ^ 18) : fieldLen size = size := by
  unfold fieldLen
  omega

theorem fieldLen_lt {size : Nat} (hlt : 2 ^ 18 < size) : fieldLen size < size := by
  unfold fieldLen
  omega

theorem fieldLen_le {size : Nat} (hunit : 4 ∣ size) (hpos : 0 < size) : fieldLen size ≤ size := by
  unfold fieldLen
  omega

/-! ## Packets of one type -/

/-- A packet as it stands in the buffer: the header with the size of the packet, and a body of whole words. -/
def IsPacket (type : PacketType) (bytes : List UInt8) : Prop :=
  ∃ (count : Nat) (body : List UInt8), bytes = header count type (4 + body.length) ++ body ∧ 4 ∣ body.length

theorem IsPacket.size {type : PacketType} {bytes : List UInt8} (h : IsPacket type bytes) :
    4 ∣ bytes.length ∧ 0 < bytes.length := by
  obtain ⟨count, body, rfl, hunit⟩ := h
  rw [length_append, show (header count type (4 + body.length)).length = 4 from rfl]
  omega

theorem isRtcp_header (count : Nat) (type : PacketType) (size : Nat) (rest : List UInt8) :
    isRtcp (header count type size ++ rest) = true := by
  have hfirst : (UInt8.ofNat (0x80 + count % 32)).toNat = 0x80 + count % 32 := by
    rw [UInt8.toNat_ofNat']
    omega
  simp only [header, set2Bytes, cons_append, nil_append, isRtcp, decide_eq_true_eq, UInt8.lt_iff_toNat_lt, hfirst]
  refine ⟨?_, ?_, by omega, ?_, ?_⟩
  · simp only [UInt8.reduceToNat]
    omega
  · simp only [UInt8.reduceToNat]
    omega
  · cases type <;> decide
  · cases type <;> decide

theorem packetLen_header (count : Nat) (type : PacketType) (size : Nat) (rest : List UInt8) :
    packetLen (header count type size ++ rest) = fieldLen size := by
  simp only [header, set2Bytes, cons_append, nil_append, packetLen, get2Bytes_set2Bytes, fieldLen]
  omega

theorem parseNext_append {π : Type} (switch : Switch π) {type : PacketType} {bytes : List UInt8} (h : IsPacket type bytes)
    (rest : List UInt8) :
    parseNext switch (bytes ++ rest) =
      (switch type.value (bytes.take (fieldLen bytes.length))).map fun ps => (ps, fieldLen bytes.length) := by
  have hle := fieldLen_le h.size.1 h.size.2
  obtain ⟨count, body, rfl, hunit⟩ := h
  have hlen : (header count type (4 + body.length) ++ body).length = 4 + body.length := by
    rw [length_append]
    rfl
  rw [hlen] at hle ⊢
  have htype : packetType (header count type (4 + body.length) ++ (body ++ rest)) = type.value := rfl
  have hroom : ¬(header count type (4 + body.length) ++ (body ++ rest)).length < fieldLen (4 + body.length) := by
    rw [← append_assoc, length_append, hlen]
    omega
  rw [append_assoc, parseNext, isRtcp_header, packetLen_header, htype, if_neg (by simp), if_neg hroom,
    ← append_assoc, take_append_of_le_length (by rw [hlen]; exact hle)]

theorem parseNext_packet {κ π : Type} {type : PacketType} (parseOwn : List UInt8 → Option κ) (others : Switch π)
    {bytes : List UInt8} (h : IsPacket type bytes) (rest : List UInt8) :
    parseNext (Switch.on type parseOwn others) (bytes ++ rest) =
      (parseOwn (bytes.take (fieldLen bytes.length))).map fun p => ([.inl p], fieldLen bytes.length) := by
  rw [parseNext_append _ h, Switch.on, if_pos rfl, Option.map_map]
  rfl

/-! ## A chain of packets -/

section

variable {π : Type} {switch : Switch π} {type : PacketType} {bytes : List UInt8} {ps : List π}

def consumed (switch : Switch π) (data : List UInt8) : Nat :=
  ((readMany (parseNext switch) Prod.snd data.length data).map Prod.snd).sum

theorem parseNext_pos (data : List UInt8) (r : List π × Nat) (h : parseNext switch data = some r) : 0 < r.2 := by
  unfold parseNext at h
  split at h
  · cases h
  rename_i hrtcp
  split at h
  · cases h
  obtain ⟨ps, -, rfl⟩ := Option.map_eq_some_iff.mp h
  unfold packetLen
  split
  · exact Nat.mul_pos (Nat.succ_pos _) (by decide)
  -- less than four bytes are not an RTCP packet
  rename_i hshort
  unfold isRtcp at hrtcp
  split at hrtcp
  · exact absurd rfl (hshort _ _ _ _ _)
  · exact absurd rfl hrtcp

theorem rounds_append (h : IsPacket type bytes) (hfits : bytes.length ≤ 2 ^ 18) (hown : switch type.value bytes = some ps)
    (rest : List UInt8) :
    readMany (parseNext switch) Prod.snd (bytes ++ rest).length (bytes ++ rest) =
      (ps, bytes.length) :: readMany (parseNext switch) Prod.snd rest.length rest := by
  have hnext : parseNext switch (bytes ++ rest) = some (ps, bytes.length) := by
    rw [parseNext_append switch h, fieldLen_of_le h.size.1 h.size.2 hfits, take_length, hown]
    rfl
  obtain ⟨n, hn⟩ : ∃ n, (bytes ++ rest).length = n + 1 :=
    ⟨bytes.length + rest.length - 1, by rw [length_append]; have := h.size.2; omega⟩
  rw [hn, readMany_of_some hnext, drop_left]
  rw [readMany_eq_of_le parseNext_pos rfl (m := rest.length) (by rw [length_append] at hn; have := h.size.2; omega)
    (Nat.le_refl _)]

theorem parse_append (h : IsPacket type bytes) (hfits : bytes.length ≤ 2 ^ 18) (hown : switch type.value bytes = some ps)
    (rest : List UInt8) : parse switch (bytes ++ rest) = ps ++ parse switch rest := by
  rw [parse, rounds_append h hfits hown, flatMap_cons]
  rfl

theorem consumed_append (h : IsPacket type bytes) (hfits : bytes.length ≤ 2 ^ 18) (hown : switch type.value bytes = some ps)
    (rest : List UInt8) : consumed switch (bytes ++ rest) = bytes.length + consumed switch rest := by
  rw [consumed, rounds_append h hfits hown, map_cons, sum_cons]
  rfl

theorem parse_flatMap_append {κ : Type} (switch : Switch π) (type : PacketType) (encode : κ → List UInt8)
    (chain : κ → List π) (ks : List κ)
    (h : ∀ k ∈ ks, IsPacket type (encode k) ∧ (encode k).length ≤ 2 ^ 18 ∧ switch type.value (encode k) = some (chain k))
    (rest : List UInt8) :
    parse switch (ks.flatMap encode ++ rest) = ks.flatMap chain ++ parse switch rest ∧
      consumed switch (ks.flatMap encode ++ rest) = (ks.flatMap encode).length + consumed switch rest := by
  induction ks with
  | nil => exact ⟨rfl, (Nat.zero_add _).symm⟩
  | cons k ks ih =>
    obtain ⟨hpacket, hfits, hown⟩ := h k mem_cons_self
    obtain ⟨hparse, hconsumed⟩ := ih fun k hk => h k (mem_cons_of_mem _ hk)
    rw [flatMap_cons, append_assoc, parse_append hpacket hfits hown, consumed_append hpacket hfits hown, hparse,
      hconsumed, flatMap_cons, append_assoc, length_append]
    exact ⟨rfl, by omega⟩

end

/-! ## Packets that fit, and those that do not -/

variable {κ π : Type} {type : PacketType} {parseOwn : List UInt8 → Option κ} {others : Switch π} {bytes : κ → List UInt8}

variable (others) in
/-- **A chain of packets of one type** comes back packet by packet exactly when each fits the length field and is read
back by the parser of the type. The parser must not be content with less than the packet. -/
theorem parse_flatMap_iff (hpacket : ∀ p, IsPacket type (bytes p))
    (hshort : ∀ p n, 4 ∣ n → 0 < n → n < (bytes p).length → parseOwn ((bytes p).take n) ≠ some p) (ps : List κ) :
    parse (Switch.on type parseOwn others) (ps.flatMap bytes) = ps.map .inl ↔
      ∀ p ∈ ps, (bytes p).length ≤ 2 ^ 18 ∧ parseOwn (bytes p) = some p := by
  -- any number of rounds that reaches the last packet will do
  suffices hrounds : ∀ n, ps.length ≤ n →
      ((readMany (parseNext (Switch.on type parseOwn others)) Prod.snd n (ps.flatMap bytes)).flatMap Prod.fst =
        ps.map .inl ↔ ∀ p ∈ ps, (bytes p).length ≤ 2 ^ 18 ∧ parseOwn (bytes p) = some p) by
    exact hrounds _ (length_le_length_flatMap bytes (fun p => (hpacket p).size.2) ps)
  induction ps with
  | nil =>
    intro n _
    rw [flatMap_nil, readMany_of_none rfl]
    simp
  | cons p ps ih =>
    intro n hn
    obtain ⟨n, rfl⟩ : ∃ m, n = m + 1 := ⟨n - 1, by rw [length_cons] at hn; omega⟩
    obtain ⟨hunit, hpos⟩ := (hpacket p).size
    have hnext := parseNext_packet parseOwn others (hpacket p) (ps.flatMap bytes)
    rw [flatMap_cons, forall_mem_cons]
    by_cases hfits : (bytes p).length ≤ 2 ^ 18
    · rw [fieldLen_of_le hunit hpos hfits, take_length] at hnext
      cases hown : parseOwn (bytes p) with
      | none =>
        rw [hown] at hnext
        rw [readMany_of_none hnext]
        simp
      | some q =>
        rw [hown] at hnext
        rw [readMany_of_some hnext, drop_left, flatMap_cons, map_cons]
        simp only [cons_append, nil_append, List.cons.injEq, Sum.inl.injEq, Option.some.injEq, hfits, true_and]
        rw [ih n (by rw [length_cons] at hn; omega)]
    · -- the packet is cut short, and what its parser makes of the piece is not the packet
      have hcut := hshort p (fieldLen (bytes p).length) (Nat.dvd_mul_left 4 _) (Nat.mul_pos (Nat.succ_pos _) (Nat.succ_pos 3))
        (fieldLen_lt (by omega))
      cases hown : parseOwn ((bytes p).take (fieldLen (bytes p).length)) with
      | none =>
        rw [hown] at hnext
        rw [readMany_of_none hnext]
        exact iff_of_false (cons_ne_nil _ _).symm fun h => hfits h.1.1
      | some q =>
        rw [hown] at hnext hcut
        rw [readMany_of_some hnext, flatMap_cons, map_cons]
        simp only [cons_append, nil_append, List.cons.injEq, Sum.inl.injEq, hfits, false_and, iff_false]
        exact fun h => hcut (congrArg some h.1)

end Packet

end Mediasoup.Rtcp
