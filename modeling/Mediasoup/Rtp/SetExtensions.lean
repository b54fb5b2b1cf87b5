import Mediasoup.Rtp.Layout

/-!
# Writing the header extension

`RtpPacket::SetExtensions` replaces the elements of the header extension in place: it computes their size, moves the payload to
where the new header extension ends, and writes them in front of it. `Shape` follows the parts of the buffer through these steps:
the id of the header extension, the move of the payload, and the elements written over what was there.
-/

namespace Mediasoup.Rtp

open Lib Utils List Memory

/-- An extension to be written. Its length is a byte. -/
structure GenericExtension where
  id : UInt8
  value : List UInt8
  short : value.length < 256

namespace RtpPacket

/-- Elements that cannot be written in the given form are skipped. -/
def accepts (type : UInt8) (e : GenericExtension) : Bool :=
  if type = 1 then !(e.id = 0 || 14 < e.id || e.value.length = 0 || 16 < e.value.length) else e.id ≠ 0

/-- `(id << 4) | ((len - 1) & 0x0F)` in front of the value, or the id and the length. -/
def encode (type : UInt8) (e : GenericExtension) : List UInt8 :=
  if type = 1 then (e.id * 16 + .ofNat ((e.value.length - 1) % 16)) :: e.value
  else e.id :: .ofNat e.value.length :: e.value

def extensionsSize (type : UInt8) (extensions : List GenericExtension) : Nat :=
  ((extensions.filter (accepts type)).map fun e => (if type = 1 then 1 else 2) + e.value.length).sum

def paddedSize (type : UInt8) (extensions : List GenericExtension) : Nat :=
  padTo4Bytes (extensionsSize type extensions % 65536)

def headerExtensionId (type : UInt8) : Nat := if type = 1 then 0xBEDE else 0x1000

/-- A header extension of another type gets the id of the given one. -/
def updateHeaderExtensionId (p : RtpPacket) (type : UInt8) : Except Failure RtpPacket :=
  if (type = 1 ∧ p.hasOneByteExtensions) ∨ (type = 2 ∧ p.hasTwoBytesExtensions) then pure p
  else
    match p.headerExtension with
    | none => pure p
    | some o => do
      let memory ← inBuffer (write p.memory o (set2Bytes (headerExtensionId type)))
      pure { p with memory }

/-- How far the payload has to move, as an `int16_t`. -/
def shift (p : RtpPacket) (total : Nat) : Int :=
  match p.headerExtension with
  | some _ => toInt16 (ofInt16 (total - p.getHeaderExtensionLength))
  | none => toInt16 (ofInt16 (4 + toInt16 (ofInt16 total)))

def movePayload (p : RtpPacket) (shift : Int) : Except Failure RtpPacket := do
  let memory ← inBuffer (move p.memory (p.payload + shift) p.payload (p.payloadLength + p.payloadPadding))
  pure { p with memory, payload := (p.payload + shift).toNat, size := (p.size + shift).toNat }

def setExtensionBit (first : UInt8) : UInt8 := if hasExtension first then first else first + 16

/-- Moves the payload to where the new header extension ends, and sets the length of the header extension. -/
def makeRoom (p : RtpPacket) (type : UInt8) (total : Nat) : Except Failure RtpPacket :=
  match p.headerExtension with
  | some o =>
    if p.shift total ≠ 0 then do
      let moved ← p.movePayload (p.shift total)
      let memory ← inBuffer (write moved.memory (o + 2) (set2Bytes (total / 4)))
      pure { moved with memory }
    else pure p
  | none => do
    let memory ← inBuffer (write p.memory 0 [setExtensionBit (p.byte 0)])
    let moved ← { p with memory, headerExtension := some p.payload }.movePayload (p.shift total)
    let memory ← inBuffer (write moved.memory p.payload (set2Bytes (headerExtensionId type)))
    let memory ← inBuffer (write memory (p.payload + 2) (set2Bytes (total / 4)))
    pure { moved with memory }

def storeExtension (p : RtpPacket) (type id : UInt8) (ptr : Nat) : RtpPacket :=
  if type = 1 then { p with oneByteExtensions := p.oneByteExtensions.insert id ptr }
  else { p with mapTwoBytesExtensions := p.mapTwoBytesExtensions.insert id ptr }

/-- The elements written from `ptr` on, and where they end. -/
def writeExtensions (p : RtpPacket) (type : UInt8) (ptr : Nat) : List GenericExtension → Except Failure (RtpPacket × Nat)
  | [] => pure (p, ptr)
  | e :: extensions =>
    if accepts type e then do
      let memory ← inBuffer (write p.memory ptr (encode type e))
      writeExtensions { p.storeExtension type e.id ptr with memory } type (ptr + (encode type e).length) extensions
    else writeExtensions p type ptr extensions

/-- The padding behind the elements, a difference of two `size_t`. -/
def paddingSize (type : UInt8) (extensions : List GenericExtension) : Nat :=
  (UInt64.ofNat (paddedSize type extensions) - UInt64.ofNat (extensionsSize type extensions)).toNat

/-- The elements and the padding behind them, which have to end at the payload. -/
def writeValue (p : RtpPacket) (type : UInt8) (extensions : List GenericExtension) : Except Failure RtpPacket := do
  let (p, ptr) ← p.writeExtensions type p.extensionStart extensions
  let memory ← inBuffer (write p.memory ptr (List.replicate (paddingSize type extensions) 0))
  if ptr + paddingSize type extensions ≠ p.payload then .error (.assertion "wrong ptr calculation")
  else pure { p with memory }

def clearExtensions (p : RtpPacket) : RtpPacket := { p with oneByteExtensions := ∅, mapTwoBytesExtensions := ∅ }

def setExtensions (p : RtpPacket) (type : UInt8) (extensions : List GenericExtension) : Except Failure RtpPacket :=
  if type ≠ 1 ∧ type ≠ 2 then .error (.assertion "type must be 1 or 2")
  else do
    let p ← p.clearExtensions.updateHeaderExtensionId type
    let p ← p.makeRoom type (paddedSize type extensions)
    p.writeValue type extensions

/-! ## The parts of the buffer while the packet is rewritten -/

/-- A packet with a header extension in its buffer: the id, the length field, the value, the payload with its padding, and
the room behind them. -/
structure Shape (p : RtpPacket) (head : List UInt8) (id0 id1 : UInt8) (words : Nat) (value body tail : List UInt8) : Prop where
  memory : p.memory = head ++ (id0 :: id1 :: (set2Bytes words ++ (value ++ (body ++ tail))))
  headerExtension : p.headerExtension = some head.length
  payload : p.payload = head.length + 4 + value.length
  length_body : p.payloadLength + p.payloadPadding = body.length
  size : p.size = head.length + 4 + value.length + body.length

def OfType (type : UInt8) (id : Nat) : Prop := if type = 1 then id = 0xBEDE else id / 16 = 0x100

theorem ofType_headerExtensionId (type : UInt8) : OfType type (headerExtensionId type) := by
  unfold OfType headerExtensionId
  split_ifs <;> rfl

section

variable {p : RtpPacket} {head value body tail : List UInt8} {id0 id1 : UInt8} {words : Nat}

theorem Shape.getHeaderExtensionId (h : p.Shape head id0 id1 words value body tail) :
    p.getHeaderExtensionId = get2Bytes id0 id1 := by
  simp only [RtpPacket.getHeaderExtensionId, h.headerExtension, byte, h.memory]
  have hid0 := getD_append_add (a := head) (i := 0) (d := (0 : UInt8))
    (c := id0 :: id1 :: (set2Bytes words ++ (value ++ (body ++ tail))))
  rw [Nat.add_zero] at hid0
  rw [hid0, getD_append_add]
  rfl

theorem Shape.getHeaderExtensionLength (h : p.Shape head id0 id1 words value body tail) :
    p.getHeaderExtensionLength = words % 65536 * 4 := by
  simp only [RtpPacket.getHeaderExtensionLength, h.headerExtension, byte, h.memory]
  rw [getD_append_add, getD_append_add, ← get2Bytes_set2Bytes]
  rfl

theorem Shape.updateHeaderExtensionId (h : p.Shape head id0 id1 words value body tail) {type : UInt8}
    (htype : type = 1 ∨ type = 2) :
    ∃ p' id0' id1', p.updateHeaderExtensionId type = .ok p' ∧ p'.Shape head id0' id1' words value body tail ∧
      OfType type (get2Bytes id0' id1') := by
  unfold RtpPacket.updateHeaderExtensionId
  split_ifs with hkeep
  · refine ⟨p, id0, id1, rfl, h, ?_⟩
    simp only [hasOneByteExtensions, hasTwoBytesExtensions, h.getHeaderExtensionId, decide_eq_true_eq] at hkeep
    rcases hkeep with ⟨rfl, hid⟩ | ⟨rfl, hid⟩
    · exact hid
    · exact hid
  have hwrite : write (head ++ (id0 :: id1 :: (set2Bytes words ++ (value ++ (body ++ tail))))) head.length
      (set2Bytes (headerExtensionId type)) =
      some (head ++ (set2Bytes (headerExtensionId type) ++ (set2Bytes words ++ (value ++ (body ++ tail))))) :=
    write_append (b := [id0, id1]) rfl
  simp only [h.headerExtension, h.memory, hwrite]
  refine ⟨_, _, _, rfl, ⟨rfl, rfl, h.payload, h.length_body, h.size⟩, ?_⟩
  rw [get2Bytes_set2Bytes, Nat.mod_eq_of_lt (by unfold headerExtensionId; split_ifs <;> omega)]
  exact ofType_headerExtensionId type

theorem write_words (a : List UInt8) (id0 id1 l0 l1 : UInt8) (c : List UInt8) (n : Nat) :
    write (a ++ (id0 :: id1 :: l0 :: l1 :: c)) (a.length + 2) (set2Bytes n) =
      some (a ++ (id0 :: id1 :: (set2Bytes n ++ c))) := by
  have h : write ((a ++ [id0, id1]) ++ ([l0, l1] ++ c)) (a ++ [id0, id1]).length (set2Bytes n) =
      some ((a ++ [id0, id1]) ++ (set2Bytes n ++ c)) := write_append rfl
  rw [length_append] at h
  simpa only [append_assoc, cons_append, nil_append, length_cons, length_nil] using h

theorem movePayload_append (p : RtpPacket) {front : List UInt8} {shift : Int} {d : Nat}
    (hmemory : p.memory = front ++ (body ++ tail)) (hpayload : p.payload = front.length)
    (hbody : p.payloadLength + p.payloadPadding = body.length) (hd : front.length + shift = d)
    (hfits : d + body.length ≤ p.memory.length) :
    p.movePayload shift = .ok { p with
        memory := p.memory.take d ++ (body ++ p.memory.drop (d + body.length))
        payload := d
        size := (p.size + shift).toNat } := by
  rw [movePayload, hpayload, hd, hbody, hmemory]
  rw [hmemory] at hfits
  rw [move_append hfits]
  rfl

theorem Shape.makeRoom (h : p.Shape head id0 id1 (value.length / 4) value body tail) (hvalue : 4 ∣ value.length)
    (hwords : value.length / 4 < 65536) {total : Nat} (type : UInt8) 
    (hlow : -32768 ≤ (total : Int) - value.length) (hhigh : (total : Int) - value.length ≤ 32767)
    (hroom : head.length + 4 + total + body.length ≤ p.memory.length) :
    ∃ p' value' tail', p.makeRoom type total = .ok p' ∧
      p'.Shape head id0 id1 (total / 4) value' body tail' ∧ value'.length = total := by
  have hlen : p.getHeaderExtensionLength = value.length := by
    rw [h.getHeaderExtensionLength, Nat.mod_eq_of_lt hwords, Nat.div_mul_cancel hvalue]
  have hshift : p.shift total = (total : Int) - value.length := by
    simp only [shift, h.headerExtension, hlen]
    exact toInt16_ofInt16 hlow hhigh
  simp only [RtpPacket.makeRoom, h.headerExtension, hshift]
  split_ifs with hmoves
  · have hmemory : p.memory = (head ++ (id0 :: id1 :: (set2Bytes (value.length / 4) ++ value))) ++ (body ++ tail) := by
      rw [h.memory]
      simp only [append_assoc, cons_append]
    have hfront : (head ++ (id0 :: id1 :: (set2Bytes (value.length / 4) ++ value))).length = head.length + 4 + value.length := by
      simp only [length_append, length_cons, set2Bytes, length_nil]
      omega
    rw [p.movePayload_append (d := head.length + 4 + total) hmemory (h.payload.trans hfront.symm) h.length_body
      (by rw [hfront]; omega) hroom]
    have htake : p.memory.take (head.length + 4 + total) =
        head ++ (id0 :: id1 :: (set2Bytes (value.length / 4) ++ (value ++ (body ++ tail)).take total)) := by
      rw [h.memory, Nat.add_assoc, take_length_add_append]
      simp only [set2Bytes, cons_append, nil_append, Nat.add_comm 4 total, take_succ_cons]
    have hwrite := write_words head id0 id1 (.ofNat (value.length / 4 / 256)) (.ofNat (value.length / 4))
      ((value ++ (body ++ tail)).take total ++ (body ++ p.memory.drop (head.length + 4 + total + body.length))) (total / 4)
    have hmoved : p.memory.take (head.length + 4 + total) ++ (body ++ p.memory.drop (head.length + 4 + total + body.length)) =
        head ++ (id0 :: id1 :: .ofNat (value.length / 4 / 256) :: .ofNat (value.length / 4) ::
          ((value ++ (body ++ tail)).take total ++ (body ++ p.memory.drop (head.length + 4 + total + body.length)))) := by
      rw [htake]
      simp only [set2Bytes, append_assoc, cons_append, nil_append]
    have hlength : ((value ++ (body ++ tail)).take total).length = total := by
      rw [h.memory] at hroom
      simp only [length_append, length_cons, set2Bytes, length_nil] at hroom
      rw [length_take, length_append, length_append]
      omega
    simp only [bind, Except.bind, hmoved, hwrite, inBuffer]
    refine ⟨_, _, _, rfl, ⟨rfl, h.headerExtension, ?_, h.length_body, ?_⟩, hlength⟩
    · rw [hlength]
    · show ((p.size : Int) + ((total : Int) - value.length)).toNat = _
      rw [h.size]
      omega
  · have heq : value.length = total := by omega
    subst heq
    exact ⟨p, value, tail, rfl, h, rfl⟩

theorem movePayload_gap (p : RtpPacket) {front : List UInt8} (total : Nat) (hmemory : p.memory = front ++ (body ++ tail))
    (hpayload : p.payload = front.length) (hbody : p.payloadLength + p.payloadPadding = body.length)
    (hroom : front.length + (4 + total) + body.length ≤ p.memory.length) :
    ∃ moved z0 z1 z2 z3 value' tail', p.movePayload (4 + total) = .ok moved ∧ value'.length = total ∧
      moved.memory = front ++ (z0 :: z1 :: z2 :: z3 :: (value' ++ (body ++ tail'))) ∧
      moved.headerExtension = p.headerExtension ∧ moved.payload = front.length + (4 + total) ∧
      moved.payloadLength + moved.payloadPadding = body.length ∧ moved.size = p.size + (4 + total) := by
  have hgap : ((body ++ tail).take (4 + total)).length = 4 + total := by
    rw [hmemory, length_append] at hroom
    rw [length_take]
    omega
  obtain ⟨z0, z1, z2, z3, value', hz⟩ : ∃ z0 z1 z2 z3 value', (body ++ tail).take (4 + total) = z0 :: z1 :: z2 :: z3 :: value' :=
    exists_four_bytes (by omega)
  have htake : p.memory.take (front.length + (4 + total)) = front ++ (z0 :: z1 :: z2 :: z3 :: value') := by
    rw [hmemory, take_length_add_append, hz]
  rw [hz] at hgap
  simp only [length_cons] at hgap
  refine ⟨_, z0, z1, z2, z3, value', p.memory.drop (front.length + (4 + total) + body.length),
    p.movePayload_append hmemory hpayload hbody rfl hroom, by omega, ?_, rfl, rfl, hbody, rfl⟩
  rw [htake, append_assoc]
  rfl

theorem makeRoom_of_none (p : RtpPacket) {first : UInt8} {rest : List UInt8} (hmemory : p.memory = first :: (rest ++ (body ++ tail)))
    (hext : p.headerExtension = none) (hpayload : p.payload = rest.length + 1)
    (hbody : p.payloadLength + p.payloadPadding = body.length) (hsize : p.size = rest.length + 1 + body.length)
    (type : UInt8) (total : Nat) (hhigh : 4 + total ≤ 32767)
    (hroom : rest.length + 1 + 4 + total + body.length ≤ p.memory.length) :
    ∃ p' id0' id1' value' tail', p.makeRoom type total = .ok p' ∧
      p'.Shape (setExtensionBit first :: rest) id0' id1' (total / 4) value' body tail' ∧ value'.length = total ∧
      OfType type (get2Bytes id0' id1') := by
  have hshift : p.shift total = 4 + total := by
    simp only [shift, hext]
    rw [toInt16_ofInt16 (v := total) (by omega) (by omega), toInt16_ofInt16 (by omega) (by omega)]
  have hfirst : write p.memory 0 [setExtensionBit (p.byte 0)] =
      some (setExtensionBit first :: rest ++ (body ++ tail)) := by
    rw [byte, hmemory]
    exact write_append (a := []) (b := [first]) rfl
  obtain ⟨moved, z0, z1, z2, z3, value', tail', hmove, hvalue, hmoved, hext', hpayload', hbody', hsize'⟩ := movePayload_gap
    { p with memory := setExtensionBit first :: rest ++ (body ++ tail), headerExtension := some p.payload }
    total rfl hpayload hbody (by rw [hmemory] at hroom; simp only [length_append, length_cons] at hroom ⊢; omega)
  have hid : write (setExtensionBit first :: rest ++ (z0 :: z1 :: z2 :: z3 :: (value' ++ (body ++ tail'))))
      (setExtensionBit first :: rest).length (set2Bytes (headerExtensionId type)) = _ :=
    write_append (b := [z0, z1]) rfl
  have hwords := write_words (setExtensionBit first :: rest) (.ofNat (headerExtensionId type / 256))
    (.ofNat (headerExtensionId type)) z2 z3 (value' ++ (body ++ tail')) (total / 4)
  have hp : p.payload = (setExtensionBit first :: rest).length := hpayload
  refine ⟨{ moved with memory := _ }, .ofNat (headerExtensionId type / 256), .ofNat (headerExtensionId type), value', tail', ?_,
    ⟨rfl, hext'.trans (congrArg some hpayload), ?_, hbody', ?_⟩, hvalue, ?_⟩
  · simp only [makeRoom, hext, hfirst, inBuffer, bind, Except.bind, hshift, hmove, hmoved]
    rw [hp, hid]
    simp only [set2Bytes, cons_append, nil_append] at hwords ⊢
    rw [hwords]
    rfl
  · rw [hvalue]
    exact hpayload'.trans (Nat.add_assoc _ _ _).symm
  · refine hsize'.trans ?_
    rw [hsize, length_cons]
    omega
  · rw [get2Bytes_set2Bytes, Nat.mod_eq_of_lt (by unfold headerExtensionId; split_ifs <;> omega)]
    exact ofType_headerExtensionId type

end

/-! ## The elements are written -/

section

variable {type : UInt8} {extensions : List GenericExtension} {p p' : RtpPacket}

theorem length_encode (e : GenericExtension) : (encode type e).length = (if type = 1 then 1 else 2) + e.value.length := by
  unfold encode
  split_ifs <;> simp only [length_cons] <;> omega

/-- What is not written by the elements. -/
def parts (p : RtpPacket) : Option Nat × Nat × Nat × Nat × Nat :=
  (p.headerExtension, p.payload, p.payloadLength, p.payloadPadding, p.size)

theorem parts_storeExtension (id : UInt8) (ptr : Nat) : (p.storeExtension type id ptr).parts = p.parts := by
  unfold storeExtension
  split_ifs <;> rfl

theorem writeExtensions_ok {ptr ptr' : Nat} (h : p.writeExtensions type ptr extensions = .ok (p', ptr')) :
    ptr' = ptr + extensionsSize type extensions ∧ p'.parts = p.parts := by
  induction extensions generalizing p ptr with
  | nil =>
    cases h
    exact ⟨rfl, rfl⟩
  | cons e extensions ih =>
    rw [writeExtensions] at h
    split_ifs at h with haccepts
    · obtain ⟨memory, -, h⟩ := exists_of_bind_eq_ok h
      obtain ⟨hptr, hparts⟩ := ih h
      refine ⟨?_, hparts.trans (parts_storeExtension e.id ptr)⟩
      rw [hptr, length_encode, extensionsSize, extensionsSize, filter_cons_of_pos haccepts, map_cons, sum_cons]
      omega
    · rw [extensionsSize, filter_cons_of_neg haccepts]
      exact ih h

variable (haccepts : ∀ e ∈ extensions, accepts type e = true)
include haccepts

theorem extensionsSize_eq : extensionsSize type extensions = (extensions.flatMap (encode type)).length := by
  rw [extensionsSize, filter_eq_self.mpr haccepts, length_flatMap]
  simp only [length_encode]

theorem writeExtensions_append {a y c : List UInt8} (hmemory : p.memory = a ++ (y ++ c))
    (hfits : (extensions.flatMap (encode type)).length ≤ y.length) :
    ∃ p' ptr, p.writeExtensions type a.length extensions = .ok (p', ptr) ∧ p'.memory = a ++ (extensions.flatMap (encode type) ++
        (y.drop (extensions.flatMap (encode type)).length ++ c)) := by
  induction extensions generalizing p a y with
  | nil => exact ⟨p, a.length, rfl, hmemory⟩
  | cons e extensions ih =>
    rw [flatMap_cons, length_append] at hfits
    have hwrite : write p.memory a.length (encode type e) =
        some (a ++ encode type e ++ (y.drop (encode type e).length ++ c)) := by
      rw [hmemory, ← take_append_drop (encode type e).length y, append_assoc,
        write_append (by rw [length_take]; omega), take_append_drop, append_assoc]
    obtain ⟨p', ptr, hrest, hmemory'⟩ := @ih
      { p.storeExtension type e.id a.length with memory := a ++ encode type e ++ (y.drop (encode type e).length ++ c) }
      (fun e he => haccepts e (mem_cons_of_mem _ he)) (a ++ encode type e) (y.drop (encode type e).length) rfl
      (by rw [length_drop]; omega)
    refine ⟨p', ptr, ?_, ?_⟩
    · rw [writeExtensions, if_pos (haccepts e mem_cons_self), hwrite]
      rw [length_append] at hrest
      exact hrest
    · rw [hmemory', drop_drop, flatMap_cons, length_append]
      simp only [append_assoc]

end

section

variable {type : UInt8} {extensions : List GenericExtension}

theorem paddedSize_spec (hsize : extensionsSize type extensions < 2 ^ 15) :
    4 ∣ paddedSize type extensions ∧ paddedSize type extensions ≤ 2 ^ 15 ∧
      paddedSize type extensions = extensionsSize type extensions + paddingSize type extensions := by
  unfold paddingSize paddedSize padTo4Bytes
  rw [UInt64.toNat_sub, UInt64.toNat_ofNat', UInt64.toNat_ofNat']
  split_ifs <;> omega

def valueBytes (type : UInt8) (extensions : List GenericExtension) : List UInt8 :=
  extensions.flatMap (encode type) ++ List.replicate (paddingSize type extensions) 0

variable (haccepts : ∀ e ∈ extensions, accepts type e = true) (hsize : extensionsSize type extensions < 2 ^ 15)
include haccepts hsize

theorem length_valueBytes : (valueBytes type extensions).length = paddedSize type extensions := by
  rw [valueBytes, length_append, length_replicate, ← extensionsSize_eq haccepts]
  exact (paddedSize_spec hsize).2.2.symm

theorem Shape.writeValue {p : RtpPacket} {head value body tail : List UInt8} {id0 id1 : UInt8} {words : Nat}
    (h : p.Shape head id0 id1 words value body tail) (hvalue : value.length = paddedSize type extensions) :
    ∃ p', p.writeValue type extensions = .ok p' ∧ p'.Shape head id0 id1 words (valueBytes type extensions) body tail := by
  obtain ⟨-, -, hpadded⟩ := paddedSize_spec hsize
  have hlen := extensionsSize_eq haccepts
  have hmemory : p.memory = (head ++ (id0 :: id1 :: set2Bytes words)) ++ (value ++ (body ++ tail)) := by
    rw [h.memory, append_assoc]
    rfl
  have hstart : p.extensionStart = (head ++ (id0 :: id1 :: set2Bytes words)).length := by
    rw [extensionStart, h.headerExtension, length_append]
    rfl
  obtain ⟨written, ptr, hwrite, hwritten⟩ := writeExtensions_append haccepts hmemory (by omega)
  obtain ⟨hptr, hparts⟩ := writeExtensions_ok hwrite
  simp only [parts, Prod.mk.injEq] at hparts
  obtain ⟨hext, hpayload, hpayloadLength, hpadding, hsize'⟩ := hparts
  have hpad : write written.memory ptr (List.replicate (paddingSize type extensions) 0) =
      some ((head ++ (id0 :: id1 :: set2Bytes words)) ++ extensions.flatMap (encode type) ++
        (List.replicate (paddingSize type extensions) 0 ++ (body ++ tail))) := by
    rw [hwritten, hptr, hlen, ← length_append, ← append_assoc]
    refine write_append ?_
    rw [length_drop, length_replicate]
    omega
  have hend : ptr + paddingSize type extensions = written.payload := by
    rw [hpayload, h.payload, hptr, length_append, length_cons, length_cons, show (set2Bytes words).length = 2 from rfl]
    omega
  have hok : p.writeValue type extensions = .ok { written with
        memory := (head ++ (id0 :: id1 :: set2Bytes words)) ++ extensions.flatMap (encode type) ++
          (List.replicate (paddingSize type extensions) 0 ++ (body ++ tail)) } := by
    simp only [RtpPacket.writeValue, hstart, hwrite, bind, Except.bind, hpad, inBuffer]
    rw [if_neg (not_not.mpr hend)]
    rfl
  refine ⟨_, hok, ⟨?_, hext.trans h.headerExtension, ?_, ?_, ?_⟩⟩
  · simp only [valueBytes, append_assoc, cons_append]
  · rw [length_valueBytes haccepts hsize, ← hvalue]
    exact hpayload.trans h.payload
  · rw [hpayloadLength, hpadding]
    exact h.length_body
  · rw [length_valueBytes haccepts hsize, ← hvalue]
    exact hsize'.trans h.size

end

end RtpPacket

end Mediasoup.Rtp
