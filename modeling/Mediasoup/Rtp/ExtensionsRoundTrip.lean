import Mediasoup.Rtp.SetExtensions

/-!
# Extensions written and read back

The distance by which `SetExtensions` moves the payload is an `int16_t`. Where it holds the change of the size, the bytes are
parsed back into a packet with exactly the given extensions and with everything else as it was; otherwise the payload is
moved elsewhere and the assertion at the end fires, or the move leaves the buffer (`setExtensions_iff`).
-/

namespace Mediasoup.Rtp

open Lib Utils List Memory Elements

/-! ## The layout after the rewriting -/

namespace RtpPacket

theorem setExtensionBit_spec (first : UInt8) :
    hasExtension (setExtensionBit first) = true ∧ version (setExtensionBit first) = version first ∧
      hasPadding (setExtensionBit first) = hasPadding first ∧ csrcCount (setExtensionBit first) = csrcCount first := by
  unfold setExtensionBit
  split_ifs with hbit
  · exact ⟨hbit, rfl, rfl, rfl⟩
  have hlt := first.toNat_lt
  simp only [hasExtension, decide_eq_true_eq] at hbit
  have hadd : (first + 16).toNat = first.toNat + 16 := by
    rw [UInt8.toNat_add, show (16 : UInt8).toNat = 16 from rfl]
    omega
  simp only [hasExtension, version, hasPadding, csrcCount, hadd, decide_eq_true_eq, decide_eq_decide]
  omega

theorem rtp_of_version {first : UInt8} (h : version first = 2) : 127 < first ∧ first < 192 := by
  unfold version at h
  simp only [UInt8.lt_iff_toNat_lt, UInt8.reduceToNat]
  omega

end RtpPacket

namespace Layout

open RtpPacket

def withExtension (l : Layout) (e : Extension) : Layout :=
  { l with
    first := setExtensionBit l.first
    extension := some e
    rtp := rtp_of_version ((setExtensionBit_spec l.first).2.1.trans (version_of_rtp l.rtp))
    csrcs_length := by rw [(setExtensionBit_spec l.first).2.2.2]; exact l.csrcs_length
    extension_bit := (setExtensionBit_spec l.first).1
    padding_count := by rw [(setExtensionBit_spec l.first).2.2.1]; exact l.padding_count }

section

variable (l : Layout) (room : List UInt8)

theorem shape_packet {e : Extension} (he : l.extension = some e) : (l.packet room).clearExtensions.Shape l.head e.id0 e.id1
      (e.value.length / 4) e.value (l.payload ++ l.padding) room := by
  have hbytes : l.extensionBytes = e.bytes := by
    rw [extensionBytes, he]
    rfl
  refine ⟨(packet_memory l room).trans ?_, (packet_headerExtension l room).trans ?_, (packet_payload l room).trans ?_, ?_,
    (packet_size l room).trans ?_⟩
  · rw [bytes, hbytes, Extension.bytes]
    simp only [append_assoc, cons_append]
  · rw [he]
    rfl
  · rw [hbytes, length_extension, Nat.add_assoc]
  · show (l.packet room).payloadLength + (l.packet room).payloadPadding = _
    rw [packet_payloadLength, packet_payloadPadding, length_append]
  · rw [length_bytes, hbytes, length_extension, length_append]
    omega

theorem bytes_of_shape {p : RtpPacket} {e : Extension} {tail : List UInt8}
    (h : p.Shape (setExtensionBit l.first :: (l.fixed ++ l.csrcs)) e.id0 e.id1 (e.value.length / 4) e.value
      (l.payload ++ l.padding) tail) :
    p.memory = (l.withExtension e).bytes ++ tail ∧ p.size = (l.withExtension e).bytes.length := by
  have hbytes : (l.withExtension e).bytes =
      setExtensionBit l.first :: (l.fixed ++ l.csrcs) ++ (e.bytes ++ (l.payload ++ l.padding)) := rfl
  constructor
  · rw [h.memory, hbytes, Extension.bytes]
    simp only [append_assoc, cons_append]
  · simp only [h.size, hbytes, length_append, length_extension]
    omega

end

end Layout

namespace RtpPacket

def sizeChange (p : RtpPacket) (total : Nat) : Int :=
  match p.headerExtension with
  | some _ => (total : Int) - p.getHeaderExtensionLength
  | none => 4 + total

theorem sizeChange_packet (l : Layout) (room : List UInt8) (total : Nat) :
    (l.packet room).sizeChange total = l.extension.elim (4 + (total : Int)) fun e => total - e.value.length := by
  simp only [sizeChange, l.packet_headerExtension, l.packet_getHeaderExtensionLength]
  cases l.extension with
  | none => rfl
  | some e => rfl

/-- The change of the size is an `int16_t`. -/
def Fits (p : RtpPacket) (type : UInt8) (extensions : List GenericExtension) : Prop :=
  -32768 ≤ p.sizeChange (paddedSize type extensions) ∧ p.sizeChange (paddedSize type extensions) ≤ 32767

def sizeNeeded (p : RtpPacket) (type : UInt8) (extensions : List GenericExtension) : Nat :=
  headerSize + csrcCount (p.byte 0) * 4 + (4 + paddedSize type extensions) + p.payloadLength + p.payloadPadding

section

variable {l : Layout} {room : List UInt8} {type : UInt8} {extensions : List GenericExtension}

theorem exists_extension_of_size (haccepts : ∀ e ∈ extensions, accepts type e = true)
    (hsize : extensionsSize type extensions < 2 ^ 15) (id0 id1 : UInt8) :
    ∃ e : Extension, e.id0 = id0 ∧ e.id1 = id1 ∧ e.value = valueBytes type extensions := by
  have hlen := length_valueBytes haccepts hsize
  obtain ⟨hwhole, hle, -⟩ := paddedSize_spec hsize
  exact ⟨⟨id0, id1, valueBytes type extensions, hlen ▸ hwhole, by rw [hlen]; omega⟩, rfl, rfl, rfl⟩

variable {p : RtpPacket}

theorem updateHeaderExtensionId_of_none (h : p.headerExtension = none) : p.updateHeaderExtensionId type = .ok p := by
  simp only [updateHeaderExtensionId, h]
  split_ifs <;> rfl

theorem setExtensions_eq (htype : type = 1 ∨ type = 2) : p.setExtensions type extensions = (do
      let p ← p.clearExtensions.updateHeaderExtensionId type
      let p ← p.makeRoom type (paddedSize type extensions)
      p.writeValue type extensions) := by
  refine if_neg ?_
  rintro ⟨h1, h2⟩
  exact htype.elim h1 h2

variable (haccepts : ∀ e ∈ extensions, accepts type e = true) (hsize : extensionsSize type extensions < 2 ^ 15)
include haccepts hsize

theorem writeValue_layout {id0 id1 : UInt8} {value tail : List UInt8}
    (h : p.Shape (setExtensionBit l.first :: (l.fixed ++ l.csrcs)) id0 id1 (paddedSize type extensions / 4) value
      (l.payload ++ l.padding) tail)
    (hvalue : value.length = paddedSize type extensions) (hid : OfType type (get2Bytes id0 id1)) :
    ∃ p' e, p.writeValue type extensions = .ok p' ∧ OfType type (get2Bytes e.id0 e.id1) ∧ e.value = valueBytes type extensions ∧
      p'.memory = (l.withExtension e).bytes ++ tail ∧ p'.size = (l.withExtension e).bytes.length := by
  obtain ⟨p', hok, hshape⟩ := h.writeValue haccepts hsize hvalue
  obtain ⟨e, rfl, rfl, he⟩ := exists_extension_of_size haccepts hsize id0 id1
  rw [← length_valueBytes haccepts hsize, ← he] at hshape
  obtain ⟨hmemory, hsize'⟩ := l.bytes_of_shape hshape
  exact ⟨p', e, hok, hid, he, hmemory, hsize'⟩

theorem setExtensions_of_fits (htype : type = 1 ∨ type = 2)
    (hroom : (l.packet room).sizeNeeded type extensions ≤ (l.bytes ++ room).length)
    (hfits : (l.packet room).Fits type extensions) :
    ∃ p' e tail, (l.packet room).setExtensions type extensions = .ok p' ∧ OfType type (get2Bytes e.id0 e.id1) ∧
      e.value = valueBytes type extensions ∧
      p'.memory = (l.withExtension e).bytes ++ tail ∧ p'.size = (l.withExtension e).bytes.length := by
  have hneeded : l.head.length + 4 + paddedSize type extensions + (l.payload.length + l.padding.length) ≤
      (l.bytes ++ room).length := by
    rw [sizeNeeded, l.packet_first, l.packet_payloadLength, l.packet_payloadPadding, headerSize] at hroom
    rw [l.length_head]
    omega
  rw [setExtensions_eq htype]
  cases he : l.extension with
  | some e₀ =>
    rw [Fits, sizeChange_packet, he] at hfits
    have hhead : l.head = setExtensionBit l.first :: (l.fixed ++ l.csrcs) := by
      rw [Layout.head, setExtensionBit, if_pos (by rw [l.extension_bit, he]; rfl)]
    have hshape := l.shape_packet room he
    obtain ⟨p₁, id0, id1, hid, hshape₁, hof⟩ := hshape.updateHeaderExtensionId htype
    have hmemory : p₁.memory.length = (l.bytes ++ room).length := by
      rw [hshape₁.memory, ← l.packet_memory room, show (l.packet room).memory = _ from hshape.memory]
      simp only [length_append, length_cons]
    obtain ⟨p₂, value, tail, hmake, hshape₂, hvalue⟩ := hshape₁.makeRoom e₀.whole e₀.fits type hfits.1 hfits.2
      (by rw [hmemory, length_append]; exact hneeded)
    rw [hhead] at hshape₂
    obtain ⟨p', e, hok, hresult⟩ := writeValue_layout haccepts hsize hshape₂ hvalue hof
    refine ⟨p', e, tail, ?_, hresult⟩
    simp only [hid, hmake, bind, Except.bind, hok]
  | none =>
    have hext : (l.packet room).headerExtension = none := by
      rw [l.packet_headerExtension, he]
      rfl
    have hempty : l.extensionBytes = [] := by
      rw [Layout.extensionBytes, he]
      rfl
    rw [Fits, sizeChange_packet, he, Option.elim_none] at hfits
    have hhead : l.head.length = (l.fixed ++ l.csrcs).length + 1 := rfl
    have hmemory : (l.packet room).memory = l.first :: ((l.fixed ++ l.csrcs) ++ ((l.payload ++ l.padding) ++ room)) := by
      rw [l.packet_memory, Layout.bytes, hempty]
      simp only [Layout.head, nil_append, append_assoc, cons_append]
    have hpayload : (l.packet room).payload = (l.fixed ++ l.csrcs).length + 1 := by
      rw [l.packet_payload, hempty]
      rfl
    have hbody : (l.packet room).payloadLength + (l.packet room).payloadPadding = (l.payload ++ l.padding).length := by
      rw [l.packet_payloadLength, l.packet_payloadPadding, length_append]
    have hpacket : (l.packet room).size = (l.fixed ++ l.csrcs).length + 1 + (l.payload ++ l.padding).length := by
      rw [l.packet_size, l.length_bytes, hempty, hhead, ← length_append]
      rfl
    have hlength : (l.packet room).clearExtensions.memory.length = (l.bytes ++ room).length :=
      congrArg List.length (l.packet_memory room)
    obtain ⟨p₂, id0, id1, value, tail, hmake, hshape, hvalue, hof⟩ := makeRoom_of_none
      (l.packet room).clearExtensions hmemory hext hpayload hbody hpacket type
      (paddedSize type extensions) (by omega)
      (by rw [← hhead, ← hbody, l.packet_payloadLength, l.packet_payloadPadding, hlength]; exact hneeded)
    obtain ⟨p', e, hok, hresult⟩ := writeValue_layout haccepts hsize hshape hvalue hof
    refine ⟨p', e, tail, ?_, hresult⟩
    have hid : (l.packet room).clearExtensions.updateHeaderExtensionId type = .ok (l.packet room).clearExtensions :=
      updateHeaderExtensionId_of_none hext
    simp only [hid, hmake, bind, Except.bind, hok]

end

/-! ## The assertion at the end -/

section

variable {p p' : RtpPacket} {type : UInt8} {total : Nat}

theorem movePayload_ok {shift : Int} (h : p.movePayload shift = .ok p') :
    (p'.payload : Int) = p.payload + shift ∧ p'.headerExtension = p.headerExtension := by
  obtain ⟨memory, hmove, h⟩ := exists_of_bind_eq_ok h
  cases h
  have hdst : 0 ≤ (p.payload : Int) + shift := by
    by_contra hneg
    rw [move, if_neg (fun h => hneg h.1)] at hmove
    cases hmove
  exact ⟨Int.toNat_of_nonneg hdst, rfl⟩

theorem makeRoom_ok (h : p.makeRoom type total = .ok p') :
    p'.extensionStart = p.headerExtension.getD p.payload + 4 ∧ (p'.payload : Int) = p.payload + p.shift total := by
  unfold makeRoom at h
  cases hext : p.headerExtension with
  | some o =>
    simp only [hext] at h
    split_ifs at h with hshift
    · obtain ⟨moved, hmove, h⟩ := exists_of_bind_eq_ok h
      obtain ⟨memory, -, h⟩ := exists_of_bind_eq_ok h
      cases h
      obtain ⟨hpayload, hext'⟩ := movePayload_ok hmove
      refine ⟨?_, hpayload⟩
      rw [hext', hext]
      rfl
    · cases h
      rw [not_not.mp hshift, extensionStart, hext]
      exact ⟨rfl, (Int.add_zero _).symm⟩
  | none =>
    simp only [hext] at h
    obtain ⟨memory, -, h⟩ := exists_of_bind_eq_ok h
    obtain ⟨moved, hmove, h⟩ := exists_of_bind_eq_ok h
    obtain ⟨memory', -, h⟩ := exists_of_bind_eq_ok h
    obtain ⟨memory'', -, h⟩ := exists_of_bind_eq_ok h
    cases h
    obtain ⟨hpayload, hext'⟩ := movePayload_ok hmove
    refine ⟨?_, hpayload⟩
    rw [hext']
    rfl

theorem writeValue_ok {extensions : List GenericExtension} (hsize : extensionsSize type extensions < 2 ^ 15)
    (h : p.writeValue type extensions = .ok p') : p.extensionStart + paddedSize type extensions = p.payload := by
  obtain ⟨⟨written, ptr⟩, hwrite, h⟩ := exists_of_bind_eq_ok h
  obtain ⟨memory, -, h⟩ := exists_of_bind_eq_ok h
  obtain ⟨hptr, hparts⟩ := writeExtensions_ok hwrite
  simp only [parts, Prod.mk.injEq] at hparts
  split_ifs at h with hend
  rw [(paddedSize_spec hsize).2.2, ← Nat.add_assoc, ← hptr, ← hparts.2.1]
  exact not_not.mp hend

end

variable {type : UInt8}

theorem fits_of_setExtensions {l : Layout} {room : List UInt8} {extensions : List GenericExtension}
    {p' : RtpPacket} (htype : type = 1 ∨ type = 2) (hsize : extensionsSize type extensions < 2 ^ 15)
    (h : (l.packet room).setExtensions type extensions = .ok p') : (l.packet room).Fits type extensions := by
  rw [setExtensions_eq htype] at h
  obtain ⟨p₁, hid, h⟩ := exists_of_bind_eq_ok h
  obtain ⟨p₂, hmake, hwrite⟩ := exists_of_bind_eq_ok h
  have hend := writeValue_ok hsize hwrite
  obtain ⟨hstart, hpayload⟩ := makeRoom_ok hmake
  cases he : l.extension with
  | some e =>
    obtain ⟨p₁', id0, id1, hid', hshape, -⟩ := (l.shape_packet room he).updateHeaderExtensionId htype
    cases hid.symm.trans hid'
    have hlen : p₁.getHeaderExtensionLength = e.value.length := by
      rw [hshape.getHeaderExtensionLength, e.length_words]
    have hshift : p₁.shift (paddedSize type extensions) = (paddedSize type extensions : Int) - e.value.length := by
      rw [hshape.headerExtension, Option.getD_some] at hstart
      rw [hshape.payload] at hpayload
      omega
    have hbounds := toInt16_bounds ((paddedSize type extensions : Int) - e.value.length)
    simp only [shift, hshape.headerExtension, hlen] at hshift
    rw [Fits, sizeChange_packet, he, Option.elim_some, ← hshift]
    exact hbounds
  | none =>
    have hext : (l.packet room).clearExtensions.headerExtension = none := by
      refine (l.packet_headerExtension room).trans ?_
      rw [he]
      rfl
    cases hid.symm.trans (updateHeaderExtensionId_of_none hext)
    have hshift : (l.packet room).clearExtensions.shift (paddedSize type extensions) = 4 + paddedSize type extensions := by
      rw [hext, Option.getD_none] at hstart
      omega
    rw [Fits, sizeChange_packet, he, Option.elim_none, ← hshift]
    simp only [shift, hext]
    exact toInt16_bounds _

/-! ## The extensions are read back -/

/-- What may be given for a type of header extension. -/
def Valid (type : UInt8) (e : GenericExtension) : Prop :=
  if type = 1 then (1 ≤ e.id ∧ e.id ≤ 14) ∧ 1 ≤ e.value.length ∧ e.value.length ≤ 16 else 1 ≤ e.id ∧ 1 ≤ e.value.length

variable {e : GenericExtension}

theorem Valid.id_ne_zero (h : Valid type e) : e.id ≠ 0 := by
  intro h0
  rw [Valid, h0] at h
  split_ifs at h
  · exact absurd h.1.1 (by decide)
  · exact absurd h.1 (by decide)

theorem toNat_length (e : GenericExtension) : (UInt8.ofNat e.value.length).toNat = e.value.length := by
  exact Nat.mod_eq_of_lt e.short

theorem accepts_of_valid (h : Valid type e) : accepts type e = true := by
  unfold Valid at h
  unfold accepts
  split_ifs at h ⊢ with htype
  · obtain ⟨⟨hlow, hhigh⟩, hpos, hle⟩ := h
    simp only [UInt8.le_iff_toNat_le, UInt8.reduceToNat] at hlow hhigh
    simp only [Bool.not_eq_true', Bool.or_eq_false_iff, decide_eq_false_iff_not, ← UInt8.toNat_inj, UInt8.lt_iff_toNat_lt,
      UInt8.reduceToNat]
    omega
  · simp only [UInt8.le_iff_toNat_le, UInt8.reduceToNat] at h
    simp only [decide_eq_true_eq, ne_eq, ← UInt8.toNat_inj, UInt8.reduceToNat]
    omega

theorem oneByte_head (h : Valid 1 e) : (e.id * 16 + .ofNat ((e.value.length - 1) % 16)) / 16 = e.id ∧
      ((e.id * 16 + .ofNat ((e.value.length - 1) % 16)) % 16).toNat + 1 = e.value.length := by
  obtain ⟨⟨hlow, hhigh⟩, hpos, hle⟩ := h
  simp only [UInt8.le_iff_toNat_le, UInt8.reduceToNat] at hlow hhigh
  rw [← UInt8.toNat_inj]
  simp only [UInt8.toNat_div, UInt8.toNat_mod, UInt8.toNat_add, UInt8.toNat_mul, UInt8.toNat_ofNat', UInt8.reduceToNat]
  omega

def elements (type : UInt8) : Elements UInt8 UInt8 := if type = 1 then oneByte else twoBytes

theorem next_encode (h : Valid type e) (t : List UInt8) :
    (elements type).next (encode type e ++ t) = some (some e.id, (encode type e).length) := by
  unfold elements encode
  split_ifs with htype
  · subst htype
    obtain ⟨hid, hlen⟩ := oneByte_head h
    have h15 : e.id ≠ 15 := by
      intro h15
      rw [Valid, if_pos rfl, h15] at h
      exact absurd h.1.2 (by decide)
    simp only [oneByte, cons_append, hid, hlen, if_neg h15, if_pos h.id_ne_zero, length_append, length_cons]
    rw [if_neg (by omega), Nat.add_comm]
  · simp only [twoBytes, cons_append, if_pos h.id_ne_zero, toNat_length, length_append, length_cons]
    rw [if_neg (by omega), Nat.add_comm]

theorem dropWhile_encode (h : Valid type e) (t : List UInt8) :
    (encode type e ++ t).dropWhile (elements type).pad = encode type e ++ t := by
  unfold elements encode
  split_ifs with htype
  · subst htype
    refine dropWhile_cons_of_neg fun hzero => h.id_ne_zero ?_
    rw [← (oneByte_head h).1, of_decide_eq_true hzero]
    rfl
  · exact dropWhile_cons_of_neg fun hzero => h.id_ne_zero (of_decide_eq_true hzero)

theorem scan_valueBytes {extensions : List GenericExtension} (hvalid : ∀ e ∈ extensions, Valid type e)
    (start : Nat) :
    (elements type).scan start (valueBytes type extensions) =
      offsets (encode type) GenericExtension.id start extensions := by
  refine scan_flatMap ?_ ?_ (fun e he => next_encode (hvalid e he)) (fun e he => dropWhile_encode (hvalid e he))
  · intro b hb
    rw [eq_of_mem_replicate hb]
    unfold elements
    split_ifs <;> rfl
  · rintro rfl
    have hzero : paddingSize type [] = 0 := by
      simp only [paddingSize, paddedSize, extensionsSize, filter_nil, map_nil, sum_nil]
      rfl
    rw [hzero]
    rfl

def stored (p : RtpPacket) (type : UInt8) : Table UInt8 Nat :=
  if type = 1 then p.oneByteExtensions else p.mapTwoBytesExtensions

section

variable {p : RtpPacket} {type : UInt8} (hof : OfType type p.getHeaderExtensionId)
include hof

theorem OfType.form : (type = 1 ∧ p.hasOneByteExtensions = true) ∨
    (type ≠ 1 ∧ p.hasOneByteExtensions = false ∧ p.hasTwoBytesExtensions = true) := by
  unfold OfType at hof
  split_ifs at hof with htype
  · exact .inl ⟨htype, decide_eq_true hof⟩
  refine .inr ⟨htype, decide_eq_false ?_, decide_eq_true hof⟩
  intro hone
  rw [hone] at hof
  exact absurd hof (by decide)

omit hof in
theorem stored_parseExtensions (hof : OfType type p.parseExtensions.getHeaderExtensionId) : p.parseExtensions.stored type =
    Table.insertAll ∅ ((elements type).scan p.parseExtensions.extensionStart p.parseExtensions.getHeaderExtensionValue) := by
  rw [parseExtensions_keeps getHeaderExtensionId fun _ _ => rfl] at hof
  rw [parseExtensions_keeps extensionStart fun _ _ => rfl, parseExtensions_keeps getHeaderExtensionValue fun _ _ => rfl]
  rcases hof.form with ⟨rfl, hone⟩ | ⟨htype, hone, htwo⟩
  · rw [stored, parseExtensions, if_pos rfl, if_pos hone]
    rfl
  · rw [stored, parseExtensions, if_neg htype, hone, if_neg Bool.false_ne_true, if_pos htwo, elements, if_neg htype]

theorem getExtension_of_lookup_eq_none {id : UInt8} (h : (p.stored type).lookup id = none) : p.getExtension id = none := by
  unfold getExtension
  by_cases h0 : id = 0
  · exact if_pos h0
  rw [if_neg h0]
  rcases hof.form with ⟨rfl, hone⟩ | ⟨htype, hone, htwo⟩
  · rw [stored, if_pos rfl] at h
    rw [if_pos hone, h]
    exact ite_self none
  · rw [stored, if_neg htype] at h
    rw [hone, if_neg Bool.false_ne_true, if_pos htwo, h]

theorem getExtension_of_lookup_eq_some {e : GenericExtension} (hvalid : Valid type e) {a c : List UInt8}
    (hmemory : p.memory = a ++ (encode type e ++ c)) (h : (p.stored type).lookup e.id = some a.length) :
    p.getExtension e.id = some e.value := by
  have hbyte : ∀ i, p.byte (a.length + i) = (encode type e ++ c).getD i 0 := by
    intro i
    rw [byte, hmemory, getD_append_add]
  have hzero := hbyte 0
  rw [Nat.add_zero] at hzero
  unfold getExtension
  rcases hof.form with ⟨rfl, hone⟩ | ⟨htype, hone, htwo⟩
  · obtain ⟨hid, hlen⟩ := oneByte_head hvalid
    rw [stored, if_pos rfl] at h
    rw [encode, if_pos rfl] at hzero hmemory
    rw [if_neg hvalid.id_ne_zero, if_pos hone, if_neg (UInt8.not_lt.mpr hvalid.1.2), h, Option.map_some, hzero, cons_append,
      getD_cons_zero, hlen, hmemory, slice_append_add]
    show some ((e.value ++ c).take e.value.length) = _
    rw [take_left]
  have h0 := hvalid.id_ne_zero
  rw [Valid, if_neg htype] at hvalid
  have hlen := toNat_length e
  have hlenByte : p.byte (a.length + 1) = UInt8.ofNat e.value.length := by
    rw [hbyte 1, encode, if_neg htype]
    rfl
  have hnonzero : UInt8.ofNat e.value.length ≠ 0 := by
    intro hzero
    rw [hzero] at hlen
    exact absurd hvalid.2 (by rw [← hlen]; decide)
  rw [stored, if_neg htype] at h
  rw [encode, if_neg htype] at hmemory
  rw [if_neg h0, hone, if_neg Bool.false_ne_true, if_pos htwo, h]
  simp only [hlenByte]
  rw [if_neg hnonzero, hlen, hmemory, slice_append_add]
  show some ((e.value ++ c).take e.value.length) = _
  rw [take_left]

end

end RtpPacket

namespace Layout

open RtpPacket

variable {l : Layout} (room : List UInt8) {e : Extension} (he : l.extension = some e)
include he

theorem packet_getHeaderExtensionId : (l.packet room).getHeaderExtensionId = get2Bytes e.id0 e.id1 :=
  (l.shape_packet room he).getHeaderExtensionId

theorem packet_extensionStart : (l.packet room).extensionStart = l.head.length + 4 := by
  rw [extensionStart, packet_headerExtension, he]
  rfl

theorem packet_getHeaderExtensionValue : (l.packet room).getHeaderExtensionValue = e.value := by
  have hmemory : (l.packet room).memory =
      (l.head ++ (e.id0 :: e.id1 :: set2Bytes (e.value.length / 4))) ++ (e.value ++ ((l.payload ++ l.padding) ++ room)) := by
    refine (l.shape_packet room he).memory.trans ?_
    simp only [append_assoc, cons_append]
  have hstart : l.head.length + 4 = (l.head ++ (e.id0 :: e.id1 :: set2Bytes (e.value.length / 4))).length := by
    rw [length_append]
    rfl
  rw [getHeaderExtensionValue, packet_extensionStart room he, packet_getHeaderExtensionLength, he, Option.elim_some, hmemory, hstart,
    slice_append_left]

theorem packet_stored {type : UInt8} (hof : OfType type (get2Bytes e.id0 e.id1)) :
    (l.packet room).stored type = Table.insertAll ∅ ((elements type).scan (l.head.length + 4) e.value) := by
  rw [← packet_getHeaderExtensionId room he] at hof
  rw [← packet_extensionStart room he, ← packet_getHeaderExtensionValue room he]
  exact stored_parseExtensions hof

end Layout

namespace RtpPacket

def fixedHeader (p : RtpPacket) : Nat × Bool × Nat × List UInt8 :=
  (version (p.byte 0), hasPadding (p.byte 0), csrcCount (p.byte 0), slice p.memory 1 11)

def csrcBytes (p : RtpPacket) : List UInt8 := slice p.memory headerSize (csrcCount (p.byte 0) * 4)

def payloadBytes (p : RtpPacket) : List UInt8 := slice p.memory p.payload p.payloadLength

def paddingBytes (p : RtpPacket) : List UInt8 := slice p.memory (p.payload + p.payloadLength) p.payloadPadding

/-- `q` has exactly the given extensions and everything else of `p`. -/
structure Rewritten (p q : RtpPacket) (extensions : List GenericExtension) : Prop where
  listed : ∀ e ∈ extensions, q.getExtension e.id = some e.value
  absent : ∀ id, id ∉ extensions.map GenericExtension.id → q.getExtension id = none
  fixedHeader : q.fixedHeader = p.fixedHeader
  csrcs : q.csrcBytes = p.csrcBytes
  payload : q.payloadBytes = p.payloadBytes
  padding : q.paddingBytes = p.paddingBytes

end RtpPacket

namespace Layout

open RtpPacket

section

variable (l : Layout) (room : List UInt8)

theorem packet_fixedHeader : (l.packet room).fixedHeader = (version l.first, hasPadding l.first, csrcCount l.first, l.fixed) := by
  have hfixed : slice (l.bytes ++ room) 1 11 = l.fixed := by
    have h : slice ([l.first] ++ (l.fixed ++ (l.csrcs ++ (l.extensionBytes ++ (l.payload ++ (l.padding ++ room)))))) 1
        l.fixed.length = l.fixed := slice_append_left
    rw [l.fixed_length] at h
    simpa only [bytes, head, cons_append, append_assoc, nil_append] using h
  rw [fixedHeader, packet_first, packet_memory, hfixed]

theorem packet_csrcBytes : (l.packet room).csrcBytes = l.csrcs := by
  have hlen : headerSize = (l.first :: l.fixed).length := by
    rw [length_cons, l.fixed_length]
    rfl
  have h : slice ((l.first :: l.fixed) ++ (l.csrcs ++ (l.extensionBytes ++ (l.payload ++ (l.padding ++ room)))))
      (l.first :: l.fixed).length l.csrcs.length = l.csrcs := slice_append_left
  rw [csrcBytes, packet_first, packet_memory, ← l.csrcs_length, hlen]
  simpa only [bytes, head, cons_append, append_assoc] using h

theorem packet_payloadBytes : (l.packet room).payloadBytes = l.payload := by
  have h : slice ((l.head ++ l.extensionBytes) ++ (l.payload ++ (l.padding ++ room)))
      (l.head ++ l.extensionBytes).length l.payload.length = l.payload := slice_append_left
  rw [payloadBytes, packet_memory, packet_payload, packet_payloadLength, ← length_append]
  simpa only [bytes, append_assoc] using h

theorem packet_paddingBytes : (l.packet room).paddingBytes = l.padding := by
  have h : slice ((l.head ++ l.extensionBytes ++ l.payload) ++ (l.padding ++ room))
      (l.head ++ l.extensionBytes ++ l.payload).length l.padding.length = l.padding := slice_append_left
  rw [paddingBytes, packet_memory, packet_payload, packet_payloadLength, packet_payloadPadding, ← length_append,
    ← length_append]
  simpa only [bytes, append_assoc] using h

end

theorem rewritten_packet {l : Layout} {room tail : List UInt8} {e : Extension} {type : UInt8}
    {extensions : List GenericExtension} (hvalid : ∀ x ∈ extensions, Valid type x)
    (hids : (extensions.map GenericExtension.id).Nodup) (hof : OfType type (get2Bytes e.id0 e.id1))
    (hvalue : e.value = valueBytes type extensions) :
    Rewritten (l.packet room) ((l.withExtension e).packet tail) extensions := by
  have he : (l.withExtension e).extension = some e := rfl
  have hid : OfType type ((l.withExtension e).packet tail).getHeaderExtensionId := by
    rw [packet_getHeaderExtensionId tail he]
    exact hof
  have hstored := packet_stored tail he hof
  rw [hvalue, scan_valueBytes hvalid] at hstored
  have hkeys := map_fst_offsets ((l.withExtension e).head.length + 4) (encode type) GenericExtension.id extensions
  obtain ⟨-, hversion, hpadding, hcount⟩ := setExtensionBit_spec l.first
  refine ⟨?_, ?_, ?_, ?_, ?_, ?_⟩
  · intro x hx
    obtain ⟨before, after, hbytes, hmem⟩ :=
      of_mem_offsets ((l.withExtension e).head.length + 4) (encode type) GenericExtension.id hx
    have hlookup := Table.lookup_insertAll_of_mem (t := ∅) (hkeys ▸ hids) hmem
    rw [← hstored] at hlookup
    have hmemory : ((l.withExtension e).packet tail).memory =
        ((l.withExtension e).head ++ (e.id0 :: e.id1 :: set2Bytes (e.value.length / 4)) ++ before) ++ (encode type x ++
          (after ++ (List.replicate (paddingSize type extensions) 0 ++ (l.payload ++ l.padding ++ tail)))) := by
      refine (shape_packet _ tail he).memory.trans ?_
      rw [hvalue, valueBytes, hbytes]
      simp only [append_assoc, cons_append]
      rfl
    refine getExtension_of_lookup_eq_some hid (hvalid x hx) hmemory (hlookup.trans ?_)
    rw [length_append, length_append]
    rfl
  · intro id hnot
    refine getExtension_of_lookup_eq_none hid ?_
    rw [hstored, Table.lookup_insertAll_of_notMem (by rw [hkeys]; exact hnot)]
    rfl
  · rw [packet_fixedHeader, packet_fixedHeader]
    show (version (setExtensionBit l.first), hasPadding (setExtensionBit l.first), csrcCount (setExtensionBit l.first), l.fixed) = _
    rw [hversion, hpadding, hcount]
  · rw [packet_csrcBytes, packet_csrcBytes]
    rfl
  · rw [packet_payloadBytes, packet_payloadBytes]
    rfl
  · rw [packet_paddingBytes, packet_paddingBytes]
    rfl

end Layout

namespace RtpPacket

instance (p : RtpPacket) (type : UInt8) (extensions : List GenericExtension) : Decidable (p.Fits type extensions) :=
  inferInstanceAs (Decidable (_ ∧ _))

instance (type : UInt8) (e : GenericExtension) : Decidable (Valid type e) := by
  unfold Valid
  infer_instance

/-- **Extensions set and read back.** `SetExtensions` returns, and its bytes are parsed into a packet with exactly the given
extensions and all else as it was, if and only if the change of the size is an `int16_t`. -/
theorem setExtensions_iff (data room : List UInt8) (p : RtpPacket) (type : UInt8) (extensions : List GenericExtension)
    (hp : parse (data ++ room) data.length = .ok p) (htype : type = 1 ∨ type = 2)
    (hvalid : ∀ e ∈ extensions, Valid type e) (hids : (extensions.map GenericExtension.id).Nodup)
    (hsize : extensionsSize type extensions < 2 ^ 15) (hroom : p.sizeNeeded type extensions ≤ (data ++ room).length) :
    (∃ p' q, p.setExtensions type extensions = .ok p' ∧ parse p'.memory p'.size = .ok q ∧ Rewritten p q extensions) ↔
      p.Fits type extensions := by
  obtain ⟨l, rfl, rfl⟩ := parse_eq_ok_iff.mp hp
  constructor
  · rintro ⟨p', q, hset, -⟩
    exact fits_of_setExtensions htype hsize hset
  · intro hfits
    obtain ⟨p', e, tail, hset, hof, hvalue, hmemory, hsize'⟩ :=
      setExtensions_of_fits (fun e he => accepts_of_valid (hvalid e he)) hsize htype hroom hfits
    refine ⟨p', (l.withExtension e).packet tail, hset, ?_, Layout.rewritten_packet hvalid hids hof hvalue⟩
    rw [hmemory, hsize']
    exact parse_bytes (l.withExtension e) tail

theorem setExtensions_inserted :
    ∃ p p' q, parse ([0x81, 96, 0, 7, 0, 0, 0, 1, 0, 0, 0, 2, 9, 9, 9, 9, 42] ++ List.replicate 20 0) 17 = .ok p ∧
      p.setExtensions 2 [⟨3, [1, 2, 3], by decide⟩, ⟨200, [4], by decide⟩] = .ok p' ∧
      parse p'.memory p'.size = .ok q ∧ q.getExtension 200 = some [4] ∧ q.payloadBytes = [42] := by
  obtain ⟨p', q, hset, hq, hrewritten⟩ :=
    (setExtensions_iff [0x81, 96, 0, 7, 0, 0, 0, 1, 0, 0, 0, 2, 9, 9, 9, 9, 42] (List.replicate 20 0)
      (.new ([0x81, 96, 0, 7, 0, 0, 0, 1, 0, 0, 0, 2, 9, 9, 9, 9, 42] ++ List.replicate 20 0) none 16 1 0 17) 2
      [⟨3, [1, 2, 3], by decide⟩, ⟨200, [4], by decide⟩] rfl (by decide) (by decide) (by decide) (by decide)
      (by decide +kernel)).mpr (by decide +kernel)
  exact ⟨_, p', q, rfl, hset, hq, hrewritten.listed _ (mem_cons_of_mem _ mem_cons_self),
    hrewritten.payload.trans (by decide +kernel)⟩

def bulky : Layout where
  first := 0x90
  fixed := List.replicate 11 0
  csrcs := []
  extension := some
    { id0 := 0xBE, id1 := 0xDE, value := List.replicate 32772 0
      whole := by rw [length_replicate]; decide
      fits := by rw [length_replicate]; decide }
  payload := []
  padding := []
  rtp := by decide
  fixed_length := rfl
  csrcs_length := rfl
  extension_bit := rfl
  padding_count := rfl

theorem bytes_bulky : bulky.bytes = 0x90 :: (List.replicate 11 0 ++ ([0xBE, 0xDE, 0x20, 0x01] ++ List.replicate 32772 0)) := by
  simp only [Layout.bytes, Layout.head, Layout.extensionBytes, bulky, Option.elim_some, Extension.bytes, length_replicate,
    append_nil]
  rfl

/-- **The shift wraps.** Without the elements of 32772 bytes the payload moves forward by 32764 bytes. -/
theorem setExtensions_wraps :
    ∃ p, parse (0x90 :: (List.replicate 11 0 ++ ([0xBE, 0xDE, 0x20, 0x01] ++ List.replicate 32772 0))) 32788 = .ok p ∧
      extensionsSize 1 [] < 2 ^ 15 ∧ p.sizeNeeded 1 [] ≤ 32788 ∧ p.shift (paddedSize 1 []) = 32764 ∧
      ¬ ∃ p', p.setExtensions 1 [] = .ok p' := by
  have hlen : bulky.bytes.length = 32788 := by
    rw [bytes_bulky]
    simp only [length_cons, length_append, length_replicate, length_nil]
  have hvalue : (bulky.packet []).getHeaderExtensionLength = 32772 := by
    rw [Layout.packet_getHeaderExtensionLength]
    exact length_replicate
  have hext : (bulky.packet []).headerExtension = some 12 := Layout.packet_headerExtension bulky []
  refine ⟨bulky.packet [], ?_, by decide, ?_, ?_, ?_⟩
  · have hparse := parse_bytes bulky []
    rw [append_nil, hlen, bytes_bulky] at hparse
    exact hparse
  · decide
  · simp only [shift, hext, hvalue]
    decide
  · rintro ⟨p', hset⟩
    have hfits := fits_of_setExtensions (.inl rfl) (by decide) hset
    simp only [Fits, sizeChange, hext, hvalue] at hfits
    exact absurd hfits (by decide)

end RtpPacket

end Mediasoup.Rtp
