import Mediasoup.Codecs.VP8

/-!
# The indices in a VP8 payload

`ProcessRtpPacket` widens a one-byte picture id, so that all packets that are processed have one of two bytes or none
(`processRtpPacket_spec`). `Process` writes the indices only if the packet has both: they are read again, with all other fields
of the descriptor as they were (`parse_encode`), and `Restore` writes the old ones (`restore_eq`).
-/

namespace Mediasoup.Codecs.VP8

open Lib Rtp Utils PayloadDescriptor

variable {d d' : PayloadDescriptor} {payload data rest : List UInt8} {b0 b1 b b' tl0 : UInt8} {flag : Bool}

theorem bit_seven : bit b 7 = true ↔ 128 ≤ b.toNat := by
  have hlt : b.toNat / 128 < 2 := Nat.div_lt_of_lt_mul b.toNat_lt
  simp only [bit, Nat.testBit_eq_decide_div_mod_eq, decide_eq_true_eq]
  omega

/-! ## What is read -/

theorem readIf_eq_some {read : PayloadDescriptor → List UInt8 → Option (PayloadDescriptor × List UInt8)}
    (h : readIf flag read d data = some (d', rest)) :
    flag = true ∧ read d data = some (d', rest) ∨ flag = false ∧ d' = d ∧ rest = data := by
  cases flag with
  | true => exact .inl ⟨rfl, h⟩
  | false =>
    cases h
    exact .inr ⟨rfl, rfl, rfl⟩

theorem readPictureId_eq_some (h : readPictureId d data = some (d', rest)) : (∃ b b', data = b :: b' :: rest ∧ bit b 7 = true ∧
      d' = { d with pictureId := b.toNat % 128 * 256 + b'.toNat, hasTwoBytesPictureId := true }) ∨
    (∃ b, data = b :: rest ∧ bit b 7 = false ∧ d' = { d with pictureId := b.toNat % 128, hasOneBytePictureId := true }) := by
  match data with
  | [] => cases h
  | b :: data =>
    simp only [readPictureId] at h
    split at h
    · rename_i hb
      match data with
      | [] => cases h
      | b' :: data =>
        cases h
        exact .inl ⟨b, b', rfl, hb, rfl⟩
    · rename_i hb
      cases h
      exact .inr ⟨b, rfl, by simpa using hb, rfl⟩

theorem readTl0PictureIndex_eq_some (h : readTl0PictureIndex d data = some (d', rest)) :
    ∃ b, data = b :: rest ∧ d' = { d with tl0PictureIndex := b.toNat } := by
  match data with
  | [] => cases h
  | b :: data =>
    cases h
    exact ⟨b, rfl, rfl⟩

theorem readLayers_map (u : PayloadDescriptor → PayloadDescriptor) (hu : ∀ d tlIndex y keyIndex isKeyFrame,
      u { d with tlIndex := tlIndex, y := y, keyIndex := keyIndex, isKeyFrame := isKeyFrame } =
        { u d with tlIndex := tlIndex, y := y, keyIndex := keyIndex, isKeyFrame := isKeyFrame })
    (hflags : ∀ d, (u d).t = d.t ∧ (u d).k = d.k ∧ (u d).start = d.start ∧ (u d).partitionIndex = d.partitionIndex) :
    readLayers (u d) data = (readLayers d data).map u := by
  have hkey : ∀ d data, startsKeyFrame (u d) data = startsKeyFrame d data := by
    cases data <;> simp [startsKeyFrame, hflags]
  have hadd : ∀ tlIndex y keyIndex data,
      { u d with tlIndex := tlIndex, y := y, keyIndex := keyIndex, isKeyFrame := startsKeyFrame (u d) data } =
        u { d with tlIndex := tlIndex, y := y, keyIndex := keyIndex, isKeyFrame := startsKeyFrame d data } := by
    intro tlIndex y keyIndex data
    rw [hkey]
    exact (hu d _ _ _ _).symm
  simp only [readLayers, hflags, readIf]
  split
  · match data with
    | [] => rfl
    | b :: data => exact congrArg some (hadd _ _ _ data)
  have hself := hu d d.tlIndex d.y d.keyIndex d.isKeyFrame
  refine congrArg some (Eq.trans ?_ (hadd d.tlIndex d.y d.keyIndex data))
  rw [show d.tlIndex = (u d).tlIndex from (congrArg PayloadDescriptor.tlIndex hself).symm,
    show d.y = (u d).y from (congrArg PayloadDescriptor.y hself).symm,
    show d.keyIndex = (u d).keyIndex from (congrArg PayloadDescriptor.keyIndex hself).symm]

theorem readLayers_eq_some (h : readLayers d data = some d') : ∃ tlIndex y keyIndex isKeyFrame,
      d' = { d with tlIndex := tlIndex, y := y, keyIndex := keyIndex, isKeyFrame := isKeyFrame } := by
  obtain ⟨⟨d₁, rest⟩, h₁, h⟩ := Option.bind_eq_some_iff.mp h
  cases h
  obtain ⟨-, h₁⟩ | ⟨-, rfl, -⟩ := readIf_eq_some h₁
  · match data with
    | [] => cases h₁
    | b :: data =>
      cases h₁
      exact ⟨_, _, _, _, rfl⟩
  · exact ⟨_, _, _, _, rfl⟩

theorem parse_eq_some (h : parse payload = some d) :
    ∃ b0 b1 rest₀ d₁ rest₁ d₂ rest₂, payload = b0 :: b1 :: rest₀ ∧ bit b0 7 = true ∧
      readIf (bit b1 7) readPictureId (flags b0 b1) rest₀ = some (d₁, rest₁) ∧
      readIf (bit b1 6) readTl0PictureIndex d₁ rest₁ = some (d₂, rest₂) ∧ readLayers d₂ rest₂ = some d := by
  match payload with
  | [] => cases h
  | [_] => cases h
  | b0 :: b1 :: rest =>
    simp only [parse] at h
    split at h
    · rename_i h0
      obtain ⟨⟨d₁, rest₁⟩, h₁, h⟩ := Option.bind_eq_some_iff.mp h
      obtain ⟨⟨d₂, rest₂⟩, h₂, h⟩ := Option.bind_eq_some_iff.mp h
      exact ⟨b0, b1, rest, d₁, rest₁, d₂, rest₂, rfl, h0, h₁, h₂, h⟩
    · cases h

/-! ## `ProcessRtpPacket` -/

def PayloadDescriptor.widen (d : PayloadDescriptor) : PayloadDescriptor :=
  { d with hasOneBytePictureId := false, hasTwoBytesPictureId := d.i }

def PayloadDescriptor.size (d : PayloadDescriptor) : Nat :=
  2 + (if d.hasTwoBytesPictureId then 2 else if d.hasOneBytePictureId then 1 else 0) + (if d.l then 1 else 0) +
    if d.t || d.k then 1 else 0

theorem parse_widen (hi : bit b1 7 = true) (hb : bit b 7 = false) :
    parse (b0 :: b1 :: 0x80 :: b :: rest) = (parse (b0 :: b1 :: b :: rest)).map widen := by
  have hlow : b.toNat < 128 := Nat.not_le.mp fun h => by
    simp [bit_seven.mpr h] at hb
  have hstart : { flags b0 b1 with pictureId := (0x80 : UInt8).toNat % 128 * 256 + b.toNat, hasTwoBytesPictureId := true } =
      { flags b0 b1 with pictureId := b.toNat % 128, hasOneBytePictureId := true : PayloadDescriptor }.widen := by
    simp [widen, flags, hi, Nat.mod_eq_of_lt hlow]
  have hread : ∀ d data, readLayers d.widen data = (readLayers d data).map widen := fun d data =>
    readLayers_map _ (fun _ _ _ _ _ => rfl) fun _ => ⟨rfl, rfl, rfl, rfl⟩
  simp only [parse, readIf, hi, if_true, readPictureId, hb, show bit 0x80 7 = true by decide, Bool.false_eq_true, if_false,
    Option.bind_eq_bind, Option.bind_some, hstart]
  split
  · split
    · cases rest with
      | nil => rfl
      | cons tl0 rest => exact hread { flags b0 b1 with pictureId := b.toNat % 128, hasOneBytePictureId := true, tl0PictureIndex := tl0.toNat } rest
    · exact hread _ rest
  · rfl

theorem form_of_parse (h : parse payload = some d) :
    d.extended = true ∧ (d.hasOneBytePictureId = false ∧ d.hasTwoBytesPictureId = d.i ∨
      d.hasOneBytePictureId = true ∧ d.hasTwoBytesPictureId = false ∧ d.i = true ∧
        ∃ b0 b1 b rest, payload = b0 :: b1 :: b :: rest ∧ bit b1 7 = true ∧ bit b 7 = false) := by
  obtain ⟨b0, b1, rest₀, d₁, rest₁, d₂, rest₂, rfl, h0, h₁, h₂, h₃⟩ := parse_eq_some h
  obtain ⟨_, _, _, _, rfl⟩ := readLayers_eq_some h₃
  have hkept : d₂.extended = d₁.extended ∧ d₂.hasOneBytePictureId = d₁.hasOneBytePictureId ∧
      d₂.hasTwoBytesPictureId = d₁.hasTwoBytesPictureId ∧ d₂.i = d₁.i := by
    obtain ⟨-, h₂⟩ | ⟨-, rfl, -⟩ := readIf_eq_some h₂
    · obtain ⟨_, -, rfl⟩ := readTl0PictureIndex_eq_some h₂
      exact ⟨rfl, rfl, rfl, rfl⟩
    · exact ⟨rfl, rfl, rfl, rfl⟩
  simp only [hkept]
  obtain ⟨hi, h₁⟩ | ⟨hi, rfl, -⟩ := readIf_eq_some h₁
  · obtain ⟨b, b', rfl, hb, rfl⟩ | ⟨b, rfl, hb, rfl⟩ := readPictureId_eq_some h₁
    · exact ⟨h0, .inl ⟨rfl, hi.symm⟩⟩
    · exact ⟨h0, .inr ⟨rfl, rfl, hi, b0, b1, b, rest₁, rfl, hi, hb⟩⟩
  · exact ⟨h0, .inl ⟨rfl, hi.symm⟩⟩

theorem processRtpPacket_spec {p : MediaPacket PayloadDescriptor} (h : parse p.packet.payload = some d) :
    (processRtpPacket p).descriptor = some d.widen ∧ parse (processRtpPacket p).packet.payload = some d.widen ∧
      (processRtpPacket p).packet.payload.drop d.widen.size = p.packet.payload.drop d.size := by
  obtain ⟨-, ⟨hone, htwo⟩ | ⟨hone, htwo, hi', b0, b1, b, rest, hpayload, hi, hb⟩⟩ := form_of_parse h
  · have hwiden : d.widen = d := by
      cases d
      cases hone
      cases htwo
      rfl
    simp [processRtpPacket, h, hone, hwiden]
  · have hsize : d.widen.size = d.size + 1 := by
      simp only [size, widen, hone, htwo, hi', if_true, Bool.false_eq_true, if_false]
      omega
    have hle : 2 ≤ d.size := by rw [size]; omega
    have hwiden : d.widen = { d with hasOneBytePictureId := false, hasTwoBytesPictureId := true } := by
      rw [widen, hi']
    simp only [processRtpPacket, h, hone, if_true, ← hwiden]
    refine ⟨trivial, ?_, ?_⟩
    · simp only [MediaPacket.setPayload, hpayload, List.take_succ_cons, List.take_zero, List.drop_succ_cons, List.drop_zero,
        List.cons_append, List.nil_append]
      rw [parse_widen hi hb, ← hpayload, h, Option.map_some]
    · obtain ⟨n, hn⟩ := Nat.exists_eq_add_of_le' hle
      rw [hsize, hn, hpayload]
      rfl

/-! ## `Encode` -/

theorem indices_of_parse (h : parse payload = some d) (hone : d.hasOneBytePictureId = false) (hi : d.i = true)
    (hl : d.l = true) :
    ∃ b0 b1 b b' tl0 rest, payload = b0 :: b1 :: b :: b' :: tl0 :: rest ∧ bit b1 7 = true ∧ bit b1 6 = true ∧
      bit b 7 = true ∧ d.pictureId = b.toNat % 128 * 256 + b'.toNat ∧ d.tl0PictureIndex = tl0.toNat := by
  obtain ⟨b0, b1, rest₀, d₁, rest₁, d₂, rest₂, rfl, h0, h₁, h₂, h₃⟩ := parse_eq_some h
  obtain ⟨_, _, _, _, rfl⟩ := readLayers_eq_some h₃
  obtain ⟨hl', h₂⟩ | ⟨hl', rfl, -⟩ := readIf_eq_some h₂
  · obtain ⟨tl0, rfl, rfl⟩ := readTl0PictureIndex_eq_some h₂
    obtain ⟨hi', h₁⟩ | ⟨hi', rfl, -⟩ := readIf_eq_some h₁
    · obtain ⟨b, b', rfl, hb, rfl⟩ | ⟨b, rfl, hb, rfl⟩ := readPictureId_eq_some h₁
      · exact ⟨b0, b1, b, b', tl0, rest₂, rfl, hi', hl', hb, rfl, rfl⟩
      · cases hone
    · exact absurd (hi'.symm.trans hi) Bool.false_ne_true
  · have hl₁ : d₂.l = bit b1 6 := by
      obtain ⟨-, h₁⟩ | ⟨-, rfl, -⟩ := readIf_eq_some h₁
      · obtain ⟨_, _, -, -, rfl⟩ | ⟨_, -, -, rfl⟩ := readPictureId_eq_some h₁ <;> rfl
      · rfl
    exact absurd (hl'.symm.trans (hl₁.symm.trans hl)) Bool.false_ne_true

theorem parse_indices (hi : bit b1 7 = true) (hl : bit b1 6 = true) {c c' tl0' : UInt8} (hb : bit b 7 = true) (hc : bit c 7 = true) :
    parse (b0 :: b1 :: c :: c' :: tl0' :: rest) = (parse (b0 :: b1 :: b :: b' :: tl0 :: rest)).map fun d =>
      { d with pictureId := c.toNat % 128 * 256 + c'.toNat, tl0PictureIndex := tl0'.toNat } := by
  simp only [parse, readIf, hi, hl, if_true, readPictureId, hb, hc, readTl0PictureIndex, Option.bind_eq_bind, Option.bind_some]
  split
  · exact readLayers_map (d := { flags b0 b1 with pictureId := _, hasTwoBytesPictureId := true, tl0PictureIndex := _ })
      (fun d => { d with pictureId := c.toNat % 128 * 256 + c'.toNat, tl0PictureIndex := tl0'.toNat })
      (fun _ _ _ _ _ => rfl) (fun _ => ⟨rfl, rfl, rfl, rfl⟩)
  · rfl

theorem encode_indices (hext : d.extended = true) (htwo : d.hasTwoBytesPictureId = true) (hi : d.i = true) (hl : d.l = true)
    (x y : Nat) :
    encode d x y (b0 :: b1 :: b :: b' :: tl0 :: rest) =
      b0 :: b1 :: .ofNat (x / 256 % 128 + 128) :: .ofNat x :: .ofNat y :: rest := by
  simp only [encode, encodePictureId, encodeTl0PictureIndex, hext, htwo, hi, hl, if_true]

theorem parse_encode (h : parse payload = some d) (hone : d.hasOneBytePictureId = false) (hi : d.i = true) (hl : d.l = true)
    (x y : Nat) :
    parse (encode d x y payload) = some { d with pictureId := x % 2 ^ 15, tl0PictureIndex := y % 2 ^ 8 } ∧
      ∀ i, i ≠ 2 → i ≠ 3 → i ≠ 4 → (encode d x y payload)[i]? = payload[i]? := by
  obtain ⟨hext, ⟨-, htwo⟩ | ⟨hone', -⟩⟩ := form_of_parse h
  · obtain ⟨b0, b1, b, b', tl0, rest, rfl, hi', hl', hb, -, -⟩ := indices_of_parse h hone hi hl
    have hc : (UInt8.ofNat (x / 256 % 128 + 128)).toNat = x / 256 % 128 + 128 := by
      rw [UInt8.toNat_ofNat']
      omega
    rw [encode_indices hext (htwo.trans hi) hi hl]
    constructor
    · rw [parse_indices hi' hl' hb (bit_seven.mpr (by rw [hc]; omega)), h, Option.map_some, hc,
        UInt8.toNat_ofNat', UInt8.toNat_ofNat']
      congr 3
      omega
    · intro i h2 h3 h4
      match i with
      | 0 => rfl
      | 1 => rfl
      | n + 5 => rfl
  · rw [hone] at hone'
    cases hone'

theorem restore_eq (h : parse payload = some d) (hone : d.hasOneBytePictureId = false) : restore d payload = payload := by
  unfold restore
  split
  · rename_i hboth
    obtain ⟨hi, hl⟩ := Bool.and_eq_true_iff.mp hboth
    obtain ⟨hext, ⟨-, htwo⟩ | ⟨hone', -⟩⟩ := form_of_parse h
    · obtain ⟨b0, b1, b, b', tl0, rest, rfl, -, -, hb, hid, htl0⟩ := indices_of_parse h hone hi hl
      have hlt := b.toNat_lt
      have hlt' := b'.toNat_lt
      have hhigh := bit_seven.mp hb
      have hdiv : (b.toNat % 128 * 256 + b'.toNat) / 256 % 128 + 128 = b.toNat := by omega
      have hmod : UInt8.ofNat (b.toNat % 128 * 256 + b'.toNat) = b' := by
        rw [← UInt8.toNat_inj, UInt8.toNat_ofNat']
        omega
      rw [encode_indices hext (htwo.trans hi) hi hl, hid, htl0, hdiv, hmod, UInt8.ofNat_toNat, UInt8.ofNat_toNat]
    · rw [hone] at hone'
      cases hone'
  · rfl

/-! ## `Process` and `Restore` -/

theorem encodeTl0PictureIndex_encode (d : PayloadDescriptor) (x y : Nat) (data : List UInt8) :
    encodeTl0PictureIndex d x (encodeTl0PictureIndex d y data) = encodeTl0PictureIndex d x data := by
  cases data with
  | nil => rfl
  | cons b rest =>
    unfold encodeTl0PictureIndex
    cases d.l with
    | true => rfl
    | false => rfl

theorem encodePictureId_encode (d : PayloadDescriptor) (x y x' y' : Nat) (data : List UInt8) :
    encodePictureId d x y (encodePictureId d x' y' data) = encodePictureId d x y data := by
  unfold encodePictureId
  split
  · split
    · match data with
      | [] => rfl
      | [_] => rfl
      | _ :: _ :: rest => simp only [encodeTl0PictureIndex_encode]
    split
    · match data with
      | [] => rfl
      | _ :: rest => simp only [encodeTl0PictureIndex_encode]
    · exact encodeTl0PictureIndex_encode d y y' data
  · exact encodeTl0PictureIndex_encode d y y' data

theorem encode_encode (d : PayloadDescriptor) (x y x' y' : Nat) (data : List UInt8) :
    encode d x y (encode d x' y' data) = encode d x y data := by
  match data with
  | [] => rfl
  | [_] => rfl
  | b0 :: b1 :: rest =>
    unfold encode
    cases d.extended <;> simp [encodePictureId_encode]

def assigned (sh : Shapes) (context : Context) (d : PayloadDescriptor) : Option Nat × Option Nat :=
  let s := (sync context d).state
  ((inputIf d.hasPictureId 15 sh.pictureId s.pictureIdManager d.pictureId).2,
    (inputIf d.hasTl0PictureIndex 8 sh.tl0PictureIndex s.tl0PictureIndexManager d.tl0PictureIndex).2)

variable {sh : Shapes} {context : Context} {r : Processed State}

theorem process_eq_ok (h : process sh context d payload = .ok r) : r.marker = false ∧ (r.passed = false ∧ r.payload = payload ∨
      r.passed = true ∧ ∃ x y, assigned sh context d = (some x, some y) ∧
        r.payload = if d.hasPictureId && d.hasTl0PictureIndex then encode d x y payload else payload) := by
  unfold process at h
  split at h
  · cases h
  dsimp only at h
  split at h
  · cases h
    exact ⟨rfl, .inl ⟨rfl, rfl⟩⟩
  cases h
  unfold renumber
  split
  · exact ⟨rfl, .inl ⟨rfl, rfl⟩⟩
  rename_i m x hx
  dsimp only
  split
  · exact ⟨rfl, .inl ⟨rfl, rfl⟩⟩
  rename_i n y hy
  have hassigned : assigned sh context d = (some x, some y) := by
    rw [assigned, hx]
    exact congrArg (some x, ·) (congrArg Prod.snd hy)
  exact ⟨rfl, .inr ⟨rfl, x, y, hassigned, rfl⟩⟩

theorem restore_process (hd : restore d payload = payload) (h : process sh context d payload = .ok r) :
    restore d r.payload = payload := by
  obtain ⟨-, ⟨-, heq⟩ | ⟨-, x, y, -, heq⟩⟩ := process_eq_ok h
  · rw [heq, hd]
  · unfold restore at hd ⊢
    split at hd
    · rename_i hboth
      rw [if_pos hboth] at heq ⊢
      rw [heq, encode_encode, hd]
    · rename_i hboth
      rw [if_neg hboth] at heq ⊢
      exact heq

/-- **A packet that is forwarded**: if it has both indices, these are replaced by the numbers of the managers, and otherwise
nothing changes; `Restore` writes the old bytes. -/
theorem forwarded_payload (p : MediaPacket PayloadDescriptor) (hp : p.descriptor = none) (sh : Shapes) (context : Context)
    (r : Processed State) (h : (processRtpPacket p).processPayload codec sh context = .ok r) (hpassed : r.passed = true) :
    ((processRtpPacket p).setPayload r.payload).restorePayload codec = processRtpPacket p ∧
      (parse p.packet.payload = none → processRtpPacket p = p ∧ r.payload = p.packet.payload) ∧
      ∀ d, parse p.packet.payload = some d →
        (processRtpPacket p).descriptor = some d.widen ∧ parse (processRtpPacket p).packet.payload = some d.widen ∧
        (processRtpPacket p).packet.payload.drop d.widen.size = p.packet.payload.drop d.size ∧
        ∃ x y, assigned sh context d.widen = (some x, some y) ∧ if d.hasPictureId && d.hasTl0PictureIndex then
            parse r.payload = some { d.widen with pictureId := x % 2 ^ 15, tl0PictureIndex := y % 2 ^ 8 } ∧
              ∀ i, i ≠ 2 → i ≠ 3 → i ≠ 4 → r.payload[i]? = (processRtpPacket p).packet.payload[i]?
          else r.payload = (processRtpPacket p).packet.payload := by
  cases hparse : parse p.packet.payload with
  | none =>
    have hsame : processRtpPacket p = p := by rw [processRtpPacket, hparse]
    rw [hsame, MediaPacket.processPayload, hp] at h
    cases h
    refine ⟨?_, fun _ => ⟨hsame, rfl⟩, fun d hd => by cases hd⟩
    rw [hsame]
    change p.restorePayload codec = p
    rw [MediaPacket.restorePayload, hp]
  | some d =>
    obtain ⟨hdescriptor, hwide, hdrop⟩ := processRtpPacket_spec hparse
    rw [MediaPacket.processPayload, hdescriptor] at h
    refine ⟨?_, fun h => (by cases h), fun d' hd' => ?_⟩
    · have hdescriptor' : ((processRtpPacket p).setPayload r.payload).descriptor = some d.widen := hdescriptor
      rw [MediaPacket.restorePayload, hdescriptor']
      change (processRtpPacket p).setPayload (restore d.widen r.payload) = _
      rw [restore_process (restore_eq hwide rfl) h]
      rfl
    · cases hd'
      refine ⟨hdescriptor, hwide, hdrop, ?_⟩
      obtain ⟨-, ⟨hdropped, -⟩ | ⟨-, x, y, hxy, heq⟩⟩ := process_eq_ok h
      · simp [hdropped] at hpassed
      · refine ⟨x, y, hxy, ?_⟩
        change r.payload = if d.hasPictureId && d.hasTl0PictureIndex then _ else _ at heq
        split
        · rename_i hboth
          obtain ⟨hi, hl⟩ := Bool.and_eq_true_iff.mp hboth
          rw [heq, if_pos hboth]
          exact parse_encode hwide rfl hi hl x y
        · rename_i hboth
          rw [heq, if_neg hboth]

def spines : Shapes := ⟨.spine, .spine, .spine⟩

def packetOf (payload : List UInt8) : MediaPacket PayloadDescriptor :=
  { packet := { payloadType := 96, sequenceNumber := 1, timestamp := 0, ssrc := 1, payload := payload } }

def droppedOne : Context :=
  let context : Context := { temporalLayers := 2, targetTemporalLayer := 0, currentTemporalLayer := 0, state := {} }
  match (processRtpPacket (packetOf [0x90, 0xe0, 0x80, 4, 1, 0x40, 0])).processPayload codec spines context with
  | .ok r => r.context
  | .error _ => context

theorem next_forwarded :
    ∃ r, (processRtpPacket (packetOf [0x90, 0xe0, 5, 1, 0, 7])).processPayload codec spines droppedOne = .ok r ∧
    r.payload = [0x90, 0xe0, 0x80, 4, 1, 0, 7] ∧
    ((processRtpPacket (packetOf [0x90, 0xe0, 5, 1, 0, 7])).setPayload r.payload).restorePayload codec =
      processRtpPacket (packetOf [0x90, 0xe0, 5, 1, 0, 7]) := by
  have hsent : ((processRtpPacket (packetOf [0x90, 0xe0, 5, 1, 0, 7])).processPayload codec spines droppedOne).map
      (fun r => (r.passed, r.payload)) = .ok (true, [0x90, 0xe0, 0x80, 4, 1, 0, 7]) := by decide +kernel
  cases hr : (processRtpPacket (packetOf [0x90, 0xe0, 5, 1, 0, 7])).processPayload codec spines droppedOne with
  | error e =>
    rw [hr] at hsent
    cases hsent
  | ok r =>
    rw [hr] at hsent
    obtain ⟨hpassed, hpayload⟩ := Prod.mk.inj (Except.ok.inj hsent)
    exact ⟨r, rfl, hpayload, (forwarded_payload _ rfl _ _ _ hr hpassed).1⟩

/-- **A picture id alone** is not replaced: the manager gives the number 4, but 5 is sent. -/
theorem lone_pictureId_kept :
    ((processRtpPacket (packetOf [0x90, 0x80, 0x80, 5, 7])).processPayload codec spines droppedOne).map
        (fun r => (r.passed, (parse r.payload).map PayloadDescriptor.pictureId)) = .ok (true, some 5) ∧
      (parse [0x90, 0x80, 0x80, 5, 7]).map (assigned spines droppedOne) = some (some 4, some 0) := by
  decide +kernel

end Mediasoup.Codecs.VP8
