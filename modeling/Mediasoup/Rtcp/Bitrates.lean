import Mediasoup.Rtcp.FeedbackItems
import Mediasoup.Rtcp.XR

/-!
# Bitrates in feedback packets

REMB packets and TMMBR and TMMBN items hold a bitrate as a mantissa and an exponent: it is halved until the mantissa fits its
bits. What is read back is the bitrate without the bits shifted out. A mantissa and an exponent that give more than 64 bits are
refused by `FeedbackPsRembPacket`; the items notice it as well, but nobody asks them (`huge_tmmbr_accepted`).
-/

namespace Mediasoup.Rtcp

open Utils Lib XR List Packet

/-! ## Mantissa and exponent -/

def normalise (max mantissa exponent : Nat) : Nat × Nat :=
  if mantissa > max then normalise max (mantissa / 2) (exponent + 1) else (mantissa, exponent)
termination_by mantissa
decreasing_by omega

/-- The least exponent for which the mantissa has `bits` bits. -/
def IsExponent (bits b e : Nat) : Prop := ∀ e', b / 2 ^ e' < 2 ^ bits ↔ e ≤ e'

variable {bits b e : Nat}

theorem exists_isExponent (bits b : Nat) : ∃ e, IsExponent bits b e := by
  have hex : ∃ e, b / 2 ^ e < 2 ^ bits := ⟨b, by rw [Nat.div_eq_of_lt Nat.lt_two_pow_self]; exact Nat.two_pow_pos bits⟩
  refine ⟨Nat.find hex, fun e' => ⟨Nat.find_min' hex, fun hle => ?_⟩⟩
  exact lt_of_le_of_lt (Nat.div_le_div_left (Nat.pow_le_pow_right two_pos hle) (Nat.two_pow_pos _)) (Nat.find_spec hex)

theorem IsExponent.unique {e' : Nat} (he : IsExponent bits b e) (he' : IsExponent bits b e') : e = e' :=
  Nat.le_antisymm ((he e').mp ((he' e').mpr (Nat.le_refl e'))) ((he' e).mp ((he e).mpr (Nat.le_refl e)))

theorem normalise_eq (he : IsExponent bits b e) : ∀ {j n : Nat}, n + j = e →
    normalise (2 ^ bits - 1) (b / 2 ^ n) n = (b / 2 ^ e, e)
  | 0, n, h => by
    have hlt := (he e).mpr (Nat.le_refl e)
    rw [Nat.add_zero] at h
    rw [h, normalise, if_neg (by omega)]
  | j + 1, n, h => by
    have hge := mt (he n).mp (by omega)
    have hpos := Nat.two_pow_pos bits
    rw [normalise, if_pos (by omega), Nat.div_div_eq_div_mul, ← Nat.pow_succ]
    exact normalise_eq he (j := j) (by omega)

theorem IsExponent.error_lt (he : IsExponent (bits + 1) b e) (hb : b ≠ 0) : (b - b / 2 ^ e * 2 ^ e) * 2 ^ bits < b := by
  cases e with
  | zero => simpa using Nat.pos_of_ne_zero hb
  | succ e =>
    have hge : 2 ^ (bits + 1) * 2 ^ e ≤ b := by
      rw [← Nat.le_div_iff_mul_le (Nat.two_pow_pos e)]
      exact not_lt.mp (mt (he e).mp (by omega))
    have hmod : b - b / 2 ^ (e + 1) * 2 ^ (e + 1) < 2 ^ (e + 1) := by
      rw [Nat.mul_comm, ← Nat.mod_eq_sub_mul_div]
      exact Nat.mod_lt _ (Nat.two_pow_pos _)
    calc (b - b / 2 ^ (e + 1) * 2 ^ (e + 1)) * 2 ^ bits < 2 ^ (e + 1) * 2 ^ bits :=
          Nat.mul_lt_mul_of_pos_right hmod (Nat.two_pow_pos bits)
      _ = 2 ^ (bits + 1) * 2 ^ e := by
        rw [← pow_add, ← pow_add, Nat.add_comm, Nat.add_assoc bits, Nat.add_comm 1]
      _ ≤ b := hge

theorem shiftsBack_iff {mantissa exponent : Nat} : shiftsBack mantissa exponent = true ↔ mantissa * 2 ^ exponent < 2 ^ 64 := by
  rw [shiftsBack, beq_iff_eq]
  constructor
  · intro h
    by_contra hge
    have hlt : mantissa * 2 ^ exponent % 2 ^ 64 < mantissa * 2 ^ exponent := lt_of_lt_of_le (Nat.mod_lt _ (by decide)) (not_lt.mp hge)
    rw [← Nat.div_lt_iff_lt_mul (Nat.two_pow_pos _), h] at hlt
    exact lt_irrefl _ hlt
  · intro h
    rw [Nat.mod_eq_of_lt h, Nat.mul_div_cancel _ (Nat.two_pow_pos _)]

/-- The law of a mantissa with `bits + 1` bits: `b'` is the bitrate read back for `b`. -/
def Rounds (bits b b' : Nat) : Prop :=
  ∃ e, IsExponent (bits + 1) b e ∧ b' = b / 2 ^ e * 2 ^ e ∧ b' ≤ b ∧ (b ≠ 0 → (b - b') * 2 ^ bits < b)

theorem rounds_shift (b : UInt64) (he : IsExponent (bits + 1) b.toNat e) :
    shiftsBack (b.toNat / 2 ^ e) e = true ∧ Rounds bits b.toNat (UInt64.ofNat (b.toNat / 2 ^ e * 2 ^ e)).toNat := by
  have hle := Nat.div_mul_le_self b.toNat (2 ^ e)
  have hlt := lt_of_le_of_lt hle b.toNat_lt
  refine ⟨shiftsBack_iff.mpr hlt, e, he, ?_⟩
  rw [UInt64.toNat_ofNat_of_lt' hlt]
  exact ⟨rfl, hle, he.error_lt⟩

/-! ## REMB -/

structure Remb where
  senderSsrc : UInt32
  mediaSsrc : UInt32
  bitrate : UInt64
  ssrcs : List UInt32

namespace Remb

def uniqueIdentifier : UInt32 := 0x52454D42

/-- `Serialize`, with the headers. The fields of a byte do not overlap. -/
def serialize (p : Remb) : List UInt8 :=
  let (mantissa, exponent) := normalise 0x3FFFF p.bitrate.toNat 0
  header 15 .psfb (20 + 4 * p.ssrcs.length) ++ (set4 p.senderSsrc ++ (set4 p.mediaSsrc ++ (set4 uniqueIdentifier ++
    (.ofNat p.ssrcs.length :: .ofNat (exponent * 4 + mantissa / 2 ^ 16) :: (set2Bytes (mantissa % 2 ^ 16) ++
      p.ssrcs.flatMap set4)))))

structure Fields where
  senderSsrc : UInt32
  mediaSsrc : UInt32
  exponent : Nat
  mantissa : Nat
  ssrcs : List UInt32
  deriving DecidableEq

def readSsrcs (n : Nat) (data : List UInt8) : List UInt32 := readMany (fun data => (take4 data).map Prod.fst) (fun _ => 4) n data

def fields (data : List UInt8) : Option Fields :=
  if data.length < 20 ∨ packetLen data > data.length then none
  else do
    let (senderSsrc, rest) ← take4 (data.drop 4)
    let (mediaSsrc, rest) ← take4 rest
    let (identifier, rest) ← take4 rest
    match rest with
    | numSsrcs :: b5 :: b6 :: b7 :: rest =>
      if packetLen data ≠ 20 + numSsrcs.toNat * 4 ∨ identifier ≠ uniqueIdentifier then none
      else some ⟨senderSsrc, mediaSsrc, b5.toNat / 4, b5.toNat % 4 * 2 ^ 16 + get2Bytes b6 b7, readSsrcs numSsrcs.toNat rest⟩
    | _ => none

def parse (data : List UInt8) : Option Remb :=
  (fields data).bind fun f =>
    if shiftsBack f.mantissa f.exponent then
      some ⟨f.senderSsrc, f.mediaSsrc, .ofNat (f.mantissa * 2 ^ f.exponent), f.ssrcs⟩
    else none

theorem readSsrcs_flatMap (ssrcs : List UInt32) : readSsrcs ssrcs.length (ssrcs.flatMap set4) = ssrcs := by
  induction ssrcs with
  | nil => rfl
  | cons ssrc ssrcs ih =>
    rw [flatMap_cons, length_cons, readSsrcs, readMany_of_some (a := ssrc) (by rw [take4_set4_append]; rfl)]
    exact congrArg _ ih

theorem fields_serialize (p : Remb) (hssrcs : p.ssrcs.length ≤ 255) (he : IsExponent 18 p.bitrate.toNat e) :
    fields p.serialize = some ⟨p.senderSsrc, p.mediaSsrc, e, p.bitrate.toNat / 2 ^ e, p.ssrcs⟩ := by
  have hmantissa := (he e).mpr (Nat.le_refl e)
  have hexponent : e ≤ 46 := (he 46).mp (by have := p.bitrate.toNat_lt; omega)
  have hnormalise : normalise 0x3FFFF p.bitrate.toNat 0 = (p.bitrate.toNat / 2 ^ e, e) := by
    simpa using normalise_eq he (j := e) (n := 0) (Nat.zero_add e)
  have hlength : p.serialize.length = 20 + p.ssrcs.length * 4 := by
    simp [serialize, header, set4, set2Bytes, set4Bytes, length_flatMap]
    omega
  have hlen : packetLen p.serialize = 20 + p.ssrcs.length * 4 := by
    rw [serialize, packetLen_header, fieldLen]
    omega
  have hdrop : ∀ n rest, (header 15 .psfb n ++ rest).drop 4 = rest := fun _ _ => rfl
  rw [fields, if_neg (by omega), hlen]
  simp only [serialize, hnormalise, hdrop, take4_set4_append, bind, Option.bind, set2Bytes, cons_append, nil_append]
  rw [if_neg]
  · have hcount : (UInt8.ofNat p.ssrcs.length).toNat = p.ssrcs.length := by simp; omega
    rw [hcount, readSsrcs_flatMap, get2Bytes_set2Bytes, UInt8.toNat_ofNat']
    generalize p.bitrate.toNat / 2 ^ e = m at hmantissa
    congr 2 <;> omega
  · simp
    omega

theorem read_serialize (p : Remb) (hssrcs : p.ssrcs.length ≤ 255) :
    ∃ q, parse p.serialize = some q ∧ q.ssrcs = p.ssrcs ∧ Rounds 17 p.bitrate.toNat q.bitrate.toNat := by
  obtain ⟨e, he⟩ := exists_isExponent 18 p.bitrate.toNat
  obtain ⟨hback, hrounds⟩ := rounds_shift p.bitrate he
  refine ⟨⟨p.senderSsrc, p.mediaSsrc, .ofNat (p.bitrate.toNat / 2 ^ e * 2 ^ e), p.ssrcs⟩, ?_, rfl, hrounds⟩
  rw [parse, fields_serialize p hssrcs he, Option.bind_some, if_pos hback]

end Remb

/-! ## TMMBR and TMMBN -/

structure Tmmb where
  ssrc : UInt32
  bitrate : UInt64
  overhead : UInt16

namespace Tmmb

def serialize (i : Tmmb) : List UInt8 :=
  let (mantissa, exponent) := normalise 0x1ffff i.bitrate.toNat 0
  set4 i.ssrc ++ set4Bytes (exponent * 2 ^ 26 ||| mantissa * 2 ^ 9 ||| i.overhead.toNat)

def parse (data : List UInt8) : Option Tmmb := do
  let (ssrc, _) ← take4 data
  return ⟨ssrc, .ofNat (tmmbMantissa data * 2 ^ tmmbExponent data), .ofNat (tmmbCompact data % 2 ^ 9)⟩

/-- The overhead has nine bits in the item; what it has more than these is in the mantissa anyway. -/
def OverheadFits (i : Tmmb) : Prop :=
  ∀ e, IsExponent 17 i.bitrate.toNat e → i.bitrate.toNat / 2 ^ e ||| i.overhead.toNat / 2 ^ 9 = i.bitrate.toNat / 2 ^ e

theorem fields_serialize (i : Tmmb) (he : IsExponent 17 i.bitrate.toNat e) :
    tmmbExponent i.serialize = e ∧ tmmbMantissa i.serialize = i.bitrate.toNat / 2 ^ e ||| i.overhead.toNat / 2 ^ 9 := by
  have hmantissa := (he e).mpr (Nat.le_refl e)
  have hexponent : e ≤ 47 := (he 47).mp (by have := i.bitrate.toNat_lt; omega)
  have hoverhead := i.overhead.toNat_lt
  have hnormalise : normalise 0x1ffff i.bitrate.toNat 0 = (i.bitrate.toNat / 2 ^ e, e) := by
    simpa using normalise_eq he (j := e) (n := 0) (Nat.zero_add e)
  have hcompact : tmmbCompact i.serialize = e * 2 ^ 26 ||| i.bitrate.toNat / 2 ^ e * 2 ^ 9 ||| i.overhead.toNat := by
    simp only [serialize, hnormalise, set4, set4Bytes, cons_append, nil_append, tmmbCompact, get4Bytes_set4Bytes]
    refine Nat.mod_eq_of_lt (Nat.or_lt_two_pow (n := 32) (Nat.or_lt_two_pow ?_ ?_) ?_) <;> omega
  rw [tmmbExponent, tmmbMantissa, hcompact]
  simp only [Nat.or_div_two_pow, Nat.or_mod_two_pow]
  generalize i.bitrate.toNat / 2 ^ e = m at *
  constructor
  · rw [Nat.mul_div_cancel _ (by decide), Nat.div_eq_of_lt (by omega), Nat.div_eq_of_lt (by omega), Nat.or_zero, Nat.or_zero]
  · rw [show e * 2 ^ 26 / 2 ^ 9 % 2 ^ 17 = 0 by omega, show m * 2 ^ 9 / 2 ^ 9 % 2 ^ 17 = m by omega,
      show i.overhead.toNat / 2 ^ 9 % 2 ^ 17 = i.overhead.toNat / 2 ^ 9 by omega, Nat.zero_or]

theorem shift_lt (i : Tmmb) (he : IsExponent 17 i.bitrate.toNat e) :
    (i.bitrate.toNat / 2 ^ e ||| i.overhead.toNat / 2 ^ 9) * 2 ^ e < 2 ^ 64 := by
  have hexponent : e ≤ 47 := (he 47).mp (by have := i.bitrate.toNat_lt; omega)
  have hoverhead := i.overhead.toNat_lt
  calc (i.bitrate.toNat / 2 ^ e ||| i.overhead.toNat / 2 ^ 9) * 2 ^ e
      < 2 ^ 17 * 2 ^ e := Nat.mul_lt_mul_of_pos_right
        (Nat.or_lt_two_pow ((he e).mpr (Nat.le_refl e)) (by omega)) (Nat.two_pow_pos e)
    _ ≤ 2 ^ 17 * 2 ^ 47 := Nat.mul_le_mul_left _ (Nat.pow_le_pow_right two_pos hexponent)
    _ = 2 ^ 64 := by decide

theorem read_serialize (i : Tmmb) : ∃ j, parse i.serialize = some j ∧ j.ssrc = i.ssrc ∧
    (Rounds 16 i.bitrate.toNat j.bitrate.toNat ↔ i.OverheadFits) := by
  obtain ⟨e, he⟩ := exists_isExponent 17 i.bitrate.toNat
  obtain ⟨hexponent, hmantissa⟩ := fields_serialize i he
  have hparse : parse i.serialize = some ⟨i.ssrc, .ofNat ((i.bitrate.toNat / 2 ^ e ||| i.overhead.toNat / 2 ^ 9) * 2 ^ e),
      .ofNat (tmmbCompact i.serialize % 2 ^ 9)⟩ := by
    rw [parse, hexponent, hmantissa]
    nth_rewrite 1 [serialize]
    rw [take4_set4_append]
    rfl
  refine ⟨_, hparse, rfl, ?_, ?_⟩
  · rintro ⟨e', he', heq, -⟩ e'' he''
    obtain rfl := he.unique he'
    obtain rfl := he.unique he''
    rw [UInt64.toNat_ofNat_of_lt' (shift_lt i he)] at heq
    exact Nat.eq_of_mul_eq_mul_right (Nat.two_pow_pos e) heq
  · intro hfits
    rw [hfits e he]
    exact (rounds_shift i.bitrate he).2

end Tmmb

theorem mem_tmmb_items {t : FeedbackType} (ht : t = .tmmbr ∨ t = .tmmbn) : ∀ {k n : Nat} {data : List UInt8},
    k < n → 8 * k + 8 ≤ data.length → data.drop (8 * k) ∈ readMany t.parseItem t.itemClass.getSize n data
  | k, 0, _, hk, _ => by omega
  | k, n + 1, data, hk, hlen => by
    have hparse : t.parseItem data = some data := by
      rcases ht with rfl | rfl <;> exact if_neg (Nat.not_lt.mpr (show 8 ≤ data.length by omega))
    have hsize : t.itemClass.getSize data = 8 := by rcases ht with rfl | rfl <;> rfl
    rw [readMany_of_some hparse, hsize]
    cases k with
    | zero => exact mem_cons_self
    | succ k =>
      refine mem_cons_of_mem _ ?_
      have hrest : 8 * k + 8 ≤ (data.drop 8).length := by
        rw [length_drop]
        omega
      have := mem_tmmb_items ht (Nat.lt_of_succ_lt_succ hk) hrest
      rwa [drop_drop, show 8 + 8 * k = 8 * (k + 1) by omega] at this

/-- The mantissa and the exponent of a TMMB item give 64 bits. -/
def TmmbFits (item : List UInt8) : Prop := tmmbMantissa item * 2 ^ tmmbExponent item < 2 ^ 64

/-- Both laws, and the refusals, hold just if no overhead is too large and no item of the message has a bitrate that is. -/
theorem bitrates_iff (p : Remb) (hssrcs : p.ssrcs.length ≤ 255) (i : Tmmb) (data : List UInt8) (f : Remb.Fields)
    (hf : Remb.fields data = some f) (t : FeedbackType) (ht : t = .tmmbr ∨ t = .tmmbn) (message : List UInt8)
    (items : List (List UInt8)) (hitems : t.parse message = some items) :
    ((∃ q, Remb.parse p.serialize = some q ∧ q.ssrcs = p.ssrcs ∧ Rounds 17 p.bitrate.toNat q.bitrate.toNat) ∧
      (∃ j, Tmmb.parse i.serialize = some j ∧ j.ssrc = i.ssrc ∧ Rounds 16 i.bitrate.toNat j.bitrate.toNat) ∧
      (Remb.parse data = none ↔ 2 ^ 64 ≤ f.mantissa * 2 ^ f.exponent) ∧
      ∀ k, 12 + 8 * k + 8 ≤ message.length → (message.drop (12 + 8 * k) ∉ items ↔ ¬TmmbFits (message.drop (12 + 8 * k)))) ↔
    i.OverheadFits ∧ ∀ k, 12 + 8 * k + 8 ≤ message.length → TmmbFits (message.drop (12 + 8 * k)) := by
  obtain ⟨j, hparse, hssrc, hrounds⟩ := i.read_serialize
  have hmem : ∀ k, 12 + 8 * k + 8 ≤ message.length → message.drop (12 + 8 * k) ∈ items := by
    intro k hk
    rw [FeedbackType.parse, if_neg (by omega), Option.some.injEq] at hitems
    rw [← hitems, ← drop_drop]
    exact mem_tmmb_items ht (by rw [length_drop]; omega) (by rw [length_drop]; omega)
  have hremb : Remb.parse data = none ↔ 2 ^ 64 ≤ f.mantissa * 2 ^ f.exponent := by
    rw [Remb.parse, hf, Option.bind_some, ← not_lt, ← shiftsBack_iff]
    simp
  constructor
  · rintro ⟨-, ⟨j', hparse', -, hlaw⟩, -, hkept⟩
    obtain rfl := Option.some.inj (hparse.symm.trans hparse')
    exact ⟨hrounds.mp hlaw, fun k hk => not_not.mp fun hfits => (hkept k hk).mpr hfits (hmem k hk)⟩
  · rintro ⟨hoverhead, hfits⟩
    refine ⟨p.read_serialize hssrcs, ⟨j, hparse, hssrc, hrounds.mpr hoverhead⟩, hremb, fun k hk => ?_⟩
    exact iff_of_false (not_not.mpr (hmem k hk)) (not_not.mpr (hfits k hk))

theorem bitrates_of_small : ∃ q, Remb.parse (Remb.mk 1 0 300001 [7]).serialize = some q ∧ q.ssrcs = [7] ∧
    Rounds 17 (300001 : UInt64).toNat q.bitrate.toNat :=
  ((bitrates_iff ⟨1, 0, 300001, [7]⟩ (by decide) ⟨7, 1000000, 40⟩
    [0x8F, 206, 0, 4, 0, 0, 0, 1, 0, 0, 0, 0, 0x52, 0x45, 0x4D, 0x42, 0, 0x0B, 0xFF, 0xFF] ⟨1, 0, 2, 0x3FFFF, []⟩ (by decide +kernel)
    .tmmbr (.inl rfl) [0x83, 205, 0, 4, 0, 0, 0, 1, 0, 0, 0, 0, 0, 0, 0, 7, 0x0D, 0xE8, 0x48, 40]
      [[0, 0, 0, 7, 0x0D, 0xE8, 0x48, 40]] (by decide +kernel)).mpr
      ⟨fun _ _ => by simp, fun k hk => by
        obtain rfl : k = 0 := by simp at hk; omega
        unfold TmmbFits
        decide +kernel⟩).1

theorem huge_tmmbr_accepted : let message := [0x83, 205, 0, 4, 0, 0, 0, 1, 0, 0, 0, 0, 0, 0, 0, 7, 0xFF, 0xFF, 0xFE, 0]
    FeedbackType.tmmbr.parse message = some [message.drop 12] ∧ ¬TmmbFits (message.drop 12) ∧
      (Tmmb.parse (message.drop 12)).map Tmmb.bitrate = some (2 ^ 63) := by
  unfold TmmbFits
  decide +kernel

end Mediasoup.Rtcp
