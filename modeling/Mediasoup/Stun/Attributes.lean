import Mediasoup.Stun.Packet

/-!
# Lists of STUN attributes

An `Attr` is an attribute with its padding. `Serialize` leaves the header followed by a list of them in the buffer
(`Emits`), and the loop of `Parse` over such a list is `readAll`, attribute by attribute (`readAttributes_eq`).
-/

namespace Mediasoup.Stun

open Lib Utils StunPacket List Memory

structure Attr where
  type : Attribute
  value : List UInt8
  padding : List UInt8
  known : type ≠ .other
  fits : value.length < 65536
  short : padding.length < 4
  aligned : (value.length + padding.length) % 4 = 0

theorem Attribute.ofType_toNat {a : Attribute} (h : a ≠ .other) : Attribute.ofType a.toNat = a := by
  cases a with
  | other => exact absurd rfl h
  | _ => rfl

theorem Attribute.toNat_lt (a : Attribute) : a.toNat < 65536 := by
  cases a <;> decide

namespace Attr

def bytes (a : Attr) : List UInt8 := set2Bytes a.type.toNat ++ (set2Bytes a.value.length ++ (a.value ++ a.padding))

theorem length_bytes (a : Attr) : a.bytes.length = 4 + (a.value.length + a.padding.length) := by
  simp only [bytes, set2Bytes, length_append, length_cons, length_nil]
  omega

theorem length_bytes_mod (a : Attr) : a.bytes.length % 4 = 0 := by
  have := a.aligned
  rw [length_bytes]
  omega

end Attr

def bytesOf (as : List Attr) : List UInt8 := as.flatMap Attr.bytes

@[simp] theorem bytesOf_nil : bytesOf [] = [] := rfl

@[simp] theorem bytesOf_cons (a : Attr) (as : List Attr) : bytesOf (a :: as) = a.bytes ++ bytesOf as := rfl

@[simp] theorem bytesOf_append (as bs : List Attr) : bytesOf (as ++ bs) = bytesOf as ++ bytesOf bs :=
  flatMap_append

theorem length_bytesOf_mod (as : List Attr) : (bytesOf as).length % 4 = 0 := by
  induction as with
  | nil => rfl
  | cons a as ih =>
    have ha := a.length_bytes_mod
    rw [bytesOf_cons, length_append]
    omega

theorem length_le_length_bytesOf (as : List Attr) : as.length ≤ (bytesOf as).length := by
  induction as with
  | nil => exact Nat.le_refl _
  | cons a as ih =>
    have ha := a.length_bytes
    rw [bytesOf_cons, length_append, length_cons]
    omega

/-! ## Reading -/

theorem get2_append_add (a c : List UInt8) (i : Nat) : get2 (a ++ c) (a.length + i) = get2 c i := by
  rw [get2, get2, Nat.add_assoc, getD_append_add, getD_append_add]

theorem get2_append (a c : List UInt8) : get2 (a ++ c) a.length = get2 c 0 := get2_append_add a c 0

theorem get2_set2Bytes (v : Nat) (rest : List UInt8) : get2 (set2Bytes v ++ rest) 0 = v % 65536 := get2Bytes_set2Bytes v

theorem get4_set4Bytes (v : Nat) (rest : List UInt8) : get4 (set4Bytes v ++ rest) 0 = v % 4294967296 :=
  get4Bytes_set4Bytes v

theorem get8_set8Bytes {v : Nat} (h : v < 2 ^ 64) : get8 (set8Bytes v) 0 = v := by
  have hhigh : get4 (set8Bytes v) 0 = v / 4294967296 % 4294967296 := get4_set4Bytes _ _
  have hlow : get4 (set8Bytes v) (0 + 4) = v % 4294967296 := get4_set4Bytes v []
  rw [get8, hhigh, hlow]
  omega

/-- The loop of `Parse` over a list of attributes that begins at `pos`. -/
def readAll : Nat → List Attr → Parsing → Except Failure Parsing
  | _, [], st => .ok st
  | pos, a :: as, st => do
    let st ← readAttribute st pos a.type a.value
    readAll (pos + a.bytes.length) as st

theorem readAll_append (pos : Nat) (as bs : List Attr) (st : Parsing) :
    readAll pos (as ++ bs) st = readAll pos as st >>= readAll (pos + (bytesOf as).length) bs := by
  induction as generalizing pos st with
  | nil => rfl
  | cons a as ih =>
    simp only [cons_append, readAll, bytesOf_cons, length_append, ← Nat.add_assoc]
    cases readAttribute st pos a.type a.value with
    | error e => rfl
    | ok st' => exact ih _ _

section

variable {before rest : List UInt8}

theorem readAttributes_step (a : Attr) (hpos : before.length % 4 = 0)
    (hlen : (before ++ (a.bytes ++ rest)).length < 65536) (rounds : Nat) (st : Parsing) :
    readAttributes (before ++ (a.bytes ++ rest)) (rounds + 1) before.length st =
      readAttribute st before.length a.type a.value >>=
        readAttributes (before ++ (a.bytes ++ rest)) rounds (before ++ a.bytes).length := by
  have hsize := a.length_bytes
  simp only [length_append] at hlen
  have htype : get2 (before ++ (a.bytes ++ rest)) before.length = a.type.toNat := by
    rw [get2_append, Attr.bytes, append_assoc, get2_set2Bytes, Nat.mod_eq_of_lt a.type.toNat_lt]
  have hlength : get2 (before ++ (a.bytes ++ rest)) (before.length + 2) = a.value.length := by
    rw [get2_append_add, Attr.bytes, append_assoc]
    rw [show 2 = (set2Bytes a.type.toNat).length from rfl, get2_append, append_assoc, get2_set2Bytes, Nat.mod_eq_of_lt a.fits]
  have hvalue : slice (before ++ (a.bytes ++ rest)) (before.length + 4) a.value.length = a.value := by
    have hcut : a.bytes ++ rest = (set2Bytes a.type.toNat ++ set2Bytes a.value.length) ++ (a.value ++ (a.padding ++ rest)) := by
      simp only [Attr.bytes, append_assoc]
    rw [slice_append_add, hcut]
    exact slice_append_left
  have hnext : padTo4Bytes ((before.length + 4 + a.value.length) % 65536) = (before ++ a.bytes).length := by
    have hshort := a.short
    have haligned := a.aligned
    rw [Nat.mod_eq_of_lt (by omega), padTo4Bytes_eq (by omega), length_append]
    omega
  have hroom : before.length + 4 ≤ (before ++ (a.bytes ++ rest)).length := by
    simp only [length_append]
    omega
  have hfits : ¬ (before ++ (a.bytes ++ rest)).length < before.length + 4 + a.value.length := by
    simp only [length_append]
    omega
  simp only [readAttributes, if_pos hroom, hlength, if_neg hfits, htype, hvalue, hnext, Attribute.ofType_toNat a.known]

theorem readAttributes_eq (as : List Attr) (hpos : before.length % 4 = 0) (hlen : (before ++ bytesOf as).length < 65536)
    {rounds : Nat} (hrounds : as.length < rounds) (st : Parsing) :
    readAttributes (before ++ bytesOf as) rounds before.length st =
      readAll before.length as st >>= fun st => .ok ((before ++ bytesOf as).length, st) := by
  induction as generalizing before rounds st with
  | nil =>
    obtain ⟨n, rfl⟩ := Nat.exists_eq_succ_of_ne_zero (Nat.ne_of_gt (Nat.zero_lt_of_lt hrounds))
    rw [bytesOf_nil, append_nil, readAttributes, if_neg (by omega)]
    rfl
  | cons a as ih =>
    obtain ⟨n, rfl⟩ := Nat.exists_eq_succ_of_ne_zero (Nat.ne_of_gt (Nat.zero_lt_of_lt hrounds))
    rw [bytesOf_cons] at hlen ⊢
    have hnext : (before ++ a.bytes).length % 4 = 0 := by
      have := a.length_bytes_mod
      rw [length_append]
      omega
    rw [readAttributes_step a hpos hlen, readAll]
    cases readAttribute st before.length a.type a.value with
    | error e => rfl
    | ok st' =>
      rw [← append_assoc] at hlen ⊢
      rw [← length_append]
      exact ih hnext hlen (Nat.lt_of_succ_lt_succ hrounds) st'

end

/-! ## Writing -/

/-- `done` is written, and there is room for `n` bytes more. -/
def Wrote (done : List UInt8) (n : Nat) (w : Writer) : Prop :=
  ∃ rest, w.buffer = done ++ rest ∧ w.pos = done.length ∧ rest.length = n

/-- Where there is room for `size` bytes, a step writes attributes of that size with the property `P`. -/
def Emits (step : Writer → Except Failure Writer) (size : Nat) (P : List Attr → Prop) : Prop :=
  ∀ done n w, Wrote done (size + n) w → ∃ as w', step w = .ok w' ∧ Wrote (done ++ bytesOf as) n w' ∧
    (bytesOf as).length = size ∧ P as

def Optional (c : Prop) (type : Attribute) (value : List UInt8) (as : List Attr) : Prop :=
  (c ∧ ∃ a : Attr, as = [a] ∧ a.type = type ∧ a.value = value) ∨ (¬ c ∧ as = [])

variable {s t : Writer → Except Failure Writer} {n m : Nat} {P Q : List Attr → Prop}

theorem Emits.imp (hs : Emits s n P) (h : ∀ as, P as → Q as) : Emits s n Q := by
  intro done room w hw
  obtain ⟨as, w', hrun, hw', hsize, hP⟩ := hs done room w hw
  exact ⟨as, w', hrun, hw', hsize, h as hP⟩

theorem Emits.of_eq (hs : Emits s n P) (h : n = m) : Emits s m P := h ▸ hs

theorem Emits.nothing (h : P []) : Emits .ok 0 P := by
  intro done room w hw
  refine ⟨[], w, rfl, ?_, rfl, h⟩
  rwa [bytesOf_nil, append_nil, ← Nat.zero_add room]

theorem Emits.kleisli (hs : Emits s n P) (ht : Emits t m Q) :
    Emits (s >=> t) (n + m) (fun as => ∃ l r, as = l ++ r ∧ P l ∧ Q r) := by
  intro done room w hw
  rw [Nat.add_assoc] at hw
  obtain ⟨l, w₁, hrun₁, hw₁, hsize₁, hP⟩ := hs done _ w hw
  obtain ⟨r, w₂, hrun₂, hw₂, hsize₂, hQ⟩ := ht _ room w₁ hw₁
  refine ⟨l ++ r, w₂, ?_, ?_, ?_, l, r, rfl, hP, hQ⟩
  · show s w >>= t = .ok w₂
    rw [hrun₁]
    exact hrun₂
  · rwa [bytesOf_append, ← append_assoc]
  · rw [bytesOf_append, length_append, hsize₁, hsize₂]

theorem emits_writeAttribute {type : Attribute} {value : List UInt8} {paddedLen : Nat} (hknown : type ≠ .other)
    (hfits : value.length < 65536) (hle : value.length ≤ paddedLen) (hlt : paddedLen < value.length + 4)
    (hmod : paddedLen % 4 = 0) :
    Emits (writeAttribute type value paddedLen) (4 + paddedLen) (fun as => ∃ a : Attr, as = [a] ∧ a.type = type ∧ a.value = value) := by
  rintro done room ⟨_, _⟩ ⟨rest, rfl, rfl, hroom⟩
  have hpadding : ((rest.drop (4 + value.length)).take (paddedLen - value.length)).length = paddedLen - value.length := by
    rw [length_take, length_drop]
    omega
  have hwritten : (set2Bytes type.toNat ++ (set2Bytes value.length ++ value)).length = 4 + value.length := by
    simp only [set2Bytes, length_append, length_cons, length_nil]
    omega
  let a : Attr := ⟨type, value, (rest.drop (4 + value.length)).take (paddedLen - value.length), hknown, hfits,
    by rw [hpadding]; omega, by rw [hpadding]; omega⟩
  have hsize : a.bytes.length = 4 + paddedLen := by
    rw [Attr.length_bytes, hpadding]
    show 4 + (value.length + (paddedLen - value.length)) = _
    omega
  have hwrite : write (done ++ rest) done.length (set2Bytes type.toNat ++ (set2Bytes value.length ++ value)) =
      some (done ++ (a.bytes ++ rest.drop (4 + paddedLen))) := by
    have hcut : rest = rest.take (4 + value.length) ++ ((rest.drop (4 + value.length)).take (paddedLen - value.length) ++
        rest.drop (4 + paddedLen)) := by
      have hdrop : rest.drop (4 + paddedLen) = (rest.drop (4 + value.length)).drop (paddedLen - value.length) := by
        rw [drop_drop]
        congr 1
        omega
      rw [hdrop, take_append_drop, take_append_drop]
    rw [hcut, write_append (by rw [hwritten, length_take]; omega), ← hcut]
    simp only [a, Attr.bytes, append_assoc]
  refine ⟨[a], ⟨done ++ (a.bytes ++ rest.drop (4 + paddedLen)), done.length + 4 + paddedLen⟩, ?_, ?_, ?_, a, rfl, rfl, rfl⟩
  · simp only [writeAttribute, hwrite]
  · refine ⟨rest.drop (4 + paddedLen), ?_, ?_, ?_⟩
    · rw [bytesOf_cons, bytesOf_nil, append_nil, append_assoc]
    · rw [bytesOf_cons, bytesOf_nil, append_nil, length_append, hsize, Nat.add_assoc]
    · rw [length_drop]
      omega
  · rw [bytesOf_cons, bytesOf_nil, append_nil, hsize]

theorem emits_of_length {type : Attribute} {value : List UInt8} {len : Nat} (hknown : type ≠ .other)
    (hlen : value.length = len) (hlt : len < 65536) (hmod : len % 4 = 0) :
    Emits (writeAttribute type value len) (4 + len) (fun as => ∃ a : Attr, as = [a] ∧ a.type = type ∧ a.value = value) :=
  emits_writeAttribute hknown (by omega) (by omega) (by omega) hmod

theorem emits_ite {c : Prop} [Decidable c] {type : Attribute} {value : List UInt8} {len : Nat}
    (hknown : type ≠ .other) (hlen : value.length = len) (hlt : len < 65536) (hmod : len % 4 = 0) :
    Emits (fun w => if c then writeAttribute type value len w else .ok w) (if c then 4 + len else 0)
      (Optional c type value) := by
  by_cases hc : c
  · simp only [if_pos hc]
    exact (emits_of_length hknown hlen hlt hmod).imp fun as has => .inl ⟨hc, has⟩
  · simp only [if_neg hc]
    exact Emits.nothing (.inr ⟨hc, rfl⟩)

end Mediasoup.Stun
