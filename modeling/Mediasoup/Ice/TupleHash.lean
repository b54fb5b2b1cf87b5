import Mediasoup.Ice.Server
import Mathlib.Data.UInt
import Mathlib.Algebra.Order.Ring.Nat

/-!
# The hash of a tuple

Tuples are compared by a hash of 64 bits: 16 of the remote port, 32 and 14 of the remote address, and one each of the address
family and the protocol. All of an IPv4 address fits in (`address << 16`); of an IPv6 address it holds the exclusive or of its
four words and the upper bits of the first one (`compare_iff`). Two IPv6 endpoints can have it all in common
(`compare_two_endpoints`).
-/

namespace Mediasoup.Ice

/-- `sockaddr_in` and `sockaddr_in6`: the address in its 32-bit words. `SetHash` reads those of `inet6` in
the byte order of the host. -/
inductive RemoteAddress
  | inet (address : UInt32) (port : UInt16)
  | inet6 (a0 a1 a2 a3 : UInt32) (port : UInt16)
  deriving DecidableEq

namespace TransportTuple

def setHash (protocol : Protocol) (remote : RemoteAddress) : UInt64 :=
  let hash := match remote with
    | .inet address port => port.toUInt64 <<< 48 ||| address.toUInt64 <<< 16 ||| 0x0000
    | .inet6 a0 a1 a2 a3 port =>
      port.toUInt64 <<< 48 ||| (a0 ^^^ a1 ^^^ a2 ^^^ a3).toUInt64 <<< 16 ||| (a0 >>> 16 &&& 0xFFFC).toUInt64 ||| 0x0002
  match protocol with
  | .udp => hash ||| 0x0000
  | .tcp => hash ||| 0x0001

def ofRemote (protocol : Protocol) (remote : RemoteAddress) : TransportTuple :=
  { hash := setHash protocol remote, protocol := protocol }

end TransportTuple

def RemoteAddress.SameBits : RemoteAddress → RemoteAddress → Prop
  | .inet a p, .inet b q => a = b ∧ p = q
  | .inet6 a0 a1 a2 a3 p, .inet6 b0 b1 b2 b3 q =>
    a0 ^^^ a1 ^^^ a2 ^^^ a3 = b0 ^^^ b1 ^^^ b2 ^^^ b3 ∧ a0 >>> 18 = b0 >>> 18 ∧ p = q
  | _, _ => False

namespace TransportTuple

/-! ## The fields of the hash -/

theorem toNat_fields (port : UInt16) (word : UInt32) {low : UInt64} (hlow : low.toNat < 2 ^ 16) :
    (port.toUInt64 <<< 48 ||| word.toUInt64 <<< 16 ||| low).toNat = 2 ^ 48 * port.toNat + (2 ^ 16 * word.toNat + low.toNat) := by
  have hport := port.toNat_lt
  have hword := word.toNat_lt
  have hp : (port.toUInt64 <<< 48).toNat = 2 ^ 48 * port.toNat := by
    simp [Nat.shiftLeft_eq]
    omega
  have hw : (word.toUInt64 <<< 16).toNat = 2 ^ 16 * word.toNat := by
    simp [Nat.shiftLeft_eq]
    omega
  rw [UInt64.or_assoc, UInt64.toNat_or, UInt64.toNat_or, hp, hw, ← Nat.two_pow_add_eq_or_of_lt hlow,
    ← Nat.two_pow_add_eq_or_of_lt (by omega)]

theorem fields_inj {p q : UInt16} {v w : UInt32} {x y : UInt64} (hx : x.toNat < 2 ^ 16) (hy : y.toNat < 2 ^ 16) :
    p.toUInt64 <<< 48 ||| v.toUInt64 <<< 16 ||| x = q.toUInt64 <<< 48 ||| w.toUInt64 <<< 16 ||| y ↔
      p = q ∧ v = w ∧ x.toNat = y.toNat := by
  have hv := v.toNat_lt
  have hw := w.toNat_lt
  rw [← UInt64.toNat_inj, toNat_fields p v hx, toNat_fields q w hy, ← UInt16.toNat_inj, ← UInt32.toNat_inj]
  omega

def bit : Protocol → UInt64
  | .udp => 0x0000
  | .tcp => 0x0001

theorem bit_lt (p : Protocol) : (bit p).toNat < 2 := by cases p <;> decide

theorem bit_inj {p q : Protocol} : (bit p).toNat = (bit q).toNat ↔ p = q := by cases p <;> cases q <;> decide

theorem toNat_low (p : Protocol) (a0 : UInt32) :
    ((a0 >>> 16 &&& 0xFFFC).toUInt64 ||| (0x0002 ||| bit p)).toNat = 4 * (a0 >>> 18).toNat + (2 + (bit p).toNat) ∧
      (a0 >>> 18).toNat < 2 ^ 14 := by
  have hlt := a0.toNat_lt
  have hflags : (0x0002 ||| bit p).toNat = 2 + (bit p).toNat := by cases p <;> decide
  have hmod : (a0.toNat / 2 ^ 16 &&& 0xFFFC) % 2 ^ 2 = 0 := by
    rw [Nat.and_mod_two_pow]
    exact Nat.and_zero _
  have hdiv : (a0.toNat / 2 ^ 16 &&& 0xFFFC) / 2 ^ 2 = a0.toNat / 2 ^ 18 := by
    rw [Nat.and_div_two_pow, Nat.div_div_eq_div_mul]
    exact Nat.and_two_pow_sub_one_of_lt_two_pow (n := 14) (by omega)
  have hword : (a0 >>> 16 &&& 0xFFFC).toUInt64.toNat = 2 ^ 2 * (a0 >>> 18).toNat := by
    simp [Nat.shiftRight_eq_div_pow] at hmod hdiv ⊢
    omega
  constructor
  · rw [UInt64.toNat_or, hword, hflags, ← Nat.two_pow_add_eq_or_of_lt (by have := bit_lt p; omega)]
  · simp [Nat.shiftRight_eq_div_pow]
    omega

theorem setHash_inet (p : Protocol) (address : UInt32) (port : UInt16) :
    setHash p (.inet address port) = port.toUInt64 <<< 48 ||| address.toUInt64 <<< 16 ||| bit p := by
  cases p <;> simp [setHash, bit]

theorem setHash_inet6 (p : Protocol) (a0 a1 a2 a3 : UInt32) (port : UInt16) :
    setHash p (.inet6 a0 a1 a2 a3 port) = port.toUInt64 <<< 48 ||| (a0 ^^^ a1 ^^^ a2 ^^^ a3).toUInt64 <<< 16 |||
      ((a0 >>> 16 &&& 0xFFFC).toUInt64 ||| (0x0002 ||| bit p)) := by
  rw [← UInt64.or_assoc, ← UInt64.or_assoc]
  cases p <;> rfl

/-- **What a hash identifies**: protocol, address family and port, an IPv4 address, and of an IPv6 address the exclusive or of
its words and the upper 14 bits of the first one. -/
theorem compare_iff (p q : Protocol) (r s : RemoteAddress) :
    (ofRemote p r).compare (ofRemote q s) = true ↔ p = q ∧ r.SameBits s := by
  have hp := bit_lt p
  have hq := bit_lt q
  rw [compare, beq_iff_eq, ofRemote, ofRemote, ← bit_inj]
  cases r with
  | inet a port =>
    cases s with
    | inet b port' =>
      rw [setHash_inet, setHash_inet, fields_inj (by omega) (by omega)]
      simp only [RemoteAddress.SameBits]
      tauto
    | inet6 b0 b1 b2 b3 port' =>
      obtain ⟨hlow, hlt⟩ := toNat_low q b0
      rw [setHash_inet, setHash_inet6, fields_inj (by omega) (by omega), hlow]
      simp only [RemoteAddress.SameBits, and_false, iff_false]
      rintro ⟨-, -, hfamily⟩
      omega
  | inet6 a0 a1 a2 a3 port =>
    obtain ⟨hlow, hlt⟩ := toNat_low p a0
    cases s with
    | inet b port' =>
      rw [setHash_inet6, setHash_inet, fields_inj (by omega) (by omega), hlow]
      simp only [RemoteAddress.SameBits, and_false, iff_false]
      rintro ⟨-, -, hfamily⟩
      omega
    | inet6 b0 b1 b2 b3 port' =>
      obtain ⟨hlow', hlt'⟩ := toNat_low q b0
      have hboth : 4 * (a0 >>> 18).toNat + (2 + (bit p).toNat) = 4 * (b0 >>> 18).toNat + (2 + (bit q).toNat) ↔
          (bit p).toNat = (bit q).toNat ∧ (a0 >>> 18).toNat = (b0 >>> 18).toNat := by omega
      rw [setHash_inet6, setHash_inet6, fields_inj (by omega) (by omega), hlow, hlow', hboth, UInt32.toNat_inj]
      simp only [RemoteAddress.SameBits]
      tauto

theorem compare_two_endpoints :
    (ofRemote .udp (.inet6 0x20010db8 0 0 0x10001 5000)).compare (ofRemote .udp (.inet6 0x20010db8 0 0x10001 0 5000)) = true ∧
      RemoteAddress.inet6 0x20010db8 0 0 0x10001 5000 ≠ .inet6 0x20010db8 0 0x10001 0 5000 := by
  decide

end TransportTuple

end Mediasoup.Ice
