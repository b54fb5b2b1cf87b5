import Mathlib.Algebra.Order.Ring.Nat
import Mathlib.Data.UInt

/-!
# Bytes in network order

`Utils::Byte`: fixed-size fields in network byte order. A value written is truncated to the width of its field; what is
read back is the value modulo that width (`get2Bytes_set2Bytes`, `get3Bytes_set3Bytes`,
`get4Bytes_set4Bytes`).
-/

namespace Mediasoup.Utils

def get2Bytes (b0 b1 : UInt8) : Nat := b0.toNat * 256 + b1.toNat

def get3Bytes (b0 b1 b2 : UInt8) : Nat := b0.toNat * 65536 + b1.toNat * 256 + b2.toNat

def get4Bytes (b0 b1 b2 b3 : UInt8) : Nat := b0.toNat * 16777216 + b1.toNat * 65536 + b2.toNat * 256 + b3.toNat

variable (value : Nat)

def set1Byte : List UInt8 := [.ofNat value]

def set2Bytes : List UInt8 := [.ofNat (value / 256), .ofNat value]

def set3Bytes : List UInt8 := [.ofNat (value / 65536), .ofNat (value / 256), .ofNat value]

def set4Bytes : List UInt8 :=
  [.ofNat (value / 16777216), .ofNat (value / 65536), .ofNat (value / 256), .ofNat value]

def set8Bytes : List UInt8 := set4Bytes (value / 4294967296) ++ set4Bytes value

def padTo4Bytes (size : Nat) : Nat := if size % 4 ≠ 0 then (size / 4 * 4 + 4) % 65536 else size

def toInt16 : Int := if value < 32768 then value else value - 65536

/-- The 16 bits of a value that is written as `uint16_t`. -/
def ofInt16 (value : Int) : Nat := (value % 65536).toNat

theorem get2Bytes_lt (b0 b1 : UInt8) : get2Bytes b0 b1 < 65536 := by
  have := b0.toNat_lt
  have := b1.toNat_lt
  unfold get2Bytes
  omega

theorem get2Bytes_set2Bytes (v : Nat) : get2Bytes (.ofNat (v / 256)) (.ofNat v) = v % 65536 := by
  simp only [get2Bytes, UInt8.toNat_ofNat']
  omega

theorem set2Bytes_get2Bytes (b0 b1 : UInt8) : set2Bytes (get2Bytes b0 b1) = [b0, b1] := by
  have h0 := b0.toNat_lt
  have h1 := b1.toNat_lt
  simp only [set2Bytes, get2Bytes, List.cons.injEq, and_true, ← UInt8.toNat_inj, UInt8.toNat_ofNat']
  omega

theorem get3Bytes_set3Bytes (v : Nat) : get3Bytes (.ofNat (v / 65536)) (.ofNat (v / 256)) (.ofNat v) = v % 16777216 := by
  simp only [get3Bytes, UInt8.toNat_ofNat']
  omega

theorem get4Bytes_set4Bytes (v : Nat) :
    get4Bytes (.ofNat (v / 16777216)) (.ofNat (v / 65536)) (.ofNat (v / 256)) (.ofNat v) = v % 4294967296 := by
  simp only [get4Bytes, UInt8.toNat_ofNat']
  omega

theorem set4Bytes_get4Bytes (b0 b1 b2 b3 : UInt8) : set4Bytes (get4Bytes b0 b1 b2 b3) = [b0, b1, b2, b3] := by
  have h0 := b0.toNat_lt
  have h1 := b1.toNat_lt
  have h2 := b2.toNat_lt
  have h3 := b3.toNat_lt
  simp only [set4Bytes, get4Bytes, List.cons.injEq, and_true, ← UInt8.toNat_inj, UInt8.toNat_ofNat']
  omega

theorem get4Bytes_lt (b0 b1 b2 b3 : UInt8) : get4Bytes b0 b1 b2 b3 < 4294967296 := by
  have h0 := b0.toNat_lt
  have h1 := b1.toNat_lt
  have h2 := b2.toNat_lt
  have h3 := b3.toNat_lt
  unfold get4Bytes
  omega

theorem padTo4Bytes_eq {size : Nat} (h : (size + 3) / 4 * 4 < 65536) : padTo4Bytes size = (size + 3) / 4 * 4 := by
  unfold padTo4Bytes
  split <;> omega

theorem toInt16_ofInt16 {v : Int} (h : -32768 ≤ v) (h' : v ≤ 32767) : toInt16 (ofInt16 v) = v := by
  unfold toInt16 ofInt16
  split <;> omega

theorem toInt16_bounds (v : Int) : -32768 ≤ toInt16 (ofInt16 v) ∧ toInt16 (ofInt16 v) ≤ 32767 := by
  unfold toInt16 ofInt16
  split <;> omega

theorem ofInt16_lt (v : Int) : ofInt16 v < 65536 := by
  unfold ofInt16
  omega

/-! ## Fields in a list of bytes -/

def get2 (data : List UInt8) (i : Nat) : Nat := get2Bytes (data.getD i 0) (data.getD (i + 1) 0)

def get4 (data : List UInt8) (i : Nat) : Nat :=
  get4Bytes (data.getD i 0) (data.getD (i + 1) 0) (data.getD (i + 2) 0) (data.getD (i + 3) 0)

def get8 (data : List UInt8) (i : Nat) : Nat := get4 data i * 4294967296 + get4 data (i + 4)

end Mediasoup.Utils
