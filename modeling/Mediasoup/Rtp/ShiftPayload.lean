import Mediasoup.Rtp.RtpPacket

/-!
# Shifting a part of the payload

`RtpPacket::ShiftPayload` makes room in the payload, or takes it out again: it moves the payload behind an offset, with the
padding, by some bytes. `shiftPayload_expand`: what is moved and what is in front of it keep their bytes, and the shift back
restores the packet.
-/

namespace Mediasoup.Rtp.RtpPacket

open Lib List Memory

def shiftPayload (p : RtpPacket) (payloadOffset shift : Nat) (expand : Bool) : Except Failure RtpPacket :=
  if shift = 0 then pure p
  else if p.payloadLength ≤ payloadOffset then .error (.assertion "payload offset bigger than payload size")
  else if expand then do
    let shiftedLen := p.payloadLength + p.payloadPadding - payloadOffset
    let memory ← inBuffer (move p.memory (p.payload + payloadOffset + shift : Nat) (p.payload + payloadOffset) shiftedLen)
    pure { p with memory, payloadLength := p.payloadLength + shift, size := p.size + shift }
  else if p.payloadLength - payloadOffset < shift then .error (.assertion "shift too big")
  else do
    let shiftedLen := p.payloadLength + p.payloadPadding - payloadOffset - shift
    let memory ← inBuffer (move p.memory (p.payload + payloadOffset : Nat) (p.payload + payloadOffset + shift) shiftedLen)
    pure { p with memory, payloadLength := p.payloadLength - shift, size := p.size - shift }

/-- The payload of `q` is that of `p` with `n` bytes more at the offset `k`. -/
structure Expanded (p q : RtpPacket) (k n : Nat) : Prop where
  payload : q.payload = p.payload
  payloadLength : q.payloadLength = p.payloadLength + n
  payloadPadding : q.payloadPadding = p.payloadPadding
  size : q.size = p.size + n
  before : q.memory.take (p.payload + k) = p.memory.take (p.payload + k)
  after : slice q.memory (p.payload + k + n) (p.payloadLength + p.payloadPadding - k) =
    slice p.memory (p.payload + k) (p.payloadLength + p.payloadPadding - k)

/-- `q` has the same bytes as `p`, behind which the memory may be another one. -/
structure SamePacket (p q : RtpPacket) : Prop where
  payload : q.payload = p.payload
  payloadLength : q.payloadLength = p.payloadLength
  payloadPadding : q.payloadPadding = p.payloadPadding
  size : q.size = p.size
  bytes : q.memory.take (p.payload + p.payloadLength + p.payloadPadding) =
    p.memory.take (p.payload + p.payloadLength + p.payloadPadding)

variable {p q : RtpPacket} {k n : Nat}

theorem inBuffer_eq_ok {α : Type} {x : Option α} {a : α} (h : inBuffer x = .ok a) : x = some a := by
  cases x with
  | none => cases h
  | some b =>
    cases h
    rfl

theorem exists_of_expand (hn : n ≠ 0) (h : p.shiftPayload k n true = .ok q) : k < p.payloadLength ∧ ∃ memory,
      move p.memory (p.payload + k + n : Nat) (p.payload + k) (p.payloadLength + p.payloadPadding - k) = some memory ∧
        q = { p with memory, payloadLength := p.payloadLength + n, size := p.size + n } := by
  rw [shiftPayload, if_neg hn] at h
  by_cases hk : p.payloadLength ≤ k
  · simp [if_pos hk] at h
  rw [if_neg hk, if_pos rfl] at h
  obtain ⟨memory, hmove, hq⟩ := exists_of_bind_eq_ok h
  cases hq
  exact ⟨Nat.lt_of_not_le hk, memory, inBuffer_eq_ok hmove, rfl⟩

theorem shiftPayload_shrink {memory : List UInt8} (hn : n ≠ 0) (hk : k < p.payloadLength) (hfits : n ≤ p.payloadLength - k)
    (hmove : move p.memory (p.payload + k : Nat) (p.payload + k + n) (p.payloadLength + p.payloadPadding - k - n) =
      some memory) :
    p.shiftPayload k n false = .ok { p with memory, payloadLength := p.payloadLength - n, size := p.size - n } := by
  rw [shiftPayload, if_neg hn, if_neg (Nat.not_le.mpr hk), if_neg Bool.false_ne_true, if_neg (Nat.not_lt.mpr hfits)]
  simp only [hmove]
  rfl

/-- **The payload is expanded**, and restored by the shift back. -/
theorem shiftPayload_expand (p q : RtpPacket) (k n : Nat) (h : p.shiftPayload k n true = .ok q) :
    p.Expanded q k n ∧ ∃ r, q.shiftPayload k n false = .ok r ∧ p.SamePacket r := by
  by_cases hn : n = 0
  · subst hn
    cases h
    exact ⟨⟨rfl, rfl, rfl, rfl, rfl, rfl⟩, p, rfl, ⟨rfl, rfl, rfl, rfl, rfl⟩⟩
  obtain ⟨hk, memory, hmove, rfl⟩ := exists_of_expand hn h
  obtain ⟨⟨hsrc, hdst⟩, hmemory⟩ := move_eq_some_iff.mp hmove
  have hend : p.payload + p.payloadLength + p.payloadPadding =
      p.payload + k + (p.payloadLength + p.payloadPadding - k) := by omega
  have hback : p.payloadLength + n + p.payloadPadding - k - n = p.payloadLength + p.payloadPadding - k := by omega
  have hbefore : memory.take (p.payload + k) = p.memory.take (p.payload + k) := by
    rw [hmemory, take_append_of_le_length (by rw [length_take]; omega), take_take, Nat.min_eq_left (Nat.le_add_right _ _)]
  have hafter : slice memory (p.payload + k + n) (p.payloadLength + p.payloadPadding - k) =
      slice p.memory (p.payload + k) (p.payloadLength + p.payloadPadding - k) := by
    rw [slice, hmemory, drop_left' (length_take_of_le (by omega)), take_left' (length_slice hsrc)]
  have hsize : memory.length = p.memory.length := by
    rw [hmemory, length_append, length_append, length_take_of_le (by omega), length_slice hsrc, length_drop]
    omega
  refine ⟨⟨rfl, rfl, rfl, rfl, hbefore, hafter⟩, _, shiftPayload_shrink hn ?_ ?_ (move_eq_some_iff.mpr ⟨?_, rfl⟩), ?_⟩
  · exact Nat.lt_add_right n hk
  · show n ≤ p.payloadLength + n - k
    omega
  · show p.payload + k + n + (p.payloadLength + n + p.payloadPadding - k - n) ≤ memory.length ∧
      p.payload + k + (p.payloadLength + n + p.payloadPadding - k - n) ≤ memory.length
    omega
  · refine ⟨rfl, Nat.add_sub_cancel _ _, rfl, Nat.add_sub_cancel _ _, ?_⟩
    simp only [hback, hafter, hbefore]
    have hlen : (p.memory.take (p.payload + k) ++
        slice p.memory (p.payload + k) (p.payloadLength + p.payloadPadding - k)).length =
          p.payload + k + (p.payloadLength + p.payloadPadding - k) := by
      rw [length_append, length_take_of_le (by omega), length_slice hsrc]
    rw [hend, ← append_assoc, take_left' hlen]
    exact take_add.symm

theorem shiftPayload_threeBytes : ∃ r, (mk [1, 2, 3, 2, 3] none 0 5 0 5 ∅ ∅).shiftPayload 1 2 false = .ok r ∧
    SamePacket (mk [1, 2, 3, 0, 0] none 0 3 0 3 ∅ ∅) r :=
  (shiftPayload_expand (mk [1, 2, 3, 0, 0] none 0 3 0 3 ∅ ∅) _ 1 2 rfl).2

end Mediasoup.Rtp.RtpPacket
