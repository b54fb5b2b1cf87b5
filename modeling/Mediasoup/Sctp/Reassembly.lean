import Mathlib.Data.List.Basic
import Mediasoup.Sctp.Receive

/-!
# Reassembly of SCTP messages

Messages come one after another, each cut into chunks. A message that fits is delivered once and whole (`receiveAll_fits`), and an
oversized one is dropped when its last chunk passes the limit (`receiveAll_oversized`); but the bytes before that chunk stay in
the buffer, and only a different SSN discards them. `received_of_lateOverflow` says which runs deliver exactly the messages that
fit.
-/

namespace Mediasoup.Sctp

open List SentMessage

namespace Association

/-- The buffer is empty, or holds bytes that the next chunk of `ssn` discards. -/
def ReadyFor (s : Association) (ssn : UInt16) : Prop := s.messageBuffer = [] ∨ s.lastSsnReceived ≠ ssn

variable {s : Association}

theorem updateSsn_of_ready {ssn : UInt16} (h : s.ReadyFor ssn) :
    s.updateSsn ssn = { s with messageBuffer := [], lastSsnReceived := ssn } := by
  rcases h with h | h
  · simp [updateSsn, h]
  simp only [updateSsn, Association.mk.injEq, true_and, and_true]
  split
  · rfl
  · rename_i hne
    simp only [ne_eq, length_eq_zero_iff, not_and_or, not_not] at hne
    exact hne.resolve_right fun e => h e.symm

theorem updateSsn_of_same {ssn : UInt16} (h : s.lastSsnReceived = ssn) : s.updateSsn ssn = s := by
  cases s
  simp_all [updateSsn]

theorem receive_updateSsn (s : Association) {c : Chunk} (h : c.ppid ≠ 50) :
    (s.updateSsn c.ssn).onUsrSctpReceiveSctpData c = s.onUsrSctpReceiveSctpData c := by
  have htwice : (s.updateSsn c.ssn).updateSsn c.ssn = s.updateSsn c.ssn := updateSsn_of_same rfl
  simp only [onUsrSctpReceiveSctpData, h, if_false, htwice]

/-! ## One chunk, with the buffer of its own message -/

section Chunk

variable {s : Association} {c : Chunk}

theorem receive_buffered (hp : c.ppid ≠ 50) (hs : s.lastSsnReceived = c.ssn) (he : c.eor = false)
    (hl : s.messageBuffer.length + c.data.length ≤ s.maxSctpMessageSize) :
    s.onUsrSctpReceiveSctpData c = { s with messageBuffer := s.messageBuffer ++ c.data } := by
  simp [onUsrSctpReceiveSctpData, hp, updateSsn_of_same hs, he, Nat.not_lt.mpr hl]

theorem receive_last (hp : c.ppid ≠ 50) (hs : s.lastSsnReceived = c.ssn) (he : c.eor = true)
    (hl : s.messageBuffer.length + c.data.length ≤ s.maxSctpMessageSize) :
    s.onUsrSctpReceiveSctpData c =
      { s with messageBuffer := [], received := s.received ++ [⟨c.streamId, c.ppid, s.messageBuffer ++ c.data⟩] } := by
  by_cases hb : s.messageBuffer = []
  · simp_all [onUsrSctpReceiveSctpData, updateSsn, onMessageReceived]
  · simp [onUsrSctpReceiveSctpData, hp, updateSsn_of_same hs, he, Nat.not_lt.mpr hl, hb, onMessageReceived]

theorem receive_overflow (hp : c.ppid ≠ 50) (hs : s.lastSsnReceived = c.ssn)
    (hl : s.maxSctpMessageSize < s.messageBuffer.length + c.data.length) :
    s.onUsrSctpReceiveSctpData c = { s with lastSsnReceived := 0 } := by
  simp [onUsrSctpReceiveSctpData, hp, updateSsn_of_same hs, hl]

end Chunk

/-! ## The chunks of one message -/

variable (m : SentMessage)

theorem receiveAll_append (s : Association) (cs ds : List Chunk) :
    s.receiveAll (cs ++ ds) = (s.receiveAll cs).receiveAll ds := foldl_append

theorem receiveAll_init : ∀ (init : List (List UInt8)) (s : Association), s.lastSsnReceived = m.ssn →
    s.messageBuffer.length + init.flatten.length ≤ s.maxSctpMessageSize →
      s.receiveAll (init.map (m.chunk false)) = { s with messageBuffer := s.messageBuffer ++ init.flatten }
  | [], s, _, _ => by simp [receiveAll]
  | c :: init, s, hs, hl => by
    simp only [flatten_cons, length_append] at hl
    have hstep : s.onUsrSctpReceiveSctpData (m.chunk false c) = { s with messageBuffer := s.messageBuffer ++ c } :=
      receive_buffered m.ppid_ne hs rfl (by simp only [chunk]; omega)
    have ih := receiveAll_init init { s with messageBuffer := s.messageBuffer ++ c } hs
      (by simp only [length_append]; omega)
    simp only [receiveAll, map_cons, foldl_cons, hstep] at ih ⊢
    rw [ih, flatten_cons, append_assoc]

theorem receiveAll_calls_of_ready (h : s.ReadyFor m.ssn) :
    s.receiveAll m.calls = { s with messageBuffer := [], lastSsnReceived := m.ssn }.receiveAll m.calls := by
  rw [← updateSsn_of_ready h]
  obtain ⟨c, cs, hcalls, hp, hssn⟩ : ∃ c cs, m.calls = c :: cs ∧ c.ppid ≠ 50 ∧ c.ssn = m.ssn := by
    unfold calls
    cases m.chunks.dropLast with
    | nil => exact ⟨_, _, rfl, m.ppid_ne, rfl⟩
    | cons d ds => exact ⟨_, _, rfl, m.ppid_ne, rfl⟩
  simp only [receiveAll, hcalls, foldl_cons, ← hssn, receive_updateSsn s hp]

theorem data_eq : m.data = m.chunks.dropLast.flatten ++ m.chunks.getLast m.chunks_ne := by
  conv_lhs => rw [data, ← dropLast_append_getLast m.chunks_ne]
  simp

theorem receiveAll_calls_eq (h : s.ReadyFor m.ssn)
    (hl : m.chunks.dropLast.flatten.length ≤ s.maxSctpMessageSize) :
    s.receiveAll m.calls =
      { s with messageBuffer := m.chunks.dropLast.flatten, lastSsnReceived := m.ssn }.onUsrSctpReceiveSctpData
        (m.chunk true (m.chunks.getLast m.chunks_ne)) := by
  rw [receiveAll_calls_of_ready m h, calls, receiveAll_append, receiveAll_init m _ _ rfl (by simpa using hl)]
  rfl

theorem receiveAll_fits (h : s.ReadyFor m.ssn) (hl : m.data.length ≤ s.maxSctpMessageSize) : s.receiveAll m.calls =
      { s with messageBuffer := [], lastSsnReceived := m.ssn, received := s.received ++ [m.message] } := by
  have hlen : m.data.length = m.chunks.dropLast.flatten.length + (m.chunks.getLast m.chunks_ne).length := by
    rw [data_eq, length_append]
  rw [receiveAll_calls_eq m h (by omega), receive_last m.ppid_ne rfl rfl (by simp only [chunk]; omega),
    message, data_eq]
  rfl

/-- **An oversized message** whose last chunk is the one that passes the limit is not delivered; the chunks before the
last one stay in the buffer, under SSN 0. -/
theorem receiveAll_oversized (h : s.ReadyFor m.ssn) (hl : s.maxSctpMessageSize < m.data.length)
    (hinit : m.chunks.dropLast.flatten.length ≤ s.maxSctpMessageSize) :
    s.receiveAll m.calls = { s with messageBuffer := m.chunks.dropLast.flatten, lastSsnReceived := 0 } := by
  have hlen : m.data.length = m.chunks.dropLast.flatten.length + (m.chunks.getLast m.chunks_ne).length := by
    rw [data_eq, length_append]
  rw [receiveAll_calls_eq m h hinit, receive_overflow m.ppid_ne rfl (by simp only [chunk]; omega)]

end Association

/-! ## Whole runs -/

/-- The limit is passed by last chunks only, and what such a message leaves in the buffer is discarded by the next
message: an oversized message of several chunks is not followed by one with SSN 0. -/
def LateOverflow (max : Nat) : List SentMessage → Prop
  | [] => True
  | m :: ms =>
    (max < m.data.length → m.chunks.dropLast.flatten.length ≤ max ∧
      (1 < m.chunks.length → ∀ m' ∈ ms.head?, m'.ssn ≠ 0)) ∧ LateOverflow max ms

def deliverable (max : Nat) (ms : List SentMessage) : List Message :=
  (ms.filter fun m => m.data.length ≤ max).map message

theorem receiveAll_received : ∀ (ms : List SentMessage) (s : Association),
    LateOverflow s.maxSctpMessageSize ms → (∀ m ∈ ms.head?, s.ReadyFor m.ssn) →
      (s.receiveAll (ms.flatMap calls)).received = s.received ++ deliverable s.maxSctpMessageSize ms
  | [], s, _, _ => by simp [Association.receiveAll, deliverable]
  | m :: ms, s, hlate, hready => by
    have hm : s.ReadyFor m.ssn := hready m rfl
    rw [flatMap_cons, Association.receiveAll_append]
    by_cases hl : m.data.length ≤ s.maxSctpMessageSize
    · have ih := receiveAll_received ms
        { s with messageBuffer := [], lastSsnReceived := m.ssn, received := s.received ++ [m.message] } hlate.2
        fun _ _ => Or.inl rfl
      rw [Association.receiveAll_fits m hm hl, ih]
      simp [deliverable, hl]
    obtain ⟨hinit, hnext⟩ := hlate.1 (by omega)
    have ih := receiveAll_received ms
      { s with messageBuffer := m.chunks.dropLast.flatten, lastSsnReceived := 0 } hlate.2
    rw [Association.receiveAll_oversized m hm (by omega) hinit, ih]
    · simp [deliverable, hl]
    · -- a one-chunk message leaves nothing behind; after the others the next SSN is not 0
      intro m' hm'
      by_cases hone : 1 < m.chunks.length
      · exact Or.inr (hnext hone m' hm').symm
      · refine Or.inl ?_
        have : m.chunks.dropLast = [] := eq_nil_of_length_eq_zero (by rw [length_dropLast]; omega)
        simp [this]

/-- **Reassembly.** A run in which only last chunks pass the limit delivers exactly the messages that fit, in order. -/
theorem received_of_lateOverflow (max : Nat) (ms : List SentMessage) (h : LateOverflow max ms) :
    (Association.receiveAll { maxSctpMessageSize := max } (ms.flatMap calls)).received = deliverable max ms := by
  simpa using receiveAll_received ms { maxSctpMessageSize := max } h fun _ _ => Or.inl rfl

theorem received_around_oversized : (Association.receiveAll { maxSctpMessageSize := 4 }
        ([⟨1, 6, 51, [[1, 2], [3]], by decide, by decide, by decide⟩,
          ⟨1, 7, 51, [[4, 5, 6], [7, 8]], by decide, by decide, by decide⟩,
          ⟨1, 8, 51, [[9]], by decide, by decide, by decide⟩].flatMap calls)).received =
      [⟨1, 51, [1, 2, 3]⟩, ⟨1, 51, [9]⟩] :=
  (received_of_lateOverflow 4 _ (by simp [LateOverflow, data])).trans (by decide)

/-- With a limit of 4 bytes, a message of 7 bytes that passes the limit with its second of three chunks: its last chunk
is delivered as a message of its own. -/
theorem oversized_tail_delivered : ¬ (Association.receiveAll { maxSctpMessageSize := 4 }
        ([⟨1, 7, 51, [[1, 2, 3], [4, 5], [6, 7]], by decide, by decide, by decide⟩].flatMap calls)).received =
      deliverable 4 [⟨1, 7, 51, [[1, 2, 3], [4, 5], [6, 7]], by decide, by decide, by decide⟩] := by
  decide

end Mediasoup.Sctp
