import Mediasoup.Channel.Messages
import Mediasoup.Lib.Run

/-!
# The worker's end of the channel

The worker reads the requests of the application into a buffer of `MessageMaxLen` bytes. `Channel.request` accepts as many and
puts four before them. However the stream is cut into reads, the requests are delivered up to the first one whose frame does not
fit the buffer (`Represents`), which leaves no room for the next read, so that it fails (`delivered_iff_fits`).
-/

namespace Mediasoup.Channel

open Lib List Framing

/-- `Channel.request`: "Channel request too big", or what is written. -/
def request (e : Endianness) (message : List UInt8) : Option (List UInt8) :=
  if message.length > messageMaxLen then none else some (frame e message)

/-- `ConsumerSocket` with its base. The bytes of the buffer after `bufferDataLen` are never read, so that the buffer is the list of
those before. -/
structure ConsumerSocket where
  bufferSize : Nat
  buffer : List UInt8 := []
  closed : Bool := false
  hasError : Bool := false
  delivered : List (List UInt8) := []
  deriving DecidableEq

namespace ConsumerSocket

def bufferDataLen (s : ConsumerSocket) : Nat := s.buffer.length

def onUvReadAlloc (s : ConsumerSocket) : Nat :=
  if s.bufferSize > s.bufferDataLen then s.bufferSize - s.bufferDataLen else 0

variable (e : Endianness) (closes : List UInt8 → Bool)

/-- The listener closes the socket with the messages in `closes`. -/
def userOnUnixStreamRead (s : ConsumerSocket) : ConsumerSocket :=
  let r := loop e closes s.buffer {}
  let s := { s with closed := r.closed, delivered := s.delivered ++ r.messages }
  if r.closed then s
  else if r.msgStart ≠ 0 then { s with buffer := s.buffer.drop r.msgStart }
  else s

/-- `OnUvRead`. A closed socket does not read, and a read without room for it is an error (`UV_ENOBUFS`). -/
def onUvRead (s : ConsumerSocket) (chunk : List UInt8) : ConsumerSocket :=
  if s.closed then s
  else if s.onUvReadAlloc = 0 then { s with hasError := true, closed := true }
  else if chunk = [] then s
  else { s with buffer := s.buffer ++ chunk }.userOnUnixStreamRead e closes

def step (s : ConsumerSocket) (chunk : List UInt8) : Except Empty ConsumerSocket := .ok (s.onUvRead e closes chunk)

/-- A read fills no more than the room offered. Without room nothing is read. -/
def Offered (s : ConsumerSocket) (chunk : List UInt8) : Prop :=
  s.closed = true ∨ s.onUvReadAlloc = 0 ∨ chunk.length ≤ s.onUvReadAlloc

instance (s : ConsumerSocket) (chunk : List UInt8) : Decidable (s.Offered chunk) := inferInstanceAs (Decidable (_ ∨ _))

def Bounded (s : ConsumerSocket) (chunk : List UInt8) : Prop :=
  s.bufferDataLen ≤ s.bufferSize ∧ (s.closed = false → s.onUvReadAlloc ≠ 0 → (s.buffer ++ chunk).length ≤ s.bufferSize ∧
      ∀ r, Relation.ReflTransGen (fun r r' => round e closes (s.buffer ++ chunk) r = some r') {} r →
        r.msgStart ≤ (s.buffer ++ chunk).length)

variable {e closes} {s : ConsumerSocket} {chunk stream : List UInt8}

/-! ## One read -/

structure Represents (e : Endianness) (closes : List UInt8 → Bool) (size : Nat) (s : ConsumerSocket) (stream : List UInt8) :
    Prop where
  bufferSize : s.bufferSize = size
  bufferDataLen_le : s.bufferDataLen ≤ size
  delivered : s.delivered = heard closes (payloads ((framing e).scan size stream).1)
  hasError : s.hasError = true → s.closed = true ∧ (payloads ((framing e).scan size stream).1).any closes = false ∧
    size ≤ ((framing e).scan size stream).2.length
  closed : s.hasError = false → s.closed = (payloads ((framing e).scan size stream).1).any closes
  buffer : s.closed = false → s.buffer = ((framing e).scan size stream).2

theorem scan_of_full {size : Nat} (hsize : 4 ≤ size) (hfull : size ≤ ((framing e).scan size stream).2.length)
    (t : List UInt8) : (framing e).scan size (((framing e).scan size stream).2 ++ t) =
      ([], ((framing e).scan size stream).2 ++ t) := by
  have hstops : ∀ n, (framing e).announced ((framing e).scan size stream).2 = some n →
      ¬ (n ≤ ((framing e).scan size stream).2.length ∧ n ≤ size) := fun n => stops_scan stream
  generalize ((framing e).scan size stream).2 = rest at hfull hstops
  match rest with
  | [] | [_] | [_, _] | [_, _, _] =>
    simp only [length_cons, length_nil] at hfull
    omega
  | b0 :: b1 :: b2 :: b3 :: rest =>
    have hstop := hstops _ rfl
    refine scan_of_stop ((framing e).announced_append t rfl) fun hfits => hstop ⟨?_, hfits.2⟩
    exact Nat.le_trans hfits.2 hfull

theorem Represents.of_closed {size : Nat} (h : Represents e closes size s stream) (hsize : 4 ≤ size)
    (hclosed : s.closed = true) (t : List UInt8) : Represents e closes size s (stream ++ t) := by
  have happend : (framing e).scan size (stream ++ t) = _ := scan_append stream t
  cases herror : s.hasError with
  | false =>
    -- the listener has closed the socket
    have hany : (payloads ((framing e).scan size stream).1).any closes = true := (h.closed herror).symm.trans hclosed
    refine ⟨h.bufferSize, h.bufferDataLen_le, ?_, fun h' => ?_, fun _ => ?_, fun h' => ?_⟩
    · rw [happend, payloads_append, heard_append, hany, if_pos rfl, append_nil, h.delivered]
    · rw [herror] at h'
      cases h'
    · rw [happend, payloads_append, any_append, hany, hclosed, Bool.true_or]
    · rw [hclosed] at h'
      cases h'
  | true =>
    obtain ⟨-, hnone, hfull⟩ := h.hasError herror
    rw [scan_of_full hsize hfull t] at happend
    refine ⟨h.bufferSize, h.bufferDataLen_le, ?_, fun _ => ?_, fun h' => ?_, fun h' => ?_⟩
    · rw [happend, append_nil, h.delivered]
    · rw [happend, append_nil, length_append]
      exact ⟨hclosed, hnone, Nat.le_add_right_of_le hfull⟩
    · rw [herror] at h'
      cases h'
    · rw [hclosed] at h'
      cases h'

theorem Represents.hasError_of_open {size : Nat} (h : Represents e closes size s stream) (hopen : s.closed = false) :
    s.hasError = false :=
  Bool.eq_false_iff.mpr fun herror => Bool.eq_false_iff.mp hopen (h.hasError herror).1

theorem Offered.fits {size : Nat} (hoffered : s.Offered chunk) (hsize : s.bufferSize = size) (hlen : s.bufferDataLen ≤ size)
    (hopen : s.closed = false) (hroom : s.onUvReadAlloc ≠ 0) : (s.buffer ++ chunk).length ≤ size := by
  rcases hoffered with h | h | h
  · exact absurd h (Bool.eq_false_iff.mp hopen)
  · exact absurd h hroom
  · unfold onUvReadAlloc at h hroom
    rw [length_append]
    split at h <;> unfold bufferDataLen at * <;> omega

theorem Represents.userOnUnixStreamRead {size : Nat} (h : Represents e closes size s stream) (hopen : s.closed = false)
    (hfits : (s.buffer ++ chunk).length ≤ size) :
    Represents e closes size ({ s with buffer := s.buffer ++ chunk }.userOnUnixStreamRead e closes) (stream ++ chunk) := by
  have herror := h.hasError_of_open hopen
  have hany : (payloads ((framing e).scan size stream).1).any closes = false := (h.closed herror).symm.trans hopen
  have happend : (framing e).scan size (stream ++ chunk) = _ := scan_append stream chunk
  rw [← h.buffer hopen] at happend
  obtain ⟨hmessages, hclosed, hrest⟩ := loop_start e closes hfits
  have hdelivered : s.delivered ++ (loop e closes (s.buffer ++ chunk) {}).messages =
      heard closes (payloads ((framing e).scan size (stream ++ chunk)).1) := by
    rw [happend, payloads_append, heard_append, hany, if_neg Bool.false_ne_true, h.delivered, hmessages]
  have hclosed' : (loop e closes (s.buffer ++ chunk) {}).closed =
      (payloads ((framing e).scan size (stream ++ chunk)).1).any closes := by
    rw [happend, payloads_append, any_append, hany, Bool.false_or, hclosed]
  rw [show ((framing e).scan size (s.buffer ++ chunk)).2 = ((framing e).scan size (stream ++ chunk)).2 by rw [happend]] at hrest
  have hnoError : ∀ {p : Prop}, s.hasError = true → p := fun h' => absurd h' (by rw [herror]; decide)
  unfold ConsumerSocket.userOnUnixStreamRead
  dsimp only
  split
  · rename_i hcloses
    refine ⟨h.bufferSize, hfits, hdelivered, hnoError, fun _ => hclosed', fun h' => ?_⟩
    rw [hcloses] at h'
    cases h'
  split
  · refine ⟨h.bufferSize, ?_, hdelivered, hnoError, fun _ => hclosed', hrest⟩
    show ((s.buffer ++ chunk).drop _).length ≤ size
    rw [length_drop]
    omega
  rename_i hzero
  refine ⟨h.bufferSize, hfits, hdelivered, hnoError, fun _ => hclosed', fun h' => ?_⟩
  have hdrop := hrest h'
  rw [not_not.mp hzero] at hdrop
  exact hdrop

theorem Represents.onUvRead {size : Nat} (h : Represents e closes size s stream) (hsize : 4 ≤ size)
    (hoffered : s.Offered chunk) : Represents e closes size (s.onUvRead e closes chunk) (stream ++ chunk) := by
  unfold ConsumerSocket.onUvRead
  by_cases hclosed : s.closed = true
  · rw [if_pos hclosed]
    exact h.of_closed hsize hclosed chunk
  have hopen : s.closed = false := Bool.eq_false_iff.mpr hclosed
  rw [if_neg hclosed]
  have hlen := h.bufferDataLen_le
  have hsize' := h.bufferSize
  by_cases hroom : s.onUvReadAlloc = 0
  · -- the buffer is full
    rw [if_pos hroom]
    have herror := h.hasError_of_open hopen
    have hfull : size ≤ ((framing e).scan size stream).2.length := by
      rw [← h.buffer hopen]
      unfold onUvReadAlloc at hroom
      split at hroom <;> unfold bufferDataLen at * <;> omega
    have hstop : Represents e closes size { s with hasError := true, closed := true } stream :=
      ⟨h.bufferSize, h.bufferDataLen_le, h.delivered, fun _ => ⟨rfl, (h.closed herror).symm.trans hopen, hfull⟩, nofun, nofun⟩
    exact hstop.of_closed hsize rfl chunk
  · rw [if_neg hroom]
    by_cases hnil : chunk = []
    · rw [if_pos hnil, hnil, append_nil]
      exact h
    · rw [if_neg hnil]
      exact h.userOnUnixStreamRead hopen (hoffered.fits h.bufferSize h.bufferDataLen_le hopen hroom)

/-! ## Runs -/

theorem represents_new (e : Endianness) (closes : List UInt8 → Bool) (size : Nat) :
    Represents e closes size { bufferSize := size } [] := by
  have hnil : (framing e).scan size [] = ([], []) := scan_of_none rfl
  exact ⟨rfl, Nat.zero_le _, by rw [hnil]; rfl, nofun, fun _ => by rw [hnil]; rfl, fun _ => by rw [hnil]⟩

theorem Represents.run {size : Nat} (hsize : 4 ≤ size) (chunks : List (List UInt8)) (h : Represents e closes size s stream)
    (hoffered : Along (step e closes) Offered s chunks) :
    Represents e closes size (chunks.foldl (ConsumerSocket.onUvRead e closes) s) (stream ++ chunks.flatten) := by
  induction chunks generalizing s stream with
  | nil =>
    rw [flatten_nil, append_nil]
    exact h
  | cons chunk chunks ih =>
    rw [flatten_cons, ← append_assoc]
    exact ih (h.onUvRead hsize hoffered.1) hoffered.2

theorem Represents.bounded {size : Nat} (h : Represents e closes size s stream) (hoffered : s.Offered chunk) :
    s.Bounded e closes chunk := by
  refine ⟨h.bufferSize ▸ h.bufferDataLen_le, fun hopen hroom => ⟨?_, fun r hr => ?_⟩⟩
  · exact hoffered.fits rfl (h.bufferSize ▸ h.bufferDataLen_le) hopen hroom
  · exact msgStart_le_of_rounds (Nat.zero_le _) hr

end ConsumerSocket

open ConsumerSocket

/-! ## The requests of the application -/

theorem exists_split (size : Nat) (ms : List (List UInt8)) : ∃ fitting rest, ms = fitting ++ rest ∧
    (∀ m ∈ fitting, 4 + m.length ≤ size) ∧ (rest = [] ∨ ∃ m ms', rest = m :: ms' ∧ size < 4 + m.length) := by
  induction ms with
  | nil => exact ⟨[], [], rfl, nofun, .inl rfl⟩
  | cons m ms ih =>
    by_cases hm : 4 + m.length ≤ size
    · obtain ⟨fitting, rest, rfl, hfitting, hrest⟩ := ih
      exact ⟨m :: fitting, rest, rfl, forall_mem_cons.mpr ⟨hm, hfitting⟩, hrest⟩
    · exact ⟨[], m :: ms, rfl, nofun, .inr ⟨m, ms, rfl, Nat.lt_of_not_le hm⟩⟩

variable {e : Endianness} {messages : List (List UInt8)}

theorem flatMap_request (h : ∀ m ∈ messages, m.length ≤ messageMaxLen) :
    messages.flatMap (fun m => (request e m).getD []) = messages.flatMap (frame e) := by
  refine flatMap_congr fun m hm => ?_
  rw [request, if_neg (Nat.not_lt.mpr (h m hm))]
  rfl

/-- **Every cutting of the application's stream**: the requests are delivered without an error, up to the one with which the
listener closes the socket, exactly if none of these is larger than `PAYLOAD_MAX_LEN`. -/
theorem delivered_iff_fits (e : Endianness) (closes : List UInt8 → Bool) (messages chunks : List (List UInt8))
    (haccepted : ∀ m ∈ messages, m.length ≤ messageMaxLen)
    (hchunks : chunks.flatten = messages.flatMap fun m => (request e m).getD [])
    (hoffered : Along (step e closes) Offered { bufferSize := messageMaxLen } chunks) :
    (Along (step e closes) (Bounded e closes) { bufferSize := messageMaxLen } chunks ∧
      (chunks.foldl (onUvRead e closes) { bufferSize := messageMaxLen }).delivered = heard closes messages ∧
      (chunks.foldl (onUvRead e closes) { bufferSize := messageMaxLen }).hasError = false) ↔
    ∀ m ∈ heard closes messages, m.length ≤ payloadMaxLen := by
  have hsize : 4 ≤ messageMaxLen := by decide
  have hstart := represents_new e closes messageMaxLen
  have hbounded : Along (step e closes) (Bounded e closes)
      { bufferSize := messageMaxLen } chunks := by
    refine along_of_along (I := fun s => ∃ stream, Represents e closes messageMaxLen s stream) ?_ chunks _
      ⟨[], hstart⟩ hoffered
    rintro s chunk ⟨stream, hs⟩ hC
    refine ⟨hs.bounded hC, fun s' hs' => ⟨stream ++ chunk, ?_⟩⟩
    cases hs'
    exact hs.onUvRead hsize hC
  have hrun := hstart.run hsize chunks hoffered
  rw [nil_append, hchunks, flatMap_request haccepted] at hrun
  obtain ⟨fitting, rest, rfl, hfitting, hrest⟩ := exists_split messageMaxLen messages
  have hlen : ∀ m ∈ fitting ++ rest, m.length < 4294967296 := fun m hm =>
    Nat.lt_of_le_of_lt (haccepted m hm) (by decide)
  have hfits : ∀ m ∈ heard closes fitting, m.length ≤ payloadMaxLen := by
    intro m hm
    have := hfitting m (mem_of_mem_take hm)
    unfold messageMaxLen at this
    unfold payloadMaxLen
    omega
  have hscan := scan_frames (e := e) (fun m hm => hlen m (mem_append_left _ hm)) hfitting (rest.flatMap (frame e))
  rw [← flatMap_append] at hscan
  rcases hrest with rfl | ⟨m, ms, rfl, hlong⟩
  · -- everything fits
    rw [append_nil] at hrun hscan ⊢
    rw [flatMap_nil, scan_of_none (s := ([] : List UInt8)) rfl, append_nil] at hscan
    refine iff_of_true ⟨hbounded, ?_, ?_⟩ hfits
    · rw [hrun.delivered, hscan, payloads_frames]
    · refine Bool.eq_false_iff.mpr fun herror => ?_
      obtain ⟨-, -, hfull⟩ := hrun.hasError herror
      rw [hscan, length_nil] at hfull
      omega
  · have hstop : (framing e).scan messageMaxLen ((m :: ms).flatMap (frame e)) = ([], (m :: ms).flatMap (frame e)) := by
      exact scan_of_long (hlen m (mem_append_right _ mem_cons_self)) hlong _
    rw [hstop, append_nil] at hscan
    have hdelivered := hrun.delivered
    rw [hscan, payloads_frames] at hdelivered
    rw [heard_append]
    cases hany : fitting.any closes with
    | true =>
      -- the listener has closed the socket before
      rw [if_pos rfl, append_nil]
      refine iff_of_true ⟨hbounded, hdelivered, ?_⟩ hfits
      refine Bool.eq_false_iff.mpr fun herror => ?_
      obtain ⟨-, hnone, -⟩ := hrun.hasError herror
      rw [hscan, payloads_frames, hany] at hnone
      cases hnone
    | false =>
      refine iff_of_false ?_ fun hall => ?_
      · rintro ⟨-, hsame, -⟩
        rw [hdelivered, self_eq_append_right] at hsame
        cases hsame
      · have := hall m (mem_append_right _ mem_cons_self)
        unfold messageMaxLen at hlong
        unfold payloadMaxLen at this
        omega

theorem delivered_three_reads : (([[0, 0], [0, 1, 49, 0, 0, 0], [2, 50, 58]] : List (List UInt8)).foldl
    (onUvRead .big (· = [50, 58])) { bufferSize := messageMaxLen }).delivered = [[49], [50, 58]] :=
  ((delivered_iff_fits .big (· = [50, 58]) [[49], [50, 58]] [[0, 0], [0, 1, 49, 0, 0, 0], [2, 50, 58]] (by decide) (by decide)
    (by decide +kernel)).mpr (by decide)).2.1

theorem announced_take {k : Nat} (hk : 4 ≤ k) (s : List UInt8) :
    (framing e).announced (s.take k) = (framing e).announced s := by
  obtain ⟨k, rfl⟩ : ∃ k', k = k' + 4 := ⟨k - 4, by omega⟩
  match s with
  | [] | [_] | [_, _] | [_, _, _] | _ :: _ :: _ :: _ :: _ => rfl

theorem onUvRead_incomplete (closes : List UInt8 → Bool) {size n : Nat} {chunk : List UInt8} (hpos : 0 < chunk.length)
    (hsize : chunk.length ≤ size) (hn : (framing e).announced chunk = some n) (hlt : chunk.length < n) :
    onUvRead e closes { bufferSize := size } chunk = { bufferSize := size, buffer := chunk } := by
  have hround : round e closes chunk {} = none := by
    cases hround : round e closes chunk {} with
    | none => rfl
    | some r =>
      obtain ⟨payload, -, hannounced, hle, -, -⟩ := round_eq_some hround
      rw [drop_zero, hn] at hannounced
      rw [drop_zero, ← Option.some.inj hannounced] at hle
      omega
  have hroom : ¬ onUvReadAlloc { bufferSize := size } = 0 := by
    show ¬ (if size > 0 then size - 0 else 0) = 0
    split <;> omega
  unfold onUvRead
  rw [if_neg Bool.false_ne_true, if_neg hroom, if_neg (ne_nil_of_length_pos hpos)]
  unfold userOnUnixStreamRead
  rw [nil_append, loop_of_none hround]
  rfl

theorem onUvRead_full (closes : List UInt8 → Bool) {size n : Nat} {first : List UInt8} (hpos : 0 < size)
    (hlen : first.length = size) (hn : (framing e).announced first = some n) (hlt : size < n) (second : List UInt8) :
    Along (step e closes) Offered { bufferSize := size } [first, second] ∧
      [first, second].foldl (onUvRead e closes) { bufferSize := size } =
        { bufferSize := size, buffer := first, hasError := true, closed := true } := by
  have hfirst := onUvRead_incomplete closes (hlen ▸ hpos) (Nat.le_of_eq hlen) hn (hlen ▸ hlt)
  have hfull : onUvReadAlloc { bufferSize := size, buffer := first } = 0 := by
    unfold onUvReadAlloc bufferDataLen
    rw [hlen, if_neg (Nat.lt_irrefl _)]
  have hroom : onUvReadAlloc { bufferSize := size } = size := if_pos hpos
  have hoffered : Offered { bufferSize := size } first := .inr (.inr (hroom.symm ▸ Nat.le_of_eq hlen))
  refine ⟨(along_cons_ok (congrArg Except.ok hfirst)).mpr ⟨hoffered, .inr (.inl hfull), trivial⟩, ?_⟩
  rw [foldl_cons, hfirst, foldl_cons, foldl_nil, onUvRead, if_neg Bool.false_ne_true, if_pos hfull]

/-- The largest request that the application accepts: the buffer is full before the request is complete, and the next read
fails. -/
theorem largest_not_delivered : ∃ message first second : List UInt8, message.length ≤ messageMaxLen ∧
    request .little message = some (first ++ second) ∧
    Along (step .little fun _ => false) Offered { bufferSize := messageMaxLen } [first, second] ∧
    [first, second].foldl (onUvRead .little fun _ => false) { bufferSize := messageMaxLen } =
      { bufferSize := messageMaxLen, buffer := first, hasError := true, closed := true } := by
  obtain ⟨message, hmessage⟩ : ∃ message : List UInt8, message.length = messageMaxLen :=
    ⟨List.replicate messageMaxLen 49, length_replicate⟩
  have hlen : ((frame .little message).take messageMaxLen).length = messageMaxLen := by
    rw [length_take, length_frame, hmessage]
    omega
  have hframe := announced_frame (e := .little) (m := message) (by rw [hmessage]; decide) []
  rw [append_nil, ← announced_take (k := messageMaxLen) (by decide), hmessage] at hframe
  have hlt : messageMaxLen < 4 + messageMaxLen := by omega
  refine ⟨message, _, (frame .little message).drop messageMaxLen, Nat.le_of_eq hmessage, ?_,
    onUvRead_full (fun _ => false) (by decide) hlen hframe hlt _⟩
  rw [take_append_drop, request, if_neg (by omega)]

end Mediasoup.Channel
