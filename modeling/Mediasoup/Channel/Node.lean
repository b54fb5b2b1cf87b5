import Mediasoup.Channel.Messages
import Mediasoup.Lib.Run

/-!
# The application's end of the channel

The handler of the `data` events in Node's `Channel`. It collects what arrives, and throws away all it has collected when that
is more than `PAYLOAD_MAX_LEN` bytes: the messages of the worker, whose frames may be four bytes longer, are processed exactly if
this never happens (`processed_iff_fits`).
-/

namespace Mediasoup.Channel

open Lib List Framing

/-- `ChannelSocket::Send` and `SendLog`: "message too big", or the frame that `SendImpl` writes. -/
def send (e : Endianness) (message : List UInt8) : List UInt8 :=
  if message.length > payloadMaxLen then [] else frame e message

inductive Kind
  /-- `{`: a message for `JSON.parse` and `processMessage` -/
  | message
  | debug
  | warn
  | error
  | dump
  | unexpected
  deriving DecidableEq

def kind (payload : List UInt8) : Kind :=
  match payload.head? with
  | some 123 => .message
  | some 68 => .debug
  | some 87 => .warn
  | some 69 => .error
  | some 88 => .dump
  | _ => .unexpected

/-- What the `switch` does with a payload. An exception is caught there and logged, so that the loop goes on. -/
def process (payload : List UInt8) : Kind × List UInt8 := (kind payload, payload)

structure NodeChannel where
  recvBuffer : List UInt8 := []
  processed : List (Kind × List UInt8) := []
  deriving DecidableEq

namespace NodeChannel

variable (e : Endianness)

def onData (c : NodeChannel) (buffer : List UInt8) : NodeChannel :=
  let recvBuffer := if c.recvBuffer.length = 0 then buffer else c.recvBuffer ++ buffer
  if recvBuffer.length > payloadMaxLen then { c with recvBuffer := [] }
  else
    let r := loop e (fun _ => false) recvBuffer {}
    { recvBuffer := if r.msgStart ≠ 0 then recvBuffer.drop r.msgStart else recvBuffer
      processed := c.processed ++ r.messages.map process }

def step (c : NodeChannel) (buffer : List UInt8) : Except Empty NodeChannel := .ok (c.onData e buffer)

def Fits (c : NodeChannel) (buffer : List UInt8) : Prop := c.recvBuffer.length + buffer.length ≤ payloadMaxLen

instance (c : NodeChannel) (buffer : List UInt8) : Decidable (c.Fits buffer) := inferInstanceAs (Decidable (_ ≤ _))

variable {e} {c : NodeChannel} {buffer : List UInt8}

theorem onData_of_not_fits (h : ¬ c.Fits buffer) : c.onData e buffer = { c with recvBuffer := [] } := by
  have hlen : (if c.recvBuffer.length = 0 then buffer else c.recvBuffer ++ buffer).length > payloadMaxLen := by
    unfold Fits at h
    split
    · omega
    · rw [length_append]
      omega
  unfold onData
  rw [if_pos hlen]

theorem onData_of_fits (h : c.Fits buffer) {limit : Nat} (hlimit : (c.recvBuffer ++ buffer).length ≤ limit) :
    c.onData e buffer = ⟨((framing e).scan limit (c.recvBuffer ++ buffer)).2,
        c.processed ++ (payloads ((framing e).scan limit (c.recvBuffer ++ buffer)).1).map process⟩ := by
  have hbuffer : (if c.recvBuffer.length = 0 then buffer else c.recvBuffer ++ buffer) = c.recvBuffer ++ buffer := by
    split
    · rename_i hnil
      rw [length_eq_zero_iff.mp hnil, nil_append]
    · rfl
  have hle : ¬ (c.recvBuffer ++ buffer).length > payloadMaxLen := by
    unfold Fits at h
    rw [length_append]
    omega
  obtain ⟨hmessages, hclosed, hrest⟩ := loop_start e (fun _ => false) hlimit
  rw [heard_of_open (fun _ => rfl)] at hmessages
  have hopen : (loop e (fun _ => false) (c.recvBuffer ++ buffer) {}).closed = false := by
    rw [hclosed]
    simp
  have hcut : (if (loop e (fun _ => false) (c.recvBuffer ++ buffer) {}).msgStart ≠ 0 then
      (c.recvBuffer ++ buffer).drop (loop e (fun _ => false) (c.recvBuffer ++ buffer) {}).msgStart
      else c.recvBuffer ++ buffer) = ((framing e).scan limit (c.recvBuffer ++ buffer)).2 := by
    have hdrop := hrest hopen
    split
    · exact hdrop
    · rename_i hzero
      rw [not_not.mp hzero] at hdrop
      exact hdrop
  simp only [onData, hbuffer, if_neg hle, hcut, hmessages]

/-! ## Runs within the guard -/

theorem length_scan (limit : Nat) (s : List UInt8) :
    ((payloads ((framing e).scan limit s).1).map fun p => 4 + p.length).sum + ((framing e).scan limit s).2.length = s.length := by
  fun_induction scan (framing e) limit s with
  | case1 s hnone => simp [payloads]
  | case2 s m hm hfits r ih =>
    have hm4 : 4 ≤ m := by
      simp only [framing] at hm
      split at hm
      · cases hm
        omega
      · cases hm
    have hlen : ((s.take m).drop 4).length = m - 4 := by
      rw [length_drop, length_take]
      omega
    change ((payloads r.1).map fun p => 4 + p.length).sum + r.2.length = _ at ih
    rw [length_drop] at ih
    simp only [payloads, map_cons, sum_cons, hlen] at ih ⊢
    omega
  | case3 s m hm hfits => simp [payloads]

structure Represents (e : Endianness) (limit : Nat) (c : NodeChannel) (s : List UInt8) : Prop where
  recvBuffer : c.recvBuffer = ((framing e).scan limit s).2
  processed : c.processed = (payloads ((framing e).scan limit s).1).map process

theorem Represents.onData {limit : Nat} {s : List UInt8} (h : Represents e limit c s) (hfits : c.Fits buffer)
    (hlimit : (c.recvBuffer ++ buffer).length ≤ limit) : Represents e limit (c.onData e buffer) (s ++ buffer) := by
  rw [onData_of_fits hfits hlimit, h.recvBuffer, h.processed]
  refine ⟨?_, ?_⟩
  · rw [scan_append s buffer]
  · rw [scan_append s buffer, payloads_append, map_append]

theorem Represents.run {limit : Nat} {s : List UInt8} (chunks : List (List UInt8)) (h : Represents e limit c s)
    (hfits : Along (step e) Fits c chunks) (hlimit : (s ++ chunks.flatten).length ≤ limit) :
    Represents e limit (chunks.foldl (NodeChannel.onData e) c) (s ++ chunks.flatten) := by
  induction chunks generalizing c s with
  | nil =>
    rw [flatten_nil, append_nil]
    exact h
  | cons chunk chunks ih =>
    rw [flatten_cons, ← append_assoc] at hlimit ⊢
    have hle : (c.recvBuffer ++ chunk).length ≤ limit := by
      have hscan := length_scan (e := e) limit s
      rw [← h.recvBuffer] at hscan
      simp only [length_append] at hlimit ⊢
      omega
    exact ih (h.onData hfits.1 hle) hfits.2 hlimit

/-! ## What is thrown away -/

def bytesProcessed (c : NodeChannel) : Nat := (c.processed.map fun p => 4 + p.2.length).sum

theorem bytes_onData (c : NodeChannel) (buffer : List UInt8) :
    (c.onData e buffer).bytesProcessed + (c.onData e buffer).recvBuffer.length +
        (if c.Fits buffer then 0 else c.recvBuffer.length + buffer.length) =
      c.bytesProcessed + c.recvBuffer.length + buffer.length := by
  by_cases hfits : c.Fits buffer
  · have hbytes := length_scan (e := e) (c.recvBuffer ++ buffer).length (c.recvBuffer ++ buffer)
    have hlen : (c.recvBuffer ++ buffer).length = c.recvBuffer.length + buffer.length := length_append
    rw [onData_of_fits hfits (Nat.le_refl _), if_pos hfits]
    simp only [bytesProcessed, map_append, sum_append, map_map]
    have hcomp : ((fun p : Kind × List UInt8 => 4 + p.2.length) ∘ process) = fun p => 4 + p.length := rfl
    rw [hcomp]
    omega
  · rw [onData_of_not_fits hfits, if_neg hfits]
    show c.bytesProcessed + 0 + _ = _
    omega

theorem bytes_run (chunks : List (List UInt8)) (c : NodeChannel) :
    (chunks.foldl (onData e) c).bytesProcessed ≤ c.bytesProcessed + c.recvBuffer.length + chunks.flatten.length ∧
      (¬ Along (step e) Fits c chunks →
        (chunks.foldl (onData e) c).bytesProcessed < c.bytesProcessed + c.recvBuffer.length + chunks.flatten.length) := by
  induction chunks generalizing c with
  | nil => exact ⟨by rw [foldl_nil]; omega, fun h => absurd trivial h⟩
  | cons chunk chunks ih =>
    obtain ⟨hle, hlt⟩ := ih (c.onData e chunk)
    have hbytes := bytes_onData (e := e) c chunk
    rw [foldl_cons, flatten_cons, length_append]
    refine ⟨by omega, fun hnot => ?_⟩
    by_cases hfits : c.Fits chunk
    · have hrest : ¬ Along (step e) Fits (c.onData e chunk) chunks := fun h => hnot ⟨hfits, h⟩
      have := hlt hrest
      omega
    · rw [if_neg hfits] at hbytes
      unfold Fits payloadMaxLen at hfits
      omega

end NodeChannel

/-! ## The messages of the worker -/

variable {e : Endianness} {messages : List (List UInt8)}

theorem flatMap_send (h : ∀ m ∈ messages, m.length ≤ payloadMaxLen) : messages.flatMap (send e) = messages.flatMap (frame e) := by
  refine flatMap_congr fun m hm => ?_
  rw [send, if_neg (Nat.not_lt.mpr (h m hm))]

theorem length_flatMap_frame (messages : List (List UInt8)) :
    (messages.flatMap (frame e)).length = (messages.map fun m => 4 + m.length).sum := by
  rw [length_flatMap]
  simp only [length_frame]

/-- **Every cutting of the worker's stream**: exactly the messages sent are processed, if and only if no event makes the bytes
collected exceed `PAYLOAD_MAX_LEN`. -/
theorem processed_iff_fits (e : Endianness) (messages chunks : List (List UInt8))
    (hmessages : ∀ m ∈ messages, m.length ≤ payloadMaxLen) (hchunks : chunks.flatten = messages.flatMap (send e)) :
    (chunks.foldl (NodeChannel.onData e) {}).processed = messages.map process ↔
      Along (NodeChannel.step e) NodeChannel.Fits {} chunks := by
  rw [flatMap_send hmessages] at hchunks
  have hlen : ∀ m ∈ messages, m.length < 4294967296 := fun m hm => Nat.lt_of_le_of_lt (hmessages m hm) (by decide)
  constructor
  · intro hprocessed
    by_contra hnot
    have hlost := (NodeChannel.bytes_run (e := e) chunks {}).2 hnot
    have htotal : (chunks.foldl (NodeChannel.onData e) {}).bytesProcessed = chunks.flatten.length := by
      rw [NodeChannel.bytesProcessed, hprocessed, hchunks, length_flatMap_frame, map_map]
      rfl
    have hstart : NodeChannel.bytesProcessed {} + ([] : List UInt8).length = 0 := rfl
    rw [htotal, hstart, Nat.zero_add] at hlost
    exact absurd hlost (Nat.lt_irrefl _)
  · intro hfits
    have hlimit : ∀ m ∈ messages, 4 + m.length ≤ chunks.flatten.length := by
      intro m hm
      have hsub : (frame e m).Sublist (messages.map (frame e)).flatten :=
        sublist_flatten_of_mem (mem_map_of_mem hm)
      rw [hchunks, ← length_frame (e := e) m]
      exact hsub.length_le
    have hscan := scan_frames (e := e) hlen hlimit []
    rw [append_nil, ← hchunks, scan_of_none (s := ([] : List UInt8)) rfl, append_nil] at hscan
    have hstart : NodeChannel.Represents e chunks.flatten.length {} [] := by
      have hnil : (framing e).scan chunks.flatten.length [] = ([], []) := scan_of_none rfl
      exact ⟨by rw [hnil], by rw [hnil]; rfl⟩
    have hrun := (hstart.run chunks hfits (Nat.le_refl _)).processed
    rw [hrun, nil_append, hscan, payloads_frames]

theorem processed_three_parts : (([[1, 0], [0, 0, 123, 2, 0, 0], [0, 68, 97]] : List (List UInt8)).foldl
    (NodeChannel.onData .little) {}).processed = [(.message, [123]), (.debug, [68, 97])] :=
  (processed_iff_fits .little [[123], [68, 97]] [[1, 0], [0, 0, 123, 2, 0, 0], [0, 68, 97]] (by decide) (by decide)).mpr
    (by decide +kernel)

/-- The largest message that the worker sends is thrown away, even if it arrives alone and in one part. -/
theorem largest_not_processed : (List.replicate payloadMaxLen (123 : UInt8)).length ≤ payloadMaxLen ∧
    ([send .little (List.replicate payloadMaxLen 123)].foldl (NodeChannel.onData .little) {}).processed ≠
      [List.replicate payloadMaxLen 123].map process := by
  have hnot : ¬ NodeChannel.Fits {} (send .little (List.replicate payloadMaxLen 123)) := by
    rw [send, length_replicate, if_neg (Nat.lt_irrefl _), NodeChannel.Fits, length_frame, length_replicate]
    omega
  rw [foldl_cons, foldl_nil, NodeChannel.onData_of_not_fits hnot]
  exact ⟨Nat.le_of_eq length_replicate, nofun⟩

end Mediasoup.Channel
