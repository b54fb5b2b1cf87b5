import Mediasoup.Lib.Framing
import Mediasoup.Lib.Run
import Mediasoup.Utils.Byte

/-!
# TCP connections

A TCP connection carries packets in frames: two bytes with the length of the packet, and the packet. What is read goes to the
end of a buffer of fixed size. `userOnTcpConnectionRead` takes the complete frames off it, and makes room when the buffer is
full. `run_delivers`: however the stream is cut into chunks, the connection delivers the frames of the stream.
-/

namespace Mediasoup.Tcp

open Lib Utils Framing

/-! ## The connection -/

/-- The bytes of the buffer after `bufferDataLen` are never read, so that the buffer is the list of those before. -/
structure Connection where
  bufferSize : Nat
  buffer : List UInt8 := []
  frameStart : Nat := 0
  closed : Bool := false
  delivered : List (List UInt8) := []
  deriving DecidableEq

namespace Connection

variable (c : Connection)

def bufferDataLen : Nat := c.buffer.length

def onUvReadAlloc : Nat :=
  if c.bufferSize > c.bufferDataLen then c.bufferSize - c.bufferDataLen else 0

def frame : Option (List UInt8) :=
  match c.buffer.drop c.frameStart with
  | b0 :: b1 :: rest => if get2Bytes b0 b1 ≤ rest.length then some (rest.take (get2Bytes b0 b1)) else none
  | _ => none

/-- `OnTcpConnectionPacketReceived`, by a listener that closes the connection after some packets. -/
def notify (closes : List (List UInt8) → Bool) (packet : List UInt8) (c : Connection) : Connection :=
  if packet = [] then c
  else { c with delivered := c.delivered ++ [packet], closed := closes (c.delivered ++ [packet]) }

/-- The next frame starts after this one. If this one ends with the buffer, the buffer is emptied. -/
def advance (packet : List UInt8) (c : Connection) : Connection :=
  if c.frameStart + 2 + packet.length = c.bufferSize then { c with frameStart := 0, buffer := [] }
  else { c with frameStart := c.frameStart + 2 + packet.length }

def makeRoom : Connection :=
  if c.bufferDataLen = c.bufferSize then
    if c.frameStart ≠ 0 then { c with buffer := c.buffer.drop c.frameStart, frameStart := 0 }
    else { c with closed := true }
  else c

/-- The loop of `UserOnTcpConnectionRead`. Every round but the last takes a frame off the buffer, so that there are no more
rounds than bytes. -/
def parse (closes : List (List UInt8) → Bool) : Nat → Connection → Connection
  | 0, c => c
  | rounds + 1, c =>
    if c.closed then c
    else
      match c.frame with
      | some packet =>
        let c := (c.notify closes packet).advance packet
        if c.bufferDataLen > c.frameStart then parse closes rounds c else c
      | none => c.makeRoom

def userOnTcpConnectionRead (closes : List (List UInt8) → Bool) (c : Connection) : Connection :=
  parse closes (c.bufferDataLen + 1) c

/-- `OnUvRead` of a chunk. A closed connection does not read. -/
def onUvRead (closes : List (List UInt8) → Bool) (c : Connection) (chunk : List UInt8) : Connection :=
  if c.closed ∨ chunk = [] then c else { c with buffer := c.buffer ++ chunk }.userOnTcpConnectionRead closes

end Connection

def bufferSize : Nat := 65536

/-! ## The stream -/

def framing : Framing UInt8 where
  announced
    | b0 :: b1 :: _ => some (2 + get2Bytes b0 b1)
    | _ => none
  announced_pos {s n} h := by
    split at h
    · cases h
      omega
    · cases h
  announced_append {s n} t h := by
    split at h
    · exact h
    · cases h

/-- The packets of some frames. Frames of the length zero are ignored. -/
def packets (frames : List (List UInt8)) : List (List UInt8) := (frames.map (List.drop 2)).filter (· ≠ [])

/-- What a listener hears of some packets after it has heard others, and whether it closes the connection. -/
def heard (closes : List (List UInt8) → Bool) (before : List (List UInt8)) : List (List UInt8) → List (List UInt8) × Bool
  | [] => (before, false)
  | packet :: rest => if closes (before ++ [packet]) then (before ++ [packet], true) else heard closes (before ++ [packet]) rest

variable {closes : List (List UInt8) → Bool}

theorem heard_append (before ps qs : List (List UInt8)) : heard closes before (ps ++ qs) =
      if (heard closes before ps).2 then heard closes before ps else heard closes (heard closes before ps).1 qs := by
  induction ps generalizing before with
  | nil => rfl
  | cons p ps ih =>
    rw [List.cons_append, heard, heard]
    split
    · rfl
    · exact ih _

theorem heard_of_open (h : ∀ ps, closes ps = false) (before ps : List (List UInt8)) :
    heard closes before ps = (before ++ ps, false) := by
  induction ps generalizing before with
  | nil => rw [heard, List.append_nil]
  | cons p ps ih => rw [heard, h, if_neg Bool.false_ne_true, ih, List.append_assoc, List.singleton_append]

theorem packets_append (frames frames' : List (List UInt8)) :
    packets (frames ++ frames') = packets frames ++ packets frames' := by
  rw [packets, List.map_append, List.filter_append]
  rfl

/-! ## One call of `UserOnTcpConnectionRead` -/

namespace Connection

open List

def pending (c : Connection) : List UInt8 := c.buffer.drop c.frameStart

/-- 0 ≤ `frameStart` ≤ `bufferDataLen` ≤ `bufferSize` -/
structure Bounded (c : Connection) : Prop where
  frameStart_le : c.frameStart ≤ c.bufferDataLen
  bufferDataLen_le : c.bufferDataLen ≤ c.bufferSize

variable {c : Connection} {packet : List UInt8}

theorem length_pending (c : Connection) : c.pending.length = c.bufferDataLen - c.frameStart := length_drop

theorem frame_eq_some (h : c.frame = some packet) :
    framing.announced c.pending = some (2 + packet.length) ∧ 2 + packet.length ≤ c.pending.length ∧
      (c.pending.take (2 + packet.length)).drop 2 = packet := by
  unfold frame at h
  unfold pending
  split at h
  · rename_i b0 b1 rest hdata
    rw [hdata]
    split at h
    · rename_i hle
      cases h
      have hlen : (rest.take (get2Bytes b0 b1)).length = get2Bytes b0 b1 := by
        rw [length_take, Nat.min_eq_left hle]
      rw [hlen, Nat.add_comm 2]
      exact ⟨congrArg some (Nat.add_comm _ _), Nat.add_le_add_right hle 2, rfl⟩
    · cases h
  · cases h

theorem scan_of_frame_eq_none (h : c.frame = none) (limit : Nat) : framing.scan limit c.pending = ([], c.pending) := by
  unfold frame at h
  unfold pending
  split at h
  · rename_i b0 b1 rest hdata
    rw [hdata]
    split at h
    · cases h
    refine scan_of_stop rfl ?_
    rintro ⟨hle, -⟩
    rw [length_cons, length_cons] at hle
    omega
  · apply scan_of_none
    simp only [framing]

/-- The connection, with a buffer of this size, after the stream `s` has been read, where the listener had got `before`. -/
structure Represents (closes : List (List UInt8) → Bool) (size : Nat) (before : List (List UInt8)) (s : List UInt8)
    (c : Connection) : Prop where
  bounded : c.Bounded
  bufferSize : c.bufferSize = size
  delivered : c.delivered = (heard closes before (packets (framing.scan size s).1)).1
  closed : c.closed =
    ((heard closes before (packets (framing.scan size s).1)).2 || decide (size ≤ (framing.scan size s).2.length))
  pending : c.closed = false → c.pending = (framing.scan size s).2
  room : c.closed = false → c.bufferDataLen < size

variable {size : Nat} {before : List (List UInt8)} {s t : List UInt8}

theorem represents_of_stop (hscan : framing.scan size s = ([], s)) (hc : c.Bounded) (hsize : c.bufferSize = size)
    (hclosed : c.closed = decide (size ≤ s.length)) (hpending : c.closed = false → c.pending = s)
    (hroom : c.closed = false → c.bufferDataLen < size) : Represents closes size c.delivered s c := by
  refine ⟨hc, hsize, ?_, ?_, ?_, hroom⟩ <;> rw [hscan]
  · rfl
  · rw [hclosed]
    rfl
  · exact hpending

theorem represents_makeRoom (hc : c.Bounded) (hopen : c.closed = false) (hframe : c.frame = none) :
    Represents closes c.bufferSize c.delivered c.pending c.makeRoom := by
  have hscan := scan_of_frame_eq_none hframe c.bufferSize
  have hlen := c.length_pending
  obtain ⟨hstart, hsize⟩ := hc
  unfold makeRoom
  split
  · split
    · -- the incomplete frame is moved to the beginning
      have hshort : c.pending.length < c.bufferSize := by omega
      exact represents_of_stop (c := { c with buffer := c.pending, frameStart := 0 }) hscan
        ⟨Nat.zero_le _, Nat.le_of_lt hshort⟩ rfl (hopen.trans (decide_eq_false (Nat.not_le.mpr hshort)).symm) (fun _ => rfl)
        fun _ => hshort
    · -- the incomplete frame fills the buffer
      exact represents_of_stop (c := { c with closed := true }) hscan ⟨hstart, hsize⟩ rfl (decide_eq_true (by omega)).symm
        nofun nofun
  · exact represents_of_stop hscan ⟨hstart, hsize⟩ rfl (hopen.trans (decide_eq_false (by omega)).symm) (fun _ => rfl)
      fun _ => by omega

theorem represents_empty (hc : c.Bounded) (hopen : c.closed = false) (hnil : c.pending = [])
    (hroom : c.bufferDataLen < c.bufferSize) : Represents closes c.bufferSize c.delivered [] c :=
  represents_of_stop (scan_of_none rfl) hc rfl
    (hopen.trans (decide_eq_false (Nat.not_le.mpr (Nat.zero_lt_of_lt hroom))).symm) (fun _ => hnil) fun _ => hroom

/-! ### A round that takes a frame off -/

theorem bufferSize_advance (closes : List (List UInt8) → Bool) (packet : List UInt8) (c : Connection) :
    ((c.notify closes packet).advance packet).bufferSize = c.bufferSize := by
  unfold notify advance
  split <;> split <;> rfl

theorem pending_advance (closes : List (List UInt8) → Bool) (hc : c.Bounded) (hframe : c.frame = some packet) :
    ((c.notify closes packet).advance packet).Bounded ∧
      ((c.notify closes packet).advance packet).pending = c.pending.drop (2 + packet.length) ∧
      (((c.notify closes packet).advance packet).pending = [] →
        ((c.notify closes packet).advance packet).bufferDataLen < c.bufferSize) := by
  obtain ⟨-, hle, -⟩ := frame_eq_some hframe
  rw [length_pending] at hle
  obtain ⟨hstart, hsize⟩ := hc
  have hnotify : (c.notify closes packet).buffer = c.buffer ∧ (c.notify closes packet).frameStart = c.frameStart ∧
      (c.notify closes packet).bufferSize = c.bufferSize := by
    unfold notify
    split <;> exact ⟨rfl, rfl, rfl⟩
  generalize c.notify closes packet = d at hnotify
  obtain ⟨hbuffer, hd, hdsize⟩ := hnotify
  unfold advance
  rw [hd, hdsize]
  split
  · -- the frame ends with the buffer
    refine ⟨⟨Nat.le_refl 0, Nat.zero_le _⟩, ?_, fun _ => ?_⟩
    · have hall : c.pending.length ≤ 2 + packet.length := by
        rw [length_pending]
        omega
      rw [drop_eq_nil_of_le hall]
      rfl
    · change 0 < c.bufferSize
      omega
  · refine ⟨⟨?_, ?_⟩, ?_, ?_⟩
    · change c.frameStart + 2 + packet.length ≤ d.buffer.length
      rw [hbuffer]
      change _ ≤ c.bufferDataLen
      omega
    · rw [hbuffer]
      exact hsize
    · change d.buffer.drop (c.frameStart + 2 + packet.length) = (c.buffer.drop c.frameStart).drop (2 + packet.length)
      rw [hbuffer, drop_drop, Nat.add_assoc]
    · intro hnil
      change d.buffer.drop (c.frameStart + 2 + packet.length) = [] at hnil
      rw [drop_eq_nil_iff, hbuffer] at hnil
      rw [hbuffer]
      change c.bufferDataLen ≤ _ at hnil
      change c.bufferDataLen < _
      omega

theorem heard_advance (closes : List (List UInt8) → Bool) {f : List UInt8} (hf : f.drop 2 = packet) (hopen : c.closed = false) :
    heard closes c.delivered (packets [f]) =
      (((c.notify closes packet).advance packet).delivered, ((c.notify closes packet).advance packet).closed) := by
  have hadvance : ∀ d : Connection, (d.advance packet).closed = d.closed ∧ (d.advance packet).delivered = d.delivered := by
    intro d
    unfold advance
    split <;> exact ⟨rfl, rfl⟩
  rw [(hadvance _).1, (hadvance _).2, packets, map_singleton, hf]
  unfold notify
  by_cases hnil : packet = []
  · rw [if_pos hnil, hopen, hnil]
    rfl
  · rw [if_neg hnil, filter_cons_of_pos (by simpa using hnil), filter_nil, heard]
    cases hcloses : closes (c.delivered ++ [packet]) <;> rfl

theorem represents_of_frame {c' : Connection} (hc : c.Bounded) (hopen : c.closed = false) (hframe : c.frame = some packet)
    (hclosed : ((c.notify closes packet).advance packet).closed = true → c' = (c.notify closes packet).advance packet)
    (hrest : ((c.notify closes packet).advance packet).closed = false →
      Represents closes c.bufferSize ((c.notify closes packet).advance packet).delivered (c.pending.drop (2 + packet.length)) c') :
    Represents closes c.bufferSize c.delivered c.pending c' := by
  obtain ⟨hannounced, hle, hpacket⟩ := frame_eq_some hframe
  obtain ⟨hbounded, -, -⟩ := pending_advance closes hc hframe
  have hsize := bufferSize_advance closes packet c
  have hlimit : c.pending.length ≤ c.bufferSize := c.length_pending ▸ (Nat.sub_le _ _).trans hc.bufferDataLen_le
  have hscan := scan_of_frame hannounced hle (hle.trans hlimit)
  have hheard : heard closes _ _ = _ := heard_append c.delivered (packets [c.pending.take (2 + packet.length)])
    (packets (framing.scan c.bufferSize (c.pending.drop (2 + packet.length))).1)
  rw [← packets_append, singleton_append, heard_advance closes hpacket hopen] at hheard
  generalize (c.notify closes packet).advance packet = d at hbounded hsize hheard hclosed hrest
  cases hd : d.closed with
  | true =>
    rw [hclosed hd]
    rw [hd, if_pos rfl] at hheard
    refine ⟨hbounded, hsize, ?_, ?_, fun h => ?_, fun h => ?_⟩
    · rw [hscan, hheard]
    · rw [hscan, hheard, hd, Bool.true_or]
    · simp [hd] at h
    · simp [hd] at h
  | false =>
    have h := hrest hd
    rw [hd, if_neg Bool.false_ne_true] at hheard
    refine ⟨h.bounded, h.bufferSize, ?_, ?_, ?_, h.room⟩ <;> rw [hscan]
    · rw [hheard, h.delivered]
    · rw [hheard, h.closed]
    · exact h.pending

theorem parse_of_closed (rounds : Nat) (h : c.closed = true) : parse closes rounds c = c := by
  cases rounds with
  | zero => rfl
  | succ rounds => rw [parse, h, if_pos rfl]

/-- **The loop** parses all that is pending, if it may go on for more rounds than there are bytes. -/
theorem parse_spec : ∀ (rounds : Nat) {c : Connection}, c.Bounded → c.closed = false → c.pending.length < rounds →
    Represents closes c.bufferSize c.delivered c.pending (parse closes rounds c)
  | 0, _, _, _, hrounds => absurd hrounds (Nat.not_lt_zero _)
  | rounds + 1, c, hc, hopen, hrounds => by
    rw [parse, hopen, if_neg Bool.false_ne_true]
    cases hframe : c.frame with
    | none => exact represents_makeRoom hc hopen hframe
    | some packet =>
      obtain ⟨hbounded, hpending, hroom⟩ := pending_advance closes hc hframe
      refine represents_of_frame hc hopen hframe (fun hclosed => ?_) fun hclosed => ?_
      · dsimp only
        rw [parse_of_closed rounds hclosed, ite_self]
      · dsimp only
        have hsize := bufferSize_advance closes packet c
        rw [← hpending, ← hsize]
        split
        · refine parse_spec rounds hbounded hclosed ?_
          have hle := (frame_eq_some hframe).2.1
          rw [hpending, length_drop]
          omega
        -- the frame was the last one
        have hnil : ((c.notify closes packet).advance packet).pending = [] := by
          rw [← length_eq_zero_iff, length_pending]
          omega
        rw [hnil]
        exact represents_empty hbounded hclosed hnil (hsize ▸ hroom hnil)

/-! ## Runs -/

theorem onUvReadAlloc_pos (h : c.bufferDataLen < c.bufferSize) : 0 < c.onUvReadAlloc := by
  unfold onUvReadAlloc
  rw [if_pos h]
  omega

/-- What is left announces a frame that does not fit the buffer, and fills the buffer. -/
def Oversized (limit : Nat) (rest : List UInt8) : Prop :=
  ∃ n, framing.announced rest = some n ∧ limit < n ∧ limit ≤ rest.length

theorem oversized_iff {limit : Nat} (hlimit : 2 ≤ limit) (s : List UInt8) :
    Oversized limit (framing.scan limit s).2 ↔ limit ≤ (framing.scan limit s).2.length := by
  constructor
  · rintro ⟨n, -, -, hle⟩
    exact hle
  · intro hle
    have hstops : ∀ n, framing.announced (framing.scan limit s).2 = some n →
        ¬ (n ≤ (framing.scan limit s).2.length ∧ n ≤ limit) := fun n => stops_scan s
    generalize (framing.scan limit s).2 = rest at hle hstops
    match rest with
    | [] | [_] => simp at hle; omega
    | b0 :: b1 :: rest =>
      refine ⟨_, rfl, ?_, hle⟩
      have hbig := hstops _ rfl
      by_contra hfits
      exact hbig ⟨by omega, by omega⟩

theorem scan_of_oversized {limit : Nat} {rest : List UInt8} (h : Oversized limit rest) (t : List UInt8) :
    framing.scan limit (rest ++ t) = ([], rest ++ t) := by
  obtain ⟨n, hn, hlt, -⟩ := h
  exact scan_of_stop (framing.announced_append t hn) fun hfits => absurd hfits.2 (Nat.not_le.mpr hlt)

theorem represents_new (closes : List (List UInt8) → Bool) (hsize : 2 ≤ size) :
    Represents closes size [] [] { bufferSize := size } :=
  represents_empty (c := { bufferSize := size }) ⟨Nat.le_refl 0, Nat.zero_le _⟩ rfl rfl (Nat.zero_lt_of_lt hsize)

theorem heard_scan_append (closes : List (List UInt8) → Bool) (before : List (List UInt8)) (limit : Nat) (s t : List UInt8) :
    heard closes before (packets (framing.scan limit (s ++ t)).1) =
      if (heard closes before (packets (framing.scan limit s).1)).2 then heard closes before (packets (framing.scan limit s).1)
      else
        heard closes (heard closes before (packets (framing.scan limit s).1)).1
          (packets (framing.scan limit ((framing.scan limit s).2 ++ t)).1) := by
  rw [scan_append s t, packets_append, heard_append]

theorem Represents.of_closed (h : Represents closes size before s c) (hsize : 2 ≤ size)
    (hclosed : c.closed = true) (t : List UInt8) : Represents closes size before (s ++ t) c := by
  have hheard := heard_scan_append closes before size s t
  have hreason := h.closed
  rw [hclosed] at hreason
  suffices hsame : heard closes before (packets (framing.scan size (s ++ t)).1) =
      heard closes before (packets (framing.scan size s).1) ∧
      ((heard closes before (packets (framing.scan size s).1)).2 = true ∨ size ≤ (framing.scan size (s ++ t)).2.length) by
    obtain ⟨hsame, hstill⟩ := hsame
    refine ⟨h.bounded, h.bufferSize, ?_, ?_, fun hopen => ?_, h.room⟩
    · rw [hsame]
      exact h.delivered
    · rw [hsame, hclosed]
      rcases hstill with hstill | hstill
      · rw [hstill, Bool.true_or]
      · rw [decide_eq_true hstill, Bool.or_true]
    · simp [hclosed] at hopen
  cases hstopped : (heard closes before (packets (framing.scan size s).1)).2 with
  | true =>
    rw [hstopped, if_pos rfl] at hheard
    exact ⟨hheard, .inl rfl⟩
  | false =>
    -- the buffer is full: nothing more is scanned
    rw [hstopped, Bool.false_or, eq_comm, decide_eq_true_iff] at hreason
    have hscan := scan_of_oversized ((oversized_iff hsize s).mpr hreason) t
    rw [hstopped, if_neg Bool.false_ne_true, hscan] at hheard
    refine ⟨?_, .inr ?_⟩
    · rw [hheard]
      exact Prod.ext rfl hstopped.symm
    · rw [scan_append s t, hscan, length_append]
      exact Nat.le_add_right_of_le hreason

theorem Represents.append {c' : Connection} (h : Represents closes size before s c) (hopen : c.closed = false)
    (h' : Represents closes size c.delivered (c.pending ++ t) c') : Represents closes size before (s ++ t) c' := by
  have hheard := heard_scan_append closes before size s t
  have hstopped : (heard closes before (packets (framing.scan size s).1)).2 = false := by
    have hreason := h.closed
    rw [hopen, eq_comm, Bool.or_eq_false_iff] at hreason
    exact hreason.1
  rw [hstopped, if_neg Bool.false_ne_true, ← h.delivered] at hheard
  rw [h.pending hopen] at h'
  refine ⟨h'.bounded, h'.bufferSize, ?_, ?_, ?_, h'.room⟩
  · rw [hheard]
    exact h'.delivered
  · rw [hheard, scan_append s t]
    exact h'.closed
  · rw [scan_append s t]
    exact h'.pending

theorem Represents.onUvRead {chunk : List UInt8} (h : Represents closes size before s c) (hsize : 2 ≤ size)
    (hfits : c.closed = true ∨ chunk.length ≤ c.onUvReadAlloc) :
    Represents closes size before (s ++ chunk) (c.onUvRead closes chunk) := by
  unfold Connection.onUvRead
  split
  · rename_i hnothing
    rcases hnothing with hclosed | rfl
    · exact h.of_closed hsize hclosed chunk
    · rwa [append_nil]
  rename_i hreads
  rw [not_or, Bool.not_eq_true] at hreads
  obtain ⟨hopen, -⟩ := hreads
  have hroom := h.room hopen
  have halloc : chunk.length ≤ size - c.bufferDataLen := by
    rcases hfits with hclosed | hfits
    · simp [hopen] at hclosed
    · rwa [onUvReadAlloc, h.bufferSize, if_pos hroom] at hfits
  have hpending : ({ c with buffer := c.buffer ++ chunk } : Connection).pending = c.pending ++ chunk :=
    drop_append_of_le_length h.bounded.frameStart_le
  have hlen : ({ c with buffer := c.buffer ++ chunk } : Connection).bufferDataLen = c.bufferDataLen + chunk.length :=
    length_append
  have hbounded : ({ c with buffer := c.buffer ++ chunk } : Connection).Bounded := by
    constructor
    · rw [hlen]
      exact Nat.le_add_right_of_le h.bounded.frameStart_le
    · rw [hlen]
      change _ ≤ c.bufferSize
      rw [h.bufferSize]
      omega
  have hparsed : Represents closes c.bufferSize c.delivered _
      ({ c with buffer := c.buffer ++ chunk }.userOnTcpConnectionRead closes) :=
    parse_spec _ hbounded hopen (by rw [length_pending]; exact Nat.lt_succ_of_le (Nat.sub_le _ _))
  rw [hpending] at hparsed
  exact h.append hopen (h.bufferSize ▸ hparsed)

/-- The chunks fit the room that is offered for them, as long as the connection reads. -/
def Offered (closes : List (List UInt8) → Bool) (c : Connection) (chunks : List (List UInt8)) : Prop :=
  Along (fun c chunk => (.ok (c.onUvRead closes chunk) : Except Empty Connection))
    (fun c chunk => c.closed = true ∨ chunk.length ≤ c.onUvReadAlloc) c chunks

instance (c : Connection) (chunks : List (List UInt8)) : Decidable (Offered closes c chunks) :=
  inferInstanceAs (Decidable (Along _ _ c chunks))

theorem Represents.foldl (hsize : 2 ≤ size) : ∀ {chunks : List (List UInt8)} {c : Connection} {s : List UInt8},
    Represents closes size before s c → Offered closes c chunks →
    Represents closes size before (s ++ chunks.flatten) (chunks.foldl (Connection.onUvRead closes) c)
  | [], c, s, h, _ => by rwa [flatten_nil, append_nil]
  | chunk :: chunks, c, s, h, hoffered => by
    rw [foldl_cons, flatten_cons, ← append_assoc]
    exact Represents.foldl hsize (h.onUvRead hsize hoffered.1) hoffered.2

end Connection

def run (closes : List (List UInt8) → Bool) (chunks : List (List UInt8)) : Connection :=
  chunks.foldl (Connection.onUvRead closes) { bufferSize := bufferSize }

/-- **Every stream, however it is cut into chunks**: the listener hears the packets of the frames of the stream, up to the
first frame that does not fit the buffer, unless it closes the connection before. -/
theorem run_delivers (closes : List (List UInt8) → Bool) (chunks : List (List UInt8))
    (hoffered : Connection.Offered closes { bufferSize := bufferSize } chunks) :
    (run closes chunks).delivered = (heard closes [] (packets (framing.scan bufferSize chunks.flatten).1)).1 ∧
    ((run closes chunks).closed = true ↔ (heard closes [] (packets (framing.scan bufferSize chunks.flatten).1)).2 = true ∨
        Connection.Oversized bufferSize (framing.scan bufferSize chunks.flatten).2) ∧
    ((∀ ps, closes ps = false) → (run closes chunks).delivered = packets (framing.scan bufferSize chunks.flatten).1 ∧
        ((run closes chunks).closed = true ↔ Connection.Oversized bufferSize (framing.scan bufferSize chunks.flatten).2)) ∧
    (run closes chunks).frameStart ≤ (run closes chunks).bufferDataLen ∧
    (run closes chunks).bufferDataLen ≤ bufferSize ∧
    ((run closes chunks).closed = false → 0 < (run closes chunks).onUvReadAlloc) := by
  have hsize : 2 ≤ bufferSize := by decide
  have h := (Connection.represents_new closes hsize).foldl hsize hoffered
  change Connection.Represents closes bufferSize [] chunks.flatten (run closes chunks) at h
  have hiff := Connection.oversized_iff hsize chunks.flatten
  refine ⟨h.delivered, ?_, fun hopen => ⟨?_, ?_⟩, h.bounded.frameStart_le, h.bufferSize ▸ h.bounded.bufferDataLen_le,
    fun hopen => Connection.onUvReadAlloc_pos (by rw [h.bufferSize]; exact h.room hopen)⟩
  · rw [h.closed, Bool.or_eq_true, decide_eq_true_iff, hiff]
  · rw [h.delivered, heard_of_open hopen]
    rfl
  · rw [h.closed, heard_of_open hopen, hiff, Bool.false_or, decide_eq_true_iff]

theorem run_three_frames : (run (fun _ => false) [[0], [2, 7, 8, 0], [0, 0, 5, 1]]).delivered = [[7, 8]] ∧
      packets (framing.scan bufferSize [0, 2, 7, 8, 0, 0, 0, 5, 1]).1 = [[7, 8]] := by
  have hdelivered : (run (fun _ => false) [[0], [2, 7, 8, 0], [0, 0, 5, 1]]).delivered = [[7, 8]] := by decide +kernel
  have hopen := (run_delivers (fun _ => false) [[0], [2, 7, 8, 0], [0, 0, 5, 1]] (by decide +kernel)).2.2.1 fun _ => rfl
  exact ⟨hdelivered, hopen.1 ▸ hdelivered⟩

end Mediasoup.Tcp
