import Mediasoup.Lib.Framing
import Mediasoup.Utils.Byte

/-!
# Messages of a channel

The worker and the application exchange messages over two pipes, each announced by its length in four bytes of the byte order of
the machine. Both ends read with the same loop: it takes complete messages off the data, until the data is incomplete or, in the
worker, the listener closes the socket. Its outcome is what `Framing.scan` says (`loop_spec`), and a stream of messages is scanned
message by message (`scan_frames`).
-/

namespace Mediasoup.Channel

open Lib Utils List Framing

def messageMaxLen : Nat := 4194308

def payloadMaxLen : Nat := 4194304

inductive Endianness
  | little
  | big
  deriving DecidableEq

/-! ## Frames -/

def getUint32 : Endianness → UInt8 → UInt8 → UInt8 → UInt8 → Nat
  | .little, b0, b1, b2, b3 => get4Bytes b3 b2 b1 b0
  | .big, b0, b1, b2, b3 => get4Bytes b0 b1 b2 b3

def uint32Bytes : Endianness → Nat → List UInt8
  | .little, n => (set4Bytes n).reverse
  | .big, n => set4Bytes n

def frame (e : Endianness) (message : List UInt8) : List UInt8 := uint32Bytes e message.length ++ message

def framing (e : Endianness) : Framing UInt8 where
  announced
    | b0 :: b1 :: b2 :: b3 :: _ => some (4 + getUint32 e b0 b1 b2 b3)
    | _ => none
  announced_pos {s n} h := by
    split at h
    · cases h
      omega
    · cases h
  announced_append {s n} t h := by
    split at h
    · exact h
    · cases h

variable {e : Endianness}

@[simp] theorem length_frame (m : List UInt8) : (frame e m).length = 4 + m.length := by
  cases e <;> simp [frame, uint32Bytes, set4Bytes] <;> omega

theorem drop_frame (m : List UInt8) : (frame e m).drop 4 = m := by
  cases e <;> rfl

theorem announced_frame {m : List UInt8} (hm : m.length < 4294967296) (t : List UInt8) :
    (framing e).announced (frame e m ++ t) = some (4 + m.length) := by
  have hlen : get4Bytes (.ofNat (m.length / 16777216)) (.ofNat (m.length / 65536)) (.ofNat (m.length / 256))
      (.ofNat m.length) = m.length := by
    rw [get4Bytes_set4Bytes, Nat.mod_eq_of_lt hm]
  cases e <;> exact congrArg (fun n => some (4 + n)) hlen

theorem scan_frames {limit : Nat} {ms : List (List UInt8)} (hlen : ∀ m ∈ ms, m.length < 4294967296)
    (hlimit : ∀ m ∈ ms, 4 + m.length ≤ limit) (t : List UInt8) :
    (framing e).scan limit (ms.flatMap (frame e) ++ t) =
      (ms.map (frame e) ++ ((framing e).scan limit t).1, ((framing e).scan limit t).2) := by
  induction ms with
  | nil => rfl
  | cons m ms ih =>
    have hm := mem_cons_self (a := m) (l := ms)
    have hrest := ih (fun m' h => hlen m' (mem_cons_of_mem _ h)) fun m' h => hlimit m' (mem_cons_of_mem _ h)
    have hle : 4 + m.length ≤ (frame e m ++ (ms.flatMap (frame e) ++ t)).length := by
      rw [length_append, length_frame]
      omega
    rw [flatMap_cons, append_assoc, scan_of_frame (announced_frame (hlen m hm) _) hle (hlimit m hm),
      take_left' (length_frame m), drop_left' (length_frame m), hrest]
    rfl

theorem scan_of_long {limit : Nat} {m : List UInt8} (hlen : m.length < 4294967296) (hlimit : limit < 4 + m.length)
    (t : List UInt8) : (framing e).scan limit (frame e m ++ t) = ([], frame e m ++ t) :=
  scan_of_stop (announced_frame hlen t) fun hfits => absurd hfits.2 (Nat.not_le.mpr hlimit)

/-! ## The loop -/

/-- Where the loop stands: the start of the next message, the messages handed over so far, and whether the last one of them has
made the listener close the socket. -/
structure Reading where
  msgStart : Nat := 0
  messages : List (List UInt8) := []
  closed : Bool := false
  deriving DecidableEq

section

variable (e) (closes : List UInt8 → Bool) (data : List UInt8)

def round (r : Reading) : Option Reading :=
  if r.closed then none
  else
    match data.drop r.msgStart with
    | b0 :: b1 :: b2 :: b3 :: rest =>
      if rest.length < getUint32 e b0 b1 b2 b3 then none
      else
        let payload := rest.take (getUint32 e b0 b1 b2 b3)
        some { msgStart := r.msgStart + (4 + payload.length), messages := r.messages ++ [payload], closed := closes payload }
    | _ => none

end

variable {closes : List UInt8 → Bool} {data : List UInt8} {r r' : Reading}

theorem round_eq_some (h : round e closes data r = some r') :
    ∃ payload, r.closed = false ∧ (framing e).announced (data.drop r.msgStart) = some (4 + payload.length) ∧
      4 + payload.length ≤ (data.drop r.msgStart).length ∧
      ((data.drop r.msgStart).take (4 + payload.length)).drop 4 = payload ∧
      r' = ⟨r.msgStart + (4 + payload.length), r.messages ++ [payload], closes payload⟩ := by
  unfold round at h
  split at h
  · cases h
  rename_i hopen
  split at h
  · rename_i b0 b1 b2 b3 rest hdata
    split at h
    · cases h
    have hlen : (rest.take (getUint32 e b0 b1 b2 b3)).length = getUint32 e b0 b1 b2 b3 := by
      rw [length_take]
      omega
    refine ⟨rest.take (getUint32 e b0 b1 b2 b3), Bool.eq_false_iff.mpr hopen, ?_, ?_, ?_, (Option.some.inj h).symm⟩
    · rw [hdata, hlen]
      rfl
    · rw [hdata, hlen]
      simp only [length_cons]
      omega
    · rw [hdata, hlen, Nat.add_comm 4]
      rfl
  · cases h

theorem round_eq_none (h : round e closes data r = none) (hopen : r.closed = false) (limit : Nat) :
    (framing e).scan limit (data.drop r.msgStart) = ([], data.drop r.msgStart) := by
  unfold round at h
  rw [hopen, if_neg Bool.false_ne_true] at h
  split at h
  · rename_i b0 b1 b2 b3 rest hdata
    split at h
    · rw [hdata]
      refine scan_of_stop rfl ?_
      rintro ⟨hle, -⟩
      simp only [length_cons] at hle
      omega
    · cases h
  · apply scan_of_none
    simp only [framing]

theorem round_lt (h : round e closes data r = some r') : data.length - r'.msgStart < data.length - r.msgStart := by
  obtain ⟨payload, -, -, hle, -, rfl⟩ := round_eq_some h
  rw [length_drop] at hle
  show data.length - (r.msgStart + (4 + payload.length)) < _
  omega

variable (e closes data) in
def loop (r : Reading) : Reading :=
  match _h : round e closes data r with
  | none => r
  | some r' => loop r'
termination_by data.length - r.msgStart
decreasing_by exact round_lt _h

theorem loop_of_none (h : round e closes data r = none) : loop e closes data r = r := by
  rw [loop]
  split
  · rfl
  · rename_i r' hr'
    rw [h] at hr'
    cases hr'

theorem loop_of_some (h : round e closes data r = some r') : loop e closes data r = loop e closes data r' := by
  rw [loop]
  split
  · rename_i hnone
    simp [h] at hnone
  rename_i r'' hr''
  rw [h] at hr''
  cases hr''
  rfl

theorem msgStart_le_of_rounds (hr : r.msgStart ≤ data.length)
    (h : Relation.ReflTransGen (fun r r' => round e closes data r = some r') r r') : r'.msgStart ≤ data.length := by
  induction h with
  | refl => exact hr
  | tail _ hround _ =>
    obtain ⟨payload, -, -, hle, -, rfl⟩ := round_eq_some hround
    rw [length_drop] at hle
    show _ + (4 + payload.length) ≤ _
    omega

/-- What a listener is handed of some messages: all of them up to the first one that makes it close the socket. -/
def heard (closes : List UInt8 → Bool) (ms : List (List UInt8)) : List (List UInt8) := ms.take (ms.findIdx closes + 1)

theorem heard_cons (m : List UInt8) (ms : List (List UInt8)) :
    heard closes (m :: ms) = m :: if closes m then [] else heard closes ms := by
  unfold heard
  rw [findIdx_cons]
  cases closes m <;> rfl

theorem heard_append (ms ns : List (List UInt8)) :
    heard closes (ms ++ ns) = heard closes ms ++ if ms.any closes then [] else heard closes ns := by
  induction ms with
  | nil => rfl
  | cons m ms ih =>
    rw [cons_append, heard_cons, heard_cons, any_cons, ih]
    cases closes m <;> simp

theorem heard_of_open (h : ∀ m, closes m = false) (ms : List (List UInt8)) : heard closes ms = ms := by
  induction ms with
  | nil => rfl
  | cons m ms ih => rw [heard_cons, h, if_neg Bool.false_ne_true, ih]

def payloads (frames : List (List UInt8)) : List (List UInt8) := frames.map (List.drop 4)

theorem payloads_append (fs gs : List (List UInt8)) : payloads (fs ++ gs) = payloads fs ++ payloads gs := map_append

theorem payloads_frames (ms : List (List UInt8)) : payloads (ms.map (frame e)) = ms := by
  rw [payloads, map_map]
  conv_rhs => rw [← map_id ms]
  exact map_congr_left fun m _ => drop_frame m

/-- **The loop** hands the messages of the data over, as far as the listener leaves the socket open, and stops behind them. -/
theorem loop_spec {limit : Nat} (hlimit : data.length ≤ limit) (hopen : r.closed = false) : (loop e closes data r).messages =
        r.messages ++ heard closes (payloads ((framing e).scan limit (data.drop r.msgStart)).1) ∧
      (loop e closes data r).closed = (payloads ((framing e).scan limit (data.drop r.msgStart)).1).any closes ∧
      ((loop e closes data r).closed = false →
        data.drop (loop e closes data r).msgStart = ((framing e).scan limit (data.drop r.msgStart)).2) := by
  induction hn : data.length - r.msgStart using Nat.strongRecOn generalizing r with
  | _ n ih =>
    cases hround : round e closes data r with
    | none =>
      rw [loop_of_none hround, round_eq_none hround hopen]
      exact ⟨(append_nil _).symm, hopen, fun _ => rfl⟩
    | some r' =>
      have hlt := round_lt hround
      obtain ⟨payload, -, hannounced, hle, hpayload, rfl⟩ := round_eq_some hround
      have hfits : 4 + payload.length ≤ limit := by
        rw [length_drop] at hle
        omega
      rw [loop_of_some hround, scan_of_frame hannounced hle hfits, drop_drop, payloads, map_cons, hpayload,
        heard_cons, any_cons]
      cases hcloses : closes payload with
      | true =>
        -- the listener closes the socket: the next round is left
        rw [loop_of_none (by rw [round, if_pos rfl])]
        exact ⟨rfl, rfl, nofun⟩
      | false =>
        obtain ⟨hmessages, hclosed, hrest⟩ := ih _ (hn ▸ hcloses ▸ hlt) (r := ⟨r.msgStart + (4 + payload.length),
          r.messages ++ [payload], false⟩) rfl rfl
        refine ⟨?_, hclosed, hrest⟩
        rw [hmessages, append_assoc]
        rfl

theorem loop_start (e : Endianness) (closes : List UInt8 → Bool) {limit : Nat} (hlimit : data.length ≤ limit) :
    (loop e closes data {}).messages = heard closes (payloads ((framing e).scan limit data).1) ∧
      (loop e closes data {}).closed = (payloads ((framing e).scan limit data).1).any closes ∧
      ((loop e closes data {}).closed = false → data.drop (loop e closes data {}).msgStart = ((framing e).scan limit data).2) :=
  loop_spec hlimit rfl

end Mediasoup.Channel
