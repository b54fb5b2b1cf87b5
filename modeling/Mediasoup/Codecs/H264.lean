import Mediasoup.Codecs.Handler

/-!
# H264

`parse` takes the layers of a packet from the frame marking extension and looks into the NAL units for a key frame. For a
consumer, `process` drops the packets of temporal layers above the target one, and those at which the current layer cannot be
upgraded. It writes nothing.
-/

namespace Mediasoup.Codecs.H264

open Lib Rtp Utils

/-- The frame marking extension; `len` is its length, at most 3. -/
structure FrameMarking where
  start : Bool
  end_ : Bool
  independent : Bool
  discardable : Bool
  base : Bool
  tid : Nat
  lid : Nat := 0
  tl0picidx : Nat := 0
  len : Nat
  deriving DecidableEq

/-- The flags are not set without frame marking, and `b` is read only if there is a `tid`. -/
structure PayloadDescriptor where
  s : Bool := false
  e : Bool := false
  i : Bool := false
  d : Bool := false
  b : Bool := false
  tid : Nat := 0
  lid : Nat := 0
  tl0picidx : Nat := 0
  hasLid : Bool := false
  hasTid : Bool := false
  hasTl0picidx : Bool := false
  isKeyFrame : Bool := false
  deriving DecidableEq

/-! ## `Parse` -/

def readFrameMarking (m : FrameMarking) : PayloadDescriptor :=
  { s := m.start
    e := m.end_
    i := m.independent
    d := m.discardable
    b := m.base
    tid := m.tid
    hasTid := true
    hasLid := decide (m.len ≥ 2)
    lid := if m.len ≥ 2 then m.lid else 0
    hasTl0picidx := decide (m.len = 3)
    tl0picidx := if m.len = 3 then m.tl0picidx else 0
    isKeyFrame := m.start && m.independent }

/-- `n` bounds the number of rounds: each takes two bytes or more. -/
def aggregatesKeyFrame : Nat → List UInt8 → Bool
  | 0, _ => false
  | n + 1, data =>
    match data with
    | b0 :: b1 :: nal :: _ =>
      if nal.toNat % 32 = 7 then true
      else if data.length < get2Bytes b0 b1 + 2 then false
      else aggregatesKeyFrame n (data.drop (get2Bytes b0 b1 + 2))
    | _ => false

def payloadStartsKeyFrame : List UInt8 → Bool
  | b0 :: b1 :: rest =>
    match b0.toNat % 32 with
    | 7 => true
    | 24 => aggregatesKeyFrame (rest.length + 1) (b1 :: rest)
    | 28 | 29 => b1.toNat % 32 == 7 && b1.toNat.testBit 7
    | _ => false
  | _ => false

def parse (payload : List UInt8) (frameMarking : Option FrameMarking) : Option PayloadDescriptor :=
  if payload.length < 2 then none
  else
    let d := (frameMarking.map readFrameMarking).getD {}
    some { d with isKeyFrame := d.isKeyFrame || payloadStartsKeyFrame payload }

def isSps (nal : List UInt8) : Bool := nal.head?.any (·.toNat % 32 == 7)

/-- A NAL unit in an aggregation packet. -/
def aggregated (nal : List UInt8) : List UInt8 := set2Bytes nal.length ++ nal

theorem aggregatesKeyFrame_eq : ∀ {nals : List (List UInt8)} {n : Nat}, (∀ nal ∈ nals, nal ≠ [] ∧ nal.length < 65536) →
    nals.length ≤ n → aggregatesKeyFrame n (nals.flatMap aggregated) = nals.any isSps
  | [], 0, _, _ => rfl
  | [], n + 1, _, _ => rfl
  | [] :: _, _, hnals, _ => absurd rfl (hnals [] List.mem_cons_self).1
  | (b :: nal) :: nals, n + 1, hnals, hn => by
    have hlen : get2Bytes (.ofNat ((b :: nal).length / 256)) (.ofNat (b :: nal).length) = (b :: nal).length :=
      (get2Bytes_set2Bytes _).trans (Nat.mod_eq_of_lt (hnals _ List.mem_cons_self).2)
    have ih := aggregatesKeyFrame_eq (fun nal h => hnals nal (List.mem_cons_of_mem _ h)) (Nat.le_of_succ_le_succ hn)
    rw [List.flatMap_cons, List.any_cons, aggregated, set2Bytes, ← ih]
    simp only [List.cons_append, List.nil_append, aggregatesKeyFrame, hlen]
    by_cases hsps : b.toNat % 32 = 7
    · simp [isSps, hsps]
    · simp [isSps, hsps]

/-- **Aggregation packets.** Whatever NAL units it has, it is a key frame exactly if one of them is an SPS, or the frame marking
says so. -/
theorem parse_aggregated (frameMarking : Option FrameMarking) {header : UInt8} (hheader : header.toNat % 32 = 24)
    {nals : List (List UInt8)} (hne : nals ≠ []) (hnals : ∀ nal ∈ nals, nal ≠ [] ∧ nal.length < 65536) :
    (parse (header :: nals.flatMap aggregated) frameMarking).map PayloadDescriptor.isKeyFrame =
      some (frameMarking.any (fun m => m.start && m.independent) || nals.any isSps) := by
  obtain ⟨b, rest, hrest⟩ : ∃ b rest, nals.flatMap aggregated = b :: rest := by
    cases nals with
    | nil => exact absurd rfl hne
    | cons nal nals => exact ⟨_, _, rfl⟩
  have hlen : nals.length ≤ (nals.flatMap aggregated).length := by
    rw [List.length_flatMap]
    simpa using List.length_le_sum_of_one_le (nals.map fun nal => (aggregated nal).length) (by simp [aggregated, set2Bytes])
  have hkey := aggregatesKeyFrame_eq hnals hlen
  rw [hrest] at hkey ⊢
  rw [parse, if_neg (by simp), ← hkey, Option.map_some, payloadStartsKeyFrame, hheader]
  cases frameMarking <;> rfl

theorem parse_aggregated_sps : (parse (0x78 :: [[0x65, 1], [0x67, 2, 3]].flatMap aggregated) none).map
    PayloadDescriptor.isKeyFrame = some true :=
  parse_aggregated none (by decide) (by decide) (by decide)

def processRtpPacket (p : MediaPacket PayloadDescriptor) (frameMarking : Option FrameMarking) :
    MediaPacket PayloadDescriptor :=
  match parse p.packet.payload frameMarking with
  | none => p
  | some d => { p with descriptor := some d }

/-! ## `Process` -/

abbrev Context := EncodingContext Unit

def layerDropped (context : Context) (d : PayloadDescriptor) : Bool :=
  d.hasTid && (decide ((d.tid : Int) > context.targetTemporalLayer) ||
    (decide ((d.tid : Int) > context.currentTemporalLayer) && !d.b))

def updateTemporalLayer (context : Context) (d : PayloadDescriptor) : Context :=
  let current :=
    if d.hasTid && decide ((d.tid : Int) > context.currentTemporalLayer) then (d.tid : Int)
    else if !d.hasTid then 0
    else context.currentTemporalLayer
  { context with
    currentTemporalLayer := if current > context.targetTemporalLayer then context.targetTemporalLayer else current }

def process (context : Context) (d : PayloadDescriptor) (payload : List UInt8) : Except CodecFault (Processed Unit) :=
  if context.targetTemporalLayer < 0 then .error .noTargetTemporalLayer
  else if layerDropped context d then .ok { passed := false, context := context, payload := payload }
  else .ok { passed := true, context := updateTemporalLayer context d, payload := payload }

def codec : Codec PayloadDescriptor Unit where
  process _ := process
  restore _ payload := payload
  syncRequired := id
  isKeyFrame := PayloadDescriptor.isKeyFrame
  temporalLayer := PayloadDescriptor.tid

end Mediasoup.Codecs.H264
