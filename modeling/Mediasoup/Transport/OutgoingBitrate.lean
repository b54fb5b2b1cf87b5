import Mediasoup.Consumer.Svc

/-!
# The outgoing bitrate of a transport

`DistributeAvailableOutgoingBitrate` hands out the available bitrate to the consumers of the transport. In each round every
consumer may raise its layers (`IncreaseLayer`) and says how much bitrate that takes: once in the first round, later up to as many
times as its priority. What the consumers read at a call (the time, the bitrates, and what the `float` computation makes of them
and the loss) may be anything.
-/

namespace Mediasoup.Consumer

open Rtp

structure Readings where
  nowMs : Nat
  /-- the bitrates of the layers of the stream, or streams, of the producer -/
  rates : SimulcastConsumer.Bitrates
  /-- the bitrate of the whole stream of the producer, for simple consumers -/
  streamBitrate : Nat
  /-- the virtual bitrate that the loss makes of a bitrate -/
  lossBitrate : Nat → Nat

def Readings.virtualBitrate (r : Readings) (considerLoss : Bool) (bitrate : Nat) : Nat :=
  if considerLoss then r.lossBitrate bitrate else bitrate

variable {κ : Type}

namespace SvcConsumer

def increaseLayerUsed (c : SvcConsumer κ) (nowMs : Nat) (rates : SimulcastConsumer.Bitrates)
    (bitrate virtualBitrate : Nat) : Except ConsumerFault (SvcConsumer κ × Nat) :=
  if !c.externallyManagedBitrate then .error .notExternallyManaged
  else if !c.isActive then .error .notActive
  else
    match c.producerRtpStream with
    | none => .error .nullStream
    | some s =>
      if s.score = 0 then .ok (c, 0)
      else if c.provisionalTargetSpatialLayer = c.preferredSpatialLayer ∧
          c.provisionalTargetTemporalLayer = c.preferredTemporalLayer then .ok (c, 0)
      else
        match c.nextLayers nowMs rates s (List.range s.params.spatialLayers.toNat) with
        | none => .ok (c, 0)
        | some (spatialLayer, temporalLayer, required) =>
          if required > virtualBitrate then .ok (c, 0)
          else
            .ok ({ c with
              provisionalTargetSpatialLayer := spatialLayer
              provisionalTargetTemporalLayer := temporalLayer }, if required ≤ bitrate then required else bitrate)

/-- The consumer is the one of `increaseLayer`, whatever bitrate is said to be used. -/
theorem increaseLayerUsed_fst (c : SvcConsumer κ) (nowMs : Nat) (rates : SimulcastConsumer.Bitrates)
    (bitrate virtualBitrate : Nat) :
    (c.increaseLayerUsed nowMs rates bitrate virtualBitrate).map Prod.fst = c.increaseLayer nowMs rates virtualBitrate := by
  unfold increaseLayerUsed increaseLayer
  cases c.producerRtpStream with
  | none => split_ifs <;> rfl
  | some s =>
    dsimp only
    cases c.nextLayers nowMs rates s (List.range s.params.spatialLayers.toNat) with
    | none => split_ifs <;> rfl
    | some layers =>
      dsimp only
      split_ifs <;> rfl

end SvcConsumer

/-- The consumers that take part in the distribution. A simple consumer knows its kind of media, and whether it was
given bitrate since the last `ApplyLayers`. -/
inductive Managed (κ : Type)
  | simple (c : SimpleConsumer κ) (video managingBitrate : Bool)
  | simulcast (c : SimulcastConsumer κ)
  | svc (c : SvcConsumer κ)
  deriving DecidableEq

end Mediasoup.Consumer

namespace Mediasoup.Transport

open Rtp Consumer

inductive BitrateFault
  /-- "Consumer used more layer bitrate than given" -/
  | overused
  /-- "should be video" -/
  | notVideo
  | consumer (f : ConsumerFault)
  deriving DecidableEq

end Mediasoup.Transport

namespace Mediasoup.Consumer

open Rtp Transport

namespace Managed

variable {κ : Type}

def base : Managed κ → ConsumerBase
  | simple c _ _ => c.toConsumerBase
  | simulcast c => c.toConsumerBase
  | svc c => c.toConsumerBase

def isActive : Managed κ → Bool
  | simple c _ _ => c.isActive
  | simulcast c => c.isActive
  | svc c => c.isActive

/-- Audio consumers are simple. -/
def isVideo : Managed κ → Bool
  | simple _ video _ => video
  | simulcast _ => true
  | svc _ => true

/-- `GetBitratePriority`, for the priority that the application has set. -/
def bitratePriority (c : Managed κ) (priority : UInt8) : Except BitrateFault UInt8 :=
  if !c.base.externallyManagedBitrate then .error (.consumer .notExternallyManaged)
  else .ok (if c.isVideo && c.isActive then priority else 0)

def increaseSimple (c : SimpleConsumer κ) (video managingBitrate : Bool) (r : Readings) (bitrate : Nat) :
    Except BitrateFault (Managed κ × Nat) :=
  if !c.externallyManagedBitrate then .error (.consumer .notExternallyManaged)
  else if !video then .error .notVideo
  else if !c.isActive then .error (.consumer .notActive)
  -- not the first call since the last `ApplyLayers`
  else if managingBitrate then .ok (simple c video managingBitrate, 0)
  else .ok (simple c video true, if r.streamBitrate < bitrate then r.streamBitrate else bitrate)

def increaseLayer (c : Managed κ) (r : Readings) (considerLoss : Bool) (bitrate : Nat) :
    Except BitrateFault (Managed κ × Nat) :=
  match c with
  | simple c video managingBitrate => increaseSimple c video managingBitrate r bitrate
  | simulcast c =>
    match c.increaseLayer r.nowMs r.rates bitrate (r.virtualBitrate considerLoss bitrate) with
    | .error f => .error (.consumer f)
    | .ok (c, used) => .ok (simulcast c, used)
  | svc c =>
    match c.increaseLayerUsed r.nowMs r.rates bitrate (r.virtualBitrate considerLoss bitrate) with
    | .error f => .error (.consumer f)
    | .ok (c, used) => .ok (svc c, used)

def applyLayers (c : Managed κ) (nowMs : Nat) : Except BitrateFault (Managed κ) :=
  match c with
  | simple c video _ =>
    if !c.externallyManagedBitrate then .error (.consumer .notExternallyManaged)
    else if !video then .error .notVideo
    else if !c.isActive then .error (.consumer .notActive)
    else .ok (simple c video false)
  | simulcast c =>
    match c.applyLayers nowMs with
    | .error f => .error (.consumer f)
    | .ok c => .ok (simulcast c)
  | svc c =>
    match c.applyLayers nowMs with
    | .error f => .error (.consumer f)
    | .ok c => .ok (svc c)

end Managed

end Mediasoup.Consumer

namespace Mediasoup.Transport

open Rtp Consumer

variable {κ : Type}

structure Entry (κ : Type) where
  priority : UInt8
  consumer : Managed κ
  deriving DecidableEq

structure Use (κ : Type) where
  before : Managed κ
  after : Managed κ
  nowMs : Nat
  /-- the bitrate that was available -/
  bitrate : Nat
  used : Nat

structure Progress (κ : Type) where
  available : Nat
  uses : List (Use κ) := []
  fault : Option BitrateFault := none

namespace Progress

def record (s : Progress κ) (use : Use κ) : Progress κ :=
  { s with available := s.available - use.used, uses := s.uses ++ [use] }

def fail (s : Progress κ) (f : BitrateFault) : Progress κ := { s with fault := some f }

def failed (s : Progress κ) : Bool := s.fault.isSome

end Progress

/-- What the consumers read, by the number of the call. -/
structure Env where
  readings : Nat → Readings
  considerLoss : Bool
  /-- the time at `ApplyLayers` -/
  nowMs : Nat

/-- The entry at its place: `emplace` puts it after those of the same priority. -/
def emplace (entries : List (Entry κ)) (e : Entry κ) : List (Entry κ) :=
  entries.takeWhile (·.priority ≤ e.priority) ++ e :: entries.dropWhile (·.priority ≤ e.priority)

/-- The map of the consumers with a priority, by ascending priority. `consumers` holds each consumer with the priority
that the application has set, in the order of `mapConsumers`. -/
def priorityConsumers : List (UInt8 × Managed κ) → List (Entry κ) → Except BitrateFault (List (Entry κ))
  | [], entries => .ok entries
  | (priority, c) :: rest, entries =>
    match c.bitratePriority priority with
    | .error f => .error f
    | .ok priority =>
      priorityConsumers rest (if priority > 0 then emplace entries { priority := priority, consumer := c } else entries)

/-- The calls of one consumer in a round. The counter is a `uint8_t`, so that for the priority 255 only a call that uses
nothing ends the loop. -/
def allocate (env : Env) (bound i : UInt8) (c : Managed κ) (s : Progress κ) : Managed κ × Progress κ :=
  if i ≤ bound then
    match c.increaseLayer (env.readings s.uses.length) env.considerLoss s.available with
    | .error f => (c, s.fail f)
    | .ok (c', used) =>
      let s' := s.record ⟨c, c', (env.readings s.uses.length).nowMs, s.available, used⟩
      if used > s.available then (c', s'.fail .overused)
      else if used = 0 then (c', s')
      else allocate env bound (i + 1) c' s'
  else (c, s)
termination_by s.available
decreasing_by
  simp only [Progress.record]
  omega

def Entry.callLimit (e : Entry κ) (baseAllocation : Bool) : UInt8 := if baseAllocation then 1 else e.priority

def round (env : Env) (baseAllocation : Bool) : List (Entry κ) → Progress κ → List (Entry κ) × Progress κ
  | [], s => ([], s)
  | e :: rest, s =>
    let r := allocate env (e.callLimit baseAllocation) 1 e.consumer s
    if r.2.failed then ({ e with consumer := r.1 } :: rest, r.2)
    else
      let r' := round env baseAllocation rest r.2
      ({ e with consumer := r.1 } :: r'.1, r'.2)

theorem Progress.record_available_le (s : Progress κ) (use : Use κ) : (s.record use).available ≤ s.available :=
  Nat.sub_le _ _

theorem allocate_available_le (env : Env) (bound i : UInt8) (c : Managed κ) (s : Progress κ) :
    (allocate env bound i c s).2.available ≤ s.available := by
  fun_induction allocate env bound i c s with
  | case1 i c s _ f _ => exact le_rfl
  | case2 i c s _ c' used _ s' _ => exact s.record_available_le _
  | case3 i c s _ c' _ s' _ => exact s.record_available_le _
  | case4 i c s _ c' used _ s' _ _ ih => exact ih.trans (s.record_available_le _)
  | case5 i c s _ => exact le_rfl

theorem round_available_le (env : Env) (baseAllocation : Bool) : ∀ (entries : List (Entry κ)) (s : Progress κ),
    (round env baseAllocation entries s).2.available ≤ s.available
  | [], s => le_rfl
  | e :: rest, s => by
    have hfirst := allocate_available_le env (e.callLimit baseAllocation) 1 e.consumer s
    rw [round]
    split
    · exact hfirst
    · exact (round_available_le env baseAllocation rest _).trans hfirst

def rounds (env : Env) (baseAllocation : Bool) (entries : List (Entry κ)) (s : Progress κ) :
    List (Entry κ) × Progress κ :=
  if 0 < s.available then
    let r := round env baseAllocation entries s
    if r.2.failed then r
    -- no consumer used bitrate
    else if r.2.available = s.available then r
    else rounds env false r.1 r.2
  else (entries, s)
termination_by s.available
decreasing_by exact lt_of_le_of_ne (round_available_le env baseAllocation entries s) ‹_›

def applyAll (nowMs : Nat) (entries : List (Entry κ)) : Except BitrateFault (List (Entry κ)) :=
  entries.mapM fun e => do
    let c ← e.consumer.applyLayers nowMs
    return { e with consumer := c }

/-- What `DistributeAvailableOutgoingBitrate` leaves of the consumers with a priority, with its calls. -/
def distributeAvailableOutgoingBitrate (env : Env) (available : Nat) (consumers : List (UInt8 × Managed κ)) :
    List (Entry κ) × Progress κ :=
  match priorityConsumers consumers [] with
  | .error f => ([], ({ available := available } : Progress κ).fail f)
  | .ok entries =>
    -- the map is walked from its end, by descending priority
    let r := rounds env true entries.reverse { available := available }
    if r.2.failed then r
    else
      match applyAll env.nowMs r.1 with
      | .error f => (r.1, r.2.fail f)
      | .ok applied => (applied, r.2)

end Mediasoup.Transport
