import Mediasoup.Lib.Run
import Mediasoup.Utils.String

/-!
# Data consumers

`DataConsumer` with what it tells its owner: that the buffered amount has become low, and the answer to a request to send a
message, for which a callback on the heap is passed down to `SctpAssociation`.

- `emits_iff_above`: the notifications are those expected exactly if every threshold is set below the buffered amount. For another
  one the text of the notification is made but not emitted.
- `answeredOnce_iff`: a request is answered once exactly if it is rejected before the callback is made or the consumer is active.
-/

namespace Mediasoup.Sctp

open Lib

/-- The outgoing side of `SctpAssociation`. -/
structure Sender where
  maxSctpMessageSize : Nat
  sctpBufferedAmount : UInt32 := 0
  deriving DecidableEq

inductive DataConsumerType
  | sctp
  | direct
  deriving DecidableEq

structure DataConsumer where
  type : DataConsumerType := .sctp
  sctpAssociation : Option Sender
  maxMessageSize : Nat
  /-- The transport gives both the same size. -/
  sizes : ∀ a, sctpAssociation = some a → a.maxSctpMessageSize = maxMessageSize
  transportConnected : Bool := false
  sctpAssociationConnected : Bool := false
  dataProducerClosed : Bool := false
  messagesSent : Nat := 0
  bytesSent : Nat := 0
  bufferedAmount : UInt32 := 0
  bufferedAmountLowThreshold : UInt32 := 0
  forceTriggerBufferedAmountLow : Bool := false

namespace DataConsumer

inductive Answer
  | accepted
  | error (reason : String)
  | typeError (reason : String)
  deriving DecidableEq

/-! ## The buffered amount -/

/-- `HandleRequest`, a threshold that is an unsigned number: the consumer and the notification, if one is emitted. -/
def setBufferedAmountLowThreshold (c : DataConsumer) (threshold : UInt32) : Except Answer (DataConsumer × Option UInt32) :=
  if c.type ≠ .sctp then .error (.typeError "invalid DataConsumer type")
  else
    let c := { c with bufferedAmountLowThreshold := threshold }
    -- the text of the notification is made here, and dropped
    if c.bufferedAmount ≤ c.bufferedAmountLowThreshold then .ok (c, none)
    else .ok ({ c with forceTriggerBufferedAmountLow := true }, none)

/-- The second component is what 'bufferedamountlow' carries, if it is emitted. -/
def sctpAssociationBufferedAmount (c : DataConsumer) (bufferedAmount : UInt32) : DataConsumer × Option UInt32 :=
  let previousBufferedAmount := c.bufferedAmount
  let c := { c with bufferedAmount := bufferedAmount }
  if (c.forceTriggerBufferedAmountLow ∨ previousBufferedAmount > c.bufferedAmountLowThreshold) ∧
      c.bufferedAmount ≤ c.bufferedAmountLowThreshold then
    ({ c with forceTriggerBufferedAmountLow := false }, some c.bufferedAmount)
  else (c, none)

/-! ## Sending -/

/-- What a request to send does, in order. -/
inductive SendEffect
  | callbackNew
  | callbackDeleted
  | answer (a : Answer)
  | bufferedAmount (amount : UInt32)
  | sctpSendBufferFull
  deriving DecidableEq

inductive SendOutcome
  | queued
  | failed (sctpSendBufferFull : Bool)
  deriving DecidableEq

def onQueued (queued sctpSendBufferFull : Bool) : SendEffect :=
  .answer (if queued then .accepted else .error (if sctpSendBufferFull then "sctpsendbufferfull" else "message send failed"))

/-- "given message exceeds max allowed message size" -/
inductive SendFault
  | messageTooLarge
  deriving DecidableEq

/-- `SendSctpMessage` with a callback; without one (`cb` is false) only the association is told. -/
def sendSctpMessage (a : Sender) (len : Nat) (cb : Bool) (outcome : SendOutcome) : Except SendFault (List SendEffect) :=
  if len > a.maxSctpMessageSize then .error .messageTooLarge
  else .ok (.bufferedAmount (a.sctpBufferedAmount + .ofNat len) :: match outcome with
    | .queued => if cb then [onQueued true false, .callbackDeleted] else []
    | .failed full =>
      (if cb then [onQueued false full, .callbackDeleted] else []) ++ if full then [.sctpSendBufferFull] else [])

def isActive (c : DataConsumer) : Bool :=
  c.transportConnected && (c.type = .direct || c.sctpAssociationConnected) && !c.dataProducerClosed

def sendMessage (c : DataConsumer) (a : Sender) (len : Nat) (cb : Bool) (outcome : SendOutcome) :
    Except SendFault (DataConsumer × List SendEffect) :=
  if !c.isActive then .ok (c, [])
  else if len > c.maxMessageSize then .ok (c, [])
  else do
    let effects ← sendSctpMessage a len cb outcome
    return ({ c with messagesSent := c.messagesSent + 1, bytesSent := c.bytesSent + len }, effects)

structure SendRequest where
  data : List Char
  payloadLen : Nat

def checkSend (c : DataConsumer) (request : SendRequest) : Except Answer Sender :=
  if c.type ≠ .sctp then .error (.typeError "invalid DataConsumer type")
  else match c.sctpAssociation with
    | none => .error (.error "no SCTP association present")
    | some a => match Utils.stoi request.data with
      -- the text of the exception is that of libstdc++
      | none => .error (.typeError "invalid PPID value: stoi")
      | some _ =>
        if request.payloadLen > c.maxMessageSize then
          -- the two numbers are given in the wrong order
          .error (.typeError ("given message exceeds maxMessageSize value [maxMessageSize:" ++ toString request.payloadLen ++
            ", len:" ++ toString c.maxMessageSize ++ "]"))
        else .ok a

/-- `Worker::HandleRequest` adds the method to what is thrown. -/
def Answer.inMethod : Answer → Answer
  | .accepted => .accepted
  | .error reason => .error (reason ++ " [method:dataConsumer.send]")
  | .typeError reason => .typeError (reason ++ " [method:dataConsumer.send]")

/-- `HandleRequest`; what it throws becomes the answer. -/
def handleSend (c : DataConsumer) (request : SendRequest) (outcome : SendOutcome) :
    Except SendFault (DataConsumer × List SendEffect) :=
  match c.checkSend request with
  | .error answer => .ok (c, [.answer answer.inMethod])
  | .ok a => (c.sendMessage a request.payloadLen true outcome).map fun (c, effects) => (c, .callbackNew :: effects)

/-- One answer, and as many callbacks deleted as made. -/
def AnsweredOnce (effects : List SendEffect) : Prop :=
  effects.countP (fun e => e matches .answer _) = 1 ∧ effects.count .callbackDeleted = effects.count .callbackNew

variable {c : DataConsumer} {a : Sender} {request : SendRequest}

theorem checkSend_eq_ok (h : c.checkSend request = .ok a) :
    c.sctpAssociation = some a ∧ request.payloadLen ≤ c.maxMessageSize := by
  unfold checkSend at h
  split at h
  · cases h
  split at h
  · cases h
  rename_i hsome
  split at h
  · cases h
  split at h
  · cases h
  · cases h
    exact ⟨hsome, by omega⟩

theorem answeredOnce_sendSctpMessage {len : Nat} (hlen : len ≤ a.maxSctpMessageSize) (outcome : SendOutcome) :
    ∃ effects, sendSctpMessage a len true outcome = .ok effects ∧ AnsweredOnce (.callbackNew :: effects) := by
  refine ⟨_, if_neg (by omega), ?_⟩
  cases outcome with
  | queued => simp [AnsweredOnce, onQueued]
  | failed full => cases full <;> simp [AnsweredOnce, onQueued]

theorem sendMessage_of_active (hactive : c.isActive = true) (hsome : c.sctpAssociation = some a) {len : Nat}
    (hlen : len ≤ c.maxMessageSize) (outcome : SendOutcome) :
    ∃ c' effects, c.sendMessage a len true outcome = .ok (c', effects) ∧ AnsweredOnce (.callbackNew :: effects) := by
  have hsize := c.sizes a hsome
  obtain ⟨effects, hsend, honce⟩ := answeredOnce_sendSctpMessage (hsize ▸ hlen) outcome
  refine ⟨{ c with messagesSent := c.messagesSent + 1, bytesSent := c.bytesSent + len }, effects, ?_, honce⟩
  rw [sendMessage, hactive, if_neg (by decide), if_neg (by omega), hsend]
  rfl

/-- **A request to send is answered exactly once** if it is rejected by the checks or the consumer is active, and only then. -/
theorem answeredOnce_iff (c : DataConsumer) (request : SendRequest) (outcome : SendOutcome) :
    (∃ c' effects, c.handleSend request outcome = .ok (c', effects) ∧ AnsweredOnce effects) ↔
      (∃ answer, c.checkSend request = .error answer) ∨ c.isActive = true := by
  unfold handleSend
  cases hcheck : c.checkSend request with
  | error answer => simp [AnsweredOnce]
  | ok a =>
    obtain ⟨hsome, hlen⟩ := checkSend_eq_ok hcheck
    cases hactive : c.isActive with
    | false => simp [sendMessage, hactive, AnsweredOnce, Except.map]
    | true =>
      obtain ⟨c', effects, hsend, honce⟩ := sendMessage_of_active hactive hsome hlen outcome
      refine iff_of_true ⟨c', _, ?_, honce⟩ (.inr rfl)
      dsimp only
      rw [hsend]
      rfl

def unconnected : DataConsumer :=
  { sctpAssociation := some { maxSctpMessageSize := 1000 }, maxMessageSize := 1000, sizes := by simp }

theorem unconnected_not_answered :
    unconnected.handleSend ⟨"51".toList, 5⟩ .queued = .ok (unconnected, [.callbackNew]) ∧ ¬AnsweredOnce [.callbackNew] := by
  refine ⟨rfl, ?_⟩
  simp [AnsweredOnce]

/-! ## The notifications of a run -/

inductive AmountEvent
  | setThreshold (threshold : UInt32)
  | update (bufferedAmount : UInt32)
  deriving DecidableEq

def handle (c : DataConsumer) : AmountEvent → DataConsumer × Option UInt32
  | .setThreshold t => (c.setBufferedAmountLowThreshold t).toOption.getD (c, none)
  | .update n => c.sctpAssociationBufferedAmount n

/-- The buffered amount after the events, the latest first. -/
def amountAfter : List AmountEvent → UInt32
  | [] => 0
  | .update n :: _ => n
  | .setThreshold _ :: past => amountAfter past

def thresholdAfter : List AmountEvent → UInt32
  | [] => 0
  | .setThreshold t :: _ => t
  | .update _ :: past => thresholdAfter past

/-- A threshold was set below the amount, and there was no low update since. -/
def forcedAfter : List AmountEvent → Bool
  | [] => false
  | .setThreshold t :: past => decide (amountAfter past > t) || forcedAfter past
  | .update n :: past => decide (n > thresholdAfter past) && forcedAfter past

/-- The amount to be notified: when a threshold is set that the amount does not exceed, when the amount falls to the threshold,
and at the first low update after it was forced. -/
def expected (past : List AmountEvent) : AmountEvent → Option UInt32
  | .setThreshold t => if amountAfter past ≤ t then some (amountAfter past) else none
  | .update n =>
    if n ≤ thresholdAfter past ∧ (amountAfter past > thresholdAfter past ∨ forcedAfter past) then some n else none

/-- A consumer with the events so far, and the notification of the last one. -/
structure AmountTrace where
  consumer : DataConsumer
  past : List AmountEvent := []
  emitted : Option UInt32 := none

namespace AmountTrace

def step (s : AmountTrace) (e : AmountEvent) : Except Empty AmountTrace :=
  .ok ⟨(s.consumer.handle e).1, e :: s.past, (s.consumer.handle e).2⟩

def Emits (s : AmountTrace) (e : AmountEvent) (s' : AmountTrace) : Prop := s'.emitted = expected s.past e

def Above (s : AmountTrace) : AmountEvent → Prop
  | .setThreshold t => s.consumer.bufferedAmount > t
  | .update _ => True

def start (c : DataConsumer) : AmountTrace where
  consumer :=
    { c with type := .sctp, bufferedAmount := 0, bufferedAmountLowThreshold := 0, forceTriggerBufferedAmountLow := false }

structure Inv (s : AmountTrace) : Prop where
  type : s.consumer.type = .sctp
  amount : s.consumer.bufferedAmount = amountAfter s.past
  threshold : s.consumer.bufferedAmountLowThreshold = thresholdAfter s.past
  forced : s.consumer.forceTriggerBufferedAmountLow = forcedAfter s.past

theorem Inv.step {s : AmountTrace} (h : Inv s) (e : AmountEvent) :
    ∃ s', s.step e = .ok s' ∧ (Emits s e s' ↔ Above s e) ∧ Inv s' := by
  obtain ⟨htype, hamount, hthreshold, hforced⟩ := h
  refine ⟨⟨(s.consumer.handle e).1, e :: s.past, (s.consumer.handle e).2⟩, rfl, ?_⟩
  cases e with
  | setThreshold t =>
    dsimp only [handle, setBufferedAmountLowThreshold, Emits, Above, expected]
    rw [← hamount, if_neg (not_not.mpr htype)]
    split
    · rename_i hlow
      exact ⟨by simpa [Except.toOption] using hlow, htype, hamount, rfl, by
        simp [Except.toOption, forcedAfter, ← hamount, hlow, hforced]⟩
    · rename_i hhigh
      rw [UInt32.not_le] at hhigh
      exact ⟨by simpa [Except.toOption] using hhigh, htype, hamount, rfl, by
        simp [Except.toOption, forcedAfter, ← hamount, hhigh]⟩
  | update n =>
    dsimp only [handle, sctpAssociationBufferedAmount, Emits, Above, expected]
    rw [← hamount, ← hthreshold, ← hforced]
    split
    · rename_i hlow
      rw [if_pos ⟨hlow.2, hlow.1.symm⟩]
      exact ⟨by simp, htype, rfl, hthreshold, by simp [forcedAfter, ← hthreshold, hlow.2]⟩
    rename_i hhigh
    rw [if_neg fun hlow => hhigh ⟨hlow.2.symm, hlow.1⟩]
    refine ⟨by simp, htype, rfl, hthreshold, ?_⟩
    cases hf : forcedAfter s.past with
    | false => simp [forcedAfter, hf, hforced]
    | true =>
      rw [hf] at hforced
      have hlt : ¬n ≤ s.consumer.bufferedAmountLowThreshold := fun hle => hhigh ⟨.inl hforced, hle⟩
      simpa [forcedAfter, hf, hforced, ← hthreshold] using hlt

/-- **The notifications of a run** of a new SCTP consumer are those expected exactly if every threshold is set below the amount. -/
theorem emits_iff_above (c : DataConsumer) (events : List AmountEvent) :
    EachStep step Emits (start c) events ↔ Along step Above (start c) events := by
  refine eachStep_iff_along (A := fun _ _ => True) (I := Inv) ?_ events _ ⟨rfl, rfl, rfl, rfl⟩
    (along_of_forall (fun _ _ => trivial) events _)
  intro s e hs _
  obtain ⟨s', hstep, hiff, hinv⟩ := hs.step e
  exact ⟨s', hstep, hiff, fun _ => hinv⟩

theorem threshold_not_notified : ¬EachStep step Emits (start unconnected) [.setThreshold 100] := by
  rintro ⟨hemits, -⟩
  have hnone : (none : Option UInt32) = some 0 := hemits
  cases hnone

end AmountTrace

end DataConsumer

end Mediasoup.Sctp
