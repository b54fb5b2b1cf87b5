import Mediasoup.Lib.Run
import Mediasoup.Utils.String

/-!
# The payload channel

On the payload channel a message is a header and a payload, received one after the other. `PayloadChannelSocket` keeps the
request or notification of a header until its payload comes. A header that it rejects leaves nothing behind, so the payload
that follows is taken for a header: headers and payloads change places from then on (`payload_as_header`), or the payload is
answered as a request of an unknown method.
-/

namespace Mediasoup.Channel

open Lib Utils

inductive NotificationEvent
  | transportSendRtcp
  | producerSend
  | dataProducerSend
  deriving DecidableEq

def notificationEvent (event : List Char) : Option NotificationEvent :=
  if event = "transport.sendRtcp".toList then some .transportSendRtcp
  else if event = "producer.send".toList then some .producerSend
  else if event = "dataProducer.send".toList then some .dataProducerSend
  else none

/-- A request (its only method is "dataConsumer.send") or a notification. -/
inductive PayloadHeader
  | request (id : Nat) (handlerId data : Option (List Char))
  | notification (event : NotificationEvent) (handlerId data : Option (List Char))
  deriving DecidableEq

def given (info : List (List Char)) (i : Nat) : Option (List Char) :=
  info[i]?.filter fun item => decide (item ≠ "undefined".toList)

/-- `std::stoul` throws something that nobody catches. -/
inductive PayloadFault
  | invalidNumber
  deriving DecidableEq

/-- What `Error` sends. -/
structure ErrorReply where
  id : Nat
  error : String := "Error"
  reason : String
  deriving DecidableEq

/-- What a constructor makes of a message: it throws after it has sent a reply, or without. -/
inductive Parsed
  | accepted (header : PayloadHeader)
  | rejected (reply : Option ErrorReply)
  deriving DecidableEq

def Parsed.header? : Parsed → Option PayloadHeader
  | accepted header => some header
  | rejected _ => none

def Parsed.replies : Parsed → List ErrorReply
  | accepted _ => []
  | rejected reply => reply.toList

/-- The constructor of `PayloadChannelRequest`. -/
def parseRequest (msg : List Char) : Except PayloadFault Parsed :=
  let info := split msg ':' 3
  match info with
  | id :: method :: _ => match stoul id with
    | none => .error .invalidNumber
    | some id =>
      -- the id is an `uint32_t`
      let id := id % 2 ^ 32
      .ok (if method = "dataConsumer.send".toList then .accepted (.request id (given info 2) (given info 3))
        else .rejected (some { id := id, reason := "unknown method" }))
  | _ => .ok (.rejected none)

def parseNotification (msg : List Char) : Parsed :=
  let info := split msg ':' 0
  match info with
  | event :: _ => match notificationEvent event with
    | some event => .accepted (.notification event (given info 1) (given info 2))
    | none => .rejected none
  | [] => .rejected none

/-- `OnConsumerSocketMessage`, when nothing is ongoing: `IsRequest`, `IsNotification` and the constructors. -/
def parseHeader (msg : List Char) : Except PayloadFault Parsed :=
  match msg with
  | 'r' :: ':' :: c :: msg => parseRequest (c :: msg)
  | 'n' :: ':' :: c :: msg => .ok (parseNotification (c :: msg))
  | _ => .ok (.rejected none)

structure PayloadChannelSocket where
  /-- `ongoingRequest` or `ongoingNotification` -/
  ongoing : Option PayloadHeader := none
  dispatched : List (PayloadHeader × List Char) := []
  replies : List ErrorReply := []
  deriving DecidableEq

namespace PayloadChannelSocket

def onConsumerSocketMessage (s : PayloadChannelSocket) (msg : List Char) : Except PayloadFault PayloadChannelSocket :=
  match s.ongoing with
  | none => do
    let parsed ← parseHeader msg
    return { s with ongoing := parsed.header?, replies := s.replies ++ parsed.replies }
  | some header => .ok { s with ongoing := none, dispatched := s.dispatched ++ [(header, msg)] }

/-- The socket, with the headers that are well formed, their payloads, and the replies to the other headers. -/
structure PairTrace where
  socket : PayloadChannelSocket := {}
  sent : List (PayloadHeader × List Char) := []
  refused : List ErrorReply := []
  deriving DecidableEq

namespace PairTrace

def step (s : PairTrace) (pair : List Char × List Char) : Except PayloadFault PairTrace := do
  let socket ← s.socket.onConsumerSocketMessage pair.1
  let socket ← socket.onConsumerSocketMessage pair.2
  let parsed ← parseHeader pair.1
  return { socket := socket, sent := s.sent ++ (parsed.header?.map fun header => (header, pair.2)).toList,
           refused := s.refused ++ parsed.replies }

/-- Nothing is left over, what was handed on are the headers that are well formed with their payloads, and nothing but a
header was answered. -/
def Paired (s : PairTrace) : Prop :=
  s.socket.ongoing = none ∧ s.socket.dispatched = s.sent ∧ s.socket.replies = s.refused

instance (s : PairTrace) : Decidable s.Paired := inferInstanceAs (Decidable (_ ∧ _))

/-- The header is well formed, or it is rejected and its payload would be rejected as a header too, without a reply. -/
def Apart (pair : List Char × List Char) : Prop :=
  (∃ header, parseHeader pair.1 = .ok (.accepted header)) ∨
    ((∃ reply, parseHeader pair.1 = .ok (.rejected reply)) ∧ parseHeader pair.2 = .ok (.rejected none))

variable {s : PairTrace} {pair : List Char × List Char}

theorem step_of_accepted {header : PayloadHeader} (hidle : s.socket.ongoing = none)
    (h : parseHeader pair.1 = .ok (.accepted header)) : s.step pair =
      .ok ⟨⟨none, s.socket.dispatched ++ [(header, pair.2)], s.socket.replies⟩, s.sent ++ [(header, pair.2)], s.refused⟩ := by
  simp [step, onConsumerSocketMessage, hidle, h, bind, Except.bind, pure, Except.pure, Parsed.header?, Parsed.replies]

theorem step_of_rejected {reply : Option ErrorReply} (hidle : s.socket.ongoing = none)
    (h : parseHeader pair.1 = .ok (.rejected reply)) : s.step pair = (parseHeader pair.2).map fun parsed =>
      ⟨⟨parsed.header?, s.socket.dispatched, s.socket.replies ++ reply.toList ++ parsed.replies⟩, s.sent,
        s.refused ++ reply.toList⟩ := by
  cases hp : parseHeader pair.2 <;>
    simp [step, onConsumerSocketMessage, hidle, h, hp, bind, Except.bind, pure, Except.pure, Except.map, Parsed.header?,
      Parsed.replies]

/-- **Headers and payloads keep their places** exactly if no rejected header is followed by a payload that is accepted or
answered as a header. -/
theorem paired_iff (pairs : List (List Char × List Char)) :
    Safe step Paired {} pairs ↔ Along step (fun _ pair => Apart pair) {} pairs := by
  refine safe_iff_along (A := fun _ _ => True) (I := Paired) ?_ (fun s hs => hs) ?_ pairs _ ⟨rfl, rfl, rfl⟩
    (along_of_forall (fun _ _ => trivial) pairs _)
  · rintro s pair ⟨hidle, hsent, hrefused⟩ - (⟨header, h⟩ | ⟨⟨reply, h⟩, hp⟩)
    · exact ⟨_, step_of_accepted hidle h, rfl, by rw [hsent], hrefused⟩
    · rw [step_of_rejected hidle h, hp]
      exact ⟨_, rfl, rfl, hsent, by simp [Parsed.replies, hrefused]⟩
  · rintro s pair s' ⟨hidle, -, hrefused⟩ - hnot hstep ⟨hnone, -, hreplies⟩
    cases h : parseHeader pair.1 with
    | error f =>
      simp [step, onConsumerSocketMessage, hidle, h, bind, Except.bind] at hstep
    | ok parsed =>
      cases parsed with
      | accepted header => exact hnot (.inl ⟨header, h⟩)
      | rejected reply =>
        rw [step_of_rejected hidle h] at hstep
        cases hp : parseHeader pair.2 with
        | error f =>
          rw [hp] at hstep
          cases hstep
        | ok parsed =>
          rw [hp] at hstep
          cases hstep
          cases parsed with
          | accepted header => cases hnone
          | rejected reply' =>
            -- a reply to the payload is one too many
            have hnil : reply' = none := by simpa [Parsed.replies, hrefused] using hreplies
            exact hnot (.inr ⟨⟨reply, h⟩, hnil ▸ hp⟩)

def mixedPairs : List (List Char × List Char) :=
  [("n:unknown".toList, "n:producer.send:x".toList), ("n:producer.send:y".toList, "data".toList)]

/-- The payload of the first pair is handed on as a notification, with the second header as its payload. -/
theorem payload_as_header : (mixedPairs.foldlM step {}).map (fun s => s.socket.dispatched) =
        .ok [(.notification .producerSend (some ['x']) none, "n:producer.send:y".toList)] ∧
      ¬Safe step Paired {} mixedPairs := by
  decide

/-- A payload of the form of a request with an unknown method is answered. -/
example : (step {} ("n:unknown".toList, "r:5:foo:x".toList)).map (fun s => s.socket.replies) =
    .ok [{ id := 5, reason := "unknown method" }] := by
  decide

end PairTrace

end PayloadChannelSocket

end Mediasoup.Channel
