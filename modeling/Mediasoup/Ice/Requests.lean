import Mediasoup.Ice.Server
import Mediasoup.Stun.Packet

/-!
# Binding requests

`IceServer` with its credentials: `ProcessStunPacket` authenticates a request, answers it and hands its tuple to
`HandleTuple`; `RestartIce` changes the credentials and keeps the old ones, until a request comes with the new ones. The
constructor and the destructor notify the listener about the username fragments, and the destructor about the tuples.
-/

namespace Mediasoup.Ice

open Utils Stun

inductive Notification
  | localUsernameFragmentAdded (usernameFragment : List UInt8)
  | localUsernameFragmentRemoved (usernameFragment : List UInt8)
  | sendStunPacket (packet : StunPacket)
  deriving DecidableEq

structure Agent extends IceServer where
  usernameFragment : List UInt8
  password : List UInt8
  oldUsernameFragment : List UInt8 := []
  oldPassword : List UInt8 := []
  notifications : List Notification := []
  deriving DecidableEq

namespace Agent

def create (usernameFragment password : List UInt8) : Agent :=
  { usernameFragment, password, notifications := [.localUsernameFragmentAdded usernameFragment] }

variable (s : Agent)

def tell (n : Notification) : Agent := { s with notifications := s.notifications ++ [n] }

def reject (packet : StunPacket) (errorCode : UInt16) : Agent :=
  s.tell (.sendStunPacket (packet.errorResponse errorCode))

def hasOldCredentials : Bool := s.oldUsernameFragment ≠ [] ∧ s.oldPassword ≠ []

def applyNewCredentials : Agent :=
  if s.hasOldCredentials then
    { s.tell (.localUsernameFragmentRemoved s.oldUsernameFragment) with oldUsernameFragment := [], oldPassword := [] }
  else s

def accept (packet : StunPacket) (remoteAddress : Sockaddr) : Agent × Bool :=
  if packet.iceControlled ≠ 0 then (s.reject packet 487, false)
  else
    let response := { packet.successResponse with xorMappedAddress := some remoteAddress }
    let response := response.authenticate (if s.oldPassword = [] then s.password else s.oldPassword)
    (s.tell (.sendStunPacket response), true)

section

variable (hmac : HmacSha1)

def authenticate (s : Agent) (packet : StunPacket) (remoteAddress : Sockaddr) : Agent × Bool :=
  let checked := packet.checkAuthentication hmac s.usernameFragment s.password
  match checked.1 with
  | .ok => s.applyNewCredentials.accept packet remoteAddress
  | .unauthorized =>
    if s.hasOldCredentials ∧
        (checked.2.checkAuthentication hmac s.oldUsernameFragment s.oldPassword).1 = .ok then s.accept packet remoteAddress
    else (s.reject packet 401, false)
  | .badRequest => (s.reject packet 400, false)

def receive (s : Agent) (packet : StunPacket) (remoteAddress : Sockaddr) : Agent × Bool :=
  if packet.method ≠ binding then
    if packet.klass = .request then (s.reject packet 400, false) else (s, false)
  else if ¬ packet.hasFingerprint ∧ packet.klass ≠ .indication then
    if packet.klass = .request then (s.reject packet 400, false) else (s, false)
  else
    match packet.klass with
    | .request =>
      if packet.messageIntegrity = none ∨ packet.priority = 0 ∨ packet.username = [] then (s.reject packet 400, false)
      else s.authenticate hmac packet remoteAddress
    | .indication | .successResponse | .errorResponse => (s, false)

variable (a : Allocator)

def processStunPacket (s : Agent) (packet : StunPacket) (tuple : TransportTuple) (remoteAddress : Sockaddr) :
    Except Fault Agent :=
  let received := s.receive hmac packet remoteAddress
  if received.2 then do
    let server ← received.1.toIceServer.handleTuple a tuple packet.hasUseCandidate packet.hasNomination
      (if packet.hasNomination then packet.nomination else 0)
    .ok { received.1 with toIceServer := server }
  else .ok received.1

/-- `OnStunDataReceived` of the transport: a message that is not parsed is ignored. -/
def onStunDataReceived (s : Agent) (data : List UInt8) (tuple : TransportTuple) (remoteAddress : Sockaddr) :
    Except Fault Agent :=
  match StunPacket.parse data with
  | .error _ => .ok s
  | .ok packet => s.processStunPacket hmac a packet tuple remoteAddress

end

def restartIce (usernameFragment password : List UInt8) : Agent :=
  let s := if s.oldUsernameFragment ≠ [] then s.tell (.localUsernameFragmentRemoved s.oldUsernameFragment) else s
  let s := { s with
    oldUsernameFragment := s.usernameFragment, usernameFragment
    oldPassword := s.password, password
    remoteNomination := 0 }
  s.tell (.localUsernameFragmentAdded usernameFragment)

def destroy : Agent :=
  let s := s.tell (.localUsernameFragmentRemoved s.usernameFragment)
  let s := if s.oldUsernameFragment ≠ [] then s.tell (.localUsernameFragmentRemoved s.oldUsernameFragment) else s
  { s with events := s.events ++ s.tuples.map .tupleRemoved, tuples := [] }

/-! ## Calls -/

inductive Call
  | stunData (data : List UInt8) (tuple : TransportTuple) (remoteAddress : Sockaddr)
  | removeTuple (tuple : TransportTuple)
  | forceSelectedTuple (tuple : TransportTuple)
  | restartIce (usernameFragment password : List UInt8)
  deriving DecidableEq

def step (hmac : HmacSha1) (a : Allocator) (s : Agent) : Call → Except Fault Agent
  | .stunData data tuple remoteAddress => s.onStunDataReceived hmac a data tuple remoteAddress
  | .removeTuple tuple => .ok { s with toIceServer := s.toIceServer.removeTuple tuple }
  | .forceSelectedTuple tuple => do
    let server ← s.toIceServer.forceSelectedTuple tuple
    .ok { s with toIceServer := server }
  | .restartIce usernameFragment password => .ok (s.restartIce usernameFragment password)

end Agent

end Mediasoup.Ice
