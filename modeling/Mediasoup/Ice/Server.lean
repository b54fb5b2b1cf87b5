import Mathlib.Init

/-!
# The ICE server

`IceServer` keeps the tuples (remote transport addresses) a peer has sent valid Binding requests from, one of them selected. The
list owns its tuples and the selected one is a pointer into it, so a stored tuple is a `Node`: the tuple with the address of its
list node. Addresses come from an `Allocator`, which may give a freed address again but never one in use. A failed `MS_ASSERT`, or
a read through a dangling pointer, is a `Fault`.
-/

namespace Mediasoup.Ice

/-! ## Tuples -/

inductive Protocol
  | udp
  | tcp
  deriving DecidableEq

structure TransportTuple where
  hash : UInt64
  protocol : Protocol
  /-- `udpRemoteAddr` points to the tuple's own `udpRemoteAddrStorage`. -/
  ownsRemoteAddr : Bool := false
  deriving DecidableEq

def TransportTuple.compare (t u : TransportTuple) : Bool := t.hash == u.hash

def TransportTuple.storeUdpRemoteAddress (t : TransportTuple) : TransportTuple := { t with ownsRemoteAddr := true }

structure Node where
  addr : Nat
  tuple : TransportTuple
  deriving DecidableEq

structure Allocator where
  alloc : List Nat → Nat
  fresh : ∀ used, alloc used ∉ used

def Allocator.bump : Allocator where
  alloc used := used.foldr max 0 + 1
  fresh used := by
    have hle : ∀ l : List Nat, ∀ x ∈ l, x ≤ l.foldr max 0 := by
      intro l
      induction l with
      | nil => simp
      | cons y l ih =>
        intro x hx
        simp only [List.foldr_cons]
        rcases List.mem_cons.mp hx with rfl | hx
        · omega
        · have := ih x hx
          omega
    intro hmem
    have := hle used _ hmem
    omega

/-! ## The server -/

inductive IceState
  | new
  | connected
  | completed
  | disconnected
  deriving DecidableEq

inductive Event
  | tupleAdded (tuple : Node)
  | tupleRemoved (tuple : Node)
  | selectedTuple (addr : Nat)
  | connected
  | completed
  | disconnected
  deriving DecidableEq

structure IceServer where
  remoteNomination : UInt32 := 0
  state : IceState := .new
  tuples : List Node := []
  selectedTuple : Option Nat := none
  events : List Event := []
  deriving DecidableEq

inductive Fault
  /-- "state is 'new'/'disconnected' but there are %zu tuples" -/
  | hasTuples (state : IceState) (size : Nat)
  /-- "state is 'new'/'disconnected' but there is selected tuple" -/
  | hasSelectedTuple (state : IceState)
  /-- "state is 'connected'/'completed' but there are no tuples" -/
  | noTuples (state : IceState)
  /-- "state is 'connected'/'completed' but there is not selected tuple" -/
  | noSelectedTuple (state : IceState)
  /-- "couldn't find any tuple to be removed" -/
  | noTupleToRemove
  /-- "cannot force the selected tuple if there was not a selected tuple" -/
  | forceWithoutSelectedTuple
  /-- "cannot force the selected tuple if the given tuple was not already a valid tuple" -/
  | forceInvalidTuple
  | danglingSelectedTuple
  deriving DecidableEq

namespace IceServer

def maxTuples : Nat := 8

def addrs (s : IceServer) : List Nat := s.tuples.map Node.addr

def notify (s : IceServer) (e : Event) : IceServer := { s with events := s.events ++ [e] }

def hasTuple (s : IceServer) (tuple : TransportTuple) : Except Fault (Option Nat) :=
  match s.selectedTuple with
  | none => .ok none
  | some p =>
    match s.tuples.find? (·.addr == p) with
    | none => .error .danglingSelectedTuple
    | some selected =>
      if selected.tuple.compare tuple then .ok (some p)
      else .ok ((s.tuples.find? (·.tuple.compare tuple)).map Node.addr)

def setSelectedTuple (s : IceServer) (storedTuple : Nat) : IceServer :=
  if s.selectedTuple = some storedTuple then s
  else { s with selectedTuple := some storedTuple }.notify (.selectedTuple storedTuple)

section

variable (a : Allocator)

variable (s : IceServer)

/-- The copy of a tuple that is stored. -/
def newNode (tuple : TransportTuple) : Node :=
  ⟨a.alloc s.addrs, if tuple.protocol = .udp then tuple.storeUdpRemoteAddress else tuple⟩

def pushTuple (tuple : TransportTuple) : IceServer × Nat :=
  let stored := s.newNode a tuple
  ({ s with tuples := stored :: s.tuples }.notify (.tupleAdded stored), stored.addr)

/-- The oldest tuple that is neither the added one nor the selected one goes, when there are too many. -/
def evictTuple (storedTuple : Nat) : Except Fault IceServer :=
  if s.tuples.length > maxTuples then
    match s.tuples.reverse.find? (fun n => n.addr != storedTuple && some n.addr != s.selectedTuple) with
    | none => .error .noTupleToRemove
    | some removed =>
      let s := s.notify (.tupleRemoved removed)
      .ok { s with tuples := s.tuples.eraseP (·.addr == removed.addr) }
  else .ok s

def addTuple (tuple : TransportTuple) : Except Fault (IceServer × Nat) := do
  let (s, storedTuple) := s.pushTuple a tuple
  let s ← s.evictTuple storedTuple
  return (s, storedTuple)

def storeTuple (tuple : TransportTuple) : Except Fault (IceServer × Nat) := do
  match ← s.hasTuple tuple with
  | some storedTuple => return (s, storedTuple)
  | none => s.addTuple a tuple

/-- `(hasNomination && nomination > remoteNomination) || !hasNomination` -/
def nominates (hasNomination : Bool) (nomination : UInt32) : Bool :=
  (hasNomination && decide (nomination > s.remoteNomination)) || !hasNomination

def updateNomination (hasNomination : Bool) (nomination : UInt32) : IceServer :=
  if hasNomination && decide (nomination > s.remoteNomination) then { s with remoteNomination := nomination } else s

def handleTupleUnconnected (tuple : TransportTuple) (hasUseCandidate hasNomination : Bool)
    (nomination : UInt32) : Except Fault IceServer := do
  if s.tuples ≠ [] then throw (.hasTuples s.state s.tuples.length)
  if s.selectedTuple ≠ none then throw (.hasSelectedTuple s.state)
  let (s, storedTuple) ← s.addTuple a tuple
  if !hasUseCandidate && !hasNomination then
    let s := s.setSelectedTuple storedTuple
    return { s with state := .connected }.notify .connected
  else if s.nominates hasNomination nomination then
    let s := s.setSelectedTuple storedTuple
    return ({ s with state := .completed }.updateNomination hasNomination nomination).notify .completed
  else return s

def handleTupleConnected (tuple : TransportTuple) (hasUseCandidate hasNomination : Bool)
    (nomination : UInt32) : Except Fault IceServer := do
  if s.tuples = [] then throw (.noTuples s.state)
  if s.selectedTuple = none then throw (.noSelectedTuple s.state)
  let (s, storedTuple) ← s.storeTuple a tuple
  if !hasUseCandidate && !hasNomination then return s
  else if s.nominates hasNomination nomination then
    let s := s.setSelectedTuple storedTuple
    return ({ s with state := .completed }.updateNomination hasNomination nomination).notify .completed
  else return s

def handleTupleCompleted (tuple : TransportTuple) (hasUseCandidate hasNomination : Bool)
    (nomination : UInt32) : Except Fault IceServer := do
  if s.tuples = [] then throw (.noTuples s.state)
  if s.selectedTuple = none then throw (.noSelectedTuple s.state)
  let (s, storedTuple) ← s.storeTuple a tuple
  if !hasUseCandidate && !hasNomination then return s
  else if s.nominates hasNomination nomination then
    return (s.setSelectedTuple storedTuple).updateNomination hasNomination nomination
  else return s

def handleTuple (tuple : TransportTuple) (hasUseCandidate hasNomination : Bool)
    (nomination : UInt32) : Except Fault IceServer :=
  match s.state with
  | .new | .disconnected => s.handleTupleUnconnected a tuple hasUseCandidate hasNomination nomination
  | .connected => s.handleTupleConnected a tuple hasUseCandidate hasNomination nomination
  | .completed => s.handleTupleCompleted a tuple hasUseCandidate hasNomination nomination

end

/-- The selected tuple was removed: the first stored one is selected, or the server is disconnected. -/
def replaceSelectedTuple (s : IceServer) : IceServer :=
  let s := { s with selectedTuple := none }
  match s.tuples with
  | first :: _ => s.setSelectedTuple first.addr
  | [] => { s with state := .disconnected }.notify .disconnected

def removeTuple (s : IceServer) (tuple : TransportTuple) : IceServer :=
  match s.tuples.find? (·.tuple.compare tuple) with
  | none => s
  | some removed =>
    let s := s.notify (.tupleRemoved removed)
    let s := { s with tuples := s.tuples.eraseP (·.tuple.compare tuple) }
    if s.selectedTuple = some removed.addr then s.replaceSelectedTuple else s

def forceSelectedTuple (s : IceServer) (tuple : TransportTuple) : Except Fault IceServer := do
  if s.selectedTuple = none then throw .forceWithoutSelectedTuple
  match ← s.hasTuple tuple with
  | none => throw .forceInvalidTuple
  | some storedTuple => return s.setSelectedTuple storedTuple

end IceServer

/-! ## Calls -/

inductive Call
  | handleTuple (tuple : TransportTuple) (hasUseCandidate hasNomination : Bool) (nomination : UInt32)
  | removeTuple (tuple : TransportTuple)
  | forceSelectedTuple (tuple : TransportTuple)
  deriving DecidableEq

def IceServer.step (a : Allocator) (s : IceServer) : Call → Except Fault IceServer
  | .handleTuple tuple hasUseCandidate hasNomination nomination =>
    s.handleTuple a tuple hasUseCandidate hasNomination nomination
  | .removeTuple tuple => .ok (s.removeTuple tuple)
  | .forceSelectedTuple tuple => s.forceSelectedTuple tuple

end Mediasoup.Ice
