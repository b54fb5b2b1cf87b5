import Mediasoup.Lib.Ring
import Mediasoup.Lib.Run
import Mediasoup.Lib.Table

/-!
# The port manager

`Bind` looks for a free port in the range of the settings: from a random place on it tries the ports in a circle, skipping those
that are marked in use, until the system lets it bind one. The marks of an IP are a vector with one place for each port
(`GetPorts`). `BindEnv` has the answers of the system and the random number of one call. That the system chooses another port for
port 0 is not modelled.
-/

namespace Mediasoup.Ports

open Lib

/-- The range of ports, as `SetConfiguration` accepts it. -/
structure Settings where
  rtcMinPort : UInt16
  rtcMaxPort : UInt16
  le : rtcMinPort ≤ rtcMaxPort

inductive Transport
  | udp
  | tcp
  deriving DecidableEq

inductive UvError
  | emfile
  | eaddrnotavail
  | other (code : Int)
  deriving DecidableEq

structure OsAnswer where
  /-- `uv_udp_init_ex()` or `uv_tcp_init()` -/
  init : Option UvError := none
  bind : Option UvError := none
  /-- `uv_listen()`, for TCP only -/
  listen : Option UvError := none
  deriving DecidableEq

def OsAnswer.err (a : OsAnswer) : Transport → Option UvError
  | .udp => a.bind
  | .tcp => a.bind.or a.listen

inductive BindError
  | invalidIp
  /-- "uv_ip4_addr() failed: ..." or "uv_ip6_addr() failed: ..." -/
  | addrFailed (e : UvError)
  /-- "no more available ports [transport:..., ip:..., numAttempt:...]" -/
  | noMoreAvailablePorts (numAttempts : Nat)
  /-- "uv_udp_init_ex() failed: ..." or "uv_tcp_init() failed: ..." -/
  | initFailed (e : UvError)
  /-- "port bind failed due to too many open files [..., port:..., attempt:.../...]" -/
  | tooManyOpenFiles (port : UInt16) (attempt : Nat)
  /-- "port bind failed due to address not available [..., port:..., attempt:.../...]" -/
  | addressNotAvailable (port : UInt16) (attempt : Nat)
  deriving DecidableEq

/-- What a call of `Bind` meets: its IP once normalized, and the answers to its attempts. -/
structure BindEnv where
  normalizedIp : Option String
  addr : Option UvError := none
  randomIdx : Nat
  os : Nat → OsAnswer

/-- The marks of the ports of every IP; `true` is a port in use. -/
structure PortManager where
  mapUdpIpPorts : Table String (List Bool) := ∅
  mapTcpIpPorts : Table String (List Bool) := ∅

/-- The places that the loop comes to, those it tries to bind, and those that the system refuses. -/
structure Probe where
  visited : List Nat := []
  tried : List Nat := []
  refused : List Nat := []
  outcome : Except BindError Nat

structure Bound where
  manager : PortManager
  visited : List UInt16 := []
  tried : List UInt16 := []
  refused : List UInt16 := []
  outcome : Except BindError UInt16

inductive PortFault
  /-- a place of the vector is written that it does not have -/
  | outOfBounds
  deriving DecidableEq

namespace Settings

variable (settings : Settings)

def portAt (portIdx : Nat) : UInt16 := UInt16.ofNat (portIdx + settings.rtcMinPort.toNat)

def placeOf (port : UInt16) : Nat := port.toNat - settings.rtcMinPort.toNat

def numPorts : UInt16 := settings.rtcMaxPort - settings.rtcMinPort + 1

def Has (port : UInt16) : Prop := settings.rtcMinPort ≤ port ∧ port ≤ settings.rtcMaxPort

def IsFull : Prop := settings.rtcMinPort = 0 ∧ settings.rtcMaxPort = 65535

end Settings

namespace PortManager

def ipPorts (m : PortManager) : Transport → Table String (List Bool)
  | .udp => m.mapUdpIpPorts
  | .tcp => m.mapTcpIpPorts

def setPorts (m : PortManager) (transport : Transport) (ip : String) (ports : List Bool) : PortManager :=
  match transport with
  | .udp => { m with mapUdpIpPorts := m.mapUdpIpPorts.insert ip ports }
  | .tcp => { m with mapTcpIpPorts := m.mapTcpIpPorts.insert ip ports }

variable (settings : Settings)

/-- `GetPorts`: all ports of a new IP are available. -/
def getPorts (m : PortManager) (transport : Transport) (ip : String) : PortManager × List Bool :=
  match (m.ipPorts transport).lookup ip with
  | some ports => (m, ports)
  | none =>
    let ports := List.replicate settings.numPorts.toNat false
    (m.setPorts transport ip ports, ports)

/-- The loop of `Bind`, with the number of attempts that are left. -/
def probe (transport : Transport) (os : Nat → OsAnswer) (ports : List Bool) : Nat → Nat → Probe
  | 0, _ => { outcome := .error (.noMoreAvailablePorts ports.length) }
  | left + 1, portIdx =>
    let attempt := ports.length - left
    let portIdx := (portIdx + 1) % ports.length
    if ports.getD portIdx false then
      let r := probe transport os ports left portIdx
      { r with visited := portIdx :: r.visited }
    else
      match (os attempt).init with
      | some e => { visited := [portIdx], outcome := .error (.initFailed e) }
      | none =>
        match (os attempt).err transport with
        | none => { visited := [portIdx], tried := [portIdx], outcome := .ok portIdx }
        | some .emfile =>
          { visited := [portIdx]
            tried := [portIdx]
            refused := [portIdx]
            outcome := .error (.tooManyOpenFiles (settings.portAt portIdx) attempt) }
        | some .eaddrnotavail =>
          { visited := [portIdx]
            tried := [portIdx]
            refused := [portIdx]
            outcome := .error (.addressNotAvailable (settings.portAt portIdx) attempt) }
        | some (.other _) =>
          let r := probe transport os ports left portIdx
          { r with
            visited := portIdx :: r.visited, tried := portIdx :: r.tried, refused := portIdx :: r.refused }

def afterLoop (m : PortManager) (transport : Transport) (ip : String) (ports : List Bool) (r : Probe) : Bound where
  manager :=
    match r.outcome with
    | .ok portIdx => m.setPorts transport ip (ports.set portIdx true)
    | .error _ => m
  visited := r.visited.map settings.portAt
  tried := r.tried.map settings.portAt
  refused := r.refused.map settings.portAt
  outcome := r.outcome.map settings.portAt

def bind (m : PortManager) (transport : Transport) (env : BindEnv) : Bound :=
  match env.normalizedIp with
  | none => { manager := m, outcome := .error .invalidIp }
  | some ip =>
    let (m, ports) := m.getPorts settings transport ip
    match env.addr with
    | some e => { manager := m, outcome := .error (.addrFailed e) }
    | none => m.afterLoop settings transport ip ports (probe settings transport env.os ports ports.length env.randomIdx)

def unbind (m : PortManager) (transport : Transport) (ip : String) (port : UInt16) : Except PortFault PortManager :=
  -- "given port ... is out of range"
  if port < settings.rtcMinPort ∨ port > settings.rtcMaxPort then .ok m
  else
    let portIdx := settings.placeOf port
    match (m.ipPorts transport).lookup ip with
    | none => .ok m
    | some ports =>
      if portIdx < ports.length then .ok (m.setPorts transport ip (ports.set portIdx false)) else .error .outOfBounds

def Marked (m : PortManager) (transport : Transport) (ip : String) (port : UInt16) : Prop :=
  settings.Has port ∧ ∃ ports, (m.ipPorts transport).lookup ip = some ports ∧ ports.getD (settings.placeOf port) false = true

end PortManager

end Mediasoup.Ports
