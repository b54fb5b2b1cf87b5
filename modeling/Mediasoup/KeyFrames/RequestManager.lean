import Mediasoup.Lib.Registry

/-!
# The manager of key frame requests

A producer asks its endpoint for a key frame when a consumer needs one. The manager spares requests: while one is pending no other
one is sent before a second has passed, and after one was sent, further ones are held back by a delayer.

Both are objects with a timer that fires once and is stopped when they are deleted, so only timers of live objects expire. The
listener (`OnKeyFrameNeeded`) does not call the manager again.
-/

namespace Mediasoup.KeyFrames

open Lib

structure PendingKeyFrameInfo where
  retryOnTimeout : Bool := true
  timerActive : Bool := true
  deriving DecidableEq

structure KeyFrameRequestDelayer where
  keyFrameRequested : Bool := false
  timerActive : Bool := true
  deriving DecidableEq

structure KeyFrameRequestManager where
  keyFrameRequestDelay : UInt32
  pending : Registry UInt32 PendingKeyFrameInfo := {}
  delayers : Registry UInt32 KeyFrameRequestDelayer := {}
  requests : List UInt32 := []

inductive KeyFrameFault
  /-- "PendingKeyFrameInfo not present in the map" -/
  | pendingNotPresent
  /-- "KeyFrameRequestDelayer not present in the map" -/
  | delayerNotPresent
  /-- an object is used after it was deleted -/
  | dangling
  deriving DecidableEq

namespace KeyFrameRequestManager

variable (m : KeyFrameRequestManager)

def request (ssrc : UInt32) : KeyFrameRequestManager :=
  { m with requests := m.requests ++ [ssrc] }

def needNow (ssrc : UInt32) : Except KeyFrameFault KeyFrameRequestManager :=
  match m.pending.index.lookup ssrc with
  | some id =>
    match m.pending.objects.lookup id with
    | none => .error .dangling
    | some (key, info) => .ok { m with pending := m.pending.write id key { info with retryOnTimeout := true } }
  | none => .ok ({ m with pending := m.pending.create ssrc {} }.request ssrc)

def keyFrameNeeded (ssrc : UInt32) : Except KeyFrameFault KeyFrameRequestManager :=
  if m.keyFrameRequestDelay > 0 then
    match m.delayers.index.lookup ssrc with
    | some id =>
      match m.delayers.objects.lookup id with
      | none => .error .dangling
      | some (key, delayer) =>
        .ok { m with delayers := m.delayers.write id key { delayer with keyFrameRequested := true } }
    | none => { m with delayers := m.delayers.create ssrc {} }.needNow ssrc
  else m.needNow ssrc

def forceNow (ssrc : UInt32) : Except KeyFrameFault KeyFrameRequestManager :=
  match m.pending.index.lookup ssrc with
  | some id =>
    match m.pending.objects.lookup id with
    | none => .error .dangling
    | some (key, _) => .ok ({ m with pending := m.pending.write id key {} }.request ssrc)
  | none => .ok ({ m with pending := m.pending.create ssrc {} }.request ssrc)

def forceKeyFrameNeeded (ssrc : UInt32) : Except KeyFrameFault KeyFrameRequestManager :=
  if m.keyFrameRequestDelay > 0 then
    match m.delayers.index.lookup ssrc with
    | some id =>
      if (m.delayers.objects.lookup id).isSome then
        { m with delayers := (m.delayers.free id).create ssrc {} }.forceNow ssrc
      else .error .dangling
    | none => { m with delayers := m.delayers.create ssrc {} }.forceNow ssrc
  else m.forceNow ssrc

def keyFrameReceived (ssrc : UInt32) : Except KeyFrameFault KeyFrameRequestManager :=
  match m.pending.index.lookup ssrc with
  | none => .ok m
  | some id =>
    if (m.pending.objects.lookup id).isSome then .ok { m with pending := (m.pending.free id).unlink ssrc }
    else .error .dangling

/-- `OnKeyFrameRequestTimeout` of the object at `id`. The timer fires once, and then has to be restarted. -/
def onKeyFrameRequestTimeout (id : Nat) (ssrc : UInt32) (info : PendingKeyFrameInfo) :
    Except KeyFrameFault KeyFrameRequestManager :=
  match m.pending.index.lookup ssrc with
  | none => .error .pendingNotPresent
  | some _ =>
    if !info.retryOnTimeout then .ok { m with pending := (m.pending.free id).unlink ssrc }
    else .ok ({ m with pending := m.pending.write id ssrc { retryOnTimeout := false } }.request ssrc)

def onKeyFrameDelayTimeout (id : Nat) (ssrc : UInt32) (delayer : KeyFrameRequestDelayer) :
    Except KeyFrameFault KeyFrameRequestManager :=
  match m.delayers.index.lookup ssrc with
  | none => .error .delayerNotPresent
  | some _ =>
    let m := { m with delayers := (m.delayers.free id).unlink ssrc }
    if delayer.keyFrameRequested then m.keyFrameNeeded ssrc else .ok m

inductive Event
  | keyFrameNeeded (ssrc : UInt32)
  | forceKeyFrameNeeded (ssrc : UInt32)
  | keyFrameReceived (ssrc : UInt32)
  | requestTimer (id : Nat)
  | delayTimer (id : Nat)
  deriving DecidableEq

/-- A timer that is not active, or belongs to no live object, does not expire: nothing happens. -/
def step : Event → Except KeyFrameFault KeyFrameRequestManager
  | .keyFrameNeeded ssrc => m.keyFrameNeeded ssrc
  | .forceKeyFrameNeeded ssrc => m.forceKeyFrameNeeded ssrc
  | .keyFrameReceived ssrc => m.keyFrameReceived ssrc
  | .requestTimer id =>
    match m.pending.objects.lookup id with
    | some (ssrc, info) =>
      if info.timerActive then
        -- the timer is inactive when its callback runs
        let fired := { info with timerActive := false }
        { m with pending := m.pending.write id ssrc fired }.onKeyFrameRequestTimeout id ssrc fired
      else .ok m
    | none => .ok m
  | .delayTimer id =>
    match m.delayers.objects.lookup id with
    | some (ssrc, delayer) =>
      if delayer.timerActive then
        let fired := { delayer with timerActive := false }
        { m with delayers := m.delayers.write id ssrc fired }.onKeyFrameDelayTimeout id ssrc fired
      else .ok m
    | none => .ok m

end KeyFrameRequestManager

end Mediasoup.KeyFrames
