import Mediasoup.Lib.Run

/-!
# Outgoing streams of an SCTP association

A data consumer whose stream id is not among the `os` outgoing streams makes the association ask for 32 more, deferred while it is
not up, with `desiredOs` as the reminder. But when it comes up, `AddOutgoingStreams` is called while the state is still another
one, so it defers again, and since `desiredOs` is what it would ask for, later data consumers do not make it ask either
(`deferred_for_ever`).
-/

namespace Mediasoup.Sctp

open Lib

def maxSctpStreams : Nat := 65535

structure OutgoingStreams where
  os : Nat
  desiredOs : Nat := 0
  connected : Bool := false
  /-- the streams asked for in total: those of `SCTP_INITMSG` and of every `SCTP_ADD_STREAMS` -/
  requested : Nat := os
  /-- the stream ids of `HandleDataConsumer` so far -/
  handled : List Nat := []
  deriving DecidableEq

namespace OutgoingStreams

def additionalOs (s : OutgoingStreams) : Nat := if maxSctpStreams - s.os ≥ 32 then 32 else maxSctpStreams - s.os

def addOutgoingStreams (s : OutgoingStreams) (force : Bool) : OutgoingStreams :=
  if s.additionalOs = 0 then s
  else
    let nextDesiredOs := s.os + s.additionalOs
    -- already in progress
    if !force ∧ nextDesiredOs = s.desiredOs then s
    else if !s.connected then { s with desiredOs := nextDesiredOs }
    else { s with desiredOs := nextDesiredOs, requested := s.requested + s.additionalOs }

def handleDataConsumer (s : OutgoingStreams) (streamId : Nat) : OutgoingStreams :=
  let s := { s with handled := streamId :: s.handled }
  if streamId ≥ s.os then s.addOutgoingStreams false else s

/-- `SCTP_COMM_UP`, and `SCTP_RESTART`. -/
def onCommUp (s : OutgoingStreams) (outboundStreams : Nat) : OutgoingStreams :=
  let s := { s with os := outboundStreams }
  let s := if s.desiredOs > s.os then s.addOutgoingStreams true else s
  { s with connected := true }

/-- `SCTP_STREAM_CHANGE_EVENT`, neither denied nor failed. -/
def onStreamChange (s : OutgoingStreams) (outStreams : Nat) : OutgoingStreams := { s with os := outStreams }

/-- The notifications grant what was asked for. -/
inductive StreamsEvent
  | handleDataConsumer (streamId : Fin maxSctpStreams)
  | commUp
  | streamChange
  deriving DecidableEq

def step (s : OutgoingStreams) : StreamsEvent → Except Empty OutgoingStreams
  | .handleDataConsumer streamId => .ok (s.handleDataConsumer streamId)
  | .commUp => .ok (s.onCommUp s.requested)
  | .streamChange => .ok (s.onStreamChange s.requested)

/-- Once the association is up, the streams asked for cover all stream ids. -/
def Covers (s : OutgoingStreams) : Prop := s.connected = true → ∀ id ∈ s.handled, id < s.requested

/-- The data consumer needs no other streams than those granted, or at most 32 more of an association that is up. -/
def Near (s : OutgoingStreams) : StreamsEvent → Prop
  | .handleDataConsumer streamId => streamId.1 < if s.connected then s.os + 32 else s.os
  | _ => True

instance (s : OutgoingStreams) : (e : StreamsEvent) → Decidable (s.Near e)
  | .handleDataConsumer streamId => inferInstanceAs (Decidable (streamId.1 < _))
  | .commUp | .streamChange => .isTrue trivial

structure Inv (s : OutgoingStreams) : Prop where
  os_le : s.os ≤ maxSctpStreams
  progress : (s.requested = s.os ∧ s.desiredOs ≤ s.os) ∨
    (s.connected = true ∧ s.requested = s.os + s.additionalOs ∧ s.desiredOs = s.requested)
  handled : ∀ id ∈ s.handled, id < s.requested

variable {s : OutgoingStreams}

theorem additionalOs_le (h : s.os ≤ maxSctpStreams) : s.os + s.additionalOs ≤ maxSctpStreams := by
  unfold additionalOs
  split <;> omega

theorem lt_additionalOs {id : Nat} (hid : id < maxSctpStreams) (hnear : id < s.os + 32) : id < s.os + s.additionalOs := by
  unfold additionalOs
  split <;> omega

theorem Inv.granted (h : Inv s) (connected : Bool) : Inv { s with os := s.requested, connected := connected } := by
  obtain ⟨hle, hprogress, hhandled⟩ := h
  have hadd := additionalOs_le hle
  refine ⟨?_, .inl ⟨rfl, ?_⟩, hhandled⟩ <;> rcases hprogress with ⟨heq, hdesired⟩ | ⟨-, heq, hdesired⟩ <;>
    dsimp only <;> omega

theorem Inv.handleDataConsumer (h : Inv s) (id : Fin maxSctpStreams) (hnear : s.Near (.handleDataConsumer id)) :
    Inv (s.handleDataConsumer id) := by
  obtain ⟨hle, hprogress, hhandled⟩ := h
  unfold OutgoingStreams.handleDataConsumer
  dsimp only
  split
  · have hconnected : s.connected = true := by
      by_contra hnot
      rw [Near, if_neg hnot] at hnear
      omega
    rw [Near, if_pos hconnected] at hnear
    have hlt := lt_additionalOs id.2 hnear
    unfold addOutgoingStreams
    rw [if_neg (by change s.additionalOs ≠ 0; omega)]
    rcases hprogress with ⟨hidle, hdesired⟩ | ⟨-, hasked, hdesired⟩
    · have hnew : s.os + s.additionalOs ≠ s.desiredOs := by omega
      rw [if_neg fun h => hnew h.2, if_neg (by simp [hconnected])]
      refine ⟨hle, .inr ⟨hconnected, by rw [hidle]; rfl, by rw [hidle]⟩, ?_⟩
      exact List.forall_mem_cons.mpr ⟨by rw [hidle]; exact hlt, fun x hx => (hhandled x hx).trans_le (Nat.le_add_right _ _)⟩
    · rw [if_pos ⟨by decide, (hdesired.trans hasked).symm⟩]
      exact ⟨hle, .inr ⟨hconnected, hasked, hdesired⟩, List.forall_mem_cons.mpr ⟨by rw [hasked]; exact hlt, hhandled⟩⟩
  · refine ⟨hle, hprogress, List.forall_mem_cons.mpr ⟨?_, hhandled⟩⟩
    rcases hprogress with ⟨heq, -⟩ | ⟨-, heq, -⟩ <;> dsimp only <;> omega

theorem Inv.step (h : Inv s) {e : StreamsEvent} (hnear : s.Near e) : ∃ s', s.step e = .ok s' ∧ Inv s' := by
  cases e with
  | handleDataConsumer id => exact ⟨_, rfl, h.handleDataConsumer id hnear⟩
  | streamChange => exact ⟨_, rfl, h.granted s.connected⟩
  | commUp =>
    have hdone : ¬s.desiredOs > s.requested := by
      rcases h.progress with ⟨heq, hdesired⟩ | ⟨-, -, hdesired⟩ <;> omega
    refine ⟨s.onCommUp s.requested, rfl, ?_⟩
    simp only [onCommUp, if_neg hdone]
    exact h.granted true

/-- **The streams asked for cover all stream ids** once the association is up, in every run in which no data consumer is far.
-/
theorem covers_of_near (os : UInt16) (events : List StreamsEvent)
    (h : Along step Near { os := os.toNat } events) : Safe step Covers { os := os.toNat } events := by
  refine safe_of_along (I := Inv) (P := Covers) (fun s e hs hnear => hs.step hnear) (fun s hs _ => hs.handled) events _ ?_ h
  have hos := os.toNat_lt
  exact ⟨by simp only [maxSctpStreams]; omega, .inl ⟨rfl, Nat.zero_le _⟩, by simp⟩

def nearEvents : List StreamsEvent := [.handleDataConsumer ⟨15, by decide⟩, .commUp, .handleDataConsumer ⟨47, by decide⟩]

theorem covers_nearEvents : Along step Near { os := 16 } nearEvents ∧ Safe step Covers { os := 16 } nearEvents := by
  have hnear : Along step Near { os := 16 } nearEvents := by decide
  exact ⟨hnear, covers_of_near 16 nearEvents hnear⟩

/-- Stream 20 before the association with 16 streams is up, and again afterwards. -/
def earlyEvents : List StreamsEvent := [.handleDataConsumer ⟨20, by decide⟩, .commUp, .handleDataConsumer ⟨20, by decide⟩]

theorem deferred_for_ever : earlyEvents.foldlM step { os := 16 } =
        .ok { os := 16, desiredOs := 48, connected := true, requested := 16, handled := [20, 20] } ∧
      ¬Safe step Covers { os := 16 } earlyEvents := by
  refine ⟨by decide, fun hsafe => ?_⟩
  have hlt : 20 < 16 := hsafe.2.1 rfl 20 List.mem_cons_self
  omega

end OutgoingStreams

end Mediasoup.Sctp
