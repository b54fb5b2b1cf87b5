import Mediasoup.Lib.Ring
import Mediasoup.Lib.Run

/-!
# The SCTP stream ids of a transport

`consumeData` marks a stream id that is not in use before it asks the worker to make the data consumer. The handlers that take the
mark away when the data consumer closes are there only after the worker has accepted. Node looks for the id in a buffer
(`NodeIds`), Rust takes the first free entry of a map (`RustIds`); what both do is `StreamIds.Lawful`.
-/

namespace Mediasoup.Transport

open Lib List
open Lib.Ring (mem_round round_eq_map)

/-! ## Calls on a transport -/

/-- How a transport marks stream ids: `σ` are the states of the marks, and `next` finds an id. -/
structure StreamIds (σ : Type) where
  used : σ → Nat → Prop
  next : σ → Option (Nat × σ)
  mark : σ → Nat → Bool → σ

/-- A free id is found if there is one. -/
structure StreamIds.Lawful {σ : Type} (m : StreamIds σ) (mis : Nat) : Prop where
  found : ∀ {s s' i}, m.next s = some (i, s') → i < mis ∧ ¬ m.used s i ∧ ∀ j, m.used s' j ↔ m.used s j
  exhausted : ∀ {s}, m.next s = none → ∀ i < mis, m.used s i
  bound : ∀ {s i}, m.used s i → i < mis
  used_mark : ∀ s i used j, m.used (m.mark s i used) j ↔ if j = i then used ∧ i < mis else m.used s j

/-- A transport with the ids of its data consumers, and of the calls of `consumeData` whose request has no answer yet. -/
structure Calls (σ : Type) where
  ids : σ
  live : List Nat := []
  inFlight : List Nat := []

inductive Event
  | consumeData
  | accepted (id : Nat)
  | rejected (id : Nat)
  | closed (id : Nat)
  deriving DecidableEq

namespace Calls

variable {σ : Type} (m : StreamIds σ)

def step (s : Calls σ) : Event → Except Empty (Calls σ)
  | .consumeData =>
    match m.next s.ids with
    -- It throws "no sctpStreamId available".
    | none => .ok s
    | some (id, ids) => .ok { s with ids := m.mark ids id true, inFlight := id :: s.inFlight }
  | .accepted id =>
    .ok (if id ∈ s.inFlight then { s with live := id :: s.live, inFlight := s.inFlight.erase id } else s)
  -- The error leaves `consumeData`, and nothing takes the mark away.
  | .rejected id => .ok { s with inFlight := s.inFlight.erase id }
  | .closed id => .ok (if id ∈ s.live then { s with ids := m.mark s.ids id false, live := s.live.erase id } else s)

/-- The marks are those of data consumers and of calls that wait, no two data consumers have the same id, and `consumeData` throws
only if all ids are in use. -/
structure Conserved (mis : Nat) (s : Calls σ) : Prop where
  used_iff : ∀ id, m.used s.ids id ↔ id ∈ s.live ∨ id ∈ s.inFlight
  nodup : s.live.Nodup
  bound : ∀ id ∈ s.live, id < mis
  exhausted : m.next s.ids = none → ∀ id < mis, id ∈ s.live ∨ id ∈ s.inFlight

/-- No request of a call that waits is rejected. -/
def NotRejected (s : Calls σ) (e : Event) : Prop := ∀ id ∈ s.inFlight, e ≠ .rejected id

structure Inv (s : Calls σ) : Prop where
  used_iff : ∀ id, m.used s.ids id ↔ id ∈ s.live ∨ id ∈ s.inFlight
  live : s.live.Nodup
  inFlight : s.inFlight.Nodup
  disjoint : ∀ id ∈ s.live, id ∉ s.inFlight

variable {m} {mis : Nat} {s : Calls σ}

theorem Inv.conserved (hm : m.Lawful mis) (h : Inv m s) : Conserved m mis s where
  used_iff := h.used_iff
  nodup := h.live
  bound id hid := hm.bound ((h.used_iff id).mpr (.inl hid))
  exhausted hnone id hid := (h.used_iff id).mp (hm.exhausted hnone id hid)

theorem Inv.step (hm : m.Lawful mis) (h : Inv m s) {e : Event} (he : s.NotRejected e) :
    ∃ s', s.step m e = .ok s' ∧ Inv m s' := by
  have hlive (i j : Nat) : i ∈ s.live.erase j ↔ i ≠ j ∧ i ∈ s.live := h.live.mem_erase_iff
  have hinFlight (i j : Nat) : i ∈ s.inFlight.erase j ↔ i ≠ j ∧ i ∈ s.inFlight := h.inFlight.mem_erase_iff
  obtain ⟨hused, hliveNodup, hinFlightNodup, hdisjoint⟩ := h
  cases e with
  | consumeData =>
    cases hnext : m.next s.ids with
    | none => exact ⟨s, by simp only [Calls.step, hnext], hused, hliveNodup, hinFlightNodup, hdisjoint⟩
    | some r =>
      obtain ⟨id, ids⟩ := r
      obtain ⟨hid, hfree, hids⟩ := hm.found hnext
      rw [hused, not_or] at hfree
      refine ⟨{ s with ids := m.mark ids id true, inFlight := id :: s.inFlight }, by simp only [Calls.step, hnext], fun j => ?_,
        hliveNodup, nodup_cons.mpr ⟨hfree.2, hinFlightNodup⟩, fun j hj hmem => ?_⟩
      · rw [hm.used_mark, hids, hused, mem_cons]
        by_cases hj : j = id <;> simp [hj, hid]
      · rcases mem_cons.mp hmem with rfl | hmem
        · exact hfree.1 hj
        · exact hdisjoint j hj hmem
  | accepted id =>
    refine ⟨_, rfl, ?_⟩
    split
    case isTrue hid =>
      refine ⟨fun j => ?_, nodup_cons.mpr ⟨fun hmem => hdisjoint id hmem hid, hliveNodup⟩, hinFlightNodup.erase id,
        fun j hj hmem => ?_⟩
      · rw [hused, mem_cons, hinFlight]
        by_cases hj : j = id <;> simp [hj, hid]
      · obtain ⟨hne, hmem⟩ := (hinFlight j id).mp hmem
        exact hdisjoint j ((mem_cons.mp hj).resolve_left hne) hmem
    case isFalse => exact ⟨hused, hliveNodup, hinFlightNodup, hdisjoint⟩
  | rejected id =>
    have hsame : s.inFlight.erase id = s.inFlight := erase_of_not_mem fun hid => he id hid rfl
    refine ⟨s, ?_, hused, hliveNodup, hinFlightNodup, hdisjoint⟩
    rw [Calls.step, hsame]
  | closed id =>
    refine ⟨_, rfl, ?_⟩
    split
    case isTrue hid =>
      refine ⟨fun j => ?_, hliveNodup.erase id, hinFlightNodup, fun j hj => hdisjoint j ((hlive j id).mp hj).2⟩
      rw [hm.used_mark, hused, hlive]
      by_cases hj : j = id
      · simp [hj, hdisjoint id hid]
      · simp [hj]
    case isFalse => exact ⟨hused, hliveNodup, hinFlightNodup, hdisjoint⟩

theorem conserved_iff_notRejected (hm : m.Lawful mis) {ids : σ} (hids : ∀ id, ¬ m.used ids id) (events : List Event) :
    Safe (step m) (Conserved m mis) { ids := ids } events ↔ Along (step m) NotRejected { ids := ids } events := by
  refine safe_iff_along (A := fun _ _ => True) (I := Inv m) (fun s e hs _ he => hs.step hm he) (fun s hs => hs.conserved hm) ?_
    events _ ⟨by simp [hids], .nil, .nil, nofun⟩ (along_of_forall (fun _ _ => trivial) events _)
  intro s e s' hs _ hnot hstep hconserved
  rw [NotRejected] at hnot
  push Not at hnot
  obtain ⟨id, hid, rfl⟩ := hnot
  cases hstep
  -- The id is still marked, and neither of a data consumer nor of a call.
  rcases (hconserved.used_iff id).mp ((hs.used_iff id).mpr (.inr hid)) with hmem | hmem
  · exact hs.disjoint id hmem hid
  · exact (hs.inFlight.mem_erase_iff.mp hmem).1 rfl

end Calls

/-! ## Node -/

structure NodeIds (mis : Nat) where
  sctpStreamIds : List Bool := List.replicate mis false
  nextSctpStreamId : Nat := 0
  size : sctpStreamIds.length = mis := by exact length_replicate

namespace NodeIds

variable {mis : Nat}

def mark (s : NodeIds mis) (id : Nat) (used : Bool) : NodeIds mis where
  sctpStreamIds := s.sctpStreamIds.set id used
  nextSctpStreamId := s.nextSctpStreamId
  size := by rw [length_set, s.size]

def getNextSctpStreamId (s : NodeIds mis) : Option (Nat × NodeIds mis) :=
  let candidates := (List.range s.sctpStreamIds.length).map fun idx =>
    (s.nextSctpStreamId + idx) % s.sctpStreamIds.length
  (candidates.find? fun id => !s.sctpStreamIds.getD id false).map fun id => (id, { s with nextSctpStreamId := id + 1 })

end NodeIds

def nodeIds (mis : Nat) : StreamIds (NodeIds mis) where
  used s id := s.sctpStreamIds.getD id false
  next := NodeIds.getNextSctpStreamId
  mark := NodeIds.mark

theorem nodeIds_lawful (mis : Nat) : (nodeIds mis).Lawful mis where
  found {s s' i} h := by
    obtain ⟨id, hfind, h⟩ := Option.map_eq_some_iff.mp h
    cases h
    have hfree : s.sctpStreamIds.getD i false = false := by simpa using List.find?_some hfind
    obtain ⟨idx, hidx, rfl⟩ := mem_map.mp (mem_of_find?_eq_some hfind)
    rw [mem_range] at hidx
    exact ⟨(Nat.mod_lt _ (Nat.zero_lt_of_lt hidx)).trans_eq s.size,
      fun hused => Bool.false_ne_true (hfree.symm.trans hused), fun j => Iff.rfl⟩
  exhausted {s} h i hi := by
    have hnone := List.find?_eq_none.mp (Option.map_eq_none_iff.mp h)
    -- The candidates are a whole round.
    have hround := (mem_round (s.nextSctpStreamId + mis - 1) (Nat.zero_lt_of_lt hi)).mpr hi
    rw [round_eq_map] at hround
    obtain ⟨idx, hidx, hmod⟩ := mem_map.mp hround
    have hcandidate : (s.nextSctpStreamId + idx) % s.sctpStreamIds.length = i := by
      rw [s.size, ← hmod, ← Nat.add_mod_right]
      congr 1
      omega
    simpa [nodeIds] using hnone i (mem_map.mpr ⟨idx, by rwa [s.size], hcandidate⟩)
  bound {s i} h := by
    by_contra hle
    have hlen : s.sctpStreamIds.length ≤ i := s.size.trans_le (Nat.le_of_not_lt hle)
    simp [nodeIds, List.getElem?_eq_none hlen] at h
  used_mark s i used j := by
    simp only [nodeIds, NodeIds.mark, getD_eq_getElem?_getD, List.getElem?_set, s.size, eq_comm (a := i)]
    split
    case isTrue => split <;> simp_all
    case isFalse => rfl

/-! ## Rust -/

/-- `used_sctp_stream_ids`, in the order of the map. -/
structure RustIds (mis : Nat) where
  entries : List (Nat × Bool)
  keys : (entries.map Prod.fst).Perm (List.range mis)

namespace RustIds

variable {mis : Nat}

/-- The map of a new transport, whose order is any order of the ids. -/
def new (order : { l : List Nat // l.Perm (List.range mis) }) : RustIds mis where
  entries := order.1.map fun id => (id, false)
  keys := by
    rw [map_map]
    exact (map_id _).symm ▸ order.2

def mark (s : RustIds mis) (id : Nat) (used : Bool) : RustIds mis where
  entries := s.entries.map fun e => (e.1, if e.1 = id then used else e.2)
  keys := by
    rw [map_map]
    exact s.keys

def allocateSctpStreamId (s : RustIds mis) : Option (Nat × RustIds mis) :=
  (s.entries.find? fun e => !e.2).map fun e => (e.1, s)

end RustIds

def rustIds (mis : Nat) : StreamIds (RustIds mis) where
  used s id := (id, true) ∈ s.entries
  next := RustIds.allocateSctpStreamId
  mark := RustIds.mark

theorem RustIds.exists_mem_iff {mis : Nat} (s : RustIds mis) (id : Nat) : (∃ used, (id, used) ∈ s.entries) ↔ id < mis := by
  rw [← mem_range, ← s.keys.mem_iff, mem_map]
  exact ⟨fun ⟨used, h⟩ => ⟨_, h, rfl⟩, fun ⟨e, he, hid⟩ => ⟨e.2, hid ▸ he⟩⟩

theorem rustIds_lawful (mis : Nat) : (rustIds mis).Lawful mis where
  found {s s' i} h := by
    obtain ⟨⟨id, used⟩, hfind, h⟩ := Option.map_eq_some_iff.mp h
    cases h
    have hmem := mem_of_find?_eq_some hfind
    obtain rfl : used = false := by simpa using List.find?_some hfind
    refine ⟨(s.exists_mem_iff id).mp ⟨_, hmem⟩, fun hused => ?_, fun j => Iff.rfl⟩
    have hkeys := s.keys.nodup_iff.mpr nodup_range
    cases inj_on_of_nodup_map hkeys hmem hused rfl
  exhausted {s} h i hi := by
    obtain ⟨used, hmem⟩ := (s.exists_mem_iff i).mpr hi
    obtain rfl : used = true := by simpa using List.find?_eq_none.mp (Option.map_eq_none_iff.mp h) _ hmem
    exact hmem
  bound {s i} h := (s.exists_mem_iff i).mp ⟨true, h⟩
  used_mark s i used j := by
    simp only [rustIds, RustIds.mark, mem_map, Prod.mk.injEq, ← s.exists_mem_iff i]
    split
    case isTrue hj =>
      constructor
      · rintro ⟨e, he, rfl, hused⟩
        rw [if_pos hj] at hused
        exact ⟨hused, e.2, hj ▸ he⟩
      · rintro ⟨hused, u, he⟩
        exact ⟨(i, u), he, hj.symm, by rw [if_pos rfl, hused]⟩
    case isFalse hj =>
      constructor
      · rintro ⟨e, he, rfl, hused⟩
        rw [if_neg hj] at hused
        rwa [← hused]
      · intro h
        exact ⟨(j, true), h, rfl, by rw [if_neg hj]⟩

/-! ## The result -/

/-- **Stream ids** are marked exactly while a data consumer or a call holds them, in Node and in Rust, exactly if no request of a
call fails. -/
theorem conserved_iff (mis : Nat) (order : { l : List Nat // l.Perm (List.range mis) }) (events : List Event) :
    (Safe (Calls.step (nodeIds mis)) (Calls.Conserved (nodeIds mis) mis) { ids := {} } events ↔
      Along (Calls.step (nodeIds mis)) Calls.NotRejected { ids := {} } events) ∧
    (Safe (Calls.step (rustIds mis)) (Calls.Conserved (rustIds mis) mis) { ids := .new order } events ↔
      Along (Calls.step (rustIds mis)) Calls.NotRejected { ids := .new order } events) := by
  refine ⟨Calls.conserved_iff_notRejected (nodeIds_lawful mis) (fun id => ?_) events,
    Calls.conserved_iff_notRejected (rustIds_lawful mis) (fun id => ?_) events⟩
  · simp [nodeIds, List.getElem?_replicate]
    split <;> simp
  · simp [rustIds, RustIds.new]

theorem rejected_id_lost :
    ¬ Safe (Calls.step (nodeIds 1)) (Calls.Conserved (nodeIds 1) 1) { ids := {} } [.consumeData, .rejected 0] := by
  rintro ⟨-, hconserved, -⟩
  have hheld := hconserved.exhausted rfl 0 Nat.one_pos
  simp at hheld

end Mediasoup.Transport
