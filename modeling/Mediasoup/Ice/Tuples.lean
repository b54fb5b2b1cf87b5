import Mediasoup.Ice.Invariant
import Mediasoup.Ice.Requests
import Mediasoup.Lib.Ledger

/-!
# The tuples over whole runs

A call of the server leaves the stored tuples as they are, adds one, or adds one and evicts another (`Change`), or removes one
(`Removal`); both say what the listener is told. From them, `Sound` holds in every state that is reached: the tuples are at
most `MaxTuples`, pairwise different, and those announced as added and not as removed (`tuples_of_runs`).
-/

namespace Mediasoup.Ice

open Lib List Ledger

def Event.entry : Event → Option (Entry Node)
  | .tupleAdded n => some (.added n)
  | .tupleRemoved n => some (.removed n)
  | _ => none

def entries (events : List Event) : List (Entry Node) := events.filterMap Event.entry

@[simp] theorem entries_append (es fs : List Event) : entries (es ++ fs) = entries es ++ entries fs :=
  filterMap_append

namespace IceServer

variable {s s' : IceServer} {t : TransportTuple} {u b : Bool} {nomination : UInt32}

def hashes (s : IceServer) : List UInt64 := s.tuples.map (·.tuple.hash)

structure Sound (s : IceServer) : Prop where
  nodup : s.addrs.Nodup
  selectedStored : s.SelectedStored
  hashes_nodup : s.hashes.Nodup
  length_le : s.tuples.length ≤ maxTuples

theorem sound_fresh : ({} : IceServer).Sound where
  nodup := nodup_nil
  selectedStored p h := by cases h
  hashes_nodup := nodup_nil
  length_le := Nat.zero_le _

/-- What a call with the tuple `t` makes of the stored tuples, and what it announces. -/
inductive Change (s : IceServer) (t : TransportTuple) : List Node → List (Entry Node) → Prop
  | same : Change s t s.tuples []
  | added {n : Node} (hfresh : n.addr ∉ s.addrs) (hhash : n.tuple.hash = t.hash) (hnew : t.hash ∉ s.hashes)
      (hroom : s.tuples.length < maxTuples) : Change s t (n :: s.tuples) [.added n]
  /-- The tuple that goes is neither the selected one nor the one that comes. -/
  | evicted {n m : Node} (hfresh : n.addr ∉ s.addrs) (hhash : n.tuple.hash = t.hash) (hnew : t.hash ∉ s.hashes)
      (hmem : m ∈ s.tuples) (hselected : s.selectedTuple ≠ some m.addr) (hfull : s.tuples.length = maxTuples) :
      Change s t (n :: s.tuples.erase m) [.added n, .removed m]

inductive Removal (s : IceServer) (t : TransportTuple) : List Node → List (Entry Node) → Prop
  | removed {m : Node} (hmem : m ∈ s.tuples) (hhash : m.tuple.hash = t.hash) :
      Removal s t (s.tuples.erase m) [.removed m]

def Spares (s : IceServer) (es : List (Entry Node)) : Prop :=
  ∀ m, .removed m ∈ es → s.selectedTuple ≠ some m.addr ∧ ∀ n, .added n ∈ es → n.addr ≠ m.addr

section

variable {ts : List Node} {es : List (Entry Node)}

theorem Change.hashes_nodup (hc : Change s t ts es) (h : s.Sound) : (ts.map (·.tuple.hash)).Nodup := by
  cases hc with
  | same => exact h.hashes_nodup
  | @added n _ hhash hnew _ =>
    have hn : n.tuple.hash ∉ s.hashes := hhash ▸ hnew
    exact nodup_cons.mpr ⟨hn, h.hashes_nodup⟩
  | @evicted n m _ hhash hnew _ _ _ =>
    have hsub : ((s.tuples.erase m).map (·.tuple.hash)).Sublist s.hashes := erase_sublist.map _
    have hn : n.tuple.hash ∉ s.hashes := hhash ▸ hnew
    exact nodup_cons.mpr ⟨fun hmem => hn (hsub.subset hmem), h.hashes_nodup.sublist hsub⟩

theorem Change.length_le (hc : Change s t ts es) (h : s.Sound) : ts.length ≤ maxTuples := by
  cases hc with
  | same => exact h.length_le
  | added _ _ _ hroom => exact hroom
  | evicted _ _ _ hmem _ hfull =>
    rw [length_cons, length_erase_of_mem hmem, hfull]
    decide

theorem Change.held (hc : Change s t ts es) : Ledger.held s.tuples es = some ts := by
  cases hc with
  | same => rfl
  | added => rfl
  | @evicted n m hfresh _ _ hmem _ _ =>
    have hne : n ≠ m := by
      rintro rfl
      exact hfresh (mem_map_of_mem hmem)
    rw [held_added, held_removed (mem_cons_of_mem n hmem), erase_cons_tail (by simpa using hne)]
    rfl

theorem Change.spares (hc : Change s t ts es) : s.Spares es := by
  intro m hm
  cases hc with
  | same => simp at hm
  | added => simp at hm
  | @evicted n m' hfresh _ _ hmem hselected _ =>
    obtain rfl : m = m' := by simpa using hm
    refine ⟨hselected, fun n' hn' => ?_⟩
    obtain rfl : n' = n := by simpa using hn'
    intro heq
    exact hfresh (heq ▸ mem_map_of_mem hmem)

theorem Removal.hashes_nodup (hr : Removal s t ts es) (h : s.Sound) : (ts.map (·.tuple.hash)).Nodup := by
  cases hr with
  | removed => exact h.hashes_nodup.sublist (erase_sublist.map _)

theorem Removal.length_le (hr : Removal s t ts es) (h : s.Sound) : ts.length ≤ maxTuples := by
  cases hr with
  | removed => exact Nat.le_trans length_erase_le h.length_le

theorem Removal.held (hr : Removal s t ts es) : Ledger.held s.tuples es = some ts := by
  cases hr with
  | removed hmem => rw [held_removed hmem, held_nil]

end

/-! ## One call -/

theorem eraseP_eq_erase {l : List Node} {f : Node → Bool} {m : Node} (h : l.find? f = some m) : l.eraseP f = l.erase m := by
  induction l with
  | nil => cases h
  | cons n l ih =>
    by_cases hn : f n
    · obtain rfl : n = m := by simpa [hn] using h
      rw [eraseP_cons_of_pos hn, erase_cons_head]
    rw [List.find?_cons_of_neg hn] at h
    have hne : n ≠ m := by
      rintro rfl
      exact hn (List.find?_some h)
    rw [eraseP_cons_of_neg hn, ih h, erase_cons_tail (by simpa using hne)]

theorem find?_addr {l : List Node} (h : (l.map Node.addr).Nodup) {m : Node} (hm : m ∈ l) :
    l.find? (·.addr == m.addr) = some m := by
  induction l with
  | nil => cases hm
  | cons n l ih =>
    rw [map_cons, nodup_cons] at h
    rcases mem_cons.mp hm with rfl | hm
    · rw [List.find?_cons_of_pos (by simp)]
    have hne : n.addr ≠ m.addr := by
      intro heq
      exact h.1 (heq ▸ mem_map_of_mem hm)
    rw [List.find?_cons_of_neg (by simpa using hne), ih h.2 hm]

theorem evictTuple_cases {p : Nat} (h : s.evictTuple p = .ok s') : (s.tuples.length ≤ maxTuples ∧ s' = s) ∨
      ∃ m ∈ s.tuples, maxTuples < s.tuples.length ∧ m.addr ≠ p ∧ s.selectedTuple ≠ some m.addr ∧
        s' = { s.notify (.tupleRemoved m) with tuples := s.tuples.eraseP (·.addr == m.addr) } := by
  unfold evictTuple at h
  split at h
  · rename_i hfull
    split at h
    · cases h
    rename_i m hfind
    have hm := List.find?_some hfind
    simp only [Bool.and_eq_true, bne_iff_ne, ne_eq] at hm
    exact .inr ⟨m, mem_reverse.mp (mem_of_find?_eq_some hfind), hfull, hm.1, Ne.symm hm.2, (Except.ok.inj h).symm⟩
  · rename_i hroom
    exact .inl ⟨Nat.le_of_not_lt hroom, (Except.ok.inj h).symm⟩

variable (a : Allocator)

theorem newNode_hash (s : IceServer) (t : TransportTuple) : (newNode a s t).tuple.hash = t.hash := by
  show (if t.protocol = .udp then t.storeUdpRemoteAddress else t).hash = t.hash
  split <;> rfl

theorem addTuple_change (h : s.Sound) (hnew : t.hash ∉ s.hashes) {p : Nat}
    (hadd : s.addTuple a t = .ok (s', p)) :
    ∃ es, entries s'.events = entries s.events ++ es ∧ Change s t s'.tuples es := by
  have hfresh : (newNode a s t).addr ∉ s.addrs := a.fresh s.addrs
  have hhash := newNode_hash a s t
  have hnodup : ((newNode a s t :: s.tuples).map Node.addr).Nodup := (stores_pushTuple a h.nodup t).nodup
  obtain ⟨s₁, hevict, hout⟩ := exists_of_bind_eq_ok hadd
  obtain ⟨rfl, -⟩ := Prod.mk.inj (Except.ok.inj hout)
  obtain ⟨hroom, rfl⟩ | ⟨m, hm, hfull, hne, hsel, rfl⟩ := evictTuple_cases hevict
  · refine ⟨[.added (newNode a s t)], ?_, .added hfresh hhash hnew hroom⟩
    show entries (s.events ++ [.tupleAdded (newNode a s t)]) = _
    rw [entries_append]
    rfl
  · have hne : newNode a s t ≠ m := by
      rintro rfl
      exact hne rfl
    have herase : (newNode a s t :: s.tuples).eraseP (·.addr == m.addr) = newNode a s t :: s.tuples.erase m := by
      rw [eraseP_eq_erase (find?_addr hnodup hm), erase_cons_tail (by simpa using hne)]
    have hlen : s.tuples.length = maxTuples := Nat.le_antisymm h.length_le (Nat.le_of_lt_succ hfull)
    refine ⟨[.added (newNode a s t), .removed m], ?_, ?_⟩
    · show entries (s.events ++ [.tupleAdded (newNode a s t)] ++ [.tupleRemoved m]) = _
      rw [entries_append, entries_append, append_assoc]
      rfl
    · show Change s t ((newNode a s t :: s.tuples).eraseP (·.addr == m.addr)) _
      rw [herase]
      exact .evicted hfresh hhash hnew ((mem_cons.mp hm).resolve_left (Ne.symm hne)) hsel hlen

theorem hash_notMem_of_hasTuple {p : Nat} (hsel : s.selectedTuple = some p) (h : s.hasTuple t = .ok none) :
    t.hash ∉ s.hashes := by
  simp only [hasTuple, hsel] at h
  split at h
  · cases h
  split at h
  · cases h
  injection h with h
  rw [Option.map_eq_none_iff, List.find?_eq_none] at h
  intro hmem
  obtain ⟨m, hm, hhash⟩ := mem_map.mp hmem
  exact h m hm (by simp [TransportTuple.compare, hhash])

def Adds (s : IceServer) (t : TransportTuple) (s₁ : IceServer) (p : Nat) : Prop :=
  Stores s s₁ p ∧ ∃ es, entries s₁.events = entries s.events ++ es ∧ Change s t s₁.tuples es

theorem addTuple_adds (h : s.Sound) (hnew : t.hash ∉ s.hashes) : ∃ s₁ p, s.addTuple a t = .ok (s₁, p) ∧ s.Adds t s₁ p := by
  obtain ⟨s₁, p, hadd, hst⟩ := addTuple_ok a h.nodup t
  exact ⟨s₁, p, hadd, hst, addTuple_change a h hnew hadd⟩

theorem storeTuple_adds (h : s.Sound) {q : Nat} (hsel : s.selectedTuple = some q) :
    ∃ s₁ p, s.storeTuple a t = .ok (s₁, p) ∧ s.Adds t s₁ p := by
  obtain ⟨s₁, p, hstore, hst⟩ := storeTuple_ok a h.nodup h.selectedStored t
  refine ⟨s₁, p, hstore, hst, ?_⟩
  obtain ⟨r, hhas, hrest⟩ := exists_of_bind_eq_ok hstore
  cases r with
  | some stored =>
    obtain ⟨rfl, -⟩ := Prod.mk.inj (Except.ok.inj hrest)
    exact ⟨[], (append_nil _).symm, .same⟩
  | none => exact addTuple_change a h (hash_notMem_of_hasTuple hsel hhas) hrest

def SameTuples (s s' : IceServer) : Prop := s'.tuples = s.tuples ∧ entries s'.events = entries s.events

theorem SameTuples.trans {s₁ s₂ s₃ : IceServer} (h : SameTuples s₁ s₂) (h' : SameTuples s₂ s₃) : SameTuples s₁ s₃ :=
  ⟨h'.1.trans h.1, h'.2.trans h.2⟩

theorem sameTuples_notify (s : IceServer) {e : Event} (he : e.entry = none) : SameTuples s (s.notify e) := by
  refine ⟨rfl, ?_⟩
  show entries (s.events ++ [e]) = _
  have hnone : entries [e] = [] := filterMap_cons_none he
  rw [entries_append, hnone, append_nil]

theorem sameTuples_setSelectedTuple (s : IceServer) (p : Nat) : SameTuples s (s.setSelectedTuple p) := by
  unfold setSelectedTuple
  split
  · exact ⟨rfl, rfl⟩
  · exact sameTuples_notify { s with selectedTuple := some p } rfl

theorem sameTuples_updateNomination (s : IceServer) (b : Bool) (n : UInt32) : SameTuples s (s.updateNomination b n) := by
  unfold updateNomination
  split <;> exact ⟨rfl, rfl⟩

/-- What `HandleTuple` does once the tuple is stored at `p` in `s₁`: it is selected or not. -/
def Settles (s₁ s' : IceServer) (p : Nat) : Prop :=
  SameTuples s₁ s' ∧ (s'.selectedTuple = s₁.selectedTuple ∨ s'.selectedTuple = some p)

theorem settles_refl (s : IceServer) (p : Nat) : Settles s s p := ⟨⟨rfl, rfl⟩, .inl rfl⟩

theorem settles_connected (s : IceServer) (p : Nat) (st : IceState) {e : Event} (he : e.entry = none) :
    Settles s ({ s.setSelectedTuple p with state := st }.notify e) p :=
  ⟨(sameTuples_setSelectedTuple s p).trans (sameTuples_notify { s.setSelectedTuple p with state := st } he),
    .inr (setSelectedTuple_selectedTuple s p)⟩

theorem settles_completed (s : IceServer) (p : Nat) (b : Bool) (n : UInt32) :
    Settles s (({ s.setSelectedTuple p with state := .completed }.updateNomination b n).notify .completed) p := by
  refine ⟨?_, .inr ?_⟩
  · exact (sameTuples_setSelectedTuple s p).trans
      ((sameTuples_updateNomination { s.setSelectedTuple p with state := .completed } b n).trans (sameTuples_notify _ rfl))
  · exact (updateNomination_selectedTuple _ b n).trans (setSelectedTuple_selectedTuple s p)

theorem settles_selected (s : IceServer) (p : Nat) (b : Bool) (n : UInt32) :
    Settles s ((s.setSelectedTuple p).updateNomination b n) p :=
  ⟨(sameTuples_setSelectedTuple s p).trans (sameTuples_updateNomination _ b n),
    .inr ((updateNomination_selectedTuple _ b n).trans (setSelectedTuple_selectedTuple s p))⟩

def Handles (s : IceServer) (t : TransportTuple) (s' : IceServer) : Prop := ∃ s₁ p, s.Adds t s₁ p ∧ Settles s₁ s' p

theorem handleTupleUnconnected_ends (h : s.Sound) :
    Ends (s.Handles t) (· ≠ .danglingSelectedTuple) (s.handleTupleUnconnected a t u b nomination) := by
  unfold handleTupleUnconnected
  by_cases htuples : s.tuples = []
  · have hnew : t.hash ∉ s.hashes := by simp [hashes, htuples]
    obtain ⟨s₁, p, hadd, hadds⟩ := addTuple_adds a h hnew
    rw [if_neg (not_not.mpr htuples)]
    by_cases hsel : s.selectedTuple = none
    · rw [if_neg (not_not.mpr hsel), hadd]
      dsimp only [bind, Except.bind]
      split
      · exact ⟨s₁, p, hadds, settles_connected s₁ p _ rfl⟩
      · split
        · exact ⟨s₁, p, hadds, settles_completed s₁ p b nomination⟩
        · exact ⟨s₁, p, hadds, settles_refl s₁ p⟩
    · rw [if_pos hsel]
      exact nofun
  · rw [if_pos htuples]
    exact nofun

theorem ends_of_storeTuple (h : s.Sound) {rest : IceServer × Nat → Except Fault IceServer}
    (hrest : ∀ s₁ p, Ends (Settles s₁ · p) (· ≠ .danglingSelectedTuple) (rest (s₁, p))) :
    Ends (s.Handles t) (· ≠ .danglingSelectedTuple)
      (if s.tuples = [] then .error (.noTuples s.state)
        else if s.selectedTuple = none then .error (.noSelectedTuple s.state) else s.storeTuple a t >>= rest) := by
  split
  · exact nofun
  split
  · exact nofun
  rename_i hsel
  obtain ⟨q, hq⟩ := Option.ne_none_iff_exists'.mp hsel
  obtain ⟨s₁, p, hstore, hadds⟩ := storeTuple_adds a h hq
  rw [hstore]
  exact (hrest s₁ p).imp fun s' hs => ⟨s₁, p, hadds, hs⟩

theorem handleTuple_ends (h : s.Sound) :
    Ends (s.Handles t) (· ≠ .danglingSelectedTuple) (s.handleTuple a t u b nomination) := by
  unfold handleTuple
  split
  · exact handleTupleUnconnected_ends a h
  · exact handleTupleUnconnected_ends a h
  · refine ends_of_storeTuple a h fun s₁ p => ?_
    dsimp only
    split
    · exact settles_refl s₁ p
    · split
      · exact settles_completed s₁ p b nomination
      · exact settles_refl s₁ p
  · refine ends_of_storeTuple a h fun s₁ p => ?_
    dsimp only
    split
    · exact settles_refl s₁ p
    · split
      · exact settles_selected s₁ p b nomination
      · exact settles_refl s₁ p

theorem sound_of_same (hs : SameTuples s s') (hnodup : s.addrs.Nodup) (hhashes : s.hashes.Nodup)
    (hlength : s.tuples.length ≤ maxTuples) (hsel : ∀ q, s'.selectedTuple = some q → q ∈ s.addrs) : s'.Sound := by
  have haddrs : s'.addrs = s.addrs := congrArg (List.map Node.addr) hs.1
  have hhash : s'.hashes = s.hashes := congrArg (List.map fun n : Node => n.tuple.hash) hs.1
  exact ⟨haddrs ▸ hnodup, fun q hq => haddrs ▸ hsel q hq, hhash ▸ hhashes, hs.1 ▸ hlength⟩

theorem Handles.change (hh : s.Handles t s') (h : s.Sound) :
    s'.Sound ∧ ∃ es, entries s'.events = entries s.events ++ es ∧ Change s t s'.tuples es := by
  obtain ⟨s₁, p, ⟨hst, es, hentries, hc⟩, hs⟩ := hh
  refine ⟨sound_of_same hs.1 hst.nodup (hc.hashes_nodup h) (hc.length_le h) ?_, es, hs.1.2.trans hentries, hs.1.1 ▸ hc⟩
  intro q hq
  rcases hs.2 with hsel | hsel
  · exact hst.keeps h.selectedStored q (hsel ▸ hq)
  · rw [hsel] at hq
    cases hq
    exact hst.mem

theorem replaceSelectedTuple_same (s : IceServer) :
    SameTuples s s.replaceSelectedTuple ∧ ∀ q, s.replaceSelectedTuple.selectedTuple = some q → q ∈ s.addrs := by
  simp only [replaceSelectedTuple]
  split
  · rename_i first rest hrest
    refine ⟨sameTuples_setSelectedTuple { s with selectedTuple := none } first.addr, ?_⟩
    intro q hq
    cases hq
    exact mem_map_of_mem (hrest ▸ mem_cons_self)
  · refine ⟨sameTuples_notify { s with selectedTuple := none, state := .disconnected } rfl, ?_⟩
    intro q hq
    cases hq

theorem removeTuple_change (h : s.Sound) (t : TransportTuple) :
    (s.removeTuple t).Sound ∧ ∃ es, entries (s.removeTuple t).events = entries s.events ++ es ∧
      (((s.removeTuple t).tuples = s.tuples ∧ es = []) ∨ Removal s t (s.removeTuple t).tuples es) := by
  cases hf : s.tuples.find? (·.tuple.compare t) with
  | none =>
    have hsame : s.removeTuple t = s := by simp only [removeTuple, hf]
    rw [hsame]
    exact ⟨h, [], (append_nil _).symm, .inl ⟨rfl, rfl⟩⟩
  | some m =>
    have hmem := mem_of_find?_eq_some hf
    have hhash : m.tuple.hash = t.hash := by simpa [TransportTuple.compare] using List.find?_some hf
    -- Without the node, before another one is selected.
    let s₁ : IceServer := { s.notify (.tupleRemoved m) with tuples := s.tuples.eraseP (·.tuple.compare t) }
    have htuples : s₁.tuples = s.tuples.erase m := eraseP_eq_erase hf
    have hentries : entries s₁.events = entries s.events ++ [.removed m] := entries_append _ _
    have hr : Removal s t s₁.tuples [.removed m] := htuples ▸ .removed hmem hhash
    have hsame : SameTuples s₁ (s.removeTuple t) ∧ ∀ q, (s.removeTuple t).selectedTuple = some q → q ∈ s₁.addrs := by
      simp only [removeTuple, hf]
      split
      · exact replaceSelectedTuple_same s₁
      rename_i hne
      refine ⟨⟨rfl, rfl⟩, ?_⟩
      intro q hq
      refine mem_addrs_eraseP_of_find? hf (h.selectedStored q hq) ?_
      rintro rfl
      exact hne hq
    refine ⟨sound_of_same hsame.1 (h.nodup.sublist (eraseP_sublist.map Node.addr)) (hr.hashes_nodup h) (hr.length_le h)
      hsame.2, [.removed m], hsame.1.2.trans hentries, .inr (hsame.1.1 ▸ hr)⟩

theorem forceSelectedTuple_ends (h : s.Sound) :
    Ends (fun s' => s'.Sound ∧ SameTuples s s') (· ≠ .danglingSelectedTuple) (s.forceSelectedTuple t) := by
  obtain ⟨r, hhas, hmem⟩ := hasTuple_ok h.selectedStored t
  unfold forceSelectedTuple
  split
  · exact nofun
  simp only [hhas, bind, Except.bind]
  cases r with
  | none => exact nofun
  | some p =>
    have hsame := sameTuples_setSelectedTuple s p
    refine ⟨sound_of_same hsame h.nodup h.hashes_nodup h.length_le fun q hq => ?_, hsame⟩
    rw [setSelectedTuple_selectedTuple] at hq
    exact hmem q hq

end IceServer

namespace Agent

variable {s s' : Agent} (hmac : Utils.HmacSha1) (a : Allocator)

theorem applyNewCredentials_server (s : Agent) : s.applyNewCredentials.toIceServer = s.toIceServer := by
  unfold applyNewCredentials
  split <;> rfl

theorem accept_server (s : Agent) (packet : Stun.StunPacket) (remote : Stun.Sockaddr) :
    (s.accept packet remote).1.toIceServer = s.toIceServer := by
  unfold accept
  split <;> rfl

theorem authenticate_server (s : Agent) (packet : Stun.StunPacket) (remote : Stun.Sockaddr) :
    (s.authenticate hmac packet remote).1.toIceServer = s.toIceServer := by
  simp only [authenticate]
  split
  · rw [accept_server, applyNewCredentials_server]
  · split
    · exact accept_server s packet remote
    · rfl
  · rfl

theorem receive_server (s : Agent) (packet : Stun.StunPacket) (remote : Stun.Sockaddr) :
    (s.receive hmac packet remote).1.toIceServer = s.toIceServer := by
  unfold receive
  split
  · split <;> rfl
  split
  · split <;> rfl
  split
  · split
    · rfl
    · exact authenticate_server hmac s packet remote
  · rfl
  · rfl
  · rfl

theorem restartIce_server (s : Agent) (u k : List UInt8) :
    (s.restartIce u k).toIceServer = { s.toIceServer with remoteNomination := 0 } := by
  simp only [restartIce]
  split <;> rfl

def Changes (s : Agent) (c : Call) (s' : Agent) : Prop :=
  s'.toIceServer.Sound ∧ ∃ es, entries s'.events = entries s.events ++ es ∧ ((s'.tuples = s.tuples ∧ es = []) ∨
      (∃ data t remote, c = .stunData data t remote ∧ s.toIceServer.Change t s'.tuples es) ∨
      ∃ t, c = .removeTuple t ∧ s.toIceServer.Removal t s'.tuples es)

theorem changes_of_same {c : Call} (h : s'.toIceServer.Sound) (hs : IceServer.SameTuples s.toIceServer s'.toIceServer) :
    s.Changes c s' :=
  ⟨h, [], hs.2.trans (append_nil _).symm, .inl ⟨hs.1, rfl⟩⟩

theorem step_ends (c : Call) (h : s.toIceServer.Sound) : Ends (s.Changes c) (· ≠ .danglingSelectedTuple) (s.step hmac a c) := by
  cases c with
  | stunData data t remote =>
    simp only [step, onStunDataReceived]
    split
    · exact changes_of_same h ⟨rfl, rfl⟩
    rename_i packet _
    have hserver := receive_server hmac s packet remote
    simp only [processStunPacket]
    split
    · rw [hserver]
      refine (IceServer.handleTuple_ends a h).bind fun server hhandles => ?_
      obtain ⟨hsound, es, hentries, hc⟩ := hhandles.change h
      exact ⟨hsound, es, hentries, .inr (.inl ⟨data, t, remote, rfl, hc⟩)⟩
    · exact changes_of_same (hserver ▸ h) (hserver ▸ ⟨rfl, rfl⟩)
  | removeTuple t =>
    obtain ⟨hsound, es, hentries, hsame | hr⟩ := IceServer.removeTuple_change h t
    · exact ⟨hsound, es, hentries, .inl hsame⟩
    · exact ⟨hsound, es, hentries, .inr (.inr ⟨t, rfl, hr⟩)⟩
  | forceSelectedTuple t =>
    exact (IceServer.forceSelectedTuple_ends h).bind fun server hforce => changes_of_same hforce.1 hforce.2
  | restartIce u k =>
    have hserver := restartIce_server s u k
    refine changes_of_same ?_ ?_
    · rw [hserver]
      exact ⟨h.nodup, h.selectedStored, h.hashes_nodup, h.length_le⟩
    · rw [hserver]
      exact ⟨rfl, rfl⟩

structure Announced (s : Agent) : Prop where
  sound : s.toIceServer.Sound
  held : Ledger.held [] (entries s.events) = some s.tuples

theorem announced_create (u k : List UInt8) : (create u k).Announced := ⟨IceServer.sound_fresh, rfl⟩

theorem Changes.announced {c : Call} (hc : s.Changes c s') (h : s.Announced) : s'.Announced := by
  obtain ⟨hsound, es, hentries, hcases⟩ := hc
  refine ⟨hsound, ?_⟩
  rw [hentries, held_append_of_some h.held]
  obtain ⟨htuples, rfl⟩ | ⟨_, t, _, _, hc⟩ | ⟨t, _, hr⟩ := hcases
  · rw [htuples, held_nil]
  · exact hc.held
  · exact hr.held

/-- What holds of the tuples behind a call: their number, that they differ, that they are those announced, and that nothing
but `RemoveTuple` removes the selected tuple or one just added. -/
def TuplesKept (s : Agent) (c : Call) (s' : Agent) : Prop :=
  s'.tuples.length ≤ IceServer.maxTuples ∧ s'.tuples.Pairwise (fun m n => ¬ m.tuple.compare n.tuple) ∧
    Ledger.held [] (entries s'.events) = some s'.tuples ∧
    ∃ es, entries s'.events = entries s.events ++ es ∧ ((∃ t, c = .removeTuple t) ∨ s.toIceServer.Spares es)

theorem Changes.tuplesKept {c : Call} (hc : s.Changes c s') (h : s.Announced) : s.TuplesKept c s' := by
  have h' := hc.announced h
  obtain ⟨-, es, hentries, hcases⟩ := hc
  refine ⟨h'.sound.length_le, ?_, h'.held, es, hentries, ?_⟩
  · refine (pairwise_map.mp h'.sound.hashes_nodup).imp ?_
    simp [TransportTuple.compare]
  · obtain ⟨-, rfl⟩ | ⟨_, t, _, _, hc⟩ | ⟨t, rfl, _⟩ := hcases
    · exact .inr fun m hm => absurd hm not_mem_nil
    · exact .inr hc.spares
    · exact .inl ⟨t, rfl⟩

end Agent

/-- **Every run of a fresh server**: no call reads a freed tuple, and up to the first assertion that fires every call keeps the
tuples. -/
theorem tuples_of_runs (hmac : Utils.HmacSha1) (a : Allocator) (usernameFragment password : List UInt8)
    (calls : List Agent.Call) :
    Outcomes (Agent.step hmac a) (· ≠ .error .danglingSelectedTuple) (Agent.create usernameFragment password) calls ∧
      EachStep (Agent.step hmac a) Agent.TuplesKept (Agent.create usernameFragment password) calls := by
  have halong : Along (Agent.step hmac a) (fun _ _ => True) (Agent.create usernameFragment password) calls :=
    along_of_forall (fun _ _ => trivial) calls _
  constructor
  · refine outcomes_of_along (I := Agent.Announced) (fun s c hI _ => ?_) calls _ (Agent.announced_create _ _) halong
    have hends := Agent.step_ends hmac a c hI.sound
    exact ⟨fun hfault => hends.of_error hfault rfl, fun s' hok => (hends.of_ok hok).announced hI⟩
  · refine eachStep_of_along (I := Agent.Announced) (fun s c s' hI _ hok => ?_) calls _ (Agent.announced_create _ _) halong
    have hchanges := (Agent.step_ends hmac a c hI.sound).of_ok hok
    exact ⟨hchanges.tuplesKept hI, hchanges.announced hI⟩

end Mediasoup.Ice
