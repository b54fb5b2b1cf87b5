import Mediasoup.Lib.Run
import Mediasoup.Ice.Server

/-!
# The state of the ICE server and its tuples

`Consistent` ties the state to the tuples: there are none, and none is selected, in the states `NEW` and `DISCONNECTED`, and in
the others the selected tuple points into the list. Every function keeps it but for one step: a first tuple that comes with a
nomination value not above the remembered one is stored and not selected (`handleTuple_stale`).
-/

namespace Mediasoup.Ice

open List IceServer Node

namespace IceServer

def Unconnected (s : IceServer) : Prop := s.state = .new ∨ s.state = .disconnected

def Connected (s : IceServer) : Prop := s.state = .connected ∨ s.state = .completed

instance (s : IceServer) : Decidable s.Unconnected := inferInstanceAs (Decidable (_ ∨ _))

instance (s : IceServer) : Decidable s.Connected := inferInstanceAs (Decidable (_ ∨ _))

theorem connected_iff_not_unconnected (s : IceServer) : s.Connected ↔ ¬ s.Unconnected := by
  cases h : s.state <;> simp [Connected, Unconnected, h]

def Consistent (s : IceServer) : Prop :=
  (s.Unconnected ↔ s.tuples = [] ∧ s.selectedTuple = none) ∧ (s.Connected ↔ ∃ n ∈ s.tuples, s.selectedTuple = some n.addr)

instance (s : IceServer) : Decidable s.Consistent := inferInstanceAs (Decidable (_ ∧ _))

def SelectedStored (s : IceServer) : Prop := ∀ p, s.selectedTuple = some p → p ∈ s.addrs

/-- The invariant: `Consistent` split by state, and different nodes have different addresses. -/
structure Inv (s : IceServer) : Prop where
  nodup : s.addrs.Nodup
  unconnected : s.Unconnected → s.tuples = [] ∧ s.selectedTuple = none
  connected : s.Connected → ∃ p ∈ s.addrs, s.selectedTuple = some p

variable {s : IceServer}

theorem Inv.consistent (h : s.Inv) : s.Consistent := by
  have hmem : (∃ n ∈ s.tuples, s.selectedTuple = some n.addr) ↔ ∃ p ∈ s.addrs, s.selectedTuple = some p := by
    simp [addrs]
  rw [Consistent, hmem]
  refine ⟨⟨h.unconnected, fun ⟨_, hsel⟩ => ?_⟩, h.connected, fun ⟨p, _, hp⟩ => ?_⟩
  · refine Classical.byContradiction fun hu => ?_
    obtain ⟨p, _, hp⟩ := h.connected ((connected_iff_not_unconnected s).mpr hu)
    simp [hsel] at hp
  · refine (connected_iff_not_unconnected s).mpr fun hu => ?_
    simp [(h.unconnected hu).2] at hp

theorem Inv.selectedStored (h : s.Inv) : s.SelectedStored := by
  intro p hp
  by_cases hu : s.Unconnected
  · simp [(h.unconnected hu).2] at hp
  obtain ⟨q, hq, hsel⟩ := h.connected ((connected_iff_not_unconnected s).mpr hu)
  rw [hsel] at hp
  injection hp with hp
  exact hp ▸ hq

theorem inv_fresh : ({} : IceServer).Inv where
  nodup := by simp [addrs]
  unconnected _ := ⟨rfl, rfl⟩
  connected h := by simp [Connected] at h

/-! ## Storing a tuple -/

/-- `s'` is `s` with a tuple stored at `p`: nothing else that `HandleTuple` reads has changed, and the selected tuple
is still stored. -/
structure Stores (s s' : IceServer) (p : Nat) : Prop where
  state_eq : s'.state = s.state
  selectedTuple_eq : s'.selectedTuple = s.selectedTuple
  remoteNomination_eq : s'.remoteNomination = s.remoteNomination
  nodup : s'.addrs.Nodup
  mem : p ∈ s'.addrs
  keeps : s.SelectedStored → s'.SelectedStored

variable (a : Allocator)

theorem stores_pushTuple (h : s.addrs.Nodup) (t : TransportTuple) : Stores s (s.pushTuple a t).1 (s.pushTuple a t).2 where
  state_eq := rfl
  selectedTuple_eq := rfl
  remoteNomination_eq := rfl
  nodup := by simpa [pushTuple, newNode, addrs, notify] using ⟨by simpa [addrs] using a.fresh s.addrs, h⟩
  mem := by simp [pushTuple, addrs, notify]
  keeps hs p hp := by
    have := hs p hp
    simp only [addrs, pushTuple, notify, map_cons, mem_cons] at this ⊢
    exact Or.inr this

theorem exists_removable (h : s.addrs.Nodup) (p : Nat) (hl : 2 < s.tuples.length) :
    ∃ n ∈ s.tuples, (n.addr != p && some n.addr != s.selectedTuple) = true := by
  refine Classical.byContradiction fun hno => ?_
  have hsub : s.addrs ⊆ p :: s.selectedTuple.toList := by
    intro q hq
    obtain ⟨n, hn, rfl⟩ := mem_map.mp hq
    have hn' : ¬ (n.addr != p && some n.addr != s.selectedTuple) = true := fun hc => hno ⟨n, hn, hc⟩
    simp only [Bool.and_eq_true, bne_iff_ne, ne_eq, not_and_or, not_not] at hn'
    rcases hn' with hp | hsel
    · simp [hp]
    · simp [← hsel]
  have hle := (h.subperm hsub).length_le
  have : s.selectedTuple.toList.length ≤ 1 := by cases s.selectedTuple <;> simp
  simp only [addrs, length_map, length_cons] at hle
  omega

theorem mem_addrs_eraseP {l : List Node} {p q : Nat} (hp : p ∈ l.map addr) (hpq : p ≠ q) :
    p ∈ (l.eraseP (·.addr == q)).map addr := by
  obtain ⟨n, hn, rfl⟩ := mem_map.mp hp
  refine mem_map.mpr ⟨n, ?_, rfl⟩
  rw [mem_eraseP_of_neg]
  · exact hn
  · simpa using hpq

variable {p : Nat}

theorem evictTuple_ok (h : s.addrs.Nodup) (hp : p ∈ s.addrs) : ∃ s', s.evictTuple p = .ok s' ∧ Stores s s' p := by
  by_cases hl : s.tuples.length > maxTuples
  · have hl2 : 2 < s.tuples.length := by simp only [maxTuples] at hl; omega
    obtain ⟨n, hn, hc⟩ := exists_removable h p hl2
    cases hf : s.tuples.reverse.find? (fun n => n.addr != p && some n.addr != s.selectedTuple) with
    | none =>
      rw [List.find?_eq_none] at hf
      exact absurd hc (hf n (mem_reverse.mpr hn))
    | some removed =>
      have hr := List.find?_some hf
      simp only [Bool.and_eq_true, bne_iff_ne, ne_eq] at hr
      have heq : s.evictTuple p =
          .ok { s.notify (.tupleRemoved removed) with tuples := s.tuples.eraseP (·.addr == removed.addr) } := by
        simp only [evictTuple, hl, hf, if_true]
        rfl
      refine ⟨_, heq, rfl, rfl, rfl, ?_, ?_, ?_⟩
      · exact h.sublist ((eraseP_sublist).map addr)
      · exact mem_addrs_eraseP hp fun e => hr.1 e.symm
      · intro hs q hq
        refine mem_addrs_eraseP (hs q hq) fun e => hr.2 ?_
        rw [← e]
        exact hq.symm
  · exact ⟨s, by simp [evictTuple, hl], rfl, rfl, rfl, h, hp, id⟩

theorem Stores.trans {s s' s'' : IceServer} {p q : Nat} (h : Stores s s' p) (h' : Stores s' s'' q) : Stores s s'' q where
  state_eq := h'.state_eq.trans h.state_eq
  selectedTuple_eq := h'.selectedTuple_eq.trans h.selectedTuple_eq
  remoteNomination_eq := h'.remoteNomination_eq.trans h.remoteNomination_eq
  nodup := h'.nodup
  mem := h'.mem
  keeps hs := h'.keeps (h.keeps hs)

theorem addTuple_ok (h : s.addrs.Nodup) (t : TransportTuple) : ∃ s' p, s.addTuple a t = .ok (s', p) ∧ Stores s s' p := by
  have hpush := stores_pushTuple a h t
  obtain ⟨s', hs', hev⟩ := evictTuple_ok hpush.nodup hpush.mem
  exact ⟨s', (s.pushTuple a t).2, by simp [addTuple, hs', bind, Except.bind, pure, Except.pure], hpush.trans hev⟩

theorem hasTuple_ok (h : s.SelectedStored) (t : TransportTuple) :
    ∃ r, s.hasTuple t = .ok r ∧ ∀ p, r = some p → p ∈ s.addrs := by
  cases hsel : s.selectedTuple with
  | none => exact ⟨none, by simp [hasTuple, hsel], by simp⟩
  | some q =>
    obtain ⟨n, hn, hnq⟩ := mem_map.mp (h q hsel)
    cases hf : s.tuples.find? (·.addr == q) with
    | none =>
      rw [List.find?_eq_none] at hf
      exact absurd hnq (by simpa using hf n hn)
    | some sel =>
      by_cases hc : sel.tuple.compare t
      · exact ⟨some q, by simp [hasTuple, hsel, hf, hc], by rintro p ⟨rfl⟩; exact h _ hsel⟩
      refine ⟨_, by simp [hasTuple, hsel, hf, hc]; rfl, ?_⟩
      intro p hp
      obtain ⟨m, hm, rfl⟩ := Option.map_eq_some_iff.mp hp
      exact mem_map_of_mem (mem_of_find?_eq_some hm)

theorem storeTuple_ok (h : s.addrs.Nodup) (hs : s.SelectedStored) (t : TransportTuple) :
    ∃ s' p, s.storeTuple a t = .ok (s', p) ∧ Stores s s' p := by
  obtain ⟨r, hr, hmem⟩ := hasTuple_ok hs t
  cases r with
  | none =>
    obtain ⟨s', p, hadd, hst⟩ := addTuple_ok a h t
    exact ⟨s', p, by simp [storeTuple, hr, hadd, bind, Except.bind], hst⟩
  | some p =>
    exact ⟨s, p, by simp [storeTuple, hr, bind, Except.bind, pure, Except.pure], rfl, rfl, rfl, h, hmem p rfl, id⟩

/-! ## Selecting a tuple -/

@[simp] theorem setSelectedTuple_selectedTuple (s : IceServer) (p : Nat) :
    (s.setSelectedTuple p).selectedTuple = some p := by
  unfold setSelectedTuple
  split
  · assumption
  · rfl

@[simp] theorem setSelectedTuple_tuples (s : IceServer) (p : Nat) : (s.setSelectedTuple p).tuples = s.tuples := by
  unfold setSelectedTuple
  split <;> rfl

@[simp] theorem setSelectedTuple_state (s : IceServer) (p : Nat) : (s.setSelectedTuple p).state = s.state := by
  unfold setSelectedTuple
  split <;> rfl

@[simp] theorem updateNomination_selectedTuple (s : IceServer) (b : Bool) (n : UInt32) :
    (s.updateNomination b n).selectedTuple = s.selectedTuple := by
  unfold updateNomination
  split <;> rfl

@[simp] theorem updateNomination_tuples (s : IceServer) (b : Bool) (n : UInt32) :
    (s.updateNomination b n).tuples = s.tuples := by
  unfold updateNomination
  split <;> rfl

@[simp] theorem updateNomination_state (s : IceServer) (b : Bool) (n : UInt32) :
    (s.updateNomination b n).state = s.state := by
  unfold updateNomination
  split <;> rfl

theorem inv_of_selected (hn : s.addrs.Nodup) (hp : p ∈ s.addrs)
    (hs : s.selectedTuple = some p) (hc : s.Connected) : s.Inv where
  nodup := hn
  unconnected h := absurd h ((connected_iff_not_unconnected s).mp hc)
  connected _ := ⟨p, hp, hs⟩

theorem Stores.inv_selected {s s₁ s' : IceServer} (hst : Stores s s₁ p) (htuples : s'.tuples = s₁.tuples)
    (hsel : s'.selectedTuple = some p) (hc : s'.Connected) : s'.Inv := by
  have haddrs : s'.addrs = s₁.addrs := congrArg (List.map addr) htuples
  exact inv_of_selected (haddrs ▸ hst.nodup) (haddrs ▸ hst.mem) hsel hc

theorem Stores.inv {s s' : IceServer} (hst : Stores s s' p) (h : s.Inv) (hc : s.Connected) : s'.Inv := by
  obtain ⟨q, _, hsel⟩ := h.connected hc
  have hsel' : s'.selectedTuple = some q := hst.selectedTuple_eq.trans hsel
  refine inv_of_selected hst.nodup (hst.keeps h.selectedStored q hsel') hsel' ?_
  rw [Connected, hst.state_eq]
  exact hc

/-! ## `HandleTuple` -/

/-- The call is not a tuple with a nomination value no higher than the remembered one that reaches a server without
tuples. -/
def FreshNomination (s : IceServer) : Call → Prop
  | .handleTuple _ _ hasNomination nomination => s.Unconnected → s.nominates hasNomination nomination
  | _ => True

instance (s : IceServer) : ∀ c, Decidable (s.FreshNomination c)
  | .handleTuple .. => inferInstanceAs (Decidable (_ → _))
  | .removeTuple _ | .forceSelectedTuple _ => isTrue trivial

def ForcesHeldTuple (s : IceServer) : Call → Prop
  | .forceSelectedTuple tuple => ∃ n ∈ s.tuples, n.tuple.compare tuple
  | _ => True

instance (s : IceServer) : ∀ c, Decidable (s.ForcesHeldTuple c)
  | .handleTuple .. | .removeTuple _ => isTrue trivial
  | .forceSelectedTuple _ => inferInstanceAs (Decidable (∃ n ∈ _, _))

variable {s : IceServer} {t : TransportTuple} {u b : Bool} {n : UInt32}

theorem handleTuple_of_unconnected (hu : s.Unconnected) : s.handleTuple a t u b n = s.handleTupleUnconnected a t u b n := by
  unfold handleTuple
  rcases hu with h | h <;> rw [h]

theorem handleTuple_unconnected (h : s.Inv) (hu : s.Unconnected) (hn : s.nominates b n) :
    ∃ s', s.handleTuple a t u b n = .ok s' ∧ s'.Inv := by
  obtain ⟨htuples, hsel⟩ := h.unconnected hu
  obtain ⟨s₁, p, hadd, hst⟩ := addTuple_ok a h.nodup t
  have hn₁ : s₁.nominates b n := by rw [nominates, hst.remoteNomination_eq]; exact hn
  rw [handleTuple_of_unconnected a hu]
  simp only [handleTupleUnconnected, htuples, hsel, hadd, ne_eq, not_true, if_false, bind, Except.bind, pure, Except.pure]
  split
  · exact ⟨_, rfl, hst.inv_selected (by simp [notify]) (by simp [notify]) (by simp [Connected, notify])⟩
  · exact ⟨_, rfl, hst.inv_selected (by simp [notify]) (by simp [notify]) (by simp [Connected, notify])⟩

theorem handleTuple_stale (h : s.Inv) (hu : s.Unconnected) (hn : ¬ s.nominates b n) {s' : IceServer}
    (hs' : s.handleTuple a t u b n = .ok s') : ¬ s'.Consistent := by
  obtain ⟨htuples, hsel⟩ := h.unconnected hu
  obtain ⟨s₁, p, hadd, hst⟩ := addTuple_ok a h.nodup t
  have hn₁ : ¬ s₁.nominates b n := by rw [nominates, hst.remoteNomination_eq]; exact hn
  have hb : b = true := by
    cases b with
    | false => simp [nominates] at hn
    | true => rfl
  have hout : s₁ = s' := by
    rw [handleTuple_of_unconnected a hu] at hs'
    simpa [handleTupleUnconnected, htuples, hsel, hadd, bind, Except.bind, pure, Except.pure, hb ▸ hn₁, hb]
      using hs'
  subst hout
  -- the state still says that there are no tuples
  have hu₁ : s₁.Unconnected := by rw [Unconnected, hst.state_eq]; exact hu
  intro hc
  have hmem := hst.mem
  rw [addrs, (hc.1.mp hu₁).1] at hmem
  simp at hmem

theorem handleTuple_connected (h : s.Inv) (hc : s.Connected) : ∃ s', s.handleTuple a t u b n = .ok s' ∧ s'.Inv := by
  obtain ⟨s₁, p, hstore, hst⟩ := storeTuple_ok a h.nodup h.selectedStored t
  have hinv₁ := hst.inv h hc
  obtain ⟨q, hq, hsel⟩ := h.connected hc
  have htuples : s.tuples ≠ [] := by
    intro hnil
    simp [addrs, hnil] at hq
  rcases hc with hstate | hstate
  · simp only [handleTuple, hstate, handleTupleConnected, htuples, hsel, hstore, if_false, bind, Except.bind, pure,
      Except.pure, reduceCtorEq]
    split
    · exact ⟨s₁, rfl, hinv₁⟩
    · split
      · exact ⟨_, rfl, hst.inv_selected (by simp [notify]) (by simp [notify]) (by simp [Connected, notify])⟩
      · exact ⟨s₁, rfl, hinv₁⟩
  simp only [handleTuple, hstate, handleTupleCompleted, htuples, hsel, hstore, if_false, bind, Except.bind, pure,
    Except.pure, reduceCtorEq]
  split
  · exact ⟨s₁, rfl, hinv₁⟩
  · split
    · exact ⟨_, rfl, hst.inv_selected (by simp) (by simp) (by simp [Connected, hst.state_eq, hstate])⟩
    · exact ⟨s₁, rfl, hinv₁⟩

theorem handleTuple_inv (h : s.Inv) (hn : s.FreshNomination (.handleTuple t u b n)) :
    ∃ s', s.handleTuple a t u b n = .ok s' ∧ s'.Inv := by
  by_cases hu : s.Unconnected
  · exact handleTuple_unconnected a h hu (hn hu)
  · exact handleTuple_connected a h ((connected_iff_not_unconnected s).mpr hu)

/-! ## `RemoveTuple` and `ForceSelectedTuple` -/

theorem replaceSelectedTuple_inv (hn : s.addrs.Nodup) (hc : s.Connected) : s.replaceSelectedTuple.Inv := by
  cases htuples : s.tuples with
  | nil =>
    refine ⟨?_, ?_, ?_⟩
    · simp [replaceSelectedTuple, htuples, addrs, notify]
    · simp [replaceSelectedTuple, htuples, notify]
    · simp [replaceSelectedTuple, htuples, Connected, notify]
  | cons first rest =>
    refine inv_of_selected (p := first.addr) ?_ ?_ ?_ ?_
    · simpa [replaceSelectedTuple, htuples, addrs] using hn
    · simp [replaceSelectedTuple, htuples, addrs]
    · simp [replaceSelectedTuple, htuples]
    · simpa [replaceSelectedTuple, htuples, Connected] using hc

theorem mem_addrs_eraseP_of_find? {l : List Node} {f : Node → Bool} {r : Node} {q : Nat} (hf : l.find? f = some r)
    (hq : q ∈ l.map addr) (hne : q ≠ r.addr) : q ∈ (l.eraseP f).map addr := by
  induction l with
  | nil => simp at hq
  | cons m l ih =>
    by_cases hm : f m
    · obtain rfl : m = r := by simpa [hm] using hf
      rw [eraseP_cons_of_pos hm]
      exact (mem_cons.mp hq).resolve_left hne
    rw [eraseP_cons_of_neg hm]
    rw [List.find?_cons_of_neg hm] at hf
    rcases mem_cons.mp hq with rfl | hq
    · exact mem_cons_self
    · exact mem_cons_of_mem _ (ih hf hq)

theorem Inv.connected_of_mem (h : s.Inv) {m : Node} (hm : m ∈ s.tuples) : s.Connected := by
  refine (connected_iff_not_unconnected s).mpr fun hu => ?_
  simp [(h.unconnected hu).1] at hm

theorem removeTuple_inv (h : s.Inv) : (s.removeTuple t).Inv := by
  cases hf : s.tuples.find? (·.tuple.compare t) with
  | none => simpa [removeTuple, hf] using h
  | some removed =>
    have hc := h.connected_of_mem (mem_of_find?_eq_some hf)
    obtain ⟨q, hq, hsel⟩ := h.connected hc
    have hnodup : ((s.tuples.eraseP (·.tuple.compare t)).map addr).Nodup :=
      h.nodup.sublist (eraseP_sublist.map addr)
    by_cases hr : s.selectedTuple = some removed.addr
    · simp only [removeTuple, hf, notify, hr, if_true]
      exact replaceSelectedTuple_inv hnodup hc
    simp only [removeTuple, hf, notify, hr, if_false]
    refine inv_of_selected (p := q) hnodup ?_ hsel hc
    refine mem_addrs_eraseP_of_find? hf hq ?_
    rintro rfl
    exact hr hsel

theorem hasTuple_of_held (h : s.Inv) (hheld : ∃ m ∈ s.tuples, m.tuple.compare t) :
    ∃ p ∈ s.addrs, s.hasTuple t = .ok (some p) := by
  obtain ⟨m, hm, hmt⟩ := hheld
  obtain ⟨q, _, hsel⟩ := h.connected (h.connected_of_mem hm)
  obtain ⟨r, hr, hmem⟩ := hasTuple_ok h.selectedStored t
  cases r with
  | some p => exact ⟨p, hmem p rfl, hr⟩
  | none =>
    simp only [hasTuple, hsel] at hr
    split at hr
    · cases hr
    split at hr
    · cases hr
    · injection hr with hr
      rw [Option.map_eq_none_iff, List.find?_eq_none] at hr
      exact absurd hmt (hr m hm)

theorem forceSelectedTuple_inv (h : s.Inv) (hheld : ∃ m ∈ s.tuples, m.tuple.compare t) :
    ∃ s', s.forceSelectedTuple t = .ok s' ∧ s'.Inv := by
  obtain ⟨p, hp, hhas⟩ := hasTuple_of_held h hheld
  obtain ⟨m, hm, _⟩ := hheld
  have hc := h.connected_of_mem hm
  obtain ⟨q, _, hsel⟩ := h.connected hc
  refine ⟨s.setSelectedTuple p, ?_, inv_of_selected (p := p) ?_ ?_ ?_ ?_⟩
  · simp [forceSelectedTuple, hsel, hhas, bind, Except.bind, pure, Except.pure]
  · simpa [addrs] using h.nodup
  · simpa [addrs] using hp
  · simp
  · simpa [Connected] using hc

/-! ## Runs -/

theorem step_inv {c : Call} (h : s.Inv) (hheld : s.ForcesHeldTuple c) (hn : s.FreshNomination c) :
    ∃ s', s.step a c = .ok s' ∧ s'.Inv := by
  cases c with
  | handleTuple t u b n => exact handleTuple_inv a h hn
  | removeTuple t => exact ⟨_, rfl, removeTuple_inv h⟩
  | forceSelectedTuple t => exact forceSelectedTuple_inv h hheld

theorem step_stale {c : Call} {s' : IceServer} (h : s.Inv) (hn : ¬ s.FreshNomination c)
    (hs' : s.step a c = .ok s') : ¬ s'.Consistent := by
  cases c with
  | handleTuple t u b n =>
    have hu : s.Unconnected := Classical.byContradiction fun hu => hn fun hu' => absurd hu' hu
    exact handleTuple_stale a h hu (fun hnom => hn fun _ => hnom) hs'
  | removeTuple t => exact absurd trivial hn
  | forceSelectedTuple t => exact absurd trivial hn

end IceServer

/-- **Every run of a fresh server** is safe exactly when no first tuple comes with a stale nomination. -/
theorem safe_iff_fresh_nomination (a : Allocator) (calls : List Call)
    (hheld : Lib.Along (step a) IceServer.ForcesHeldTuple {} calls) :
    Lib.Safe (step a) IceServer.Consistent {} calls ↔
      Lib.Along (step a) IceServer.FreshNomination {} calls :=
  Lib.safe_iff_along (I := IceServer.Inv) (fun _ _ hI hA hC => IceServer.step_inv a hI hA hC)
    (fun _ hI => hI.consistent) (fun _ _ _ hI _ hC hs' => IceServer.step_stale a hI hC hs') calls {}
    IceServer.inv_fresh hheld

theorem safe_nominated_then_removed : Lib.Along (step .bump) IceServer.ForcesHeldTuple {}
        [.handleTuple ⟨10, .udp, false⟩ true true 1, .handleTuple ⟨20, .tcp, false⟩ false false 0,
          .forceSelectedTuple ⟨20, .tcp, false⟩, .removeTuple ⟨20, .tcp, false⟩, .removeTuple ⟨10, .udp, false⟩] ∧
      Lib.Safe (step .bump) IceServer.Consistent {}
        [.handleTuple ⟨10, .udp, false⟩ true true 1, .handleTuple ⟨20, .tcp, false⟩ false false 0,
          .forceSelectedTuple ⟨20, .tcp, false⟩, .removeTuple ⟨20, .tcp, false⟩, .removeTuple ⟨10, .udp, false⟩] :=
  ⟨by decide, (safe_iff_fresh_nomination .bump _ (by decide)).mpr (by decide)⟩

/-- A first Binding request with nomination value 0 leaves a tuple in the list of a server in state `NEW`, and the
next one fires the assertion that there is none. -/
theorem stale_nomination_fires_assertion :
    ¬ Lib.Safe (step .bump) IceServer.Consistent {} [.handleTuple ⟨10, .udp, false⟩ false true 0] ∧
      ((({} : IceServer).step .bump (.handleTuple ⟨10, .udp, false⟩ false true 0)).bind
        fun s => s.step .bump (.handleTuple ⟨10, .udp, false⟩ false true 0)) = .error (.hasTuples .new 1) := by
  decide

end Mediasoup.Ice
