import Mediasoup.KeyFrames.RequestManager

/-!
# No key frame request is lost

Each function of the manager has one lemma (`*_spec`) that says what it does to the SSRC it is called for; it leaves all others
alone (`Touches`). From these, over all runs: a request that waits for its timer is sent at the latest when the timer expires,
unless the key frame arrives (`run_waiting`), and a request that is held back by a delayer is not forgotten (`run_delaying`).
-/

namespace Mediasoup.KeyFrames

open Lib List Registry

namespace KeyFrameRequestManager

/-! ## What holds between the calls -/

structure Inv (m : KeyFrameRequestManager) : Prop where
  pending : m.pending.Sound (·.timerActive = true)
  delayers : m.delayers.Sound (·.timerActive = true)

/-- The pending request at the address is sent again when its timer expires. -/
def Waiting (m : KeyFrameRequestManager) (ssrc : UInt32) (id : Nat) : Prop := m.pending.Holds ssrc id {}

/-- The delayer at the address has noted a request. -/
def Delaying (m : KeyFrameRequestManager) (ssrc : UInt32) (id : Nat) : Prop :=
  m.delayers.Holds ssrc id { keyFrameRequested := true }

def Emitted (m m' : KeyFrameRequestManager) (ssrc : UInt32) : Prop := m'.requests = m.requests ++ [ssrc]

def Requested (m m' : KeyFrameRequestManager) (ssrc : UInt32) : Prop :=
  ∃ sent, m'.requests = m.requests ++ sent ∧ ssrc ∈ sent

structure Touches (ssrc : UInt32) (m m' : KeyFrameRequestManager) : Prop where
  pending : Registry.Changes (·.timerActive = true) ssrc m.pending m'.pending
  delayers : Registry.Changes (·.timerActive = true) ssrc m.delayers m'.delayers
  requests : m.requests <+: m'.requests

variable {m m' m'' : KeyFrameRequestManager} {ssrc : UInt32} {id : Nat}

theorem Touches.inv (h : Touches ssrc m m') : Inv m' := ⟨h.pending.sound, h.delayers.sound⟩

theorem Inv.touches (h : Inv m) (ssrc : UInt32) : Touches ssrc m m :=
  ⟨h.pending.refl ssrc, h.delayers.refl ssrc, prefix_rfl⟩

theorem Emitted.requested (h : Emitted m m' ssrc) : Requested m m' ssrc := ⟨[ssrc], h, mem_singleton_self ssrc⟩

theorem Requested.trans_prefix (h : Requested m m' ssrc) (h' : m'.requests <+: m''.requests) : Requested m m'' ssrc := by
  obtain ⟨sent, heq, hmem⟩ := h
  obtain ⟨later, heq'⟩ := h'
  exact ⟨sent ++ later, by rw [← heq', heq, append_assoc], mem_append_left _ hmem⟩

theorem Requested.of_extends (h : m.requests <+: m'.requests) (h' : Requested m' m'' ssrc) : Requested m m'' ssrc := by
  obtain ⟨sent, heq, hmem⟩ := h'
  obtain ⟨earlier, heq'⟩ := h
  exact ⟨earlier ++ sent, by rw [heq, ← heq', append_assoc], mem_append_right _ hmem⟩

/-! ## The functions -/

theorem needNow_spec (h : Inv m) (ssrc : UInt32) :
    ∃ m', m.needNow ssrc = .ok m' ∧ Touches ssrc m m' ∧ m'.delayers = m.delayers ∧
      (Emitted m m' ssrc ∨ ∃ id, m'.Waiting ssrc id) ∧ ∀ id, m.Waiting ssrc id → m'.Waiting ssrc id := by
  unfold needNow
  cases hindex : m.pending.index.lookup ssrc with
  | some id =>
    obtain ⟨info, hold⟩ := h.pending.holds hindex
    have hactive := h.pending.all _ _ _ hold.2
    dsimp only
    rw [hold.2]
    have hwrite : Registry.Changes _ ssrc m.pending (m.pending.write id ssrc { info with retryOnTimeout := true }) :=
      h.pending.write hold hactive
    have hwaiting : (m.pending.write id ssrc { info with retryOnTimeout := true }).Holds ssrc id {} := by
      simp only [hactive]
      exact hold.write {}
    refine ⟨_, rfl, ⟨hwrite, h.delayers.refl ssrc, prefix_rfl⟩, rfl, .inr ⟨id, hwaiting⟩, fun id' hid' => ?_⟩
    rw [← (hold.unique hid').1]
    exact hwaiting
  | none =>
    refine ⟨_, rfl, ⟨h.pending.create hindex rfl, h.delayers.refl ssrc, prefix_append _ _⟩, rfl, .inl rfl, fun id' hid' => ?_⟩
    have := hid'.1
    simp [hindex] at this

theorem keyFrameNeeded_spec (h : Inv m) (ssrc : UInt32) : ∃ m', m.keyFrameNeeded ssrc = .ok m' ∧ Touches ssrc m m' ∧
      (Emitted m m' ssrc ∨ (∃ id, m'.Waiting ssrc id) ∨ (m.delayers.index.lookup ssrc ≠ none ∧ ∃ id, m'.Delaying ssrc id)) ∧
      (∀ id, m.Waiting ssrc id → m'.Waiting ssrc id) ∧ ∀ id, m.Delaying ssrc id → m'.Delaying ssrc id := by
  unfold keyFrameNeeded
  split
  · cases hindex : m.delayers.index.lookup ssrc with
    | some id =>
      obtain ⟨delayer, hold⟩ := h.delayers.holds hindex
      have hactive := h.delayers.all _ _ _ hold.2
      dsimp only
      rw [hold.2]
      have hwrite : Registry.Changes _ ssrc m.delayers (m.delayers.write id ssrc { delayer with keyFrameRequested := true }) :=
        h.delayers.write hold hactive
      have hdelaying : (m.delayers.write id ssrc { delayer with keyFrameRequested := true }).Holds ssrc id
          { keyFrameRequested := true } := by
        simp only [hactive]
        exact hold.write { keyFrameRequested := true }
      refine ⟨_, rfl, ⟨h.pending.refl ssrc, hwrite, prefix_rfl⟩, .inr (.inr ⟨nofun, id, hdelaying⟩),
        fun _ hwaiting => hwaiting, fun id' hid' => ?_⟩
      rw [← (hold.unique hid').1]
      exact hdelaying
    | none =>
      have hcreate := h.delayers.create (a := {}) hindex rfl
      obtain ⟨m', heq, htouches, -, hout, hwaiting⟩ :=
        needNow_spec (m := { m with delayers := m.delayers.create ssrc {} }) ⟨h.pending, hcreate.sound⟩ ssrc
      refine ⟨m', heq, ⟨htouches.pending, hcreate.trans htouches.delayers, htouches.requests⟩,
        hout.imp_right .inl, hwaiting, fun id' hid' => ?_⟩
      have := hid'.1
      simp [hindex] at this
  · obtain ⟨m', heq, htouches, hdelayers, hout, hwaiting⟩ := needNow_spec h ssrc
    refine ⟨m', heq, htouches, hout.imp_right .inl, hwaiting, fun id' hid' => ?_⟩
    rw [Delaying, hdelayers]
    exact hid'

theorem forceNow_spec (h : Inv m) (ssrc : UInt32) : ∃ m', m.forceNow ssrc = .ok m' ∧ Touches ssrc m m' ∧ Emitted m m' ssrc := by
  unfold forceNow
  cases hindex : m.pending.index.lookup ssrc with
  | some id =>
    obtain ⟨info, hold⟩ := h.pending.holds hindex
    dsimp only
    rw [hold.2]
    exact ⟨_, rfl, ⟨h.pending.write hold rfl, h.delayers.refl ssrc, prefix_append _ _⟩, rfl⟩
  | none => exact ⟨_, rfl, ⟨h.pending.create hindex rfl, h.delayers.refl ssrc, prefix_append _ _⟩, rfl⟩

theorem forceKeyFrameNeeded_spec (h : Inv m) (ssrc : UInt32) :
    ∃ m', m.forceKeyFrameNeeded ssrc = .ok m' ∧ Touches ssrc m m' ∧ Emitted m m' ssrc := by
  have hdelayed {delayers : Registry UInt32 KeyFrameRequestDelayer}
      (hchange : Registry.Changes (·.timerActive = true) ssrc m.delayers delayers) :
      ∃ m', { m with delayers := delayers }.forceNow ssrc = .ok m' ∧ Touches ssrc m m' ∧ Emitted m m' ssrc := by
    obtain ⟨m', heq, htouches, hemitted⟩ :=
      forceNow_spec (m := { m with delayers := delayers }) ⟨h.pending, hchange.sound⟩ ssrc
    exact ⟨m', heq, ⟨htouches.pending, hchange.trans htouches.delayers, htouches.requests⟩, hemitted⟩
  unfold forceKeyFrameNeeded
  split
  · cases hindex : m.delayers.index.lookup ssrc with
    | some id =>
      obtain ⟨delayer, hold⟩ := h.delayers.holds hindex
      dsimp only
      rw [hold.2]
      exact hdelayed (h.delayers.replace hold rfl)
    | none => exact hdelayed (h.delayers.create hindex rfl)
  · exact forceNow_spec h ssrc

theorem keyFrameReceived_spec (h : Inv m) (ssrc : UInt32) :
    ∃ m', m.keyFrameReceived ssrc = .ok m' ∧ Touches ssrc m m' ∧ m'.delayers = m.delayers := by
  unfold keyFrameReceived
  cases hindex : m.pending.index.lookup ssrc with
  | some id =>
    obtain ⟨info, hold⟩ := h.pending.holds hindex
    dsimp only
    rw [hold.2]
    exact ⟨_, rfl, ⟨h.pending.remove hold, h.delayers.refl ssrc, prefix_rfl⟩, rfl⟩
  | none => exact ⟨m, rfl, h.touches ssrc, rfl⟩

theorem requestTimer_spec (h : Inv m) {info : PendingKeyFrameInfo} (hold : m.pending.Holds ssrc id info) :
    ∃ m', m.step (.requestTimer id) = .ok m' ∧ Touches ssrc m m' ∧ m'.delayers = m.delayers ∧
      (info.retryOnTimeout = true → Emitted m m' ssrc) := by
  have hactive := h.pending.all _ _ _ hold.2
  simp only [step, hold.2, hactive, if_true, onKeyFrameRequestTimeout]
  rw [show (m.pending.write id ssrc { info with timerActive := false }).index.lookup ssrc = some id from hold.1]
  dsimp only
  rw [write_write, free_write]
  split
  · rename_i hretry
    refine ⟨_, rfl, ⟨h.pending.remove hold, h.delayers.refl ssrc, prefix_rfl⟩, rfl, fun hretry' => ?_⟩
    simp [hretry'] at hretry
  · exact ⟨_, rfl, ⟨h.pending.write hold rfl, h.delayers.refl ssrc, prefix_append _ _⟩, rfl, fun _ => rfl⟩

theorem delayTimer_spec (h : Inv m) {delayer : KeyFrameRequestDelayer} (hold : m.delayers.Holds ssrc id delayer) :
    ∃ m', m.step (.delayTimer id) = .ok m' ∧ Touches ssrc m m' ∧
      (delayer.keyFrameRequested = true → Emitted m m' ssrc ∨ ∃ id, m'.Waiting ssrc id) ∧
      ∀ id, m.Waiting ssrc id → m'.Waiting ssrc id := by
  have hactive := h.delayers.all _ _ _ hold.2
  simp only [step, hold.2, hactive, if_true, onKeyFrameDelayTimeout]
  rw [show (m.delayers.write id ssrc { delayer with timerActive := false }).index.lookup ssrc = some id from hold.1]
  dsimp only
  rw [free_write]
  have hremove := h.delayers.remove hold
  split
  · obtain ⟨m', heq, htouches, hout, hwaiting, -⟩ :=
      keyFrameNeeded_spec (m := { m with delayers := (m.delayers.free id).unlink ssrc }) ⟨h.pending, hremove.sound⟩ ssrc
    refine ⟨m', heq, ⟨htouches.pending, hremove.trans htouches.delayers, htouches.requests⟩, fun _ => ?_, hwaiting⟩
    rcases hout with hemitted | hwaiting | ⟨hdelayer, -⟩
    · exact .inl hemitted
    · exact .inr hwaiting
    -- the delayer is gone
    · exact absurd (lookup_unlink _ ssrc) hdelayer
  · rename_i hrequested
    exact ⟨_, rfl, ⟨h.pending.refl ssrc, hremove, prefix_rfl⟩, fun h => absurd h hrequested, fun _ hw => hw⟩

/-! ## A step -/

theorem step_dead_requestTimer (hdead : m.pending.objects.lookup id = none) : m.step (.requestTimer id) = .ok m := by
  simp only [step, hdead]

theorem step_dead_delayTimer (hdead : m.delayers.objects.lookup id = none) : m.step (.delayTimer id) = .ok m := by
  simp only [step, hdead]

/-- What becomes of a request that waits for its timer and of one that a delayer has noted: the first waits on, or is sent,
unless the key frame arrives; the second stays noted until the timer expires, unless one is forced, which is sent. -/
structure Keeps (e : Event) (m m' : KeyFrameRequestManager) (ssrc : UInt32) : Prop where
  waiting : ∀ id, m.Waiting ssrc id → e ≠ .keyFrameReceived ssrc →
    Requested m m' ssrc ∨ (e ≠ .requestTimer id ∧ m'.Waiting ssrc id)
  delaying : ∀ id, m.Delaying ssrc id → e ≠ .delayTimer id →
    (e = .forceKeyFrameNeeded ssrc ∧ Requested m m' ssrc) ∨ m'.Delaying ssrc id

theorem Touches.keeps {k : UInt32} {e : Event} (ht : Touches k m m') (hk : Keeps e m m' k)
    (htimer : ∀ ssrc id, e = .requestTimer id → m.Waiting ssrc id → ssrc = k) (ssrc : UInt32) : Keeps e m m' ssrc := by
  by_cases hne : ssrc = k
  · exact hne ▸ hk
  · exact ⟨fun id hw _ => .inr ⟨fun he => hne (htimer ssrc id he hw), ht.pending.others _ _ _ hne hw⟩,
      fun id hd _ => .inr (ht.delayers.others _ _ _ hne hd)⟩

theorem step_spec (h : Inv m) (e : Event) :
    ∃ m', m.step e = .ok m' ∧ Inv m' ∧ m.requests <+: m'.requests ∧ ∀ ssrc, Keeps e m m' ssrc := by
  cases e with
  | keyFrameNeeded k =>
    obtain ⟨m', heq, ht, -, hw, hd⟩ := keyFrameNeeded_spec h k
    exact ⟨m', heq, ht.inv, ht.requests, ht.keeps ⟨fun id hid _ => .inr ⟨nofun, hw id hid⟩, fun id hid _ => .inr (hd id hid)⟩
      nofun⟩
  | forceKeyFrameNeeded k =>
    obtain ⟨m', heq, ht, hemitted⟩ := forceKeyFrameNeeded_spec h k
    exact ⟨m', heq, ht.inv, ht.requests,
      ht.keeps ⟨fun _ _ _ => .inl hemitted.requested, fun _ _ _ => .inl ⟨rfl, hemitted.requested⟩⟩ nofun⟩
  | keyFrameReceived k =>
    obtain ⟨m', heq, ht, hsame⟩ := keyFrameReceived_spec h k
    refine ⟨m', heq, ht.inv, ht.requests, ht.keeps ⟨fun _ _ hne => absurd rfl hne, fun id hid _ => .inr ?_⟩ nofun⟩
    rwa [Delaying, hsame]
  | requestTimer id =>
    cases hlive : m.pending.objects.lookup id with
    | none =>
      refine ⟨m, step_dead_requestTimer hlive, h, prefix_rfl, fun ssrc => ⟨fun id' hw _ => .inr ⟨?_, hw⟩,
        fun _ hd _ => .inr hd⟩⟩
      rintro ⟨⟩
      simp [hw.2] at hlive
    | some x =>
      have hold := h.pending.holds_of_live hlive
      obtain ⟨m', heq, ht, hsame, hretry⟩ := requestTimer_spec h hold
      refine ⟨m', heq, ht.inv, ht.requests, ht.keeps ⟨fun id' hw _ => .inl (hretry ?_).requested, fun id' hd _ => .inr ?_⟩ ?_⟩
      · rw [← (hw.unique hold).2]
      · rwa [Delaying, hsame]
      · rintro ssrc _ ⟨⟩ hw
        exact Classical.byContradiction fun hne => hold.key_ne hw hne rfl
  | delayTimer id =>
    cases hlive : m.delayers.objects.lookup id with
    | none =>
      exact ⟨m, step_dead_delayTimer hlive, h, prefix_rfl, fun ssrc => ⟨fun id' hw _ => .inr ⟨nofun, hw⟩,
        fun _ hd _ => .inr hd⟩⟩
    | some x =>
      have hold := h.delayers.holds_of_live hlive
      obtain ⟨m', heq, ht, -, hkeep⟩ := delayTimer_spec h hold
      refine ⟨m', heq, ht.inv, ht.requests, ht.keeps ⟨fun id' hw _ => .inr ⟨nofun, hkeep id' hw⟩, fun id' hd hne => ?_⟩ nofun⟩
      exact absurd (congrArg _ (hold.unique hd).1) hne

/-! ## Runs -/

abbrev run (m : KeyFrameRequestManager) (es : List Event) : Except KeyFrameFault KeyFrameRequestManager :=
  es.foldlM step m

theorem run_ok : ∀ {m : KeyFrameRequestManager}, Inv m → ∀ es : List Event,
    ∃ m', m.run es = .ok m' ∧ Inv m' ∧ m.requests <+: m'.requests
  | m, h, [] => ⟨m, rfl, h, prefix_rfl⟩
  | m, h, e :: es => by
    obtain ⟨m₁, heq, hinv₁, hrequests₁, -⟩ := step_spec h e
    obtain ⟨m', hrun, hinv, hrequests⟩ := run_ok hinv₁ es
    refine ⟨m', ?_, hinv, hrequests₁.trans hrequests⟩
    rw [run, foldlM_cons, heq]
    exact hrun

theorem run_cons (h : Inv m) {e : Event} {es : List Event} (hrun : m.run (e :: es) = .ok m') :
    ∃ m₁, Inv m₁ ∧ m.requests <+: m₁.requests ∧ (∀ ssrc, Keeps e m m₁ ssrc) ∧ m₁.run es = .ok m' := by
  obtain ⟨m₁, heq, hinv, hrequests, hkeeps⟩ := step_spec h e
  rw [run, foldlM_cons, heq] at hrun
  exact ⟨m₁, hinv, hrequests, hkeeps, hrun⟩

theorem run_inv (h : Inv m) {es : List Event} (hrun : m.run es = .ok m') : Inv m' ∧ m.requests <+: m'.requests := by
  obtain ⟨m₁, heq, hinv⟩ := run_ok h es
  cases heq.symm.trans hrun
  exact hinv

theorem run_waiting (h : Inv m) (hwaiting : m.Waiting ssrc id) : ∀ {es : List Event},
    .keyFrameReceived ssrc ∉ es → m.run es = .ok m' → .requestTimer id ∈ es → Requested m m' ssrc := by
  intro es
  induction es generalizing m with
  | nil => rintro _ _ ⟨⟩
  | cons e es ih =>
    intro hnot hrun hmem
    obtain ⟨m₁, hinv, hrequests, hkeeps, hrest⟩ := run_cons h hrun
    have hne : e ≠ .keyFrameReceived ssrc := fun heq => hnot (heq ▸ mem_cons_self)
    rcases (hkeeps ssrc).waiting id hwaiting hne with hsent | ⟨hother, hwaiting⟩
    · exact hsent.trans_prefix (run_inv hinv hrest).2
    · have hmem := (mem_cons.mp hmem).resolve_left fun heq => hother heq.symm
      exact (ih hinv hwaiting (fun hin => hnot (mem_cons_of_mem _ hin)) hrest hmem).of_extends hrequests

theorem run_delaying (h : Inv m) (hdelaying : m.Delaying ssrc id) : ∀ {es : List Event},
    .delayTimer id ∉ es → m.run es = .ok m' →
    (.forceKeyFrameNeeded ssrc ∈ es ∧ Requested m m' ssrc) ∨ m'.Delaying ssrc id := by
  intro es
  induction es generalizing m with
  | nil =>
    intro _ hrun
    cases hrun
    exact .inr hdelaying
  | cons e es ih =>
    intro hnot hrun
    obtain ⟨m₁, hinv, hrequests, hkeeps, hrest⟩ := run_cons h hrun
    have hne : e ≠ .delayTimer id := fun heq => hnot (heq ▸ mem_cons_self)
    rcases (hkeeps ssrc).delaying id hdelaying hne with ⟨rfl, hsent⟩ | hdelaying
    · exact .inl ⟨mem_cons_self, hsent.trans_prefix (run_inv hinv hrest).2⟩
    · rcases ih hinv hdelaying (fun hin => hnot (mem_cons_of_mem _ hin)) hrest with ⟨hin, hsent⟩ | hdelaying
      · exact .inl ⟨mem_cons_of_mem _ hin, hsent.of_extends hrequests⟩
      · exact .inr hdelaying

/-! ## The law -/

def Single (m : KeyFrameRequestManager) : Prop :=
  (∀ ssrc id id' info info', m.pending.objects.lookup id = some (ssrc, info) →
    m.pending.objects.lookup id' = some (ssrc, info') → id = id') ∧
  ∀ ssrc id id' delayer delayer', m.delayers.objects.lookup id = some (ssrc, delayer) →
    m.delayers.objects.lookup id' = some (ssrc, delayer') → id = id'

/-- A request for the SSRC is pending, its timer runs, and in every run up to the expiry of this timer a request is sent, unless
the key frame is received in it. -/
def Retried (m : KeyFrameRequestManager) (ssrc : UInt32) : Prop :=
  ∃ id info, m.pending.objects.lookup id = some (ssrc, info) ∧ info.timerActive = true ∧
    ∀ es m', .keyFrameReceived ssrc ∉ es → m.run (es ++ [.requestTimer id]) = .ok m' → Requested m m' ssrc

/-- A delayer for the SSRC exists, its timer runs, and it does not forget the request before its expiry. -/
def Delayed (m : KeyFrameRequestManager) (ssrc : UInt32) : Prop :=
  ∃ id delayer, m.delayers.objects.lookup id = some (ssrc, delayer) ∧ delayer.timerActive = true ∧
    ∀ es m₁, .delayTimer id ∉ es → m.run es = .ok m₁ → (.forceKeyFrameNeeded ssrc ∈ es ∧ Requested m m₁ ssrc) ∨
      ∃ m₂, m₁.step (.delayTimer id) = .ok m₂ ∧ (Emitted m₁ m₂ ssrc ∨ m₂.Retried ssrc)

theorem Waiting.retried (h : Inv m) (hwaiting : m.Waiting ssrc id) : m.Retried ssrc := by
  refine ⟨id, {}, hwaiting.2, rfl, fun es m' hnot hrun => run_waiting h hwaiting ?_ hrun (by simp)⟩
  rw [mem_append, not_or]
  exact ⟨hnot, by simp⟩

theorem Delaying.delayed (h : Inv m) (hdelaying : m.Delaying ssrc id) : m.Delayed ssrc := by
  refine ⟨id, _, hdelaying.2, rfl, fun es m₁ hnot hrun => ?_⟩
  rcases run_delaying h hdelaying hnot hrun with hforced | hdelaying
  · exact .inl hforced
  · obtain ⟨m₂, heq, htouches, hout, -⟩ := delayTimer_spec (run_inv h hrun).1 hdelaying
    refine .inr ⟨m₂, heq, (hout rfl).imp_right fun ⟨id, hwaiting⟩ => hwaiting.retried htouches.inv⟩

theorem inv_init (delay : UInt32) : Inv { keyFrameRequestDelay := delay } :=
  ⟨⟨coherent_empty, by rintro id k a ⟨⟩⟩, ⟨coherent_empty, by rintro id k a ⟨⟩⟩⟩

/-- After any run no assertion has fired and each SSRC has at most one object of each kind; and `KeyFrameNeeded` then sends a
request, relies on a pending one that is retried, or on a delayer that does not forget it. -/
theorem no_request_lost (delay : UInt32) (es : List Event) : ∃ m, run { keyFrameRequestDelay := delay } es = .ok m ∧ m.Single ∧
      ∀ ssrc, ∃ m', m.step (.keyFrameNeeded ssrc) = .ok m' ∧ (Emitted m m' ssrc ∨ m'.Retried ssrc ∨ m'.Delayed ssrc) := by
  obtain ⟨m, hrun, hinv, -⟩ := run_ok (inv_init delay) es
  refine ⟨m, hrun, ⟨fun _ _ _ _ _ => hinv.pending.unique, fun _ _ _ _ _ => hinv.delayers.unique⟩, fun ssrc => ?_⟩
  obtain ⟨m', heq, htouches, hout, -⟩ := keyFrameNeeded_spec hinv ssrc
  refine ⟨m', heq, ?_⟩
  rcases hout with hemitted | ⟨id, hwaiting⟩ | ⟨-, id, hdelaying⟩
  · exact .inl hemitted
  · exact .inr (.inl (hwaiting.retried htouches.inv))
  · exact .inr (.inr (hdelaying.delayed htouches.inv))

end KeyFrameRequestManager

end Mediasoup.KeyFrames
