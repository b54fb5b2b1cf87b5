import Mediasoup.Transport.OutgoingBitrate

/-!
# The distribution of the outgoing bitrate

A call of `IncreaseLayer` keeps a contract (`Use.Lawful`): it uses at most the bitrate it is given, and if it uses any,
the provisional layers of the consumer climb (`Climb`). A climb may lead past the preferred spatial layer, as a layer that has no
stream, or that the consumer may not switch to for now, is passed over without a look at the preferred layer.
-/

namespace Mediasoup.Consumer

open Lib Rtp Transport List

variable {κ : Type}

/-! ## Climbing layers -/

structure Standing where
  spatial : Int
  temporal : Int
  preferredSpatial : Int
  preferredTemporal : Int
  deriving DecidableEq

namespace Standing

/-- The standing does not go beyond the preferred spatial layer, nor on it beyond the preferred temporal layer. -/
def Within (st : Standing) : Prop :=
  st.spatial ≤ st.preferredSpatial ∧ (st.spatial = st.preferredSpatial → st.temporal ≤ st.preferredTemporal)

instance (st : Standing) : Decidable st.Within := inferInstanceAs (Decidable (_ ∧ _))

def pair (st : Standing) : Int ×ₗ Int := toLex (st.spatial, st.temporal)

end Standing

/-- The standing rises to a higher one. It passes the preferred spatial layer only over layers that are not usable, and
does not pass the preferred temporal layer on it. -/
structure Climb (usable : Nat → Bool) (old new : Standing) : Prop where
  rises : old.pair < new.pair
  preferredSpatial : new.preferredSpatial = old.preferredSpatial
  preferredTemporal : new.preferredTemporal = old.preferredTemporal
  spatial : new.preferredSpatial < new.spatial → ∀ layer : Nat, old.spatial ≤ layer → new.preferredSpatial ≤ layer →
    (layer : Int) < new.spatial → usable layer = false
  temporal : 0 ≤ new.preferredTemporal → new.spatial = new.preferredSpatial → old.Within → new.temporal ≤ new.preferredTemporal

/-- Layers and their bitrate as the loop of `IncreaseLayer` finds them. -/
structure Found (usable : Nat → Bool) (st : Standing) (layers : List Nat) (x : Nat × Nat × Nat) : Prop where
  mem : x.1 ∈ layers
  taken : usable x.1 = true
  notBelow : st.spatial ≤ x.1
  /-- on the spatial layer there is, the temporal layer is a new one -/
  higher : (x.1 : Int) = st.spatial → st.temporal < x.2.1
  /-- the temporal layer is the lowest one, or the next one on the spatial layer there is -/
  next : x.2.1 = 0 ∨ ((x.1 : Int) = st.spatial ∧ (x.2.1 : Int) ≤ st.temporal + 1)
  passed : ∀ layer ∈ layers, layer < x.1 → st.spatial ≤ layer → st.preferredSpatial ≤ layer → usable layer = false
  required : x.2.2 ≠ 0

theorem Found.climb {usable : Nat → Bool} {st new : Standing} {n : Nat} {x : Nat × Nat × Nat}
    (h : Found usable st (List.range n) x)
    (hnot : ¬(st.spatial = st.preferredSpatial ∧ st.temporal = st.preferredTemporal))
    (hnew : new = { st with spatial := x.1, temporal := x.2.1 }) : Climb usable st new := by
  subst hnew
  refine ⟨?_, rfl, rfl, ?_, ?_⟩
  · rw [Standing.pair, Standing.pair, Prod.Lex.toLex_lt_toLex]
    rcases h.notBelow.lt_or_eq with hlt | heq
    · exact .inl hlt
    · exact .inr ⟨heq, h.higher heq.symm⟩
  · intro _ layer hold hpreferred hlayer
    have hlayer' : layer < x.1 := Int.ofNat_lt.mp hlayer
    exact h.passed layer (mem_range.mpr (hlayer'.trans (mem_range.mp h.mem))) hlayer' hold hpreferred
  · intro hpos hspatial hwithin
    dsimp only at hpos hspatial ⊢
    rcases h.next with hzero | ⟨hsame, hnext⟩
    · rw [hzero]
      exact hpos
    · have hle := hwithin.2 (hsame.symm.trans hspatial)
      omega

theorem temporal_of_find? {n layer t : Nat} {spatial temporal : Int}
    (h : (List.range n).find? (fun t : Nat => !decide ((layer : Int) = spatial ∧ (t : Int) ≤ temporal)) = some t) :
    ((layer : Int) = spatial → temporal < t) ∧ (t = 0 ∨ ((layer : Int) = spatial ∧ (t : Int) ≤ temporal + 1)) := by
  rw [List.find?_range_eq_some] at h
  obtain ⟨hnew, -, hold⟩ := h
  constructor
  · simp only [Bool.not_eq_true', decide_eq_false_iff_not] at hnew
    omega
  · cases t with
    | zero => exact .inl rfl
    | succ t =>
      have := hold t (Nat.lt_succ_self t)
      simp only [Bool.not_not, decide_eq_true_eq] at this
      exact .inr ⟨this.1, by push_cast; omega⟩

theorem Found.head {usable : Nat → Bool} {st : Standing} {n layer t required : Nat} {rest : List Nat}
    (hsorted : (layer :: rest).Pairwise (· < ·)) (hnot : ¬(layer : Int) < st.spatial)
    (htemporal : (List.range n).find? (fun t : Nat => !decide ((layer : Int) = st.spatial ∧ (t : Int) ≤ st.temporal)) = some t)
    (hrequired : required ≠ 0) (husable : usable layer = true) :
    Found usable st (layer :: rest) (layer, t, required) where
  mem := mem_cons_self
  taken := husable
  notBelow := not_lt.mp hnot
  higher := (temporal_of_find? htemporal).1
  next := (temporal_of_find? htemporal).2
  required := hrequired
  passed k hk hlt := by
    rcases mem_cons.mp hk with rfl | hk
    · exact absurd hlt (lt_irrefl _)
    · exact absurd hlt (rel_of_pairwise_cons hsorted hk).asymm

theorem Found.cons {usable : Nat → Bool} {st : Standing} {layer : Nat} {rest : List Nat} {x : Nat × Nat × Nat}
    (hpass : st.spatial ≤ layer → st.preferredSpatial ≤ layer → usable layer = false) (h : Found usable st rest x) :
    Found usable st (layer :: rest) x where
  mem := mem_cons_of_mem layer h.mem
  taken := h.taken
  notBelow := h.notBelow
  higher := h.higher
  next := h.next
  required := h.required
  passed k hk hlt hold hpreferred := by
    rcases mem_cons.mp hk with rfl | hk
    · exact hpass hold hpreferred
    · exact h.passed k hk hlt hold hpreferred

/-! ## Simulcast consumers -/

namespace SimulcastConsumer

def standing (c : SimulcastConsumer κ) : Standing where
  spatial := c.provisionalTargetSpatialLayer
  temporal := c.provisionalTargetTemporalLayer
  preferredSpatial := c.preferredSpatialLayer
  preferredTemporal := c.preferredTemporalLayer

/-- `IncreaseLayer` does not pass over the layer: it has a stream, which is active long enough, and the consumer may
switch to it. -/
def usable (c : SimulcastConsumer κ) (nowMs layer : Nat) : Bool :=
  match c.stream layer with
  | none => false
  | some s =>
    match c.tooYoung nowMs layer s, c.canSwitchToSpatialLayer layer with
    | .ok false, .ok true => true
    | _, _ => false

/-- The provisional layer and the timestamp reference are layers with a stream, if they are set. -/
def Supplied (c : SimulcastConsumer κ) : Prop :=
  (c.provisionalTargetSpatialLayer ≠ -1 → (c.stream c.provisionalTargetSpatialLayer).isSome) ∧
    (c.tsReferenceSpatialLayer ≠ -1 → (c.stream c.tsReferenceSpatialLayer).isSome)

theorem tooYoung_supplied (c : SimulcastConsumer κ) (nowMs layer : Nat) (s : RtpStreamRecv) :
    Ends (fun _ => True) (fun _ => ¬c.Supplied) (c.tooYoung nowMs layer s) := by
  unfold tooYoung
  split
  · rename_i hyoung
    split
    · rename_i hnone
      intro hsupplied
      have := hsupplied.1 hyoung.2.1
      simp [hnone] at this
    · trivial
  · trivial

variable {s : RtpStreamRecv}

theorem canSwitch_supplied (c : SimulcastConsumer κ) {layer : Nat}
    (hs : c.stream layer = some s) :
    Ends (fun _ => True) (fun _ => ¬c.Supplied) (c.canSwitchToSpatialLayer layer) := by
  unfold canSwitchToSpatialLayer
  rw [hs]
  dsimp only
  split
  · trivial
  rename_i hreference
  split
  · rename_i hnone
    intro hsupplied
    have := hsupplied.2 fun h => hreference (.inl h)
    simp [hnone] at this
  · trivial

theorem requiredBitrate_supplied (c : SimulcastConsumer κ) (rates : Bitrates) (layer temporalLayer : Nat) :
    Ends (fun _ => True) (fun _ => ¬c.Supplied) (c.requiredBitrate rates layer temporalLayer) := by
  simp only [requiredBitrate]
  split
  · split
    · rename_i hnone
      intro hsupplied
      have := hsupplied.1 (by omega)
      simp [hnone] at this
    · trivial
  · trivial

theorem candidate_found (c : SimulcastConsumer κ) (rates : Bitrates) (layer : Nat) (s : RtpStreamRecv) :
    Ends (fun o => ∀ x ∈ o, x.1 = layer ∧ c.nextTemporalLayer layer s = some x.2.1 ∧ x.2.2 ≠ 0) (fun _ => ¬c.Supplied)
      (c.candidate rates layer s) := by
  unfold candidate
  split
  · rintro x ⟨⟩
  rename_i temporalLayer htemporal
  apply Ends.bind (requiredBitrate_supplied c rates layer temporalLayer)
  intro required _ x hx
  split at hx
  · rename_i hrequired
    cases hx
    exact ⟨rfl, htemporal, hrequired⟩
  · cases hx

variable {c : SimulcastConsumer κ} {nowMs layer : Nat}

theorem usable_eq_false (hs : c.stream layer = some s)
    (hyoung : c.tooYoung nowMs layer s ≠ .ok false ∨ c.canSwitchToSpatialLayer layer ≠ .ok true) :
    c.usable nowMs layer = false := by
  rw [usable, hs]
  dsimp only
  split
  · rename_i h₁ h₂
    rcases hyoung with h | h
    · exact absurd h₁ h
    · exact absurd h₂ h
  · rfl

theorem usable_of_ok (hs : c.stream layer = some s)
    (hyoung : c.tooYoung nowMs layer s = .ok false) (hswitch : c.canSwitchToSpatialLayer layer = .ok true) :
    c.usable nowMs layer = true := by
  rw [usable, hs]
  dsimp only
  rw [hyoung, hswitch]

theorem nextLayers_found (c : SimulcastConsumer κ) (nowMs : Nat) (rates : Bitrates) : ∀ {layers : List Nat},
    layers.Pairwise (· < ·) → Ends (fun o => ∀ x ∈ o, Found (c.usable nowMs) c.standing layers x) (fun _ => ¬c.Supplied)
      (c.nextLayers nowMs rates layers)
  | [], _ => by rintro x ⟨⟩
  | layer :: rest, hsorted => by
    have ih := nextLayers_found c nowMs rates hsorted.of_cons
    have hpass (h : (layer : Int) < c.provisionalTargetSpatialLayer ∨ (layer : Int) < c.preferredSpatialLayer ∨
        c.usable nowMs layer = false) : Ends (fun o => ∀ x ∈ o, Found (c.usable nowMs) c.standing (layer :: rest) x)
        (fun _ => ¬c.Supplied) (c.nextLayers nowMs rates rest) := by
      refine ih.imp fun o ho x hx => (ho x hx).cons fun hold hpreferred => ?_
      rcases h with h | h | h
      · exact absurd hold h.not_ge
      · exact absurd hpreferred h.not_ge
      · exact h
    unfold nextLayers
    split
    · rintro x ⟨⟩
    split
    · rename_i hbelow
      exact hpass (.inl hbelow)
    rename_i hnotBelow
    split
    · rename_i hnone
      exact hpass (.inr (.inr (by rw [usable, hnone])))
    rename_i s hs
    have hyoung := tooYoung_supplied c nowMs layer s
    have hswitch := canSwitch_supplied c hs
    have hcandidate := candidate_found c rates layer s
    split
    · rename_i heq
      rwa [heq] at hyoung
    · rename_i heq
      exact hpass (.inr (.inr (usable_eq_false hs (.inl (by rw [heq]; rintro ⟨⟩)))))
    rename_i hold
    split
    · rename_i heq
      rwa [heq] at hswitch
    · rename_i heq
      exact hpass (.inr (.inr (usable_eq_false hs (.inr (by rw [heq]; rintro ⟨⟩)))))
    rename_i hcan
    split
    · rename_i heq
      rwa [heq] at hcandidate
    · rename_i heq
      rw [heq] at hcandidate
      intro x hx
      obtain ⟨rfl, htemporal, hrequired⟩ := hcandidate x hx
      exact Found.head hsorted hnotBelow htemporal hrequired (usable_of_ok hs hold hcan)
    split
    · rintro x ⟨⟩
    · rename_i hpreferred
      exact hpass (.inr (.inl (not_le.mp hpreferred)))

theorem stream_of_usable (h : c.usable nowMs layer = true) : (c.stream layer).isSome := by
  unfold usable at h
  split at h
  · cases h
  · rename_i hs
    rw [hs]
    rfl

theorem increaseLayer_climbs (c : SimulcastConsumer κ) (nowMs : Nat) (rates : Bitrates)
    (bitrate virtualBitrate : Nat) :
    Ends
      (fun r => r = (c, 0) ∨ r.2 ≤ bitrate ∧ Climb (c.usable nowMs) c.standing r.1.standing ∧ ∃ s t : Nat, (c.stream s).isSome ∧
          r.1 = { c with provisionalTargetSpatialLayer := s, provisionalTargetTemporalLayer := t })
      (fun _ => ¬(c.externallyManagedBitrate = true ∧ c.isActive = true ∧ c.Supplied))
      (c.increaseLayer nowMs rates bitrate virtualBitrate) := by
  unfold increaseLayer
  split
  · exact fun h => by simp_all
  split
  · exact fun h => by simp_all
  split
  · exact .inl rfl
  rename_i hpreferred
  have hfound := nextLayers_found c nowMs rates (pairwise_lt_range (n := c.producerRtpStreams.length))
  split
  · rename_i heq
    rw [heq] at hfound
    exact fun h => hfound h.2.2
  · exact .inl rfl
  rename_i s t required heq
  rw [heq] at hfound
  split
  · exact .inl rfl
  · have h := hfound _ rfl
    refine .inr ⟨?_, h.climb hpreferred rfl, s, t, stream_of_usable h.taken, rfl⟩
    split <;> omega

end SimulcastConsumer

/-! ## SVC consumers -/

namespace SvcConsumer

def standing (c : SvcConsumer κ) : Standing where
  spatial := c.provisionalTargetSpatialLayer
  temporal := c.provisionalTargetTemporalLayer
  preferredSpatial := c.preferredSpatialLayer
  preferredTemporal := c.preferredTemporalLayer

theorem candidate_found (c : SvcConsumer κ) (rates : SimulcastConsumer.Bitrates) (layer : Nat) (s : RtpStreamRecv)
    {x : Nat × Nat × Nat} (h : c.candidate rates layer s = some x) :
    x.1 = layer ∧ c.nextTemporalLayer layer s = some x.2.1 ∧ x.2.2 ≠ 0 := by
  obtain ⟨t, htemporal, h⟩ := Option.bind_eq_some_iff.mp h
  dsimp only at h
  split at h
  · rename_i hrequired
    cases h
    exact ⟨rfl, htemporal, hrequired⟩
  · cases h

theorem nextLayers_found (c : SvcConsumer κ) (nowMs : Nat) (rates : SimulcastConsumer.Bitrates) (s : RtpStreamRecv)
    {x : Nat × Nat × Nat} : ∀ {layers : List Nat}, layers.Pairwise (· < ·) →
    c.nextLayers nowMs rates s layers = some x → Found (fun _ => true) c.standing layers x
  | [], _, h => by cases h
  | layer :: rest, hsorted, h => by
    unfold nextLayers at h
    split at h
    · cases h
    split at h
    · rename_i hbelow
      exact (nextLayers_found c nowMs rates s hsorted.of_cons h).cons fun hold _ => absurd hold hbelow.not_ge
    rename_i hnotBelow
    split at h
    · rename_i heq
      cases h
      obtain ⟨rfl, htemporal, hrequired⟩ := candidate_found c rates layer s heq
      exact Found.head hsorted hnotBelow htemporal hrequired rfl
    split at h
    · cases h
    · rename_i hpreferred
      exact (nextLayers_found c nowMs rates s hsorted.of_cons h).cons fun _ h => absurd h hpreferred

theorem increaseLayer_climbs (c : SvcConsumer κ) (nowMs : Nat) (rates : SimulcastConsumer.Bitrates)
    (bitrate virtualBitrate : Nat) :
    Ends
      (fun r => r = (c, 0) ∨ r.2 ≤ bitrate ∧ Climb (fun _ => true) c.standing r.1.standing ∧
        ∃ s t : Nat, r.1 = { c with provisionalTargetSpatialLayer := s, provisionalTargetTemporalLayer := t })
      (fun _ => ¬(c.externallyManagedBitrate = true ∧ c.isActive = true))
      (c.increaseLayerUsed nowMs rates bitrate virtualBitrate) := by
  unfold increaseLayerUsed
  split
  · exact fun h => by simp_all
  split
  · exact fun h => by simp_all
  rename_i hactive
  split
  · rename_i hnone
    simp [isActive, hnone, streamActive] at hactive
  split
  · exact .inl rfl
  split
  · exact .inl rfl
  rename_i stream _ _ hpreferred
  split
  · exact .inl rfl
  rename_i s t required heq
  split
  · exact .inl rfl
  · have h := nextLayers_found c nowMs rates stream pairwise_lt_range heq
    refine .inr ⟨?_, h.climb hpreferred rfl, s, t, rfl⟩
    split <;> omega

end SvcConsumer

/-! ## The contract of `IncreaseLayer` -/

namespace Managed

/-- The bitrate is managed by the transport, and the layers in use have a stream. -/
def Sound : Managed κ → Prop
  | simple c _ _ => c.externallyManagedBitrate = true
  | simulcast c => c.externallyManagedBitrate = true ∧ c.Supplied
  | svc c => c.externallyManagedBitrate = true

def Ready (c : Managed κ) : Prop := c.Sound ∧ c.isVideo = true ∧ c.isActive = true

theorem Sound.managed {c : Managed κ} (h : c.Sound) : c.base.externallyManagedBitrate = true := by
  cases c with
  | simple c video managingBitrate => exact h
  | simulcast c => exact h.1
  | svc c => exact h

theorem ready_of_bitratePriority {c : Managed κ} {priority p : UInt8} (hsound : c.Sound)
    (h : c.bitratePriority priority = .ok p) (hp : p > 0) : c.Ready := by
  rw [bitratePriority, hsound.managed] at h
  cases h
  split at hp
  · rename_i hactive
    exact ⟨hsound, Bool.and_eq_true_iff.mp hactive⟩
  · exact absurd hp (by decide)

/-- What a call that used bitrate has done: a simple consumer has got its share, the layers of another one climb. -/
def Raises (nowMs : Nat) : Managed κ → Managed κ → Prop
  | simple _ _ managing, simple _ _ managing' => managing = false ∧ managing' = true
  | simulcast c, simulcast c' => Climb (c.usable nowMs) c.standing c'.standing
  | svc c, svc c' => Climb (fun _ => true) c.standing c'.standing
  | _, _ => False

end Managed

end Mediasoup.Consumer

namespace Mediasoup.Transport

open Lib Rtp Consumer

variable {κ : Type}

structure Use.Lawful (u : Use κ) : Prop where
  used_le : u.used ≤ u.bitrate
  raises : u.used ≠ 0 → u.before.Raises u.nowMs u.after

end Mediasoup.Transport

namespace Mediasoup.Consumer.Managed

open Lib Transport

variable {κ : Type}

theorem increaseSimple_lawful (c : SimpleConsumer κ) (video managingBitrate : Bool) (r : Readings) (bitrate : Nat) : Ends
      (fun x => Use.Lawful ⟨simple c video managingBitrate, x.1, r.nowMs, bitrate, x.2⟩ ∧
        ((simple c video managingBitrate).Ready → x.1.Ready))
      (fun f => f ≠ .overused ∧ ¬(simple c video managingBitrate).Ready)
      (increaseSimple c video managingBitrate r bitrate) := by
  unfold increaseSimple
  split
  · exact ⟨nofun, fun h => ne_true_of_eq_false (Bool.eq_false_of_not_eq_true' ‹_›) h.1⟩
  split
  · exact ⟨nofun, fun h => ne_true_of_eq_false (Bool.eq_false_of_not_eq_true' ‹_›) h.2.1⟩
  split
  · exact ⟨nofun, fun h => ne_true_of_eq_false (Bool.eq_false_of_not_eq_true' ‹_›) h.2.2⟩
  split
  · exact ⟨⟨Nat.zero_le _, fun h => absurd rfl h⟩, id⟩
  rename_i hmanaging
  refine ⟨⟨?_, fun _ => ⟨by simpa using hmanaging, rfl⟩⟩, id⟩
  dsimp only
  split <;> omega

theorem increaseLayer_lawful (c : Managed κ) (r : Readings) (considerLoss : Bool) (bitrate : Nat) :
    Ends (fun x => Use.Lawful ⟨c, x.1, r.nowMs, bitrate, x.2⟩ ∧ (c.Ready → x.1.Ready))
      (fun f => f ≠ .overused ∧ ¬c.Ready) (c.increaseLayer r considerLoss bitrate) := by
  cases c with
  | simple c video managingBitrate => exact increaseSimple_lawful c video managingBitrate r bitrate
  | simulcast c =>
    have h := c.increaseLayer_climbs r.nowMs r.rates bitrate (r.virtualBitrate considerLoss bitrate)
    simp only [increaseLayer]
    split
    · rename_i heq
      rw [heq] at h
      exact ⟨nofun, fun hready => h ⟨hready.1.1, hready.2.2, hready.1.2⟩⟩
    rename_i c' used heq
    rw [heq] at h
    rcases h with h | ⟨hle, hclimb, s, t, hstream, hc'⟩
    · cases h
      exact ⟨⟨Nat.zero_le _, fun h => absurd rfl h⟩, id⟩
    · subst hc'
      exact ⟨⟨hle, fun _ => hclimb⟩, fun hready => ⟨⟨hready.1.1, fun _ => hstream, hready.1.2.2⟩, hready.2⟩⟩
  | svc c =>
    have h := c.increaseLayer_climbs r.nowMs r.rates bitrate (r.virtualBitrate considerLoss bitrate)
    simp only [increaseLayer]
    split
    · rename_i heq
      rw [heq] at h
      exact ⟨nofun, fun hready => h ⟨hready.1, hready.2.2⟩⟩
    rename_i c' used heq
    rw [heq] at h
    rcases h with h | ⟨hle, hclimb, s, t, hc'⟩
    · cases h
      exact ⟨⟨Nat.zero_le _, fun h => absurd rfl h⟩, id⟩
    · subst hc'
      exact ⟨⟨hle, fun _ => hclimb⟩, id⟩

end Mediasoup.Consumer.Managed

namespace Mediasoup.Transport

open Lib Rtp Consumer List

variable {κ : Type}

/-! ## The loops -/

/-- All of the bitrate is either used by a call or still available, and every call has kept its contract. -/
structure Accounted (total : Nat) (s : Progress κ) : Prop where
  sum : (s.uses.map Use.used).sum + s.available = total
  lawful : ∀ u ∈ s.uses, u.Lawful
  notOverused : s.fault ≠ some .overused

theorem Accounted.fail {total : Nat} {s : Progress κ} (h : Accounted total s) {f : BitrateFault} (hf : f ≠ .overused) :
    Accounted total (s.fail f) where
  sum := h.sum
  lawful := h.lawful
  notOverused := fun heq => hf (Option.some.inj heq)

theorem Accounted.record {total : Nat} {s : Progress κ} (h : Accounted total s) {u : Use κ} (hu : u.Lawful)
    (hbitrate : u.bitrate = s.available) : Accounted total (s.record u) where
  sum := by
    have hsum := h.sum
    have hle := hu.used_le
    simp only [Progress.record, map_append, sum_append, map_cons, map_nil, sum_singleton]
    omega
  lawful v hv := by
    rcases mem_append.mp hv with hv | hv
    · exact h.lawful v hv
    · rw [mem_singleton.mp hv]
      exact hu
  notOverused := h.notOverused

/-- What a loop leaves of the consumers, which are in order before it or not, and of the progress: all is accounted for,
consumers in order are so after it and no fault stops it, and a call that uses no bitrate is made at most `idle` times. -/
structure Distributes (total : Nat) (before after : Prop) (s s' : Progress κ) (idle : Nat) : Prop where
  accounted : Accounted total s'
  ready : before → s.fault = none → after ∧ s'.fault = none
  calls : s'.uses.length + s'.available ≤ s.uses.length + s.available + idle

section Loops

variable (env : Env) {total : Nat}

theorem Accounted.call {c : Managed κ} {s : Progress κ} (h : Accounted total s) : Ends
      (fun x =>
        Accounted total (s.record ⟨c, x.1, (env.readings s.uses.length).nowMs, s.available, x.2⟩) ∧
          x.2 ≤ s.available ∧ (c.Ready → x.1.Ready))
      (fun f => f ≠ .overused ∧ ¬c.Ready) (c.increaseLayer (env.readings s.uses.length) env.considerLoss s.available) :=
  (c.increaseLayer_lawful (env.readings s.uses.length) env.considerLoss s.available).imp fun _ hx =>
    ⟨h.record hx.1 rfl, hx.1.used_le, hx.2⟩

theorem allocate_distributes (bound i : UInt8) (c : Managed κ) (s : Progress κ) (h : Accounted total s) :
    Distributes total c.Ready (allocate env bound i c s).1.Ready s (allocate env bound i c s).2 1 := by
  have hcall := h.call env (c := c)
  fun_induction allocate env bound i c s with
  | case1 i c s _ f heq =>
    rw [heq] at hcall
    exact ⟨h.fail hcall.1, fun hc => absurd hc hcall.2, Nat.le_succ _⟩
  | case2 i c s _ c' used heq s' hover =>
    rw [heq] at hcall
    exact absurd hcall.2.1 (not_le.mpr hover)
  | case3 i c s _ c' heq s' _ =>
    rw [heq] at hcall
    refine ⟨hcall.1, fun hc hs => ⟨hcall.2.2 hc, hs⟩, ?_⟩
    simp only [s', Progress.record, length_append, length_singleton]
    omega
  | case4 i c s _ c' used heq s' _ _ ih =>
    rw [heq] at hcall
    obtain ⟨haccounted, hready, hcalls⟩ := ih hcall.1 (hcall.1.call env)
    refine ⟨haccounted, fun hc hs => hready (hcall.2.2 hc) hs, ?_⟩
    simp only [s', Progress.record, length_append, length_singleton] at hcalls ⊢
    omega
  | case5 i c s _ => exact ⟨h, fun hc hs => ⟨hc, hs⟩, Nat.le_succ _⟩

theorem round_distributes (baseAllocation : Bool) : ∀ (entries : List (Entry κ)) (s : Progress κ), Accounted total s →
    Distributes total (∀ e ∈ entries, e.consumer.Ready) (∀ e ∈ (round env baseAllocation entries s).1, e.consumer.Ready) s
      (round env baseAllocation entries s).2 entries.length
  | [], s, h => ⟨h, fun hr hs => ⟨hr, hs⟩, le_rfl⟩
  | e :: rest, s, h => by
    have hfirst := allocate_distributes env (e.callLimit baseAllocation) 1 e.consumer s h
    have hcalls := hfirst.calls
    rw [round, length_cons]
    split
    · rename_i hfailed
      refine ⟨hfirst.accounted, fun hr hs => absurd (hfirst.ready (hr e mem_cons_self) hs).2 ?_, ?_⟩
      · exact fun hnone => by simp [Progress.failed, hnone] at hfailed
      · dsimp only
        omega
    have hrest := round_distributes baseAllocation rest _ hfirst.accounted
    have hcalls' := hrest.calls
    refine ⟨hrest.accounted, fun hr hs => ?_, ?_⟩
    · obtain ⟨hconsumer, hnone⟩ := hfirst.ready (hr e mem_cons_self) hs
      obtain ⟨hrest, hnone⟩ := hrest.ready (fun e he => hr e (mem_cons_of_mem _ he)) hnone
      exact ⟨forall_mem_cons.mpr ⟨hconsumer, hrest⟩, hnone⟩
    · dsimp only
      omega

theorem round_length (baseAllocation : Bool) : ∀ (entries : List (Entry κ)) (s : Progress κ),
    (round env baseAllocation entries s).1.length = entries.length
  | [], s => rfl
  | e :: rest, s => by
    rw [round]
    split
    · rfl
    · exact congrArg (· + 1) (round_length baseAllocation rest _)

theorem rounds_distributes (baseAllocation : Bool) (entries : List (Entry κ)) (s : Progress κ) (h : Accounted total s) :
    Distributes total (∀ e ∈ entries, e.consumer.Ready) (∀ e ∈ (rounds env baseAllocation entries s).1, e.consumer.Ready) s
      (rounds env baseAllocation entries s).2 (entries.length * (s.available + 1)) := by
  have hround := round_distributes env baseAllocation entries s h
  have hle : entries.length ≤ entries.length * (s.available + 1) := Nat.le_mul_of_pos_right _ s.available.succ_pos
  fun_induction rounds env baseAllocation entries s with
  | case1 => exact ⟨hround.accounted, hround.ready, hround.calls.trans (Nat.add_le_add_left hle _)⟩
  | case2 => exact ⟨hround.accounted, hround.ready, hround.calls.trans (Nat.add_le_add_left hle _)⟩
  | case3 baseAllocation entries s _ r _ hne ih =>
    have ih := ih hround.accounted (round_distributes env false _ _ hround.accounted)
      (Nat.le_mul_of_pos_right _ (Nat.succ_pos _))
    refine ⟨ih.accounted, fun hr hs => ih.ready (hround.ready hr hs).1 (hround.ready hr hs).2, ?_⟩
    have hcalls := ih.calls
    rw [show r.1.length = entries.length from round_length env baseAllocation entries s] at hcalls
    have hlt : r.2.available + 1 ≤ s.available :=
      lt_of_le_of_ne (round_available_le env baseAllocation entries s) hne
    calc _ ≤ r.2.uses.length + r.2.available + entries.length * (r.2.available + 1) := hcalls
      _ ≤ s.uses.length + s.available + entries.length + entries.length * s.available :=
        Nat.add_le_add hround.calls (Nat.mul_le_mul_left _ hlt)
      _ = s.uses.length + s.available + entries.length * (s.available + 1) := by ring
  | case4 => exact ⟨h, fun hr hs => ⟨hr, hs⟩, Nat.le_add_right _ _⟩

end Loops

/-! ## The distribution -/

theorem applyLayers_ends (nowMs : Nat) (c : Managed κ) :
    Ends (fun _ => True) (fun f => f ≠ .overused ∧ ¬c.Ready) (c.applyLayers nowMs) := by
  cases c with
  | simple c video managingBitrate =>
    simp only [Managed.applyLayers]
    split
    · exact ⟨nofun, fun h => ne_true_of_eq_false (Bool.eq_false_of_not_eq_true' ‹_›) h.1⟩
    split
    · exact ⟨nofun, fun h => ne_true_of_eq_false (Bool.eq_false_of_not_eq_true' ‹_›) h.2.1⟩
    split
    · exact ⟨nofun, fun h => ne_true_of_eq_false (Bool.eq_false_of_not_eq_true' ‹_›) h.2.2⟩
    · trivial
  | simulcast c =>
    simp only [Managed.applyLayers]
    split
    · rename_i f heq
      refine ⟨nofun, fun h => ?_⟩
      simp only [SimulcastConsumer.applyLayers, show c.externallyManagedBitrate = true from h.1.1,
        show c.isActive = true from h.2.2, Bool.not_true, Bool.false_eq_true, if_false] at heq
      split at heq <;> cases heq
    · trivial
  | svc c =>
    simp only [Managed.applyLayers]
    split
    · rename_i f heq
      refine ⟨nofun, fun h => ?_⟩
      simp only [SvcConsumer.applyLayers, show c.externallyManagedBitrate = true from h.1,
        show c.isActive = true from h.2.2, Bool.not_true, Bool.false_eq_true, if_false] at heq
      split at heq <;> cases heq
    · trivial

theorem applyAll_ends (nowMs : Nat) : ∀ entries : List (Entry κ),
    Ends (fun _ => True) (fun f => f ≠ .overused ∧ ¬∀ e ∈ entries, e.consumer.Ready) (applyAll nowMs entries)
  | [] => trivial
  | e :: rest => by
    rw [applyAll, mapM_cons]
    apply Ends.bind (P := fun _ => True)
    · apply Ends.bind (P := fun _ => True)
      · exact (applyLayers_ends nowMs e.consumer).faults fun f hf =>
          ⟨hf.1, fun h => hf.2 (h e mem_cons_self)⟩
      · exact fun _ _ => trivial
    · intro _ _
      apply Ends.bind (P := fun _ => True)
      · exact (applyAll_ends nowMs rest).faults fun f hf =>
          ⟨hf.1, fun h => hf.2 fun e he => h e (mem_cons_of_mem _ he)⟩
      · exact fun _ _ => trivial

theorem mem_emplace {entries : List (Entry κ)} {e x : Entry κ} (h : x ∈ emplace entries e) : x ∈ entries ∨ x = e := by
  rcases mem_append.mp h with h | h
  · exact .inl ((takeWhile_sublist _).subset h)
  · rcases mem_cons.mp h with rfl | h
    · exact .inr rfl
    · exact .inl ((dropWhile_suffix _).subset h)

theorem length_emplace (entries : List (Entry κ)) (e : Entry κ) : (emplace entries e).length = entries.length + 1 := by
  have h := congrArg List.length (entries.takeWhile_append_dropWhile (p := (·.priority ≤ e.priority)))
  rw [length_append] at h
  rw [emplace, length_append, length_cons, ← add_assoc, h]

theorem priorityConsumers_ends : ∀ (consumers : List (UInt8 × Managed κ)) (entries : List (Entry κ)), Ends
      (fun out => out.length ≤ entries.length + consumers.length ∧
        ((∀ x ∈ consumers, x.2.Sound) → (∀ e ∈ entries, e.consumer.Ready) → ∀ e ∈ out, e.consumer.Ready))
      (fun f => f ≠ .overused ∧ ¬∀ x ∈ consumers, x.2.Sound) (priorityConsumers consumers entries)
  | [], entries => ⟨le_rfl, fun _ h => h⟩
  | (priority, c) :: rest, entries => by
    rw [priorityConsumers]
    split
    · rename_i f heq
      rw [Managed.bitratePriority] at heq
      split at heq
      · rename_i hext
        cases heq
        refine ⟨nofun, fun h => ?_⟩
        simp [(h (priority, c) mem_cons_self).managed] at hext
      · cases heq
    rename_i priority' heq
    refine ((priorityConsumers_ends rest _).imp ?_).faults fun f hf =>
      ⟨hf.1, fun h => hf.2 fun x hx => h x (mem_cons_of_mem _ hx)⟩
    rintro out ⟨hlength, hready⟩
    split at hlength
    · rename_i hpositive
      rw [if_pos hpositive] at hready
      rw [length_emplace] at hlength
      refine ⟨by rw [length_cons]; omega, fun hsound hentries => hready (fun x hx =>
        hsound x (mem_cons_of_mem _ hx)) fun e he => ?_⟩
      rcases mem_emplace he with he | rfl
      · exact hentries e he
      · exact Managed.ready_of_bitratePriority (hsound _ mem_cons_self) heq hpositive
    · rename_i hzero
      rw [if_neg hzero] at hready
      exact ⟨by rw [length_cons]; omega, fun hsound => hready fun x hx => hsound x (mem_cons_of_mem _ hx)⟩

/-- The distribution ends, its assertion holds, it hands out no more than there is, and every call keeps its contract. -/
theorem distribute_accounted (env : Env) (available : Nat) (consumers : List (UInt8 × Managed κ)) :
    let s := (distributeAvailableOutgoingBitrate env available consumers).2
    s.fault ≠ some .overused ∧ (s.uses.map Use.used).sum + s.available = available ∧
      s.uses.length ≤ available + consumers.length * (available + 1) ∧ (∀ u ∈ s.uses, u.Lawful) ∧
      ((∀ x ∈ consumers, x.2.Sound) → s.fault = none) := by
  intro s
  have hstart : Accounted available ({ available := available } : Progress κ) :=
    ⟨by simp, by simp, nofun⟩
  have hmap := priorityConsumers_ends consumers []
  simp only [s, distributeAvailableOutgoingBitrate]
  split
  · rename_i f heq
    rw [heq] at hmap
    have h := hstart.fail hmap.1
    exact ⟨h.notOverused, h.sum, Nat.zero_le _, h.lawful, fun hsound => absurd hsound hmap.2⟩
  rename_i entries heq
  rw [heq] at hmap
  obtain ⟨hlength, hready⟩ := hmap
  obtain ⟨h, hrounds, hcalls⟩ := rounds_distributes env true entries.reverse _ hstart
  have hsound (hsound : ∀ x ∈ consumers, x.2.Sound) :=
    hrounds (fun e he => hready hsound (by simp) e (mem_reverse.mp he)) rfl
  generalize rounds env true entries.reverse { available := available } = r at h hcalls hsound ⊢
  have hcalls' : r.2.uses.length ≤ available + consumers.length * (available + 1) := by
    rw [length_nil, Nat.zero_add] at hlength
    have := Nat.mul_le_mul_right (available + 1) hlength
    simp only [length_reverse, length_nil, Nat.zero_add] at hcalls
    omega
  split
  · exact ⟨h.notOverused, h.sum, hcalls', h.lawful, fun h' => (hsound h').2⟩
  have happly := applyAll_ends env.nowMs r.1
  split
  · rename_i f heq
    rw [heq] at happly
    have h' := h.fail happly.1
    exact ⟨h'.notOverused, h'.sum, hcalls', h'.lawful, fun h => absurd (hsound h).1 happly.2⟩
  · exact ⟨h.notOverused, h.sum, hcalls', h.lawful, fun h' => (hsound h').2⟩

def upperLayerOnly : SimulcastConsumer Unit :=
  { SimulcastConsumer.create false [96] [1, 2] (some (0, none))
      { params := { ssrc := 3, payloadType := 96, clockRate := 90000, spatialLayers := 2 } } () with
    externallyManagedBitrate := true
    transportConnected := true
    producerRtpStreams :=
      [none, some { RtpStreamRecv.create { ssrc := 2, payloadType := 96, clockRate := 90000 } 0 with score := 10 }] }

theorem upperLayer_raised : let env : Env :=
      { readings := fun _ => ⟨0, ⟨fun _ _ => 100, fun _ _ => 100⟩, 0, id⟩, considerLoss := false, nowMs := 0 }
    let s := (distributeAvailableOutgoingBitrate env 1000 [(1, .simulcast upperLayerOnly)]).2
    s.fault = none ∧ s.uses.map (fun u => (u.used, match u.before, u.after with
        | .simulcast c, .simulcast c' => decide (c.standing.Within ∧ ¬c'.standing.Within)
        | _, _ => false)) = [(100, true), (0, false)] := by
  decide +kernel

end Mediasoup.Transport
