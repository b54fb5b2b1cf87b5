import Mediasoup.Codecs.H264SVC
import Mediasoup.Codecs.VP9
import Mediasoup.Lib.Run

/-!
# The layers that an SVC consumer is sent

While the targets of a context stay, its current layers should never get above them, and no packet above them should be sent. But
a temporal upgrade goes to the layer of the packet and not to the target, so a packet above the target that allows an upgrade
takes the current layer past it (`upgrade_past_target`). That is the only way: `layersKept_of_not_overshoots`, for every run of
packets of either codec.
-/

namespace Mediasoup.Codecs

open Lib EncodingContext

variable {κ : Type}

/-- What handling a packet keeps: the targets, that the current layers are within them and so is what is sent (unless it is
old), and that the spatial layer rises at key frames only. -/
structure LayersKept (context : EncodingContext κ) (f : LayerFrame) (old : Bool) (r : Processed κ) : Prop where
  targetSpatial : r.context.targetSpatialLayer = context.targetSpatialLayer
  targetTemporal : r.context.targetTemporalLayer = context.targetTemporalLayer
  within : r.context.WithinTargets
  sent : r.passed = true → old = false →
    (f.spatialLayer : Int) ≤ context.targetSpatialLayer ∧ (f.temporalLayer : Int) ≤ context.targetTemporalLayer
  raised : context.currentSpatialLayer < r.context.currentSpatialLayer → f.isKeyFrame = true

namespace LayersKept

variable {context : EncodingContext κ} {f : LayerFrame} {old : Bool}

theorem of_dropped {r : Processed κ} (h : context.WithinTargets) (hpassed : r.passed = false)
    (hs : r.context.targetSpatialLayer = context.targetSpatialLayer)
    (ht : r.context.targetTemporalLayer = context.targetTemporalLayer)
    (hcur : r.context.currentLayers = context.currentLayers) : LayersKept context f old r := by
  have hspatial : r.context.currentSpatialLayer = context.currentSpatialLayer := congrArg TmpLayers.spatial hcur
  have htemporal : r.context.currentTemporalLayer = context.currentTemporalLayer := congrArg TmpLayers.temporal hcur
  refine ⟨hs, ht, ⟨?_, ?_⟩, ?_, ?_⟩
  · rw [hspatial, hs]
    exact h.spatial
  · rw [htemporal, ht]
    exact h.temporal
  · intro hp
    simp [hpassed] at hp
  · intro hlt
    rw [hspatial] at hlt
    exact absurd hlt (lt_irrefl _)

theorem of_passed {r : Processed κ} {layers : TmpLayers}
    (hs : r.context.targetSpatialLayer = context.targetSpatialLayer)
    (ht : r.context.targetTemporalLayer = context.targetTemporalLayer) (hcur : r.context.currentLayers = layers)
    (hspatial : layers.spatial ≤ context.targetSpatialLayer)
    (htemporal : layers.temporal ≤ context.targetTemporalLayer)
    (hsent : old = false → (f.spatialLayer : Int) ≤ layers.spatial ∧ (f.temporalLayer : Int) ≤ layers.temporal)
    (hraised : context.currentSpatialLayer < layers.spatial → f.isKeyFrame = true) : LayersKept context f old r := by
  subst hcur
  refine ⟨hs, ht, ⟨?_, ?_⟩, ?_, hraised⟩
  · rw [hs]
    exact hspatial
  · rw [ht]
    exact htemporal
  · intro _ hold
    obtain ⟨h1, h2⟩ := hsent hold
    exact ⟨h1.trans hspatial, h2.trans htemporal⟩

end LayersKept

/-! ## VP9 -/

namespace VP9

def handle (r : Processed State) (a : Shapes × PayloadDescriptor) : Except CodecFault (Processed State) :=
  process a.1 r.context a.2 r.payload

variable (context : Context)

def old (d : PayloadDescriptor) : Bool := isOldPacket (sync context d) d

@[simp] theorem sync_targetSpatialLayer (d : PayloadDescriptor) :
    (sync context d).targetSpatialLayer = context.targetSpatialLayer := by
  unfold sync; split <;> rfl

@[simp] theorem sync_targetTemporalLayer (d : PayloadDescriptor) :
    (sync context d).targetTemporalLayer = context.targetTemporalLayer := by
  unfold sync; split <;> rfl

@[simp] theorem sync_currentSpatialLayer (d : PayloadDescriptor) :
    (sync context d).currentSpatialLayer = context.currentSpatialLayer := by
  unfold sync; split <;> rfl

@[simp] theorem sync_currentTemporalLayer (d : PayloadDescriptor) :
    (sync context d).currentTemporalLayer = context.currentTemporalLayer := by
  unfold sync; split <;> rfl

@[simp] theorem upgradePoint_sync (d : PayloadDescriptor) :
    upgradePoint (sync context d) d = upgradePoint context d := by
  simp only [upgradePoint, sync_currentTemporalLayer]

theorem inputPictureId_targets (sh : Shapes) (context : Context) (d : PayloadDescriptor) :
    (inputPictureId sh context d).targetSpatialLayer = context.targetSpatialLayer ∧
      (inputPictureId sh context d).targetTemporalLayer = context.targetTemporalLayer := by
  unfold inputPictureId; split <;> exact ⟨rfl, rfl⟩

theorem layersKept_pass {sh : Shapes} {context : Context} {d : PayloadDescriptor} {layers : TmpLayers} {old : Bool}
    {payload : List UInt8} (hspatial : layers.spatial ≤ context.targetSpatialLayer)
    (htemporal : layers.temporal ≤ context.targetTemporalLayer)
    (hsent : old = false → (d.spatialLayer : Int) ≤ layers.spatial ∧ (d.temporalLayer : Int) ≤ layers.temporal)
    (hraised : context.currentSpatialLayer < layers.spatial → d.isKeyFrame = true) :
    LayersKept context d.frame old (pass sh context d layers payload) :=
  .of_passed (inputPictureId_targets sh context d).1 (inputPictureId_targets sh context d).2 rfl hspatial htemporal
    hsent hraised

theorem layersKept_select (sh : Shapes) {context : Context} {d : PayloadDescriptor} (payload : List UInt8)
    (h : context.WithinTargets) (ht : 0 ≤ context.targetTemporalLayer)
    (hover : isOldPacket context d = false → ¬ context.Overshoots d.frame (upgradePoint context d)) :
    LayersKept context d.frame (isOldPacket context d) (select sh context d payload) := by
  obtain ⟨hspatial, htemporal⟩ := switchSpatialLayer_le h ht d.frame
  have hraised := switchSpatialLayer_raises h (f := d.frame)
  unfold select
  by_cases hold : isOldPacket context d = true
  · rw [if_pos hold]
    exact layersKept_pass hspatial htemporal (fun hfalse => by rw [hold] at hfalse; cases hfalse) hraised
  have hnew := Bool.eq_false_of_not_eq_true hold
  rw [if_neg hold]
  by_cases hfilter : spatialLayerFiltered context d (context.switchSpatialLayer d.frame).spatial = true
  · rw [if_pos hfilter]
    exact .of_dropped h rfl rfl rfl rfl
  rw [if_neg hfilter]
  dsimp only
  split
  next => exact .of_dropped h rfl rfl rfl rfl
  next hle =>
    refine layersKept_pass hspatial ?_ (fun _ => ⟨?_, not_lt.mp hle⟩) hraised
    · exact switchTemporalLayer_le h htemporal (hover hnew)
    · simp only [spatialLayerFiltered, Bool.or_eq_true, not_or, decide_eq_true_eq, not_lt] at hfilter
      exact hfilter.1

theorem layersKept_handle {r r' : Processed State} {a : Shapes × PayloadDescriptor} (h : r.context.WithinTargets)
    (hover : old r.context a.2 = false → ¬ r.context.Overshoots a.2.frame (upgradePoint r.context a.2))
    (hstep : handle r a = .ok r') : LayersKept r.context a.2.frame (old r.context a.2) r' := by
  unfold handle process at hstep
  split at hstep
  · cases hstep
  split at hstep
  · cases hstep
  rename_i ht
  split at hstep
  · cases hstep
    exact .of_dropped h rfl rfl rfl rfl
  cases hstep
  -- the synchronisation of the picture ids changes no layer
  have hsync : (sync r.context a.2).WithinTargets := ⟨by simpa using h.spatial, by simpa using h.temporal⟩
  have hkept := layersKept_select a.1 r.payload hsync (by simpa using ht) (d := a.2)
    (by simpa [EncodingContext.Overshoots, old] using hover)
  exact ⟨by simpa using hkept.targetSpatial, by simpa using hkept.targetTemporal, hkept.within,
    by simpa [old] using hkept.sent, by simpa using hkept.raised⟩

end VP9

/-! ## H264_SVC -/

namespace H264SVC

def handle (r : Processed Unit) (d : PayloadDescriptor) : Except CodecFault (Processed Unit) :=
  process r.context d r.payload

theorem layersKept_select {context : Context} {d : PayloadDescriptor} {payload : List UInt8}
    (h : context.WithinTargets) (ht : 0 ≤ context.targetTemporalLayer) (hover : ¬ context.Overshoots d.frame d.s) :
    LayersKept context d.frame false (select context d payload) := by
  obtain ⟨hspatial, htemporal⟩ := switchSpatialLayer_le h ht d.frame
  have hraised := switchSpatialLayer_raises h (f := d.frame)
  unfold select
  dsimp only
  split
  next => exact .of_dropped h rfl rfl rfl rfl
  next hfilter =>
    split
    next => exact .of_dropped h rfl rfl rfl rfl
    next hle =>
      refine .of_passed rfl rfl rfl hspatial ?_ (fun _ => ⟨not_lt.mp hfilter, not_lt.mp hle⟩) hraised
      exact switchTemporalLayer_le h htemporal hover

theorem layersKept_handle {r r' : Processed Unit} {d : PayloadDescriptor} (h : r.context.WithinTargets)
    (hover : ¬ r.context.Overshoots d.frame d.s) (hstep : handle r d = .ok r') :
    LayersKept r.context d.frame false r' := by
  unfold handle process at hstep
  split at hstep
  · cases hstep
  split at hstep
  · cases hstep
  rename_i ht
  split at hstep
  · cases hstep
    exact .of_dropped h rfl rfl rfl rfl
  · cases hstep
    exact layersKept_select h (not_lt.mp ht) hover

end H264SVC

/-! ## Runs -/

/-- Every packet of every run keeps the layers, if none that is not old and allows an upgrade is above a target that the
current layer is still below. -/
theorem layersKept_of_not_overshoots (r : Processed VP9.State) (packets : List (Shapes × VP9.PayloadDescriptor))
    (s : Processed Unit) (frames : List H264SVC.PayloadDescriptor) :
    (r.context.WithinTargets → Along VP9.handle (fun r a => VP9.old r.context a.2 = false →
        ¬ r.context.Overshoots a.2.frame (VP9.upgradePoint r.context a.2)) r packets →
      EachStep VP9.handle (fun r a r' => LayersKept r.context a.2.frame (VP9.old r.context a.2) r') r packets) ∧
    (s.context.WithinTargets → Along H264SVC.handle (fun r d => ¬ r.context.Overshoots d.frame d.s) s frames →
      EachStep H264SVC.handle (fun r d r' => LayersKept r.context d.frame false r') s frames) := by
  constructor
  · refine eachStep_of_along (I := fun r => r.context.WithinTargets) ?_ packets r
    intro s a s' hs hover hstep
    have hkept := VP9.layersKept_handle hs hover hstep
    exact ⟨hkept, hkept.within⟩
  · refine eachStep_of_along (I := fun r => r.context.WithinTargets) ?_ frames s
    intro s d s' hs hover hstep
    have hkept := H264SVC.layersKept_handle hs hover hstep
    exact ⟨hkept, hkept.within⟩

def vp9Arrival (payload : List UInt8) : Shapes × VP9.PayloadDescriptor :=
  (⟨.spine, .spine, .spine⟩, (VP9.parse payload).getD {})

def svcContext (state : κ) (current : Int) : Processed κ :=
  { passed := true
    context :=
      { spatialLayers := 2, temporalLayers := 3, targetSpatialLayer := 1, targetTemporalLayer := 1,
        currentSpatialLayer := current, currentTemporalLayer := current, state := state }
    payload := [] }

theorem layersKept_upgrade : ((([[0xac, 1, 0x10, 0], [0xec, 2, 0x32, 0], [0xe4, 3, 0x50, 0]].map vp9Arrival).foldlM VP9.handle
      (svcContext {} (-1))).toOption.map fun r => (r.passed, r.context.currentLayers)) =
        some (false, { spatial := 1, temporal := 1 }) ∧
    EachStep VP9.handle (fun r a r' => LayersKept r.context a.2.frame (VP9.old r.context a.2) r') (svcContext {} (-1))
      ([[0xac, 1, 0x10, 0], [0xec, 2, 0x32, 0], [0xe4, 3, 0x50, 0]].map vp9Arrival) ∧
    EachStep H264SVC.handle (fun r d r' => LayersKept r.context d.frame false r') (svcContext () 0)
      [{ s := true, tlIndex := 1, hasTlIndex := true }] := by
  have hkept := layersKept_of_not_overshoots (svcContext {} (-1))
    ([[0xac, 1, 0x10, 0], [0xec, 2, 0x32, 0], [0xe4, 3, 0x50, 0]].map vp9Arrival) (svcContext () 0)
    [{ s := true, tlIndex := 1, hasTlIndex := true }]
  exact ⟨by decide +kernel, hkept.1 (by decide) (by decide +kernel), hkept.2 (by decide) (by decide +kernel)⟩

theorem upgrade_past_target :
    (¬ EachStep VP9.handle (fun r a r' => LayersKept r.context a.2.frame (VP9.old r.context a.2) r') (svcContext {} 0)
      [vp9Arrival [0xec, 1, 0x50, 0]]) ∧
    (¬ EachStep H264SVC.handle (fun r d r' => LayersKept r.context d.frame false r') (svcContext () 0)
      [{ s := true, tlIndex := 2, hasTlIndex := true }]) := by
  constructor
  · intro h
    have hkept := ((eachStep_cons_ok rfl).mp h).1
    exact absurd hkept.within.temporal (by decide +kernel)
  · intro h
    have hkept := ((eachStep_cons_ok rfl).mp h).1
    exact absurd hkept.within.temporal (by decide +kernel)

end Mediasoup.Codecs
