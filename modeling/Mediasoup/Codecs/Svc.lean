import Mediasoup.Codecs.Handler

/-!
# Layer switching of the SVC codecs

The handlers of VP9 and H264_SVC choose the layers of a consumer in the same way: from the layers of the packet and the
current and target layers of the context they compute the layers to switch to (`switchSpatialLayer`,
`switchTemporalLayer`), drop the packet if it is above them, and store them otherwise.
-/

namespace Mediasoup.Codecs

structure LayerFrame where
  spatialLayer : Nat
  temporalLayer : Nat
  isKeyFrame : Bool
  e : Bool
  deriving DecidableEq

structure TmpLayers where
  spatial : Int
  temporal : Int
  deriving DecidableEq

namespace EncodingContext

variable {κ : Type} (context : EncodingContext κ)

def currentLayers : TmpLayers :=
  { spatial := context.currentSpatialLayer, temporal := context.currentTemporalLayer }

variable (f : LayerFrame)

def tooHighLayers : Bool :=
  decide (f.spatialLayer ≥ context.spatialLayers) || decide (f.temporalLayer ≥ context.temporalLayers)

def switchSpatialLayer : TmpLayers :=
  if context.targetSpatialLayer > context.currentSpatialLayer then
    if f.isKeyFrame then { spatial := context.targetSpatialLayer, temporal := 0 } else context.currentLayers
  else if context.targetSpatialLayer < context.currentSpatialLayer then
    -- in K-SVC the downgrade waits for a key frame, in full SVC for the end of a frame of the target layer
    if context.ksvc then
      if f.isKeyFrame then { spatial := context.targetSpatialLayer, temporal := 0 } else context.currentLayers
    else if (f.spatialLayer : Int) = context.targetSpatialLayer ∧ f.e then
      { spatial := context.targetSpatialLayer, temporal := 0 }
    else context.currentLayers
  else context.currentLayers

/-- The packet may be one to upgrade at. The comparisons are with the current layer of the context, also when the spatial
layer has just been switched. -/
def switchTemporalLayer (upgradePoint : Bool) (tmpTemporalLayer : Int) : Int :=
  if context.targetTemporalLayer > context.currentTemporalLayer then
    if (f.temporalLayer : Int) ≥ context.currentTemporalLayer + 1 ∧ upgradePoint then f.temporalLayer
    else tmpTemporalLayer
  else if context.targetTemporalLayer < context.currentTemporalLayer then
    if (f.temporalLayer : Int) = context.targetTemporalLayer ∧ f.e then context.targetTemporalLayer
    else tmpTemporalLayer
  else tmpTemporalLayer

def setCurrentLayers (layers : TmpLayers) : EncodingContext κ :=
  { context with currentSpatialLayer := layers.spatial, currentTemporalLayer := layers.temporal }

structure WithinTargets : Prop where
  spatial : context.currentSpatialLayer ≤ context.targetSpatialLayer
  temporal : context.currentTemporalLayer ≤ context.targetTemporalLayer

instance : Decidable context.WithinTargets :=
  decidable_of_iff (_ ≤ _ ∧ _ ≤ _) ⟨fun h => ⟨h.1, h.2⟩, fun h => ⟨h.spatial, h.temporal⟩⟩

/-- A packet above the target temporal layer at which the current layer, still below the target, is upgraded. -/
def Overshoots (upgradePoint : Bool) : Prop :=
  context.currentTemporalLayer < context.targetTemporalLayer ∧
    context.targetTemporalLayer < (f.temporalLayer : Int) ∧ upgradePoint = true

instance (f : LayerFrame) (upgradePoint : Bool) : Decidable (context.Overshoots f upgradePoint) := by
  unfold Overshoots
  infer_instance

variable {context}

theorem switchSpatialLayer_cases (h : context.WithinTargets) (f : LayerFrame) :
    context.switchSpatialLayer f = context.currentLayers ∨
      f.isKeyFrame = true ∧ context.switchSpatialLayer f = { spatial := context.targetSpatialLayer, temporal := 0 } := by
  unfold switchSpatialLayer
  by_cases hup : context.targetSpatialLayer > context.currentSpatialLayer
  · rw [if_pos hup]
    by_cases hkey : f.isKeyFrame = true
    · rw [if_pos hkey]
      exact Or.inr ⟨hkey, rfl⟩
    · rw [if_neg hkey]
      exact Or.inl rfl
  -- within the targets nothing is ever downgraded
  have hdown : ¬ context.targetSpatialLayer < context.currentSpatialLayer := not_lt.mpr h.spatial
  rw [if_neg hup, if_neg hdown]
  exact Or.inl rfl

theorem switchSpatialLayer_le (h : context.WithinTargets) (ht : 0 ≤ context.targetTemporalLayer) (f : LayerFrame) :
    (context.switchSpatialLayer f).spatial ≤ context.targetSpatialLayer ∧
      (context.switchSpatialLayer f).temporal ≤ context.targetTemporalLayer := by
  rcases switchSpatialLayer_cases h f with heq | ⟨_, heq⟩ <;> rw [heq]
  · exact ⟨h.spatial, h.temporal⟩
  · exact ⟨le_rfl, ht⟩

theorem switchSpatialLayer_raises (h : context.WithinTargets) {f : LayerFrame}
    (hlt : context.currentSpatialLayer < (context.switchSpatialLayer f).spatial) : f.isKeyFrame = true := by
  rcases switchSpatialLayer_cases h f with heq | ⟨hkey, _⟩
  · rw [heq] at hlt
    exact absurd hlt (lt_irrefl _)
  · exact hkey

theorem switchTemporalLayer_le (h : context.WithinTargets) {f : LayerFrame} {upgradePoint : Bool} {tmp : Int}
    (htmp : tmp ≤ context.targetTemporalLayer) (hover : ¬ context.Overshoots f upgradePoint) :
    context.switchTemporalLayer f upgradePoint tmp ≤ context.targetTemporalLayer := by
  unfold switchTemporalLayer
  by_cases hup : context.targetTemporalLayer > context.currentTemporalLayer
  · rw [if_pos hup]
    by_cases hpoint : (f.temporalLayer : Int) ≥ context.currentTemporalLayer + 1 ∧ upgradePoint = true
    · rw [if_pos hpoint]
      by_contra hgt
      exact hover ⟨hup, not_le.mp hgt, hpoint.2⟩
    · rw [if_neg hpoint]
      exact htmp
  · have hdown : ¬ context.targetTemporalLayer < context.currentTemporalLayer := not_lt.mpr h.temporal
    rw [if_neg hup, if_neg hdown]
    exact htmp

end EncodingContext

end Mediasoup.Codecs
