import Mathlib.Tactic.SplitIfs
import Mediasoup.Ortc.Ortc

/-!
# Scalability modes in three places

The text of a scalability mode is parsed by Node (`parseScalabilityMode`), by Rust, with a table of known modes in front of its
regular expression, and by the worker, whose regular expression has to match the whole text. They agree on every text that Node
accepts (`agree_iff`), but for "L2T1_KEY", which `ScalabilityMode::ksvc` has forgotten, and for texts with a line break, which
`.*` of the worker does not match.
-/

namespace Mediasoup.Ortc

/-! ## Rust -/

inductive RustScalabilityMode
  | none
  | l1t2 | l1t2h | l1t3 | l1t3h
  | l2t1 | l2t1h | l2t1Key | l2t2 | l2t2h | l2t2Key | l2t2KeyShift | l2t3 | l2t3h | l2t3Key | l2t3KeyShift
  | l3t1 | l3t1h | l3t1Key | l3t2 | l3t2h | l3t2Key | l3t2KeyShift | l3t3 | l3t3h | l3t3Key | l3t3KeyShift
  | s2t1 | s2t1h | s2t2 | s2t2h | s2t3 | s2t3h
  | s3t1 | s3t1h | s3t2 | s3t2h | s3t3 | s3t3h
  | custom (scalabilityMode : String) (spatialLayers temporalLayers : Nat) (ksvc : Bool)
  deriving DecidableEq

/-- `^[LS]`, and what is read in the text after that. -/
def readMode (read : List Char → Option ScalabilityMode) (text : String) : Option ScalabilityMode :=
  match text.toList with
  | 'L' :: cs => read cs
  | 'S' :: cs => read cs
  | _ => .none

/-- What the regular expression of Node, and that of Rust, reads in a text. -/
def scalabilityModeRegex : String → Option ScalabilityMode := readMode parseLayersMode

namespace RustScalabilityMode

def known : List (String × RustScalabilityMode) :=
  [("S1T1", none), ("L1T2", l1t2), ("L1T2h", l1t2h), ("L1T3", l1t3), ("L1T3h", l1t3h),
   ("L2T1", l2t1), ("L2T1h", l2t1h), ("L2T1_KEY", l2t1Key),
   ("L2T2", l2t2), ("L2T2h", l2t2h), ("L2T2_KEY", l2t2Key), ("L2T2_KEY_SHIFT", l2t2KeyShift),
   ("L2T3", l2t3), ("L2T3h", l2t3h), ("L2T3_KEY", l2t3Key), ("L2T3_KEY_SHIFT", l2t3KeyShift),
   ("L3T1", l3t1), ("L3T1h", l3t1h), ("L3T1_KEY", l3t1Key),
   ("L3T2", l3t2), ("L3T2h", l3t2h), ("L3T2_KEY", l3t2Key), ("L3T2_KEY_SHIFT", l3t2KeyShift),
   ("L3T3", l3t3), ("L3T3h", l3t3h), ("L3T3_KEY", l3t3Key), ("L3T3_KEY_SHIFT", l3t3KeyShift),
   ("S2T1", s2t1), ("S2T1h", s2t1h), ("S2T2", s2t2), ("S2T2h", s2t2h), ("S2T3", s2t3), ("S2T3h", s2t3h),
   ("S3T1", s3t1), ("S3T1h", s3t1h), ("S3T2", s3t2), ("S3T2h", s3t2h), ("S3T3", s3t3), ("S3T3h", s3t3h)]

def fromStr (text : String) : Option RustScalabilityMode :=
  match known.find? fun e => e.1 = text with
  | some e => e.2
  | .none => (scalabilityModeRegex text).map fun m => custom text m.spatialLayers m.temporalLayers m.ksvc

def spatialLayers : RustScalabilityMode → Nat
  | none | l1t2 | l1t2h | l1t3 | l1t3h => 1
  | l2t1 | l2t1h | l2t1Key | l2t2 | l2t2h | l2t2Key | l2t2KeyShift | l2t3 | l2t3h | l2t3Key | l2t3KeyShift
  | s2t1 | s2t1h | s2t2 | s2t2h | s2t3 | s2t3h => 2
  | l3t1 | l3t1h | l3t1Key | l3t2 | l3t2h | l3t2Key | l3t2KeyShift | l3t3 | l3t3h | l3t3Key | l3t3KeyShift
  | s3t1 | s3t1h | s3t2 | s3t2h | s3t3 | s3t3h => 3
  | custom _ spatialLayers _ _ => spatialLayers

def temporalLayers : RustScalabilityMode → Nat
  | none | l2t1 | l2t1h | l2t1Key | l3t1 | l3t1h | l3t1Key | s2t1 | s2t1h | s3t1 | s3t1h => 1
  | l1t2 | l1t2h | l2t2 | l2t2h | l2t2Key | l2t2KeyShift | l3t2 | l3t2h | l3t2Key | l3t2KeyShift
  | s2t2 | s2t2h | s3t2 | s3t2h => 2
  | l1t3 | l1t3h | l2t3 | l2t3h | l2t3Key | l2t3KeyShift | l3t3 | l3t3h | l3t3Key | l3t3KeyShift
  | s2t3 | s2t3h | s3t3 | s3t3h => 3
  | custom _ _ temporalLayers _ => temporalLayers

def ksvc : RustScalabilityMode → Bool
  | l2t2Key | l2t2KeyShift | l2t3Key | l2t3KeyShift | l3t1Key | l3t2Key | l3t2KeyShift | l3t3Key | l3t3KeyShift => true
  | custom _ _ _ ksvc => ksvc
  | _ => false

def asStr : RustScalabilityMode → String
  | none => "S1T1"
  | l1t2 => "L1T2" | l1t2h => "L1T2h" | l1t3 => "L1T3" | l1t3h => "L1T3h"
  | l2t1 => "L2T1" | l2t1h => "L2T1h" | l2t1Key => "L2T1_KEY"
  | l2t2 => "L2T2" | l2t2h => "L2T2h" | l2t2Key => "L2T2_KEY" | l2t2KeyShift => "L2T2_KEY_SHIFT"
  | l2t3 => "L2T3" | l2t3h => "L2T3h" | l2t3Key => "L2T3_KEY" | l2t3KeyShift => "L2T3_KEY_SHIFT"
  | l3t1 => "L3T1" | l3t1h => "L3T1h" | l3t1Key => "L3T1_KEY"
  | l3t2 => "L3T2" | l3t2h => "L3T2h" | l3t2Key => "L3T2_KEY" | l3t2KeyShift => "L3T2_KEY_SHIFT"
  | l3t3 => "L3T3" | l3t3h => "L3T3h" | l3t3Key => "L3T3_KEY" | l3t3KeyShift => "L3T3_KEY_SHIFT"
  | s2t1 => "S2T1" | s2t1h => "S2T1h" | s2t2 => "S2T2" | s2t2h => "S2T2h" | s2t3 => "S2T3" | s2t3h => "S2T3h"
  | s3t1 => "S3T1" | s3t1h => "S3T1h" | s3t2 => "S3T2" | s3t2h => "S3T2h" | s3t3 => "S3T3" | s3t3h => "S3T3h"
  | custom scalabilityMode _ _ _ => scalabilityMode

def layers (mode : RustScalabilityMode) : ScalabilityMode := ⟨mode.spatialLayers, mode.temporalLayers, mode.ksvc⟩

end RustScalabilityMode

/-! ## The worker -/

/-- A character that `.` of the worker does not match. -/
def isLineBreak (c : Char) : Bool := c = '\n' || c = '\r'

/-- The text after `L` or `S` in `^[LS]([1-9]\d{0,1})T([1-9]\d{0,1})(_KEY)?.*`, to the end. -/
def workerLayersMode (cs : List Char) : Option ScalabilityMode := do
  let (spatialLayers, cs) ← parseLayers cs
  match cs with
  | 'T' :: cs =>
    let (temporalLayers, cs) ← parseLayers cs
    if cs.any isLineBreak then none
    else return { spatialLayers := spatialLayers, temporalLayers := temporalLayers, ksvc := "_KEY".toList.isPrefixOf cs }
  | _ => none

def workerScalabilityMode (text : String) : ScalabilityMode :=
  (readMode workerLayersMode text).getD { spatialLayers := 1, temporalLayers := 1, ksvc := false }

/-! ## Where they agree -/

theorem any_of_parseLayers {cs rest : List Char} {n : Nat} (h : parseLayers cs = some (n, rest)) :
    cs.any isLineBreak = rest.any isLineBreak := by
  have hdigit : ∀ c : Char, c.isDigit = true → isLineBreak c = false := by
    intro c hc
    rw [isLineBreak, Bool.or_eq_false_iff, decide_eq_false_iff_not, decide_eq_false_iff_not]
    constructor <;> rintro rfl <;> cases hc
  match cs, h with
  | c :: d :: cs, h =>
    rw [parseLayers] at h
    split_ifs at h with hc hd
    · cases h
      simp [hdigit c hc.1, hdigit d hd]
    · cases h
      simp [hdigit c hc.1]
  | [c], h =>
    rw [parseLayers] at h
    split_ifs at h with hc
    cases h
    simp [hdigit c hc.1]

theorem workerLayersMode_eq {cs : List Char} {m : ScalabilityMode} (h : parseLayersMode cs = some m) :
    workerLayersMode cs = if cs.any isLineBreak then none else some m := by
  unfold parseLayersMode at h
  unfold workerLayersMode
  cases hspatial : parseLayers cs with
  | none =>
    rw [hspatial] at h
    cases h
  | some spatial =>
    rw [hspatial] at h
    rw [any_of_parseLayers hspatial]
    obtain ⟨spatialLayers, rest⟩ := spatial
    simp only [Option.bind_eq_bind, Option.bind_some] at h ⊢
    split at h
    · rename_i rest
      cases htemporal : parseLayers rest with
      | none =>
        rw [htemporal] at h
        cases h
      | some temporal =>
        rw [htemporal] at h
        cases h
        rw [List.any_cons, any_of_parseLayers htemporal]
        have hT : isLineBreak 'T' = false := by decide
        simp only [htemporal, hT, Option.bind_some, Bool.false_or]
        rfl
    · cases h

theorem known_spec : ∀ e ∈ RustScalabilityMode.known, e.2.asStr = e.1 ∧
    (e.1 ≠ "L2T1_KEY" → scalabilityModeRegex e.1 = some e.2.layers) := by decide +kernel

theorem exists_of_readMode {read : List Char → Option ScalabilityMode} {text : String} {m : ScalabilityMode}
    (h : readMode read text = some m) :
    ∃ c cs, text.toList = c :: cs ∧ isLineBreak c = false ∧ read cs = some m ∧ ∀ other, readMode other text = other cs := by
  unfold readMode at h ⊢
  split at h
  · rename_i cs htext
    exact ⟨'L', cs, htext, rfl, h, fun other => rfl⟩
  · rename_i cs htext
    exact ⟨'S', cs, htext, rfl, h, fun other => rfl⟩
  · cases h

theorem workerScalabilityMode_eq {text : String} {m : ScalabilityMode} (h : scalabilityModeRegex text = some m) :
    workerScalabilityMode text = if text.toList.any isLineBreak then ⟨1, 1, false⟩ else m := by
  obtain ⟨c, cs, htext, hc, hread, hother⟩ := exists_of_readMode h
  rw [workerScalabilityMode, hother, workerLayersMode_eq hread, htext, List.any_cons, hc, Bool.false_or]
  split <;> rfl

theorem of_find_known {text : String} {e : String × RustScalabilityMode}
    (h : (RustScalabilityMode.known.find? fun e => e.1 = text) = some e) : e.1 = text ∧ e.2.asStr = e.1 ∧
      (e.1 ≠ "L2T1_KEY" → scalabilityModeRegex e.1 = some e.2.layers) :=
  ⟨by simpa using List.find?_some h, known_spec e (List.mem_of_find?_eq_some h)⟩

theorem asStr_fromStr {text : String} {mode : RustScalabilityMode} (h : RustScalabilityMode.fromStr text = some mode) :
    mode.asStr = text := by
  unfold RustScalabilityMode.fromStr at h
  split at h
  · rename_i e hfind
    cases h
    obtain ⟨htext, hstr, -⟩ := of_find_known hfind
    rw [hstr, htext]
  · obtain ⟨m, -, rfl⟩ := Option.map_eq_some_iff.mp h
    rfl

theorem fromStr_layers {text : String} {m : ScalabilityMode} (h : scalabilityModeRegex text = some m)
    (hne : text ≠ "L2T1_KEY") : ∃ mode, RustScalabilityMode.fromStr text = some mode ∧ mode.layers = m := by
  unfold RustScalabilityMode.fromStr
  split
  · rename_i e hfind
    obtain ⟨htext, -, hlayers⟩ := of_find_known hfind
    subst htext
    rw [hlayers hne] at h
    exact ⟨e.2, rfl, Option.some.inj h⟩
  · rw [h]
    exact ⟨_, rfl, rfl⟩

theorem fromStr_l2t1Key : RustScalabilityMode.fromStr "L2T1_KEY" = some .l2t1Key := by decide +kernel

theorem regex_l2t1Key : scalabilityModeRegex "L2T1_KEY" = some ⟨2, 1, true⟩ := by decide +kernel

/-- The worker and Rust read in the text what Node does. -/
def Agree (text : String) : Prop :=
  workerScalabilityMode text = parseScalabilityMode (some text) ∧
    ∃ mode, RustScalabilityMode.fromStr text = some mode ∧ mode.layers = parseScalabilityMode (some text)

/-- **The three parsers agree** on a text that Node accepts, if and only if it is not "L2T1_KEY" and has no line break, unless
Node reads the defaults in it. -/
theorem agree_iff (text : String) : (∀ mode, RustScalabilityMode.fromStr text = some mode → mode.asStr = text) ∧
    ∀ m, scalabilityModeRegex text = some m →
      (Agree text ↔ text ≠ "L2T1_KEY" ∧ (text.toList.any isLineBreak = false ∨ m = ⟨1, 1, false⟩)) := by
  refine ⟨fun mode => asStr_fromStr, fun m h => ?_⟩
  have hnode : parseScalabilityMode (some text) = (scalabilityModeRegex text).getD ⟨1, 1, false⟩ := rfl
  rw [h, Option.getD_some] at hnode
  rw [Agree, hnode, workerScalabilityMode_eq h]
  constructor
  · rintro ⟨hworker, mode, hmode, hlayers⟩
    refine ⟨?_, ?_⟩
    · rintro rfl
      rw [fromStr_l2t1Key] at hmode
      cases hmode
      rw [← hlayers, regex_l2t1Key] at h
      cases h
    · split_ifs at hworker with hany
      · exact .inr hworker.symm
      · exact .inl (eq_false_of_ne_true hany)
  · rintro ⟨hne, hbreak⟩
    refine ⟨?_, fromStr_layers h hne⟩
    split_ifs with hany
    · exact (hbreak.resolve_left (by rw [hany]; decide)).symm
    · rfl

theorem agree_key : Agree "L3T2_KEY" := ((agree_iff "L3T2_KEY").2 ⟨3, 2, true⟩ (by decide +kernel)).mpr (by decide +kernel)

theorem l2t1Key_disagree : ¬ Agree "L2T1_KEY" := by
  rintro ⟨-, mode, hmode, hlayers⟩
  rw [fromStr_l2t1Key] at hmode
  cases hmode
  exact absurd hlayers (by decide +kernel)

end Mediasoup.Ortc
