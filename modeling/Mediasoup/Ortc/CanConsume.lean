import Mediasoup.Ortc.PayloadTypes

/-!
# `canConsume` and `getConsumerRtpParameters`

Both functions take the consumable codecs that a capability of the remote matches. `canConsume` looks at the first;
`getConsumerRtpParameters` removes useless RTX codecs before. An RTX codec is useless if every codec that it names stands behind
it and is useless too (`Dangling`). They disagree whenever the remote supports RTX and a codec of the producer, but not the first
one (`secondCodec_refused`).
-/

namespace Mediasoup.Ortc

open Lib List

def NamedBy (c d : RtpCodecParameters) : Prop := ParamValue.num d.payloadType = c.parameters.get "apt"

instance (c d : RtpCodecParameters) : Decidable (NamedBy c d) := inferInstanceAs (Decidable (_ = _))

/-- The RTX codec in a position names no codec but dangling ones behind it. -/
inductive Dangling (codecs : List RtpCodecParameters) : Nat → Prop
  | mk {j : Nat} {c : RtpCodecParameters} (hget : codecs[j]? = some c) (hrtx : isRtxCodec c.any = true)
      (hbehind : ∀ i d, codecs[i]? = some d → NamedBy c d → j < i)
      (hdangling : ∀ i d, codecs[i]? = some d → NamedBy c d → Dangling codecs i) : Dangling codecs j

/-- Dangling RTX codecs stand in front of a media codec. -/
def StartsDangling (codecs : List RtpCodecParameters) : Prop :=
  ∃ j m, 0 < j ∧ codecs[j]? = some m ∧ isRtxCodec m.any = false ∧ ∀ i < j, Dangling codecs i

theorem dangling_iff {codecs : List RtpCodecParameters} {j : Nat} {c : RtpCodecParameters} (hget : codecs[j]? = some c) :
    Dangling codecs j ↔ isRtxCodec c.any = true ∧ ∀ i d, codecs[i]? = some d → NamedBy c d → j < i ∧ Dangling codecs i := by
  constructor
  · rintro ⟨hget', hrtx, hbehind, hdangling⟩
    rw [hget] at hget'
    cases hget'
    exact ⟨hrtx, fun i d hd hnamed => ⟨hbehind i d hd hnamed, hdangling i d hd hnamed⟩⟩
  · rintro ⟨hrtx, hnamed⟩
    exact ⟨hget, hrtx, fun i d hd h => (hnamed i d hd h).1, fun i d hd h => (hnamed i d hd h).2⟩

/-! ## The loop -/

/-- The codecs that the loop has kept of those from the position `j` on. -/
structure Kept (codecs : List RtpCodecParameters) (j : Nat) (after : List RtpCodecParameters) : Prop where
  named : ∀ c, (∃ d ∈ after, NamedBy c d) ↔ ∃ i d, j ≤ i ∧ codecs[i]? = some d ∧ NamedBy c d ∧ ¬ Dangling codecs i
  media : hasMediaCodec after = true ↔
    ∃ k m, j ≤ k ∧ codecs[k]? = some m ∧ isRtxCodec m.any = false ∧ ∀ i, j ≤ i → i < k → Dangling codecs i

namespace Kept

variable {codecs after : List RtpCodecParameters} {j : Nat} {c : RtpCodecParameters}

theorem nil (hlen : codecs.length ≤ j) : Kept codecs j [] where
  named c := by
    constructor
    · rintro ⟨d, hd, -⟩
      cases hd
    · rintro ⟨i, d, hi, hd, -⟩
      simp [List.getElem?_eq_none (Nat.le_trans hlen hi)] at hd
  media := by
    constructor
    · intro h
      cases h
    · rintro ⟨k, m, hk, hm, -⟩
      simp [List.getElem?_eq_none (Nat.le_trans hlen hk)] at hm

theorem keep (h : Kept codecs (j + 1) after) (hget : codecs[j]? = some c) (hc : ¬ Dangling codecs j) :
    Kept codecs j (c :: after) where
  named b := by
    constructor
    · rintro ⟨d, hd, hnamed⟩
      rcases mem_cons.mp hd with rfl | hd
      · exact ⟨j, d, Nat.le_refl j, hget, hnamed, hc⟩
      · obtain ⟨i, d, hi, hrest⟩ := (h.named b).mp ⟨d, hd, hnamed⟩
        exact ⟨i, d, Nat.le_of_succ_le hi, hrest⟩
    · rintro ⟨i, d, hi, hd, hnamed, hnot⟩
      rcases Nat.eq_or_lt_of_le hi with rfl | hi
      · rw [hget] at hd
        cases hd
        exact ⟨c, mem_cons_self, hnamed⟩
      · obtain ⟨d, hd, hnamed⟩ := (h.named b).mpr ⟨i, d, hi, hd, hnamed, hnot⟩
        exact ⟨d, mem_cons_of_mem _ hd, hnamed⟩
  media := by
    rw [hasMediaCodec, Bool.not_eq_true']
    constructor
    · intro hmedia
      exact ⟨j, c, Nat.le_refl j, hget, hmedia, fun i hj hi => absurd hi (Nat.not_lt.mpr hj)⟩
    · rintro ⟨k, m, hk, hm, hmedia, hfront⟩
      rcases Nat.eq_or_lt_of_le hk with rfl | hk
      · rw [hget] at hm
        cases hm
        exact hmedia
      · exact absurd (hfront j (Nat.le_refl j) hk) hc

theorem remove (h : Kept codecs (j + 1) after) (hget : codecs[j]? = some c) (hc : Dangling codecs j) : Kept codecs j after where
  named b := by
    rw [h.named b]
    constructor
    · rintro ⟨i, d, hi, hrest⟩
      exact ⟨i, d, Nat.le_of_succ_le hi, hrest⟩
    · rintro ⟨i, d, hi, hd, hnamed, hnot⟩
      rcases Nat.eq_or_lt_of_le hi with rfl | hi
      · exact absurd hc hnot
      · exact ⟨i, d, hi, hd, hnamed, hnot⟩
  media := by
    rw [h.media]
    constructor
    · rintro ⟨k, m, hk, hm, hmedia, hfront⟩
      refine ⟨k, m, Nat.le_of_succ_le hk, hm, hmedia, fun i hj hi => ?_⟩
      rcases Nat.eq_or_lt_of_le hj with rfl | hj
      · exact hc
      · exact hfront i hj hi
    · rintro ⟨k, m, hk, hm, hmedia, hfront⟩
      rcases Nat.eq_or_lt_of_le hk with rfl | hk
      · rw [hget] at hm
        cases hm
        simp [((dangling_iff hget).mp hc).1] at hmedia
      · exact ⟨k, m, hk, hm, hmedia, fun i hj hi => hfront i (Nat.le_of_succ_le hj) hi⟩

theorem dangling_iff_unnamed {front rest : List RtpCodecParameters} (hcodecs : codecs = front ++ c :: rest)
    (h : Kept codecs (front.length + 1) after) (hrtx : isRtxCodec c.any = true) :
    Dangling codecs front.length ↔ ¬ ∃ d ∈ front ++ c :: after, NamedBy c d := by
  have hget : codecs[front.length]? = some c := by simp [hcodecs]
  rw [dangling_iff hget, and_iff_right hrtx]
  constructor
  · rintro hdangling ⟨d, hd, hnamed⟩
    rcases mem_append.mp hd with hd | hd
    · obtain ⟨i, hi⟩ := mem_iff_getElem?.mp hd
      have hlt := (List.getElem?_eq_some_iff.mp hi).1
      have hin : codecs[i]? = some d := by rw [hcodecs, List.getElem?_append_left hlt, hi]
      exact absurd (hdangling i d hin hnamed).1 (Nat.lt_asymm hlt)
    rcases mem_cons.mp hd with rfl | hd
    · exact absurd (hdangling _ d hget hnamed).1 (Nat.lt_irrefl _)
    · obtain ⟨i, d', -, hin, hnamed', hnot⟩ := (h.named c).mp ⟨d, hd, hnamed⟩
      exact hnot (hdangling i d' hin hnamed').2
  · intro hnone i d hin hnamed
    rcases Nat.lt_trichotomy i front.length with hlt | rfl | hgt
    · rw [hcodecs, List.getElem?_append_left hlt] at hin
      exact absurd ⟨d, mem_append_left _ (mem_of_getElem? hin), hnamed⟩ hnone
    · rw [hget] at hin
      cases hin
      exact absurd ⟨c, mem_append_right _ mem_cons_self, hnamed⟩ hnone
    · refine ⟨hgt, Classical.byContradiction fun hnot => ?_⟩
      obtain ⟨d', hd', hnamed'⟩ := (h.named c).mpr ⟨i, d, hgt, hin, hnamed, hnot⟩
      exact hnone ⟨d', mem_append_right _ (mem_cons_of_mem _ hd'), hnamed'⟩

theorem removeUselessRtx {codecs : List RtpCodecParameters} : ∀ {before after rest : List RtpCodecParameters} {s : Bool},
    codecs = before.reverse ++ rest → Kept codecs before.length after → Kept codecs 0 (removeUselessRtx before after s).1
  | [], _, _, _, _, h => h
  | c :: before, after, rest, s, hcodecs, h => by
    have hcodecs' : codecs = before.reverse ++ c :: rest := by
      rw [hcodecs, reverse_cons, append_assoc, singleton_append]
    have hget : codecs[before.length]? = some c := by simp [hcodecs']
    rw [Ortc.removeUselessRtx]
    split
    case isTrue hrtx =>
      have hkept : Kept codecs (before.reverse.length + 1) after := by rwa [length_reverse]
      have hdangling := dangling_iff_unnamed hcodecs' hkept hrtx
      rw [length_reverse] at hdangling
      split
      case isTrue hfound =>
        refine removeUselessRtx hcodecs' (h.keep hget fun hc => hdangling.mp hc ?_)
        obtain ⟨d, hd, hnamed⟩ := any_eq_true.mp hfound
        exact ⟨d, hd, of_decide_eq_true hnamed⟩
      case isFalse hfound =>
        refine removeUselessRtx hcodecs' (h.remove hget (hdangling.mpr ?_))
        rintro ⟨d, hd, hnamed⟩
        exact hfound (any_eq_true.mpr ⟨d, hd, decide_eq_true hnamed⟩)
    case isFalse hmedia =>
      exact removeUselessRtx hcodecs' (h.keep hget fun hc => hmedia ((dangling_iff hget).mp hc).1)

end Kept

/-- **The loop** leaves a media codec in front, if dangling codecs only stand in front of a media codec. -/
theorem hasMediaCodec_removeUselessRtx (codecs : List RtpCodecParameters) :
    hasMediaCodec (removeUselessRtx codecs.reverse [] false).1 = true ↔
      ∃ j m, codecs[j]? = some m ∧ isRtxCodec m.any = false ∧ ∀ i < j, Dangling codecs i := by
  have hstart : Kept codecs codecs.reverse.length [] := .nil (Nat.le_of_eq length_reverse.symm)
  have hcodecs : codecs = codecs.reverse.reverse ++ [] := by rw [reverse_reverse, append_nil]
  have hend : Kept codecs 0 (removeUselessRtx codecs.reverse [] false).1 := .removeUselessRtx hcodecs hstart
  rw [hend.media]
  constructor
  · rintro ⟨j, m, -, hm, hmedia, hfront⟩
    exact ⟨j, m, hm, hmedia, fun i hi => hfront i (Nat.zero_le i) hi⟩
  · rintro ⟨j, m, hm, hmedia, hfront⟩
    exact ⟨j, m, Nat.zero_le j, hm, hmedia, fun i _ hi => hfront i hi⟩

theorem hasMediaCodec_iff (codecs : List RtpCodecParameters) :
    hasMediaCodec codecs = true ↔ ∃ m, codecs[0]? = some m ∧ isRtxCodec m.any = false := by
  cases codecs with
  | nil => simp [hasMediaCodec]
  | cons c codecs => simp [hasMediaCodec]

theorem hasMediaCodec_iff_left (codecs : List RtpCodecParameters) :
    (hasMediaCodec codecs = true ↔ hasMediaCodec (removeUselessRtx codecs.reverse [] false).1 = true) ↔
      ¬ StartsDangling codecs := by
  rw [hasMediaCodec_removeUselessRtx, hasMediaCodec_iff]
  constructor
  · rintro hiff ⟨j, m, hj, hm, hmedia, hfront⟩
    obtain ⟨m₀, hm₀, hmedia₀⟩ := hiff.mpr ⟨j, m, hm, hmedia, hfront⟩
    have hrtx := ((dangling_iff hm₀).mp (hfront 0 hj)).1
    simp [hmedia₀] at hrtx
  · intro hnot
    constructor
    · rintro ⟨m, hm, hmedia⟩
      exact ⟨0, m, hm, hmedia, fun i hi => absurd hi (Nat.not_lt_zero i)⟩
    · rintro ⟨j, m, hm, hmedia, hfront⟩
      rcases Nat.eq_zero_or_pos j with rfl | hj
      · exact ⟨m, hm, hmedia⟩
      · exact absurd ⟨j, m, hj, hm, hmedia, hfront⟩ hnot

/-! ## Codecs with other feedback -/

theorem removeUselessRtx_map_core : ∀ (before after : List RtpCodecParameters) (s : Bool),
    (removeUselessRtx (before.map core) (after.map core) s).1 = (removeUselessRtx before after s).1.map core
  | [], after, s => rfl
  | c :: before, after, s => by
    have hsearch : ((before.map core).reverse ++ core c :: after.map core).any
        (fun d => ParamValue.num d.payloadType = (core c).parameters.get "apt") =
        (before.reverse ++ c :: after).any fun d => ParamValue.num d.payloadType = c.parameters.get "apt" := by
      rw [← map_reverse, ← map_cons, ← map_append, any_map]
      rfl
    have hrtx : isRtxCodec (core c).any = isRtxCodec c.any := rfl
    rw [map_cons, removeUselessRtx, removeUselessRtx, hsearch, hrtx, ← map_cons]
    split
    · split
      · exact removeUselessRtx_map_core before (c :: after) true
      · exact removeUselessRtx_map_core before after s
    · exact removeUselessRtx_map_core before (c :: after) s

theorem hasMediaCodec_map_core (codecs : List RtpCodecParameters) : hasMediaCodec (codecs.map core) = hasMediaCodec codecs := by
  cases codecs with
  | nil => rfl
  | cons c codecs => rfl

def matchedCodecs (h264 : H264) (capCodecs : List RtpCodecCapability) (codecs : List RtpCodecParameters) :
    List RtpCodecParameters :=
  codecs.filter fun codec => (searchRemoteCodec h264 capCodecs codec).isSome

theorem consumerCodecs_map_core (h264 : H264) (capCodecs : List RtpCodecCapability) : ∀ codecs : List RtpCodecParameters,
    (consumerCodecs h264 capCodecs true codecs).map core = (matchedCodecs h264 capCodecs codecs).map core
  | [] => rfl
  | c :: codecs => by
    have ih := consumerCodecs_map_core h264 capCodecs codecs
    rw [consumerCodecs] at ih ⊢
    rw [matchedCodecs] at ih ⊢
    rw [filterMap_cons, filter_cons, if_neg (by simp)]
    cases searchRemoteCodec h264 capCodecs c with
    | none => exact ih
    | some capCodec =>
      rw [Option.map_some, Option.isSome_some, if_pos rfl]
      rw [map_cons, map_cons, ih]
      rfl

/-! ## Validation -/

theorem mapM_idem {α ε : Type} {f : α → Except ε α} (hf : ∀ a b, f a = .ok b → f b = .ok b) :
    ∀ {l l' : List α}, l.mapM f = .ok l' → l'.mapM f = .ok l'
  | [], _, h => by
    cases h
    rfl
  | a :: l, _, h => by
    rw [mapM_cons] at h
    obtain ⟨b, hb, h⟩ := exists_of_bind_eq_ok h
    obtain ⟨bs, hbs, h⟩ := exists_of_bind_eq_ok h
    cases h
    rw [mapM_cons, hf a b hb, mapM_idem hf hbs]
    rfl

theorem validateParameter_idem (e e' : String × ParamValue) (h : validateParameter e = .ok e') :
    validateParameter e' = .ok e' := by
  obtain ⟨key, value⟩ := e
  cases value with
  | undefined =>
    by_cases hkey : key = "apt"
    · simp [validateParameter, hkey] at h
    · rw [validateParameter, if_neg hkey] at h
      cases h
      rw [validateParameter, if_neg hkey]
  | num n =>
    cases h
    rfl
  | str s =>
    by_cases hkey : key = "apt"
    · simp [validateParameter, hkey] at h
    · rw [validateParameter, if_neg hkey] at h
      cases h
      rw [validateParameter, if_neg hkey]
  | other text => cases h

theorem validateRtcpFeedback_idem (fb fb' : RtcpFeedback) (h : validateRtcpFeedback fb = .ok fb') :
    validateRtcpFeedback fb' = .ok fb' := by
  unfold validateRtcpFeedback at h ⊢
  split at h
  · cases h
  case isFalse htype =>
    cases h
    rw [if_neg htype]
    rfl

theorem validateRtpCodecCapability_idem (c c' : RtpCodecCapability) (h : validateRtpCodecCapability c = .ok c') :
    validateRtpCodecCapability c' = .ok c' := by
  unfold validateRtpCodecCapability at h
  split at h
  case isTrue => cases h
  case isFalse hmime =>
    split at h
    case h_1 => cases h
    case h_2 kind hkind =>
      obtain ⟨parameters, hparameters, h⟩ := exists_of_bind_eq_ok h
      obtain ⟨rtcpFeedback, hfeedback, h⟩ := exists_of_bind_eq_ok h
      cases h
      have hchannels : validateChannels (validateChannels c.channels kind) kind = validateChannels c.channels kind := by
        cases kind <;> rfl
      have hagain := mapM_idem validateParameter_idem hparameters
      have hagain' := mapM_idem validateRtcpFeedback_idem hfeedback
      unfold validateRtpCodecCapability
      rw [if_neg hmime]
      simp only [hkind, hchannels, Option.getD_some, hagain, hagain']
      rfl

theorem codecs_of_validate {remote caps : RtpCapabilities} (h : validateRtpCapabilities remote = .ok caps) :
    ∃ capCodecs exts, caps = { codecs := some capCodecs, headerExtensions := some exts } ∧
      capCodecs.mapM validateRtpCodecCapability = .ok capCodecs := by
  obtain ⟨capCodecs, hcodecs, h⟩ := exists_of_bind_eq_ok h
  obtain ⟨exts, -, h⟩ := exists_of_bind_eq_ok h
  cases h
  exact ⟨capCodecs, exts, rfl, mapM_idem validateRtpCodecCapability_idem hcodecs⟩

/-! ## The two functions -/

section Consume

variable {h264 : H264} {consumable : RtpParameters} {remote caps : RtpCapabilities}

theorem canConsume_eq (h : validateRtpCapabilities remote = .ok caps) :
    canConsume h264 consumable remote = .ok (hasMediaCodec (matchedCodecs h264 (caps.codecs.getD []) consumable.codecs)) := by
  obtain ⟨capCodecs, exts, rfl, -⟩ := codecs_of_validate h
  unfold canConsume
  rw [h]
  rfl

theorem getConsumerRtpParameters_ok_iff {draws : Nat → Int} (h : validateRtpCapabilities remote = .ok caps) :
    ((∃ consumer, getConsumerRtpParameters h264 consumable caps false true draws = .ok consumer) ↔
      hasMediaCodec (removeUselessRtx (matchedCodecs h264 (caps.codecs.getD []) consumable.codecs).reverse [] false).1 = true) ∧
    ∀ e, getConsumerRtpParameters h264 consumable caps false true draws = .error e →
      e = .unsupportedError "no compatible media codecs" := by
  obtain ⟨capCodecs, exts, rfl, hvalid⟩ := codecs_of_validate h
  have hleft : hasMediaCodec (removeUselessRtx (matchedCodecs h264 capCodecs consumable.codecs).reverse [] false).1 =
      hasMediaCodec (removeUselessRtx (consumerCodecs h264 capCodecs true consumable.codecs).reverse [] false).1 := by
    rw [← hasMediaCodec_map_core, ← removeUselessRtx_map_core, map_reverse, ← consumerCodecs_map_core,
      ← map_reverse, removeUselessRtx_map_core, hasMediaCodec_map_core]
  have hexts : ∃ capExts, remoteHeaderExtensions consumable { codecs := some capCodecs, headerExtensions := some exts } =
      .ok capExts := by
    unfold remoteHeaderExtensions
    split
    · exact ⟨_, rfl⟩
    · exact ⟨exts, rfl⟩
  obtain ⟨capExts, hcapExts⟩ := hexts
  have hconsumer : getConsumerRtpParameters h264 consumable { codecs := some capCodecs, headerExtensions := some exts }
      false true draws =
      if hasMediaCodec (removeUselessRtx (consumerCodecs h264 capCodecs true consumable.codecs).reverse [] false).1 then
        consumerParams consumable { codecs := some capCodecs, headerExtensions := some exts } false draws
          (removeUselessRtx (consumerCodecs h264 capCodecs true consumable.codecs).reverse [] false).1
          (removeUselessRtx (consumerCodecs h264 capCodecs true consumable.codecs).reverse [] false).2
      else throw (.unsupportedError "no compatible media codecs") := by
    unfold getConsumerRtpParameters
    rw [defined_bind rfl, hvalid]
    rfl
  rw [Option.getD_some, hleft, hconsumer]
  split
  case isTrue hmedia =>
    rw [consumerParams, hcapExts]
    refine ⟨⟨fun _ => hmedia, fun _ => ⟨_, rfl⟩⟩, fun e he => ?_⟩
    cases he
  case isFalse hnone =>
    refine ⟨⟨fun ⟨consumer, h⟩ => ?_, fun h => absurd h hnone⟩, fun e he => ?_⟩
    · cases h
    · cases he
      rfl

/-- **`canConsume`** agrees with `getConsumerRtpParameters`, unless the codecs that the remote matches start with dangling RTX
codecs in front of a media codec. -/
theorem canConsume_iff_not_startsDangling (h264 : H264) (consumable : RtpParameters) (draws : Nat → Int)
    (h : validateRtpCapabilities remote = .ok caps) :
    (canConsume h264 consumable remote = .ok true ↔
      ∃ consumer, getConsumerRtpParameters h264 consumable caps false true draws = .ok consumer) ↔
    ¬ StartsDangling (matchedCodecs h264 (caps.codecs.getD []) consumable.codecs) := by
  rw [canConsume_eq h, (getConsumerRtpParameters_ok_iff h).1, Except.ok.injEq]
  exact hasMediaCodec_iff_left _

end Consume

def remoteWithRtx (mimeType : String) : RtpCapabilities where
  codecs := some [ { kind := .video, mimeType := mimeType, clockRate := 90000 },
    { kind := .video, mimeType := "video/rtx", clockRate := 90000 }]

def consumeBoth (remote : RtpCapabilities) : Except OrtcError (Bool × List Int) := do
  let caps ← generateRouterRtpCapabilities noH264 [
    { kind := .video, mimeType := "video/VP8", clockRate := 90000 },
    { kind := .video, mimeType := "video/VP9", clockRate := 90000 }]
  let r ← getProducerRtpParametersMapping noH264
    { codecs := [vp8Codec 96, { mimeType := "video/VP9", payloadType := 97, clockRate := 90000 }] } caps 1
  let consumable ← getConsumableRtpParameters .video r.2 caps r.1
  let valid ← validateRtpCapabilities remote
  let can ← canConsume noH264 consumable remote
  let consumer ← getConsumerRtpParameters noH264 consumable valid false true fun _ => 1
  return (can, consumer.codecs.map (·.payloadType))

theorem firstCodec_consumed : ∃ consumable caps, validateRtpCapabilities (remoteWithRtx "video/VP8") = .ok caps ∧
    canConsume noH264 consumable (remoteWithRtx "video/VP8") = .ok true ∧
    ¬ StartsDangling (matchedCodecs noH264 (caps.codecs.getD []) consumable.codecs) := by
  have hrun : consumeBoth (remoteWithRtx "video/VP8") = .ok (true, [100, 101]) := by decide +kernel
  obtain ⟨caps, -, hrun⟩ := exists_of_bind_eq_ok hrun
  obtain ⟨r, -, hrun⟩ := exists_of_bind_eq_ok hrun
  obtain ⟨consumable, -, hrun⟩ := exists_of_bind_eq_ok hrun
  obtain ⟨valid, hvalid, hrun⟩ := exists_of_bind_eq_ok hrun
  obtain ⟨can, hcan, hrun⟩ := exists_of_bind_eq_ok hrun
  obtain ⟨consumer, hconsumer, hrun⟩ := exists_of_bind_eq_ok hrun
  obtain ⟨rfl, -⟩ := Prod.mk.inj (Except.ok.inj hrun)
  refine ⟨consumable, valid, hvalid, hcan, ?_⟩
  exact (canConsume_iff_not_startsDangling noH264 consumable (fun _ => 1) hvalid).mp
    ⟨fun _ => ⟨consumer, hconsumer⟩, fun _ => hcan⟩

/-- A remote with the second codec of the producer only: `canConsume` refuses what `getConsumerRtpParameters` accepts. -/
theorem secondCodec_refused : ∃ caps r consumable valid consumer, generateRouterRtpCapabilities noH264 [
      { kind := .video, mimeType := "video/VP8", clockRate := 90000 },
      { kind := .video, mimeType := "video/VP9", clockRate := 90000 }] = .ok caps ∧
    getProducerRtpParametersMapping noH264
      { codecs := [vp8Codec 96, { mimeType := "video/VP9", payloadType := 97, clockRate := 90000 }] } caps 1 = .ok r ∧
    getConsumableRtpParameters .video r.2 caps r.1 = .ok consumable ∧
    validateRtpCapabilities (remoteWithRtx "video/VP9") = .ok valid ∧
    canConsume noH264 consumable (remoteWithRtx "video/VP9") = .ok false ∧
    getConsumerRtpParameters noH264 consumable valid false true (fun _ => 1) = .ok consumer ∧
    consumer.codecs.map (·.payloadType) = [102, 103] := by
  have hrun : consumeBoth (remoteWithRtx "video/VP9") = .ok (false, [102, 103]) := by decide +kernel
  obtain ⟨caps, hcaps, hrun⟩ := exists_of_bind_eq_ok hrun
  obtain ⟨r, hr, hrun⟩ := exists_of_bind_eq_ok hrun
  obtain ⟨consumable, hconsumable, hrun⟩ := exists_of_bind_eq_ok hrun
  obtain ⟨valid, hvalid, hrun⟩ := exists_of_bind_eq_ok hrun
  obtain ⟨can, hcan, hrun⟩ := exists_of_bind_eq_ok hrun
  obtain ⟨consumer, hconsumer, hrun⟩ := exists_of_bind_eq_ok hrun
  obtain ⟨rfl, hpts⟩ := Prod.mk.inj (Except.ok.inj hrun)
  exact ⟨caps, r, consumable, valid, consumer, hcaps, hr, hconsumable, hvalid, hcan, hconsumer, hpts⟩

end Mediasoup.Ortc
