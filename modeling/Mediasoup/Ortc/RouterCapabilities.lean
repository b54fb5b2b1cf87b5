import Mediasoup.Lib.Run
import Mediasoup.Ortc.Ortc

/-!
# The codecs of a router

The codecs that `generateRouterRtpCapabilities` makes have all a payload type, and no two of them the same one: a dynamic payload
type is given once, a chosen one is taken off the list of dynamic ones, and those of the supported codecs are not on it
(`supported_static`). They list each media codec in turn, as an `Entry` of its own (`codecs_of_generate`).
-/

namespace Mediasoup.Ortc

open Lib List

structure Distinct (codecs : List RtpCodecCapability) : Prop where
  assigned : ∀ c ∈ codecs, ∃ pt, c.preferredPayloadType = some pt
  nodup : (codecs.map (·.preferredPayloadType)).Nodup

theorem Distinct.eq {codecs : List RtpCodecCapability} {c d : RtpCodecCapability} (h : Distinct codecs) (hc : c ∈ codecs)
    (hd : d ∈ codecs) (hpt : c.preferredPayloadType = d.preferredPayloadType) : c = d :=
  inj_on_of_nodup_map h.nodup hc hd hpt

variable {pt : Int}

theorem Distinct.find {codecs : List RtpCodecCapability} {c : RtpCodecCapability} (h : Distinct codecs)
    (hc : c ∈ codecs) (hpt : c.preferredPayloadType = some pt) :
    codecs.find? (·.preferredPayloadType = some pt) = some c := by
  cases hfind : codecs.find? (·.preferredPayloadType = some pt) with
  | none =>
    have hnone := List.find?_eq_none.mp hfind c hc
    simp [hpt] at hnone
  | some d =>
    have hdpt : d.preferredPayloadType = some pt := by simpa using List.find?_some hfind
    rw [h.eq (mem_of_find?_eq_some hfind) hc (hdpt.trans hpt.symm)]

/-! ## Validation -/

theorem validateRtpCodecCapability_spec {c c' : RtpCodecCapability} (h : validateRtpCodecCapability c = .ok c') :
    ∃ kind parameters rtcpFeedback, kindOfMimeType c.mimeType = some kind ∧
      (c.parameters.getD []).mapM validateParameter = .ok parameters ∧
      c' = { c with
        kind := kind, channels := validateChannels c.channels kind, parameters := some parameters, rtcpFeedback := rtcpFeedback } := by
  unfold validateRtpCodecCapability at h
  split at h
  · cases h
  split at h
  · cases h
  case _ kind hkind =>
    obtain ⟨parameters, hparameters, h⟩ := exists_of_bind_eq_ok h
    obtain ⟨rtcpFeedback, -, h⟩ := exists_of_bind_eq_ok h
    cases h
    exact ⟨kind, parameters, _, hkind, hparameters, rfl⟩

theorem forall_of_mapM {α β ε : Type} {f : α → Except ε β} {P : β → Prop} :
    ∀ {l : List α} {l' : List β}, (∀ a ∈ l, ∀ b, f a = .ok b → P b) → l.mapM f = .ok l' → ∀ b ∈ l', P b
  | [], l', _, h, b, hb => by
    cases h
    cases hb
  | a :: l, l', hf, h, b, hb => by
    rw [mapM_cons] at h
    obtain ⟨b₀, hb₀, h⟩ := exists_of_bind_eq_ok h
    obtain ⟨bs, hbs, h⟩ := exists_of_bind_eq_ok h
    cases h
    rcases mem_cons.mp hb with rfl | hb
    · exact hf a mem_cons_self b hb₀
    · exact forall_of_mapM (fun a ha => hf a (mem_cons_of_mem _ ha)) hbs b hb

theorem supported_static : ∀ c ∈ supportedCodecs, ∀ pt ∈ c.preferredPayloadType, pt ∉ DynamicPayloadTypes := by
  decide

/-- A supported codec after its validation: its payload type is not a dynamic one, and its kind is that of its MIME type. -/
structure Normalized (c : RtpCodecCapability) : Prop where
  static : ∀ pt ∈ c.preferredPayloadType, pt ∉ DynamicPayloadTypes
  kind : kindOfMimeType c.mimeType = some c.kind

theorem normalized_supported {supported : RtpCapabilities}
    (h : validateRtpCapabilities supportedRtpCapabilities = .ok supported) :
    ∀ c ∈ supported.codecs.getD [], Normalized c := by
  obtain ⟨codecs, hcodecs, h⟩ := exists_of_bind_eq_ok h
  cases h
  refine forall_of_mapM (fun c hc c' hc' => ?_) hcodecs
  obtain ⟨kind, parameters, rtcpFeedback, hkind, -, rfl⟩ := validateRtpCodecCapability_spec hc'
  exact ⟨supported_static c hc, hkind⟩

/-! ## What is listed for a media codec -/

/-- The router offers a media codec as `codec`: the supported codec that it names, with its parameters, and with its payload type
if it has one. -/
structure Offers (media codec : RtpCodecCapability) : Prop where
  mimeType : toLowerCase codec.mimeType = toLowerCase media.mimeType
  kind : kindOfMimeType media.mimeType = some codec.kind
  clockRate : codec.clockRate = media.clockRate
  channels : codec.channels = validateChannels media.channels codec.kind
  parameters : ∃ supported parameters, (media.parameters.getD []).mapM validateParameter = .ok parameters ∧
    codec.parameters = some (Parameters.assign supported parameters)
  payloadType : ∀ pt ∈ media.preferredPayloadType, codec.preferredPayloadType = some pt

structure RtxOf (codec rtx : RtpCodecCapability) : Prop where
  mimeType : rtx.mimeType = "video/rtx"
  clockRate : rtx.clockRate = codec.clockRate
  apt : ∃ pt, codec.preferredPayloadType = some pt ∧ rtx.parameters = some [("apt", .num pt)]

/-- The codecs of the router for a media codec: it, and right after it its RTX codec if it is a video codec. -/
inductive Entry (media : RtpCodecCapability) : List RtpCodecCapability → Prop
  | audio {codec : RtpCodecCapability} (hoffers : Offers media codec) (hkind : codec.kind = .audio) : Entry media [codec]
  | video {codec rtx : RtpCodecCapability} (hoffers : Offers media codec) (hkind : codec.kind = .video)
      (hrtx : RtxOf codec rtx) : Entry media [codec, rtx]

variable {h264 : H264}

theorem eq_of_matchCodecs {a b : AnyCodec} {strict modify : Bool}
    (h : (matchCodecs h264 a b strict modify).isSome) :
    toLowerCase a.mimeType = toLowerCase b.mimeType ∧ a.clockRate = b.clockRate ∧ a.channels = b.channels := by
  refine ⟨?_, ?_, ?_⟩ <;>
  · by_contra hne
    simp [matchCodecs, hne] at h

theorem offers_routerCodec {media valid matched : RtpCodecCapability}
    (hvalid : validateRtpCodecCapability media = .ok valid) (hmatched : Normalized matched)
    (hmatch : (matchCodecs h264 valid.any matched.any false false).isSome)
    (hpt : ∀ p ∈ valid.preferredPayloadType, pt = p) : Offers media (routerCodec matched valid pt) := by
  obtain ⟨kind, parameters, rtcpFeedback, hkind, hparameters, rfl⟩ := validateRtpCodecCapability_spec hvalid
  obtain ⟨hmime, hrate, hchannels⟩ := eq_of_matchCodecs hmatch
  have hsame : matched.kind = kind := by
    have hmedia : kindOfMimeType matched.mimeType = some kind := by
      rw [← hkind, kindOfMimeType, kindOfMimeType, ← show toLowerCase media.mimeType = toLowerCase matched.mimeType from hmime]
    exact Option.some.inj (hmatched.kind.symm.trans hmedia)
  subst hsame
  exact {
    mimeType := hmime.symm
    kind := hkind
    clockRate := hrate.symm
    channels := hchannels.symm
    parameters := ⟨_, parameters, hparameters, rfl⟩
    payloadType := fun p hp => congrArg some (hpt p hp) }

/-! ## The loop -/

/-- The codecs so far have payload types of their own, and none of the dynamic ones that are left. -/
structure RouterCodecs.Sound (s : RouterCodecs) : Prop where
  distinct : Distinct s.codecs
  nodup : s.dynamicPayloadTypes.Nodup
  dynamic : ∀ pt ∈ s.dynamicPayloadTypes, pt ∈ DynamicPayloadTypes ∧ some pt ∉ s.codecs.map (·.preferredPayloadType)

theorem RouterCodecs.sound_empty : RouterCodecs.Sound {} where
  distinct := ⟨by simp, by simp⟩
  nodup := by decide
  dynamic := by simp

theorem routerCodec_pt (matched mediaCodec : RtpCodecCapability) (pt : Int) :
    (routerCodec matched mediaCodec pt).preferredPayloadType = some pt := rfl

theorem rtxCodec_pt (codec : RtpCodecCapability) (mediaPt pt : Int) :
    (rtxCodec codec mediaPt pt).preferredPayloadType = some pt := rfl

theorem shift_eq_ok {pts rest : List Int} (h : shift pts = .ok (pt, rest)) : pts = pt :: rest := by
  cases pts with
  | nil => cases h
  | cons p ps =>
    have := of_ite_eq_ok h
    cases this
    rfl

theorem choosePayloadType_spec {media supported : Option Int} {pts rest : List Int} (hnodup : pts.Nodup)
    (hdynamic : ∀ p ∈ pts, p ∈ DynamicPayloadTypes) (hstatic : ∀ p ∈ supported, p ∉ DynamicPayloadTypes)
    (h : choosePayloadType media supported pts = .ok (pt, rest)) :
    (∀ p ∈ media, pt = p) ∧ pt ∉ rest ∧ rest.Sublist pts := by
  unfold choosePayloadType at h
  split at h
  case h_1 =>
    cases h
    exact ⟨fun _ => Option.some.inj, hnodup.not_mem_erase, erase_sublist⟩
  case h_2 =>
    cases h
    exact ⟨nofun, fun hmem => hstatic pt rfl (hdynamic pt hmem), List.Sublist.refl _⟩
  case h_3 =>
    obtain rfl := shift_eq_ok h
    exact ⟨nofun, (nodup_cons.mp hnodup).1, sublist_cons_self _ _⟩

theorem RouterCodecs.Sound.append {s : RouterCodecs} {codec : RtpCodecCapability} {rest : List Int} (h : s.Sound)
    (hcodec : codec.preferredPayloadType = some pt) (hnew : some pt ∉ s.codecs.map (·.preferredPayloadType))
    (hpt : pt ∉ rest) (hrest : rest.Sublist s.dynamicPayloadTypes) :
    RouterCodecs.Sound { codecs := s.codecs ++ [codec], dynamicPayloadTypes := rest } where
  distinct := by
    constructor
    · intro c hc
      rcases mem_append.mp hc with hc | hc
      · exact h.distinct.assigned c hc
      · exact ⟨pt, by rw [mem_singleton.mp hc, hcodec]⟩
    · rw [map_append, map_singleton, hcodec, ← concat_eq_append]
      exact h.distinct.nodup.concat hnew
  nodup := h.nodup.sublist hrest
  dynamic p hp := by
    refine ⟨(h.dynamic p (hrest.subset hp)).1, ?_⟩
    rw [map_append, map_singleton, hcodec, mem_append, mem_singleton, Option.some_inj]
    rintro (hmem | rfl)
    · exact (h.dynamic p (hrest.subset hp)).2 hmem
    · exact hpt hp

theorem addMediaCodec_spec {supported : List RtpCodecCapability} {s s' : RouterCodecs}
    {mediaCodec : RtpCodecCapability} (hsupported : ∀ c ∈ supported, Normalized c) (hs : s.Sound)
    (h : addMediaCodec h264 supported s mediaCodec = .ok s') :
    s'.Sound ∧ ∃ entry, Entry mediaCodec entry ∧ s'.codecs = s.codecs ++ entry := by
  obtain ⟨valid, hvalid, h⟩ := exists_of_bind_eq_ok h
  split at h
  case h_1 => cases h
  case h_2 matched hmatched =>
    have hnormalized := hsupported matched (mem_of_find?_eq_some hmatched)
    obtain ⟨⟨pt, rest⟩, hchosen, h⟩ := exists_of_bind_eq_ok h
    obtain ⟨hkept, hpt, hrest⟩ :=
      choosePayloadType_spec hs.nodup (fun p hp => (hs.dynamic p hp).1) hnormalized.static hchosen
    have hoffers := offers_routerCodec hvalid hnormalized
      (List.find?_some (p := fun c : RtpCodecCapability => (matchCodecs h264 valid.any c.any false false).isSome) hmatched) hkept
    dsimp only at h
    split at h
    case isTrue => cases h
    case isFalse hdup =>
      have hnew : some pt ∉ s.codecs.map (·.preferredPayloadType) := by
        intro hmem
        obtain ⟨c, hc, hcpt⟩ := mem_map.mp hmem
        exact hdup (any_eq_true.mpr ⟨c, hc, decide_eq_true hcpt⟩)
      have hsound := hs.append (routerCodec_pt matched valid pt) hnew hpt hrest
      split at h
      case h_1 hkind =>
        cases h
        exact ⟨hsound, _, .audio hoffers hkind, rfl⟩
      case h_2 hkind =>
        obtain ⟨⟨rtxPt, rest'⟩, hshift, h⟩ := exists_of_bind_eq_ok h
        cases h
        obtain rfl := shift_eq_ok hshift
        have hrtx := hsound.append (rtxCodec_pt (routerCodec matched valid pt) pt rtxPt)
          (hsound.dynamic rtxPt mem_cons_self).2 (nodup_cons.mp hsound.nodup).1 (sublist_cons_self _ _)
        rw [append_assoc] at hrtx
        have hrtxOf : RtxOf (routerCodec matched valid pt) (rtxCodec (routerCodec matched valid pt) pt rtxPt) := by
          refine ⟨?_, rfl, pt, rfl, rfl⟩
          rw [rtxCodec, hkind]
          rfl
        exact ⟨hrtx, _, .video hoffers hkind hrtxOf, rfl⟩

theorem foldlM_addMediaCodec_spec {supported : List RtpCodecCapability}
    (hsupported : ∀ c ∈ supported, Normalized c) :
    ∀ {mediaCodecs : List RtpCodecCapability} {s s' : RouterCodecs}, s.Sound →
      mediaCodecs.foldlM (addMediaCodec h264 supported) s = .ok s' →
      s'.Sound ∧ ∃ entries, List.Forall₂ Entry mediaCodecs entries ∧ s'.codecs = s.codecs ++ entries.flatten
  | [], s, _, hs, h => by
    cases h
    exact ⟨hs, [], .nil, (append_nil _).symm⟩
  | mediaCodec :: mediaCodecs, s, s', hs, h => by
    obtain ⟨t, ht, h⟩ := exists_of_bind_eq_ok h
    obtain ⟨htSound, entry, hentry, htCodecs⟩ := addMediaCodec_spec hsupported hs ht
    obtain ⟨hsound, entries, hentries, hcodecs⟩ := foldlM_addMediaCodec_spec hsupported htSound h
    refine ⟨hsound, entry :: entries, .cons hentry hentries, ?_⟩
    rw [hcodecs, htCodecs, append_assoc, flatten_cons]

theorem exists_of_generate {mediaCodecs : List RtpCodecCapability} {caps : RtpCapabilities}
    (h : generateRouterRtpCapabilities h264 mediaCodecs = .ok caps) :
    ∃ capCodecs exts entries, caps = { codecs := some capCodecs, headerExtensions := some exts } ∧ Distinct capCodecs ∧
      List.Forall₂ Entry mediaCodecs entries ∧ capCodecs = entries.flatten := by
  obtain ⟨supported, hsupported, h⟩ := exists_of_bind_eq_ok h
  obtain ⟨s, hs, h⟩ := exists_of_bind_eq_ok h
  cases h
  obtain ⟨hsound, entries, hentries, hcodecs⟩ :=
    foldlM_addMediaCodec_spec (normalized_supported hsupported) RouterCodecs.sound_empty hs
  obtain ⟨codecs, -, hsupported⟩ := exists_of_bind_eq_ok hsupported
  obtain ⟨exts, -, hsupported⟩ := exists_of_bind_eq_ok hsupported
  cases hsupported
  exact ⟨s.codecs, exts, entries, rfl, hsound.distinct, hentries, hcodecs⟩

/-- **The codecs of a router** have different payload types and are those of the media codecs, in order: each with the payload
type that was chosen for it, and each video codec right before its RTX codec. -/
theorem codecs_of_generate {h264 : H264} {mediaCodecs : List RtpCodecCapability} {caps : RtpCapabilities}
    (h : generateRouterRtpCapabilities h264 mediaCodecs = .ok caps) :
    ∃ capCodecs entries, caps.codecs = some capCodecs ∧ Distinct capCodecs ∧ List.Forall₂ Entry mediaCodecs entries ∧
      capCodecs = entries.flatten := by
  obtain ⟨capCodecs, exts, entries, rfl, hdistinct, hentries, hcodecs⟩ := exists_of_generate h
  exact ⟨capCodecs, entries, rfl, hdistinct, hentries, hcodecs⟩

def vp8OpusRouter : Except OrtcError RtpCapabilities :=
  generateRouterRtpCapabilities { isSameProfile := fun _ _ => false, generateProfileLevelIdForAnswer := fun _ _ => none }
    [{ kind := .video, mimeType := "video/VP8", clockRate := 90000, preferredPayloadType := some 101 },
      { kind := .audio, mimeType := "audio/opus", clockRate := 48000, channels := some 2 }]

theorem vp8OpusRouter_codecs : ∃ caps capCodecs, vp8OpusRouter = .ok caps ∧ caps.codecs = some capCodecs ∧
    Distinct capCodecs ∧ capCodecs.map (·.preferredPayloadType) = [some 101, some 100, some 102] := by
  have hrun : (do let caps ← vp8OpusRouter; return (caps.codecs.getD []).map RtpCodecCapability.preferredPayloadType) =
      .ok [some 101, some 100, some 102] := by
    decide +kernel
  obtain ⟨caps, hcaps, hpts⟩ := exists_of_bind_eq_ok hrun
  obtain ⟨capCodecs, -, hcodecs, hdistinct, -⟩ := codecs_of_generate hcaps
  rw [hcodecs] at hpts
  exact ⟨caps, capCodecs, hcaps, hcodecs, hdistinct, Except.ok.inj hpts⟩

end Mediasoup.Ortc
