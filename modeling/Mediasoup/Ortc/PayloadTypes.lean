import Mediasoup.Ortc.RouterCapabilities

/-!
# The payload types of consumable and consumer parameters

The worker accepts codecs whose payload types are different, and where every RTX codec names one that is no RTX codec
(`WellFormed`). The consumable codecs of a producer are, for each of its media codecs, the router codec it matches first and the
RTX codec of that one (`Consumable`), and those of a consumer are some of them. So both lists are well formed exactly if no router
codec is the first match of two media codecs (`wellFormed_iff_matchedApart`).
-/

namespace Mediasoup.Ortc

open Lib List ParamValue

/-- What `RtpParameters::ValidateCodecs` of the worker requires. -/
structure WellFormed (codecs : List RtpCodecParameters) : Prop where
  distinct : (codecs.map (·.payloadType)).Nodup
  rtx : ∀ c ∈ codecs, isRtxCodec c.any = true →
    ∃ m ∈ codecs, isRtxCodec m.any = false ∧ c.parameters.get "apt" = .num m.payloadType

/-! ## Matching -/

section Matching

variable {h264 : H264} {a b : AnyCodec} {strict modify : Bool}

theorem isRtxCodec_of_match (h : (matchCodecs h264 a b strict modify).isSome) : isRtxCodec a = isRtxCodec b := by
  have hmime : toLowerCase a.mimeType = toLowerCase b.mimeType := by
    by_contra hne
    simp [matchCodecs, hne] at h
  simp only [isRtxCodec, isRtxMimeType, hmime]

theorem isSome_matchH264 (x y : Parameters) : (matchH264 h264 x y true).isSome = (matchH264 h264 x y false).isSome := by
  unfold matchH264
  split
  · rfl
  split
  · rfl
  split
  · rfl
  · simp only [Bool.not_true, Bool.not_false, if_true, Bool.false_eq_true, if_false]
    split <;> rfl

theorem isSome_matchCodecs : (matchCodecs h264 a b strict true).isSome = (matchCodecs h264 a b strict false).isSome := by
  simp only [matchCodecs, apply_ite Option.isSome, isSome_matchH264]

end Matching

def firstMatch (h264 : H264) (capCodecs : List RtpCodecCapability) (codec : RtpCodecParameters) : Option RtpCodecCapability :=
  capCodecs.find? fun capCodec => (matchCodecs h264 codec.any capCodec.any true false).isSome

variable {codec : RtpCodecParameters} {h264 : H264}

theorem firstMatch_of_search {capCodec : RtpCodecCapability}
    {parameters : Parameters} : ∀ {capCodecs : List RtpCodecCapability},
      searchCapCodec h264 capCodecs codec = some (capCodec, parameters) → firstMatch h264 capCodecs codec = some capCodec
  | [], h => by cases h
  | c :: cs, h => by
    rw [firstMatch, List.find?_cons]
    rw [searchCapCodec, List.findSome?_cons] at h
    cases hmatch : matchCodecs h264 codec.any c.any true true with
    | some p =>
      rw [hmatch] at h
      cases h
      rw [← isSome_matchCodecs, hmatch]
      rfl
    | none =>
      rw [hmatch] at h
      rw [← isSome_matchCodecs, hmatch]
      exact firstMatch_of_search h

theorem isRtx_of_firstMatch {capCodecs : List RtpCodecCapability}
    {capCodec : RtpCodecCapability} (h : firstMatch h264 capCodecs codec = some capCodec) :
    isRtxCodec capCodec.any = isRtxCodec codec.any := by
  have hmatch := List.find?_some h
  exact (isRtxCodec_of_match hmatch).symm

def isMedia (codec : RtpCodecParameters) : Bool := !isRtxCodec codec.any

/-! ## The mapping -/

section Mapping

variable {h264 : H264} {capCodecs : List RtpCodecCapability}

theorem matchMediaCodecs_cons {i : Nat} {codec : RtpCodecParameters} {codecs codecs' : List RtpCodecParameters}
    {entries : List (Nat × RtpCodecCapability)}
    (h : matchMediaCodecs h264 capCodecs i (codec :: codecs) = .ok (codecs', entries)) :
    ∃ cs es, matchMediaCodecs h264 capCodecs (i + 1) codecs = .ok (cs, es) ∧
      ((isMedia codec = false ∧ codecs' = codec :: cs ∧ entries = es) ∨
        ∃ capCodec parameters, isMedia codec = true ∧ firstMatch h264 capCodecs codec = some capCodec ∧
          codecs' = { codec with parameters := parameters } :: cs ∧ entries = (i, capCodec) :: es) := by
  rw [matchMediaCodecs] at h
  split at h
  case isTrue hrtx =>
    obtain ⟨⟨cs, es⟩, hrest, h⟩ := exists_of_bind_eq_ok h
    cases h
    exact ⟨cs, entries, hrest, .inl ⟨by rw [isMedia, hrtx]; rfl, rfl, rfl⟩⟩
  case isFalse hmedia =>
    split at h
    case h_1 => cases h
    case h_2 capCodec parameters hsearch =>
      obtain ⟨⟨cs, es⟩, hrest, h⟩ := exists_of_bind_eq_ok h
      cases h
      refine ⟨cs, es, hrest, .inr ⟨capCodec, parameters, ?_, firstMatch_of_search hsearch, rfl, rfl⟩⟩
      rw [isMedia, (Bool.not_eq_true _).mp hmedia]
      rfl

/-- What the first loop leaves of the codecs behind `front`, and the capabilities it finds with the positions of their codecs. -/
structure MatchedMedia (h264 : H264) (capCodecs : List RtpCodecCapability) (front codecs codecs' : List RtpCodecParameters)
    (entries : List (Nat × RtpCodecCapability)) : Prop where
  payloadTypes : codecs'.map (·.payloadType) = codecs.map (·.payloadType)
  found : (codecs.filter isMedia).map (firstMatch h264 capCodecs) = entries.map (some ·.2)
  positions : List.Forall₂ (fun c e => (front ++ codecs')[e.1]? = some c ∧ e.2 ∈ capCodecs ∧ isRtxCodec e.2.any = false)
    (codecs'.filter isMedia) entries
  keys_le : ∀ e ∈ entries, front.length ≤ e.1
  keys : (entries.map (·.1)).Nodup

theorem matchMediaCodecs_spec : ∀ {codecs codecs' front : List RtpCodecParameters} {entries : List (Nat × RtpCodecCapability)},
      matchMediaCodecs h264 capCodecs front.length codecs = .ok (codecs', entries) →
      MatchedMedia h264 capCodecs front codecs codecs' entries
  | [], _, front, _, h => by
    cases h
    exact ⟨rfl, rfl, .nil, nofun, nodup_nil⟩
  | codec :: codecs, codecs', front, entries, h => by
    obtain ⟨cs, es, hrest, hturn⟩ := matchMediaCodecs_cons h
    have ih (c : RtpCodecParameters) : MatchedMedia h264 capCodecs (front ++ [c]) codecs cs es :=
      matchMediaCodecs_spec (by rwa [length_append])
    have hle : ∀ e ∈ es, front.length + 1 ≤ e.1 := by simpa using (ih codec).keys_le
    have hpts := (ih codec).payloadTypes
    obtain ⟨hrtx, rfl, rfl⟩ | ⟨capCodec, parameters, hmedia, hfirst, rfl, rfl⟩ := hturn
    · refine ⟨by rw [map_cons, map_cons, hpts], ?_, ?_, fun e he => Nat.le_of_succ_le (hle e he), (ih codec).keys⟩
      · rw [filter_cons_of_neg (by simp [hrtx])]
        exact (ih codec).found
      · have hpositions := (ih codec).positions
        rw [append_assoc] at hpositions
        rwa [filter_cons_of_neg (by simp [hrtx])]
    · refine ⟨by rw [map_cons, map_cons, hpts], ?_, ?_, ?_, nodup_cons.mpr ⟨fun hmem => ?_, (ih codec).keys⟩⟩
      · rw [filter_cons_of_pos hmedia, map_cons, hfirst, (ih codec).found, map_cons]
      · have hpositions := (ih { codec with parameters := parameters }).positions
        rw [append_assoc] at hpositions
        have hmedia' : isMedia { codec with parameters := parameters } = true := hmedia
        rw [filter_cons_of_pos hmedia']
        refine .cons ⟨by simp, mem_of_find?_eq_some hfirst, ?_⟩ hpositions
        rw [isRtx_of_firstMatch hfirst]
        simpa [isMedia] using hmedia
      · exact forall_mem_cons.mpr ⟨Nat.le_refl _, fun e he => Nat.le_of_succ_le (hle e he)⟩
      · obtain ⟨e, he, heq⟩ := mem_map.mp hmem
        exact absurd (hle e he) (heq ▸ Nat.not_succ_le_self _)

theorem matchRtxCodecs_extends {params : List RtpCodecParameters} : ∀ {codecs front : List RtpCodecParameters}
    {entries entries' : List (Nat × RtpCodecCapability)},
      matchRtxCodecs capCodecs params front.length codecs entries = .ok entries' →
      entries ⊆ entries' ∧ ∀ e ∈ entries', e ∈ entries ∨ ∃ c, (front ++ codecs)[e.1]? = some c ∧ isRtxCodec c.any = true
  | [], front, entries, entries', h => by
    cases h
    exact ⟨fun _ h => h, fun e he => .inl he⟩
  | codec :: codecs, front, entries, entries', h => by
    have happend : front ++ codec :: codecs = (front ++ [codec]) ++ codecs := by simp
    have hlength : front.length + 1 = (front ++ [codec]).length := by simp
    rw [matchRtxCodecs] at h
    split at h
    case isTrue =>
      rw [happend]
      exact matchRtxCodecs_extends (hlength ▸ h)
    case isFalse hrtx =>
      split at h
      case h_1 => cases h
      case h_2 associated _ =>
        obtain ⟨capMediaCodec, -, h⟩ := exists_of_bind_eq_ok h
        split at h
        case h_1 =>
          obtain ⟨pt, -, h⟩ := exists_of_bind_eq_ok h
          cases h
        case h_2 capCodec _ =>
          obtain ⟨hsub, hmem⟩ := matchRtxCodecs_extends (hlength ▸ h)
          refine ⟨fun e he => hsub (mem_append_left _ he), fun e he => ?_⟩
          rw [happend]
          rcases hmem e he with he | he
          · rcases mem_append.mp he with he | he
            · exact .inl he
            · obtain rfl := mem_singleton.mp he
              exact .inr ⟨codec, by simp, by simpa using hrtx⟩
          · exact .inr he

theorem mem_codecsMapping {codecs : List RtpCodecParameters} {m : CodecMapping} :
    ∀ {entries : List (Nat × RtpCodecCapability)} {mappings : List CodecMapping}, codecsMapping codecs entries = .ok mappings →
      (m ∈ mappings ↔ ∃ e ∈ entries, ∃ c, codecs[e.1]? = some c ∧ e.2.preferredPayloadType = some m.mappedPayloadType ∧
        m.payloadType = c.payloadType)
  | [], _, h => by
    cases h
    simp
  | (i, capCodec) :: entries, _, h => by
    obtain ⟨codec, hcodec, h⟩ := exists_of_bind_eq_ok h
    obtain ⟨pt, hpt, h⟩ := exists_of_bind_eq_ok h
    obtain ⟨mappings, hmappings, h⟩ := exists_of_bind_eq_ok h
    cases h
    have hi := defined_eq_ok.mp hcodec
    have hcap := defined_eq_ok.mp hpt
    rw [mem_cons, mem_codecsMapping hmappings]
    constructor
    · rintro (rfl | ⟨e, he, hrest⟩)
      · exact ⟨(i, capCodec), mem_cons_self, codec, hi, hcap, rfl⟩
      · exact ⟨e, mem_cons_of_mem _ he, hrest⟩
    · rintro ⟨e, he, c, hc, hept, hmpt⟩
      rcases mem_cons.mp he with rfl | he
      · left
        rw [hi] at hc
        rw [hcap] at hept
        cases hc
        cases hept
        cases m
        cases hmpt
        rfl
      · exact .inr ⟨e, he, c, hc, hept, hmpt⟩

theorem find_mapping {codecs : List RtpCodecParameters} {media entries : List (Nat × RtpCodecCapability)}
    {mappings : List CodecMapping} {c : RtpCodecParameters} {e : Nat × RtpCodecCapability}
    (hdistinct : (codecs.map (·.payloadType)).Nodup) (hmappings : codecsMapping codecs entries = .ok mappings)
    (hkeys : (media.map (·.1)).Nodup) (hsub : media ⊆ entries)
    (hentries : ∀ e ∈ entries, e ∈ media ∨ ∃ c, codecs[e.1]? = some c ∧ isRtxCodec c.any = true)
    (he : e ∈ media) (hc : codecs[e.1]? = some c) (hrtx : isRtxCodec c.any = false) {pt : Int}
    (hpt : e.2.preferredPayloadType = some pt) :
    mappings.find? (·.payloadType = c.payloadType) = some { payloadType := c.payloadType, mappedPayloadType := pt } := by
  have hmem : (⟨c.payloadType, pt⟩ : CodecMapping) ∈ mappings :=
    (mem_codecsMapping hmappings).mpr ⟨e, hsub he, c, hc, hpt, rfl⟩
  cases hfind : mappings.find? (·.payloadType = c.payloadType) with
  | none =>
    have hnone := List.find?_eq_none.mp hfind _ hmem
    simp at hnone
  | some m =>
    have hm : m.payloadType = c.payloadType := by simpa using List.find?_some hfind
    obtain ⟨e', he', c', hc', hpt', hmpt⟩ := (mem_codecsMapping hmappings).mp (mem_of_find?_eq_some hfind)
    -- The codec of the mapping has the payload type of `c`, so it is in the same position.
    have hpos : e'.1 = e.1 := by
      obtain ⟨hlt', -⟩ := List.getElem?_eq_some_iff.mp hc'
      refine (List.getElem?_inj (by simpa using hlt') hdistinct).mp ?_
      rw [List.getElem?_map, List.getElem?_map, hc, hc', Option.map_some, Option.map_some, ← hmpt, hm]
    rcases hentries e' he' with hin | ⟨c'', hc'', hrtx''⟩
    · rw [inj_on_of_nodup_map hkeys hin he hpos, hpt] at hpt'
      cases m
      cases hm
      cases hpt'
      rfl
    rw [hpos, hc] at hc''
    cases hc''
    rw [hrtx] at hrtx''
    cases hrtx''

end Mapping

/-! ## Consumable codecs -/

section Consumable

variable (capCodecs : List RtpCodecCapability)

def MadeFrom (capCodec : RtpCodecCapability) (c : RtpCodecParameters) : Prop :=
  capCodec ∈ capCodecs ∧ capCodec.preferredPayloadType = some c.payloadType ∧ c.mimeType = capCodec.mimeType

/-- For each capability its codec, and that of its RTX capability. -/
inductive Consumable : List RtpCodecCapability → List RtpCodecParameters → Prop
  | nil : Consumable [] []
  | alone {k : RtpCodecCapability} {ks : List RtpCodecCapability} {c : RtpCodecParameters} {cs : List RtpCodecParameters}
      (hc : MadeFrom capCodecs k c) (hk : isRtxCodec k.any = false) (hrest : Consumable ks cs) :
      Consumable (k :: ks) (c :: cs)
  | withRtx {k r : RtpCodecCapability} {ks : List RtpCodecCapability} {c d : RtpCodecParameters}
      {cs : List RtpCodecParameters} (hc : MadeFrom capCodecs k c) (hk : isRtxCodec k.any = false)
      (hr : searchRtxCapCodec capCodecs (some c.payloadType) = some r) (hd : MadeFrom capCodecs r d)
      (happly : d.parameters = r.parameters.getD []) (hrest : Consumable ks cs) :
      Consumable (k :: ks) (c :: d :: cs)

variable {capCodecs} {k r : RtpCodecCapability} {ks : List RtpCodecCapability} {c d : RtpCodecParameters}
  {cs : List RtpCodecParameters}

theorem MadeFrom.isRtx (h : MadeFrom capCodecs k c) : isRtxCodec c.any = isRtxCodec k.any := by
  change isRtxMimeType c.mimeType = isRtxMimeType k.mimeType
  rw [h.2.2]

theorem searchRtxCapCodec_spec {pt : Int} (h : searchRtxCapCodec capCodecs (some pt) = some r) :
    r ∈ capCodecs ∧ isRtxCodec r.any = true ∧ (r.parameters.getD []).get "apt" = .num pt := by
  have hfound := List.find?_some h
  rw [Bool.and_eq_true, decide_eq_true_eq] at hfound
  exact ⟨mem_of_find?_eq_some h, hfound⟩

theorem Consumable.origin (h : Consumable capCodecs ks cs) : ∀ d ∈ cs, ∃ k ∈ ks, ∃ c ∈ cs, MadeFrom capCodecs k c ∧
    isRtxCodec k.any = false ∧ (d = c ∨ ∃ r, searchRtxCapCodec capCodecs (some c.payloadType) = some r ∧
      MadeFrom capCodecs r d ∧ d.parameters = r.parameters.getD []) := by
  induction h with
  | nil => simp
  | alone hc hk _ ih =>
    intro d hd
    rcases mem_cons.mp hd with rfl | hd
    · exact ⟨_, mem_cons_self, d, hd, hc, hk, .inl rfl⟩
    · obtain ⟨k', hk', c', hc', h⟩ := ih d hd
      exact ⟨k', mem_cons_of_mem _ hk', c', mem_cons_of_mem _ hc', h⟩
  | withRtx hc hk hr hrtx happly _ ih =>
    intro d hd
    rcases mem_cons.mp hd with rfl | hd
    · exact ⟨_, mem_cons_self, d, mem_cons_self, hc, hk, .inl rfl⟩
    rcases mem_cons.mp hd with rfl | hd
    · exact ⟨_, mem_cons_self, _, mem_cons_self, hc, hk, .inr ⟨_, hr, hrtx, happly⟩⟩
    · obtain ⟨k', hk', c', hc', h⟩ := ih d hd
      exact ⟨k', mem_cons_of_mem _ hk', c', mem_cons_of_mem _ (mem_cons_of_mem _ hc'), h⟩

theorem MadeFrom.inj (hdistinct : Distinct capCodecs) (hc : MadeFrom capCodecs k c) (hd : MadeFrom capCodecs r d)
    (h : c.payloadType = d.payloadType) : k = r :=
  hdistinct.eq hc.1 hd.1 (by rw [hc.2.1, hd.2.1, h])

theorem MadeFrom.ne_rtx (hdistinct : Distinct capCodecs) (hc : MadeFrom capCodecs k c) (hk : isRtxCodec k.any = false)
    {pt : Int} (hr : searchRtxCapCodec capCodecs (some pt) = some r) (hd : MadeFrom capCodecs r d) :
    c.payloadType ≠ d.payloadType := by
  intro heq
  obtain ⟨-, hrtx, -⟩ := searchRtxCapCodec_spec hr
  simp [← hc.inj hdistinct hd heq, hk] at hrtx

theorem Consumable.media_notMem (hdistinct : Distinct capCodecs) (h : Consumable capCodecs ks cs)
    (hc : MadeFrom capCodecs k c) (hk : isRtxCodec k.any = false) (hnew : k ∉ ks) : c.payloadType ∉ cs.map (·.payloadType) := by
  intro hmem
  obtain ⟨d, hd, hpt⟩ := mem_map.mp hmem
  obtain ⟨k', hk', c', -, hmade, -, rfl | ⟨r, hr, hmade, -⟩⟩ := h.origin d hd
  · exact hnew (hc.inj hdistinct hmade hpt.symm ▸ hk')
  · exact hc.ne_rtx hdistinct hk hr hmade hpt.symm

theorem Consumable.rtx_notMem (hdistinct : Distinct capCodecs) (h : Consumable capCodecs ks cs)
    (hc : MadeFrom capCodecs k c) (hnew : k ∉ ks) (hr : searchRtxCapCodec capCodecs (some c.payloadType) = some r)
    (hd : MadeFrom capCodecs r d) : d.payloadType ∉ cs.map (·.payloadType) := by
  intro hmem
  obtain ⟨d', hd', hpt⟩ := mem_map.mp hmem
  obtain ⟨k', hk', c', -, hmade, hmedia, rfl | ⟨r', hr', hmade', -⟩⟩ := h.origin d' hd'
  · exact hmade.ne_rtx hdistinct hmedia hr hd hpt
  · -- One RTX capability has one `apt`.
    obtain ⟨-, -, happly⟩ := searchRtxCapCodec_spec hr
    obtain ⟨-, -, happly'⟩ := searchRtxCapCodec_spec hr'
    rw [hmade'.inj hdistinct hd hpt, happly, num.injEq] at happly'
    exact hnew (hc.inj hdistinct hmade happly' ▸ hk')

theorem Consumable.nodup (hdistinct : Distinct capCodecs) (h : Consumable capCodecs ks cs) (hks : ks.Nodup) :
    (cs.map (·.payloadType)).Nodup := by
  induction h with
  | nil => exact nodup_nil
  | alone hc hk hrest ih =>
    obtain ⟨hnew, hks⟩ := nodup_cons.mp hks
    exact nodup_cons.mpr ⟨hrest.media_notMem hdistinct hc hk hnew, ih hks⟩
  | withRtx hc hk hr hd _ hrest ih =>
    obtain ⟨hnew, hks⟩ := nodup_cons.mp hks
    refine nodup_cons.mpr ⟨?_, nodup_cons.mpr ⟨hrest.rtx_notMem hdistinct hc hnew hr hd, ih hks⟩⟩
    rw [map_cons, mem_cons, not_or]
    exact ⟨hc.ne_rtx hdistinct hk hr hd, hrest.media_notMem hdistinct hc hk hnew⟩

theorem Consumable.sublist (h : Consumable capCodecs ks cs) :
    (ks.map (·.preferredPayloadType)).Sublist (cs.map (some ·.payloadType)) := by
  induction h with
  | nil => exact List.Sublist.refl _
  | alone hc _ _ ih =>
    rw [map_cons, map_cons, hc.2.1]
    exact ih.cons_cons _
  | withRtx hc _ _ _ _ _ ih =>
    rw [map_cons, map_cons, map_cons, hc.2.1]
    exact (ih.cons _).cons_cons _

theorem Consumable.rtx (h : Consumable capCodecs ks cs) : ∀ c ∈ cs, isRtxCodec c.any = true →
    ∃ m ∈ cs, isRtxCodec m.any = false ∧ c.parameters.get "apt" = .num m.payloadType := by
  intro d hd hrtx
  obtain ⟨k, -, c, hc, hmade, hk, rfl | ⟨r, hr, -, happly⟩⟩ := h.origin d hd
  · simp [hmade.isRtx, hk] at hrtx
  · refine ⟨c, hc, hmade.isRtx.trans hk, ?_⟩
    rw [happly]
    exact (searchRtxCapCodec_spec hr).2.2

/-- **Consumable codecs** are well formed exactly if no capability comes twice. -/
theorem Consumable.wellFormed_iff (hdistinct : Distinct capCodecs) (h : Consumable capCodecs ks cs) :
    WellFormed cs ↔ ks.Nodup := by
  constructor
  · intro hwell
    have hsome : (cs.map (some ·.payloadType)).Nodup := by
      have := hwell.distinct.map fun _ _ => Option.some.inj
      rwa [map_map] at this
    exact (hsome.sublist h.sublist).of_map _
  · exact fun hks => ⟨h.nodup hdistinct hks, h.rtx⟩

def Resolves (capCodecs : List RtpCodecCapability) (mappings : List CodecMapping) (c : RtpCodecParameters)
    (k : RtpCodecCapability) : Prop :=
  ∃ e, mappings.find? (·.payloadType = c.payloadType) = some e ∧ k.preferredPayloadType = some e.mappedPayloadType ∧
    k ∈ capCodecs ∧ isRtxCodec k.any = false

theorem consumableCodecs_spec (hdistinct : Distinct capCodecs) {mappings : List CodecMapping} :
    ∀ {codecs : List RtpCodecParameters} {ks : List RtpCodecCapability},
      List.Forall₂ (Resolves capCodecs mappings) (codecs.filter isMedia) ks →
      ∃ cs, consumableCodecs capCodecs mappings codecs = .ok cs ∧ Consumable capCodecs ks cs
  | [], ks, h => by
    cases h
    exact ⟨[], rfl, .nil⟩
  | codec :: codecs, ks, h => by
    rw [consumableCodecs]
    by_cases hrtx : isRtxCodec codec.any = true
    · rw [filter_cons_of_neg (by simp [isMedia, hrtx])] at h
      rw [if_pos hrtx]
      exact consumableCodecs_spec hdistinct h
    rw [filter_cons_of_pos (by simp [isMedia, hrtx])] at h
    rw [if_neg hrtx]
    cases h with
    | @cons _ k _ ks hk hks =>
      obtain ⟨e, hfind, hkpt, hkin, hkmedia⟩ := hk
      obtain ⟨cs, hcs, hconsumable⟩ := consumableCodecs_spec hdistinct hks
      have hmade : MadeFrom capCodecs k (consumableCodec codec k e.mappedPayloadType) := ⟨hkin, hkpt, rfl⟩
      have hcap := hdistinct.find hkin hkpt
      rw [defined_bind hfind, defined_bind hcap]
      dsimp only
      cases hr : searchRtxCapCodec capCodecs (some (consumableCodec codec k e.mappedPayloadType).payloadType) with
      | none =>
        refine ⟨_, ?_, .alone hmade hkmedia hconsumable⟩
        rw [hcs]
        rfl
      | some r =>
        obtain ⟨hrin, -, -⟩ := searchRtxCapCodec_spec hr
        obtain ⟨rpt, hrpt⟩ := hdistinct.assigned r hrin
        have hmadeRtx : MadeFrom capCodecs r (consumableRtxCodec r rpt) := ⟨hrin, hrpt, rfl⟩
        refine ⟨_, ?_, .withRtx hmade hkmedia hr hmadeRtx rfl hconsumable⟩
        dsimp only
        rw [defined_bind hrpt, hcs]
        rfl

end Consumable

/-! ## The codecs of a consumer -/

def core (c : RtpCodecParameters) : RtpCodecParameters := { c with rtcpFeedback := [] }

theorem wellFormed_map_core {codecs : List RtpCodecParameters} : WellFormed (codecs.map core) ↔ WellFormed codecs := by
  have hpts : (codecs.map core).map (·.payloadType) = codecs.map (·.payloadType) := by
    rw [map_map]
    rfl
  constructor
  · intro h
    refine ⟨hpts ▸ h.distinct, fun c hc hrtx => ?_⟩
    obtain ⟨m', hm', hmedia, happly⟩ := h.rtx (core c) (mem_map_of_mem hc) hrtx
    obtain ⟨m, hm, rfl⟩ := mem_map.mp hm'
    exact ⟨m, hm, hmedia, happly⟩
  · intro h
    refine ⟨hpts.symm ▸ h.distinct, fun c' hc' hrtx => ?_⟩
    obtain ⟨c, hc, rfl⟩ := mem_map.mp hc'
    obtain ⟨m, hm, hmedia, happly⟩ := h.rtx c hc hrtx
    exact ⟨core m, mem_map_of_mem hm, hmedia, happly⟩

theorem core_reduceRtcpFeedback (exts : List RtpHeaderExtensionParameters) (c : RtpCodecParameters) :
    core (reduceRtcpFeedback exts c) = core c := by
  unfold reduceRtcpFeedback
  split
  · rfl
  · split <;> rfl

theorem consumerCodecs_sublist (h264 : H264) (capCodecs : List RtpCodecCapability) (enableRtx : Bool) :
    ∀ codecs : List RtpCodecParameters, ((consumerCodecs h264 capCodecs enableRtx codecs).map core).Sublist (codecs.map core)
  | [] => List.Sublist.refl _
  | c :: codecs => by
    have ih := consumerCodecs_sublist h264 capCodecs enableRtx codecs
    rw [consumerCodecs, filterMap_cons]
    split
    case h_1 => exact ih.cons _
    case h_2 d hd =>
      rw [map_cons, map_cons]
      have hcore : core d = core c := by
        split at hd
        · cases hd
        · obtain ⟨capCodec, -, rfl⟩ := Option.map_eq_some_iff.mp hd
          rfl
      rw [hcore]
      exact ih.cons_cons _

/-- What is kept of `all`: the media codecs, and RTX codecs that name a codec of `all`, unless they are in `after`. -/
structure Useful (all after kept : List RtpCodecParameters) : Prop where
  sublist : kept.Sublist all
  media : ∀ m ∈ all, isRtxCodec m.any = false → m ∈ kept
  named : ∀ c ∈ kept, isRtxCodec c.any = true → c ∈ after ∨ ∃ m ∈ all, num m.payloadType = c.parameters.get "apt"

theorem Useful.keep {all after kept : List RtpCodecParameters}
    (h : Useful all (codec :: after) kept) (hcodec : isRtxCodec codec.any = true →
      all.any (fun m => num m.payloadType = codec.parameters.get "apt") = true) : Useful all after kept := by
  refine ⟨h.sublist, h.media, fun c hc hrtx => ?_⟩
  rcases h.named c hc hrtx with hafter | hnamed
  · rcases mem_cons.mp hafter with rfl | hafter
    · obtain ⟨m, hm, heq⟩ := any_eq_true.mp (hcodec hrtx)
      exact .inr ⟨m, hm, of_decide_eq_true heq⟩
    · exact .inl hafter
  · exact .inr hnamed

theorem useful_removeUselessRtx : ∀ (before after : List RtpCodecParameters) (s : Bool),
    Useful (before.reverse ++ after) after (removeUselessRtx before after s).1
  | [], after, s => ⟨List.Sublist.refl _, fun m hm _ => hm, fun c hc _ => .inl hc⟩
  | codec :: before, after, s => by
    rw [reverse_cons, append_assoc, singleton_append, removeUselessRtx]
    split
    case isTrue hrtx =>
      split
      case isTrue hfound => exact (useful_removeUselessRtx before (codec :: after) true).keep fun _ => hfound
      case isFalse =>
        have h := useful_removeUselessRtx before after s
        have hshort : (before.reverse ++ after).Sublist (before.reverse ++ codec :: after) :=
          (sublist_cons_self codec after).append_left _
        refine ⟨h.sublist.trans hshort, fun m hm hm' => h.media m ?_ hm', fun c hc hrtx => ?_⟩
        · rcases mem_append.mp hm with hm | hm
          · exact mem_append_left _ hm
          rcases mem_cons.mp hm with rfl | hm
          · rw [hrtx] at hm'
            cases hm'
          · exact mem_append_right _ hm
        · rcases h.named c hc hrtx with hafter | ⟨m, hm, heq⟩
          · exact .inl hafter
          · exact .inr ⟨m, hshort.subset hm, heq⟩
    case isFalse hcodec =>
      exact (useful_removeUselessRtx before (codec :: after) s).keep fun hrtx => absurd hrtx hcodec

theorem WellFormed.removeUselessRtx {codecs matched : List RtpCodecParameters} (h : WellFormed codecs)
    (hsub : (matched.map core).Sublist (codecs.map core)) : WellFormed (removeUselessRtx matched.reverse [] false).1 := by
  obtain ⟨hkept, hmedia, hnamed⟩ := useful_removeUselessRtx matched.reverse [] false
  rw [reverse_reverse, append_nil] at hkept hmedia hnamed
  have hcore := wellFormed_map_core.mpr h
  have hpts : (matched.map (·.payloadType)).Nodup := by
    have := hcore.distinct.sublist (hsub.map _)
    rwa [map_map] at this
  refine ⟨hpts.sublist (hkept.map _), fun c hc hrtx => ?_⟩
  rcases hnamed c hc hrtx with hnil | ⟨m, hm, heq⟩
  · cases hnil
  -- The codec that `c` names has the payload type of a media codec, so it is that one.
  have hcIn : core c ∈ codecs.map core := hsub.subset (mem_map_of_mem (hkept.subset hc))
  obtain ⟨n, hn, hnMedia, hnPt⟩ := hcore.rtx (core c) hcIn hrtx
  have hmIn : core m ∈ codecs.map core := hsub.subset (mem_map_of_mem hm)
  have hpt : m.payloadType = n.payloadType := num.inj (heq.trans hnPt)
  have hsame : core m = n := inj_on_of_nodup_map hcore.distinct hmIn hn hpt
  have hmMedia : isRtxCodec m.any = false := by
    rw [← hsame] at hnMedia
    exact hnMedia
  exact ⟨m, hmedia m hm hmMedia, hmMedia, heq.symm⟩

theorem getConsumerRtpParameters_eq_ok {consumable consumer : RtpParameters} {remote : RtpCapabilities}
    {pipe enableRtx : Bool} {random : Nat → Int}
    (h : getConsumerRtpParameters h264 consumable remote pipe enableRtx random = .ok consumer) :
    ∃ capCodecs exts codecs rtxSupported,
      removeUselessRtx (consumerCodecs h264 capCodecs enableRtx consumable.codecs).reverse [] false = (codecs, rtxSupported) ∧
      consumer.codecs = codecs.map (reduceRtcpFeedback exts) ∧
      consumer.encodings = if pipe then pipeEncodings rtxSupported (random 0) (random 1) consumable.encodings
        else [consumerEncoding consumable.encodings rtxSupported (random 0)] := by
  obtain ⟨remoteCodecs, -, h⟩ := exists_of_bind_eq_ok h
  obtain ⟨capCodecs, -, h⟩ := exists_of_bind_eq_ok h
  dsimp only at h
  split at h
  case isTrue =>
    obtain ⟨capExts, -, h⟩ := exists_of_bind_eq_ok h
    cases h
    exact ⟨capCodecs, _, _, _, rfl, rfl, rfl⟩
  case isFalse => cases h

theorem WellFormed.consumer {consumable consumer : RtpParameters} {remote : RtpCapabilities}
    {pipe enableRtx : Bool} {random : Nat → Int} (hconsumable : WellFormed consumable.codecs)
    (h : getConsumerRtpParameters h264 consumable remote pipe enableRtx random = .ok consumer) :
    WellFormed consumer.codecs := by
  obtain ⟨capCodecs, exts, codecs, rtxSupported, hleft, hcodecs, -⟩ := getConsumerRtpParameters_eq_ok h
  have hkept := hconsumable.removeUselessRtx (consumerCodecs_sublist h264 capCodecs enableRtx consumable.codecs)
  rw [hleft] at hkept
  have hcores : consumer.codecs.map core = codecs.map core := by
    rw [hcodecs, map_map]
    exact map_congr_left fun c _ => core_reduceRtcpFeedback exts c
  rw [← wellFormed_map_core, hcores, wellFormed_map_core]
  exact hkept

/-! ## The result -/

def MatchedApart (h264 : H264) (caps : RtpCapabilities) (codecs : List RtpCodecParameters) : Prop :=
  (codecs.filter isMedia).Pairwise fun a b =>
    firstMatch h264 (caps.codecs.getD []) a ≠ firstMatch h264 (caps.codecs.getD []) b

theorem consumableEncodings_mapping (ssrc : Int) : ∀ encodings : List RtpEncodingParameters,
    ∃ result, consumableEncodings (encodingsMapping ssrc encodings) encodings = .ok result
  | [] => ⟨[], rfl⟩
  | encoding :: encodings => by
    obtain ⟨result, hresult⟩ := consumableEncodings_mapping (ssrc + 1) encodings
    rw [encodingsMapping, consumableEncodings, hresult]
    exact ⟨_, rfl⟩

theorem consumable_of_mapping {capCodecs : List RtpCodecCapability} {exts : List RtpHeaderExtension}
    {params params' : RtpParameters} {random : Int} {rtpMapping : RtpMapping} (kind : MediaKind)
    (hcaps : Distinct capCodecs) (hdistinct : (params.codecs.map (·.payloadType)).Nodup)
    (hmap : getProducerRtpParametersMapping h264 params { codecs := some capCodecs, headerExtensions := some exts } random =
      .ok (rtpMapping, params')) :
    ∃ consumable ks, getConsumableRtpParameters kind params' { codecs := some capCodecs, headerExtensions := some exts }
        rtpMapping = .ok consumable ∧
      Consumable capCodecs ks consumable.codecs ∧
      (params.codecs.filter isMedia).map (firstMatch h264 capCodecs) = ks.map some := by
  unfold getProducerRtpParametersMapping at hmap
  rw [defined_bind rfl] at hmap
  obtain ⟨⟨codecs, media⟩, hmedia, hmap⟩ := exists_of_bind_eq_ok hmap
  obtain ⟨entries, hentries, hmap⟩ := exists_of_bind_eq_ok hmap
  obtain ⟨mappings, hmappings, hmap⟩ := exists_of_bind_eq_ok hmap
  cases hmap
  have hmatched := @matchMediaCodecs_spec h264 capCodecs params.codecs codecs [] media hmedia
  have hpositions := hmatched.positions
  obtain ⟨hsub, hrtx⟩ := @matchRtxCodecs_extends capCodecs codecs codecs [] media entries hentries
  have hresolves : List.Forall₂ (Resolves capCodecs mappings) (codecs.filter isMedia) (media.map (·.2)) := by
    rw [forall₂_map_right_iff]
    refine forall₂_iff_zip.mpr ⟨hpositions.length_eq, fun {c e} hzip => ?_⟩
    obtain ⟨hc, hcap, hisMedia⟩ := forall₂_zip hpositions hzip
    obtain ⟨hcIn, he⟩ := of_mem_zip hzip
    obtain ⟨pt, hpt⟩ := hcaps.assigned e.2 hcap
    have hcMedia : isRtxCodec c.any = false := by simpa [isMedia] using (mem_filter.mp hcIn).2
    exact ⟨_, find_mapping (hmatched.payloadTypes ▸ hdistinct) hmappings hmatched.keys hsub hrtx he hc hcMedia hpt, hpt, hcap, hisMedia⟩
  obtain ⟨cs, hcs, hconsumable⟩ := consumableCodecs_spec hcaps hresolves
  obtain ⟨encodings, hencodings⟩ := consumableEncodings_mapping random params.encodings
  refine ⟨{ codecs := cs
            headerExtensions := consumableHeaderExtensions kind exts
            encodings := encodings
            rtcp := { cname := params.rtcp.cname, reducedSize := some true, mux := some true } },
    media.map (·.2), ?_, hconsumable, ?_⟩
  · unfold getConsumableRtpParameters
    rw [defined_bind rfl, hcs]
    rw [hencodings]
    rfl
  · rw [hmatched.found, map_map]
    rfl

/-- **Payload types.** For a router of `generateRouterRtpCapabilities` and a producer that it accepts, the codecs of the
consumable parameters and of all consumers are well formed exactly if no router codec is the first match of two media codecs.
-/
theorem wellFormed_iff_matchedApart {h264 : H264} {mediaCodecs : List RtpCodecCapability} {caps : RtpCapabilities}
    {params params' : RtpParameters} {random : Int} {rtpMapping : RtpMapping} (kind : MediaKind)
    (hcaps : generateRouterRtpCapabilities h264 mediaCodecs = .ok caps)
    (hdistinct : (params.codecs.map (·.payloadType)).Nodup)
    (hmap : getProducerRtpParametersMapping h264 params caps random = .ok (rtpMapping, params')) :
    (∃ consumable, getConsumableRtpParameters kind params' caps rtpMapping = .ok consumable ∧ WellFormed consumable.codecs ∧
      ∀ remote pipe enableRtx draws consumer,
        getConsumerRtpParameters h264 consumable remote pipe enableRtx draws = .ok consumer → WellFormed consumer.codecs) ↔
    MatchedApart h264 caps params.codecs := by
  obtain ⟨capCodecs, exts, -, rfl, hcapCodecs, -⟩ := exists_of_generate hcaps
  obtain ⟨consumable, ks, hconsumable, hks, hfirst⟩ := consumable_of_mapping kind hcapCodecs hdistinct hmap
  have hapart : ks.Nodup ↔ MatchedApart h264 { codecs := some capCodecs, headerExtensions := some exts } params.codecs := by
    have hsome : (ks.map some).Nodup ↔ ks.Nodup := nodup_map_iff fun _ _ => Option.some.inj
    rw [← hsome, ← hfirst, List.Nodup, pairwise_map]
    rfl
  rw [← hapart, ← hks.wellFormed_iff hcapCodecs]
  constructor
  · rintro ⟨consumable', hconsumable', hwell, -⟩
    rw [hconsumable] at hconsumable'
    cases hconsumable'
    exact hwell
  · intro hwell
    exact ⟨consumable, hconsumable, hwell, fun _ _ _ _ _ h => hwell.consumer h⟩

def noH264 : H264 where
  isSameProfile _ _ := false
  generateProfileLevelIdForAnswer _ _ := none

def vp8Codec (payloadType : Int) : RtpCodecParameters where
  mimeType := "video/VP8"
  payloadType := payloadType
  clockRate := 90000

def vp8RtxCodec (payloadType mediaPt : Int) : RtpCodecParameters where
  mimeType := "video/rtx"
  payloadType := payloadType
  clockRate := 90000
  parameters := [("apt", .num mediaPt)]

def vp8Router : Except OrtcError RtpCapabilities :=
  generateRouterRtpCapabilities noH264 [{ kind := .video, mimeType := "video/VP8", clockRate := 90000 }]

def vp8Consumable (codecs : List RtpCodecParameters) : Except OrtcError (List Int) := do
  let caps ← vp8Router
  let r ← getProducerRtpParametersMapping noH264 { codecs := codecs } caps 1
  let consumable ← getConsumableRtpParameters .video r.2 caps r.1
  return consumable.codecs.map (·.payloadType)

theorem vp8_wellFormed : ∃ caps rtpMapping params' consumable, vp8Router = .ok caps ∧
    getProducerRtpParametersMapping noH264 { codecs := [vp8Codec 96, vp8RtxCodec 97 96] } caps 1 = .ok (rtpMapping, params') ∧
    getConsumableRtpParameters .video params' caps rtpMapping = .ok consumable ∧ WellFormed consumable.codecs := by
  have hrun : vp8Consumable [vp8Codec 96, vp8RtxCodec 97 96] = .ok [100, 101] := by decide +kernel
  obtain ⟨caps, hcaps, hrun⟩ := exists_of_bind_eq_ok hrun
  obtain ⟨⟨rtpMapping, params'⟩, hmap, -⟩ := exists_of_bind_eq_ok hrun
  have hmedia : [vp8Codec 96, vp8RtxCodec 97 96].filter isMedia = [vp8Codec 96] := by decide +kernel
  have hapart : MatchedApart noH264 caps [vp8Codec 96, vp8RtxCodec 97 96] := by
    exact pairwise_singleton _ _
  obtain ⟨consumable, hconsumable, hwell, -⟩ :=
    (wellFormed_iff_matchedApart .video hcaps (by decide) hmap).mpr hapart
  exact ⟨caps, rtpMapping, params', consumable, hcaps, hmap, hconsumable, hwell⟩

theorem twoVP8_collide : ∃ caps rtpMapping params' consumable, vp8Router = .ok caps ∧
    ([vp8Codec 96, vp8Codec 97].map (·.payloadType)).Nodup ∧
    getProducerRtpParametersMapping noH264 { codecs := [vp8Codec 96, vp8Codec 97] } caps 1 = .ok (rtpMapping, params') ∧
    getConsumableRtpParameters .video params' caps rtpMapping = .ok consumable ∧
    consumable.codecs.map (·.payloadType) = [100, 101, 100, 101] ∧ ¬ WellFormed consumable.codecs := by
  have hrun : vp8Consumable [vp8Codec 96, vp8Codec 97] = .ok [100, 101, 100, 101] := by decide +kernel
  obtain ⟨caps, hcaps, hrun⟩ := exists_of_bind_eq_ok hrun
  obtain ⟨⟨rtpMapping, params'⟩, hmap, hrun⟩ := exists_of_bind_eq_ok hrun
  obtain ⟨consumable, hconsumable, hrun⟩ := exists_of_bind_eq_ok hrun
  have hpts : consumable.codecs.map (·.payloadType) = [100, 101, 100, 101] := Except.ok.inj hrun
  refine ⟨caps, rtpMapping, params', consumable, hcaps, by decide, hmap, hconsumable, hpts, fun hwell => ?_⟩
  have hdistinct := hwell.distinct
  rw [hpts] at hdistinct
  exact absurd hdistinct (by decide)

end Mediasoup.Ortc
