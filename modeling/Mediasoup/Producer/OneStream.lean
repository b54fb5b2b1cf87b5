import Mediasoup.Producer.Listener

/-!
# One stream for each encoding

`Producer.Inv` ties the tables of a producer to its streams. A new stream finds its slot free, so that no assertion of
`CreateRtpStream` fails, if the packet is an expected one: its SSRC is not 0, which is how an encoding without SSRC is written,
and it does not announce the RID of an encoding under another SSRC than the encoding's own.
-/

namespace Mediasoup.Rtp

open Lib List Table RtpListener

/-! ## What identifies a stream -/

namespace RtpStreamRecv

structure Later (s s' : RtpStreamRecv) : Prop where
  encodingIdx : s'.params.encodingIdx = s.params.encodingIdx
  ssrc : s'.params.ssrc = s.params.ssrc
  rid : s'.params.rid = s.params.rid
  rtx : s.hasRtx = true → s'.hasRtx = true ∧ s'.params.rtxSsrc = s.params.rtxSsrc

variable {s s' : RtpStreamRecv} {isKeyFrame : List UInt8 → Bool} {t : Trees} {packet : Packet} {nowMs : Nat}
  {requests : List NackRequest}

theorem Later.of_params (hparams : s'.params = s.params) (hrtx : s.hasRtx = true → s'.hasRtx = true) : Later s s' :=
  ⟨by rw [hparams], by rw [hparams], by rw [hparams], fun h => ⟨hrtx h, by rw [hparams]⟩⟩

theorem Later.refl (s : RtpStreamRecv) : Later s s := .of_params rfl id

theorem later_change {rtx : Option RtxStream} (hrtx : rtx.isSome = s.hasRtx) (st : SequenceState) (g : Option NackGenerator)
    (n m : Nat) : Later s (s.change st rtx g n m) := .of_params rfl fun h => hrtx.trans h

theorem later_receivePacket {passed : Bool}
    (h : s.receivePacket isKeyFrame t packet nowMs = .ok (s', passed, requests)) : Later s s' := by
  obtain ⟨-, g', n, rfl, -⟩ := receivePacket_cases h
  exact later_change rfl _ _ _ _

theorem later_receiveRtxPacket {original : Option Packet}
    (h : s.receiveRtxPacket isKeyFrame t packet nowMs = .ok (s', original, requests)) : Later s s' := by
  obtain ⟨st, rtx, g', n, m, rfl, -, hrtx, -⟩ := receiveRtxPacket_cases h
  exact later_change hrtx.isSome _ _ _ _

theorem later_onNackTimer (s : RtpStreamRecv) (nowMs : Nat) : Later s (s.onNackTimer nowMs).1 := by
  obtain ⟨g', hs, -⟩ := onNackTimer_cases s nowMs
  rw [hs]
  exact later_change rfl _ _ _ _

end RtpStreamRecv

namespace Producer

variable {p p' : Producer}

/-! ## The invariant -/

structure Registered (p : Producer) (i : Nat) (s : RtpStreamRecv) : Prop where
  ssrc : p.mapSsrcRtpStream.lookup s.params.ssrc = some i
  slot : p.rtpStreamByEncodingIdx[s.params.encodingIdx]? = some (some i)
  encoding : ∃ e, p.rtpParameters.encodings[s.params.encodingIdx]? = some e ∧ e.rid = s.params.rid ∧
    (e.ssrc ≠ 0 → e.ssrc = s.params.ssrc)
  mapped : ∃ m, p.rtpMapping.encodings[s.params.encodingIdx]? = some m ∧ p.mapRtpStreamMappedSsrc.lookup i = some m.mappedSsrc ∧
    p.mapMappedSsrcSsrc.lookup m.mappedSsrc = some s.params.ssrc

/-- Every stream is registered, and every entry is one of a stream. -/
structure Inv (p : Producer) : Prop where
  mappedSsrcs : (p.rtpMapping.encodings.map RtpEncodingMapping.mappedSsrc).Nodup
  slots : p.rtpStreamByEncodingIdx.length = p.rtpParameters.encodings.length
  registered : ∀ {i : Nat} {s : RtpStreamRecv}, p.streams[i]? = some s → p.Registered i s
  of_ssrc : ∀ {ssrc : UInt32} {i : Nat}, p.mapSsrcRtpStream.lookup ssrc = some i →
    ∃ s : RtpStreamRecv, p.streams[i]? = some s ∧ s.params.ssrc = ssrc
  of_rtxSsrc : ∀ {ssrc : UInt32} {i : Nat}, p.mapRtxSsrcRtpStream.lookup ssrc = some i →
    ∃ s : RtpStreamRecv, p.streams[i]? = some s ∧ s.params.rtxSsrc = ssrc ∧ s.hasRtx = true
  of_slot : ∀ {k i : Nat}, p.rtpStreamByEncodingIdx[k]? = some (some i) →
    ∃ s : RtpStreamRecv, p.streams[i]? = some s ∧ s.params.encodingIdx = k

/-- Each encoding has at most one stream, and the mapped SSRC of a stream leads back to its SSRC. -/
structure Consistent (p : Producer) : Prop where
  one_stream : ∀ (i j : Nat) (s t : RtpStreamRecv), p.streams[i]? = some s → p.streams[j]? = some t →
    s.params.encodingIdx = t.params.encodingIdx → i = j
  own_ssrc : ∀ (i : Nat) (s : RtpStreamRecv), p.streams[i]? = some s →
    ((p.mapRtpStreamMappedSsrc.lookup i).bind fun mappedSsrc => p.mapMappedSsrcSsrc.lookup mappedSsrc) = some s.params.ssrc

theorem Inv.consistent (h : p.Inv) : p.Consistent := by
  constructor
  · intro i j s t hs ht hidx
    have hi := (h.registered hs).slot
    have hj := (h.registered ht).slot
    rw [hidx, hj] at hi
    injection hi with hi
    injection hi with hi
    exact hi.symm
  · intro i s hs
    obtain ⟨m, -, hmapped, hback⟩ := (h.registered hs).mapped
    rw [hmapped, Option.bind_some, hback]

theorem map_mappedSsrc {mid : String} {count : Nat} : ∀ {ds : List EncodingMappingData} {ms : List RtpEncodingMapping},
    ds.mapM (createEncodingMapping mid count) = .ok ms →
    ms.map RtpEncodingMapping.mappedSsrc = ds.map EncodingMappingData.mappedSsrc
  | [], _, h => by
    cases h
    rfl
  | d :: ds, _, h => by
    rw [mapM_cons] at h
    obtain ⟨m, hm, h⟩ := exists_of_bind_eq_ok h
    obtain ⟨ms, hms, h⟩ := exists_of_bind_eq_ok h
    cases h
    rw [map_cons, map_cons, map_mappedSsrc hms]
    unfold createEncodingMapping at hm
    split at hm
    · cases hm
    split at hm
    · cases hm
    · cases hm
      rfl

theorem mappedSsrc_of_create {d : ProducerData} {config : ProducerConfig} (h : ProducerConfig.create d = .ok config) :
    config.rtpMapping.encodings.map RtpEncodingMapping.mappedSsrc = d.encodings.map EncodingMappingData.mappedSsrc := by
  obtain ⟨r, -, h⟩ := exists_of_bind_eq_ok h
  dsimp only at h
  split at h
  · cases h
  obtain ⟨encodings, hencodings, h⟩ := exists_of_bind_eq_ok h
  split at h
  · split at h
    · cases h
    · cases h
      exact map_mappedSsrc hencodings
  · cases h

theorem inv_create {d : ProducerData} (hd : (d.encodings.map EncodingMappingData.mappedSsrc).Nodup)
    (h : Producer.create d = .ok p) : p.Inv := by
  obtain ⟨config, hconfig, h⟩ := exists_of_bind_eq_ok h
  cases h
  refine ⟨?_, ?_, ?_, ?_, ?_, ?_⟩
  · rw [rtpMapping, mappedSsrc_of_create hconfig]
    exact hd
  · rw [length_replicate]
  · intro i s hs
    cases hs
  · intro ssrc i hi
    cases hi
  · intro ssrc i hi
    cases hi
  · intro k i hi
    have := eq_of_mem_replicate (mem_of_getElem? hi)
    cases this

/-! ## Changes of streams -/

theorem Inv.of_later (h : p.Inv) (paused : Bool) {streams : List RtpStreamRecv}
    (hfwd : ∀ (i : Nat) (s : RtpStreamRecv), p.streams[i]? = some s → ∃ s', streams[i]? = some s' ∧ s.Later s')
    (hbwd : ∀ (i : Nat) (s' : RtpStreamRecv), streams[i]? = some s' → ∃ s, p.streams[i]? = some s ∧ s.Later s') :
    { p with streams := streams, paused := paused }.Inv := by
  refine ⟨h.mappedSsrcs, h.slots, ?_, ?_, ?_, ?_⟩
  · intro i s' hs'
    obtain ⟨s, hs, hlater⟩ := hbwd i s' hs'
    obtain ⟨hssrc, hslot, hencoding, hmapped⟩ := h.registered hs
    rw [← hlater.ssrc, ← hlater.encodingIdx, ← hlater.rid] at *
    exact ⟨hssrc, hslot, hencoding, hmapped⟩
  · intro ssrc i hi
    obtain ⟨s, hs, rfl⟩ := h.of_ssrc hi
    obtain ⟨s', hs', hlater⟩ := hfwd i s hs
    exact ⟨s', hs', hlater.ssrc⟩
  · intro ssrc i hi
    obtain ⟨s, hs, rfl, hrtx⟩ := h.of_rtxSsrc hi
    obtain ⟨s', hs', hlater⟩ := hfwd i s hs
    exact ⟨s', hs', (hlater.rtx hrtx).2, (hlater.rtx hrtx).1⟩
  · intro k i hi
    obtain ⟨s, hs, rfl⟩ := h.of_slot hi
    obtain ⟨s', hs', hlater⟩ := hfwd i s hs
    exact ⟨s', hs', hlater.encodingIdx⟩

variable {i : Nat} {s : RtpStreamRecv}

theorem getElem?_modifyStream (hs : p.streams[i]? = some s)
    (f : RtpStreamRecv → RtpStreamRecv) : (p.modifyStream i f).streams[i]? = some (f s) := by
  simp [modifyStream, hs]

theorem Inv.modifyStream (h : p.Inv) {f : RtpStreamRecv → RtpStreamRecv}
    (hf : ∀ s, p.streams[i]? = some s → s.Later (f s)) : (p.modifyStream i f).Inv := by
  have hget : ∀ j, (p.streams.modify i f)[j]? = if i = j then p.streams[j]?.map f else p.streams[j]? := by
    intro j
    rw [List.getElem?_modify]
    split <;> simp
  apply h.of_later p.paused
  · intro j s hs
    rw [hget]
    split
    · rename_i hij
      subst hij
      exact ⟨f s, by rw [hs, Option.map_some], hf s hs⟩
    · exact ⟨s, hs, .refl s⟩
  · intro j s' hs'
    rw [hget] at hs'
    split at hs'
    · rename_i hij
      subst hij
      obtain ⟨s, hs, rfl⟩ := Option.map_eq_some_iff.mp hs'
      exact ⟨s, hs, hf s hs⟩
    · exact ⟨s', hs', .refl s'⟩

theorem Inv.pause (h : p.Inv) : p.pause.Inv := by
  unfold Producer.pause
  split
  · exact h
  apply h.of_later true
  · intro i s hs
    exact ⟨s.pause, by rw [List.getElem?_map, hs, Option.map_some], .of_params rfl fun hrtx => hrtx⟩
  · intro i s' hs'
    rw [List.getElem?_map] at hs'
    obtain ⟨s, hs, rfl⟩ := Option.map_eq_some_iff.mp hs'
    exact ⟨s, hs, .of_params rfl fun hrtx => hrtx⟩

theorem Inv.resume (h : p.Inv) : p.resume.Inv :=
  h.of_later false (fun _ s hs => ⟨s, hs, .refl s⟩) fun _ s hs => ⟨s, hs, .refl s⟩

variable {packet : Packet}

theorem Inv.attachRtx (h : p.Inv) (hs : p.streams[i]? = some s)
    (hrtx : s.hasRtx = false) : (p.attachRtx packet i).Inv := by
  have hlater : ∀ s', p.streams[i]? = some s' → s'.Later (s'.setRtx packet.payloadType packet.ssrc) := by
    intro s' hs'
    obtain rfl : s = s' := Option.some.inj (hs.symm.trans hs')
    refine ⟨rfl, rfl, rfl, fun hrtx' => ?_⟩
    rw [hrtx] at hrtx'
    cases hrtx'
  have hm := h.modifyStream hlater
  refine ⟨hm.mappedSsrcs, hm.slots, ?_, hm.of_ssrc, ?_, hm.of_slot⟩
  · intro j s' hs'
    obtain ⟨hssrc, hslot, hencoding, hmapped⟩ := hm.registered hs'
    exact ⟨hssrc, hslot, hencoding, hmapped⟩
  · intro ssrc j hj
    rcases lookup_insert_iff.mp hj with ⟨rfl, rfl⟩ | ⟨-, hj⟩
    · exact ⟨s.setRtx packet.payloadType packet.ssrc, getElem?_modifyStream hs _, rfl, rfl⟩
    · exact hm.of_rtxSsrc hj

/-! ## New streams -/

structure Free (p : Producer) (packet : Packet) (k : Nat) : Prop where
  ssrc : p.mapSsrcRtpStream.lookup packet.ssrc = none
  slot : p.rtpStreamByEncodingIdx[k]? = some none
  encoding : ∃ e, p.rtpParameters.encodings[k]? = some e ∧ (e.ssrc ≠ 0 → e.ssrc = packet.ssrc)

variable {α : Type}

theorem getElem?_concat {l : List α} {a b : α} (h : (l ++ [a])[i]? = some b) : l[i]? = some b ∨ (i = l.length ∧ a = b) := by
  by_cases hi : i < l.length
  · rw [List.getElem?_append_left hi] at h
    exact .inl h
  rw [List.getElem?_append_right (by omega)] at h
  obtain ⟨hlt, hget⟩ := List.getElem?_eq_some_iff.mp h
  rw [length_singleton] at hlt
  exact .inr ⟨by omega, by simpa using hget⟩

theorem getElem?_append_of_some {l : List α} {b : α} (h : l[i]? = some b) (l' : List α) : (l ++ l')[i]? = some b := by
  rw [List.getElem?_append_left (List.getElem?_eq_some_iff.mp h).1, h]

theorem Inv.addStream (h : p.Inv) {m : RtpEncodingMapping}
    (hssrc : p.mapSsrcRtpStream.lookup s.params.ssrc = none)
    (hslot : p.rtpStreamByEncodingIdx[s.params.encodingIdx]? = some none)
    (hencoding : ∃ e, p.rtpParameters.encodings[s.params.encodingIdx]? = some e ∧ e.rid = s.params.rid ∧
      (e.ssrc ≠ 0 → e.ssrc = s.params.ssrc))
    (hm : p.rtpMapping.encodings[s.params.encodingIdx]? = some m) : (p.addStream s m.mappedSsrc).Inv := by
  have hlt := (List.getElem?_eq_some_iff.mp hslot).1
  -- another stream has another slot
  have hother : ∀ {i : Nat} {s' : RtpStreamRecv}, p.streams[i]? = some s' → s.params.encodingIdx ≠ s'.params.encodingIdx := by
    intro i s' hs' heq
    have hslot' := (h.registered hs').slot
    rw [← heq, hslot] at hslot'
    cases hslot'
  refine ⟨h.mappedSsrcs, ?_, ?_, ?_, ?_, ?_⟩
  · show (p.rtpStreamByEncodingIdx.set _ _).length = _
    rw [length_set]
    exact h.slots
  · intro i s' hs'
    rcases getElem?_concat hs' with hs' | ⟨rfl, rfl⟩
    · obtain ⟨hssrc', hslot', hencoding', m', hm', hmapped, hback⟩ := h.registered hs'
      refine ⟨lookup_insert_of_fresh hssrc hssrc', ?_, hencoding', m', hm', ?_, ?_⟩
      · show (p.rtpStreamByEncodingIdx.set _ _)[_]? = _
        rw [List.getElem?_set_ne (hother hs')]
        exact hslot'
      · refine lookup_insert_iff.mpr (.inr ⟨?_, hmapped⟩)
        exact (List.getElem?_eq_some_iff.mp hs').1.ne
      · refine lookup_insert_iff.mpr (.inr ⟨fun heq => ?_, hback⟩)
        -- no two encodings have the same mapped SSRC
        have hlen : s.params.encodingIdx < (p.rtpMapping.encodings.map RtpEncodingMapping.mappedSsrc).length := by
          rw [length_map]
          exact (List.getElem?_eq_some_iff.mp hm).1
        refine hother hs' ((List.getElem?_inj hlen h.mappedSsrcs).mp ?_)
        rw [List.getElem?_map, List.getElem?_map, hm, hm', Option.map_some, Option.map_some, heq]
    · refine ⟨AList.lookup_insert _, ?_, hencoding, m, hm, AList.lookup_insert _, AList.lookup_insert _⟩
      show (p.rtpStreamByEncodingIdx.set _ _)[_]? = _
      rw [List.getElem?_set_self hlt]
  · intro ssrc i hi
    rcases lookup_insert_iff.mp hi with ⟨rfl, rfl⟩ | ⟨-, hi⟩
    · exact ⟨s, List.getElem?_concat_length, rfl⟩
    · obtain ⟨s', hs', rfl⟩ := h.of_ssrc hi
      exact ⟨s', getElem?_append_of_some hs' _, rfl⟩
  · intro ssrc i hi
    obtain ⟨s', hs', hrtx⟩ := h.of_rtxSsrc hi
    exact ⟨s', getElem?_append_of_some hs' _, hrtx⟩
  · intro k i hi
    by_cases hk : s.params.encodingIdx = k
    · subst hk
      change (p.rtpStreamByEncodingIdx.set _ _)[_]? = _ at hi
      rw [List.getElem?_set_self hlt] at hi
      cases hi
      exact ⟨s, List.getElem?_concat_length, rfl⟩
    change (p.rtpStreamByEncodingIdx.set _ _)[_]? = _ at hi
    rw [List.getElem?_set_ne hk] at hi
    obtain ⟨s', hs', rfl⟩ := h.of_slot hi
    exact ⟨s', getElem?_append_of_some hs' _, rfl⟩

/-! ## Lookups -/

def Known (p : Producer) (packet : Packet) : Prop :=
  (p.mapSsrcRtpStream.lookup packet.ssrc).isSome = true ∨ (p.mapRtxSsrcRtpStream.lookup packet.ssrc).isSome = true

/-- The packet has a SSRC other than 0, and a media packet with the RID of an encoding that has a SSRC has that SSRC. -/
def Announced (p : Producer) (r : Received) : Prop :=
  r.packet.ssrc ≠ 0 ∧ ∀ e ∈ p.rtpParameters.encodings, r.readRid = some e.rid →
    e.codecPayloadType = r.packet.payloadType → e.ssrc ≠ 0 → e.ssrc = r.packet.ssrc

def Expected (p : Producer) (r : Received) : Prop := p.Known r.packet ∨ p.Announced r

instance (p : Producer) (r : Received) : Decidable (p.Expected r) :=
  inferInstanceAs (Decidable ((_ ∨ _) ∨ (_ ∧ ∀ e ∈ p.rtpParameters.encodings, _ → _ → _ → _)))

def Foreign (f : ProducerFault) : Prop := f = .keyDoesNotExist ∨ ∃ g, f = .stream g

/-- What a lookup promises to the rest of `GetRtpStream`. -/
def Promises (p : Producer) (packet : Packet) : Lookup → Prop
  | .found i => ∃ s : RtpStreamRecv, p.streams[i]? = some s ∧ (packet.ssrc = s.params.ssrc ∨ packet.ssrc = s.params.rtxSsrc)
  | .create _ k => p.Free packet k
  | .attachRtx i => ∃ s : RtpStreamRecv, p.streams[i]? = some s ∧ s.hasRtx = false
  | .ignore => True

variable {r : Received}

theorem getCodecForEncoding_payloadType (r : RtpParameters) (e : r.Encoding) :
    (r.getCodecForEncoding e).payloadType = e.1.codecPayloadType := by
  have hfind : findCodec r.codecs e.1 = some (r.getCodecForEncoding e) := (Option.some_get _).symm
  simpa using List.find?_some hfind

theorem getRtxCodec_ends (payloadType : UInt8) : ∀ codecs : List RtpCodecParameters,
    Ends (fun _ => True) Foreign (getRtxCodec payloadType codecs)
  | [] => trivial
  | codec :: rest => by
    unfold getRtxCodec
    split
    · split
      · exact .inl rfl
      · split
        · trivial
        · exact getRtxCodec_ends payloadType rest
    · exact getRtxCodec_ends payloadType rest

theorem matchPacket_ends (r : RtpParameters) (e : r.Encoding) (payloadType : UInt8) :
    Ends (fun m => m.isMediaPacket = true → e.1.codecPayloadType = payloadType) Foreign (r.matchPacket e payloadType) := by
  apply (getRtxCodec_ends _ _).bind
  intro rtxCodec _ hmedia
  rw [← getCodecForEncoding_payloadType]
  exact eq_of_beq hmedia

theorem Inv.slot_free (h : p.Inv) {k : Nat} {e : RtpEncodingParameters} (hk : p.rtpParameters.encodings[k]? = some e)
    (hno : ∀ (i : Nat) (s : RtpStreamRecv), p.streams[i]? = some s → s.params.encodingIdx ≠ k) :
    p.rtpStreamByEncodingIdx[k]? = some none := by
  have hlt : k < p.rtpStreamByEncodingIdx.length := by
    rw [h.slots]
    exact (List.getElem?_eq_some_iff.mp hk).1
  rw [List.getElem?_eq_getElem hlt]
  cases hslot : p.rtpStreamByEncodingIdx[k] with
  | none => rfl
  | some i =>
    obtain ⟨s, hs, hidx⟩ := h.of_slot (List.getElem?_eq_some_iff.mpr ⟨hlt, hslot⟩)
    exact absurd hidx (hno i s hs)

theorem Inv.promises_attachOrIgnore (h : p.Inv) {ssrc : UInt32}
    (hi : p.mapSsrcRtpStream.lookup ssrc = some i) : p.Promises packet (p.attachOrIgnore i) := by
  obtain ⟨s, hs, -⟩ := h.of_ssrc hi
  unfold attachOrIgnore
  split
  · trivial
  · rename_i hrtx
    refine ⟨s, hs, ?_⟩
    simpa [hasRtx, hs] using hrtx

theorem Inv.ssrcLookup_ends (h : p.Inv) (hunknown : p.mapSsrcRtpStream.lookup r.packet.ssrc = none)
    (hne : r.packet.ssrc ≠ 0) : ∀ {l : List (p.rtpParameters.Encoding × Nat)},
    (∀ x ∈ l, x ∈ p.rtpParameters.indexedEncodings) →
    Ends (fun found => ∀ x, found = some x → p.Promises r.packet x) Foreign (p.ssrcLookup r.packet l)
  | [], _ => by
    rintro _ ⟨⟩
  | (encoding, k) :: rest, hl => by
    apply (matchPacket_ends _ _ _).bind
    intro m _
    have hk := RtpParameters.getElem?_of_mem_indexedEncodings (hl _ mem_cons_self)
    split
    · rename_i hmatch
      rintro _ ⟨⟩
      have hssrc : encoding.1.ssrc = r.packet.ssrc := by simpa using (Bool.and_eq_true_iff.mp hmatch).2
      refine ⟨hunknown, h.slot_free hk ?_, encoding.1, hk, fun _ => hssrc⟩
      rintro i s hs rfl
      obtain ⟨hreg, -, ⟨e, he, -, hown⟩, -⟩ := h.registered hs
      obtain rfl : encoding.1 = e := Option.some.inj (hk.symm.trans he)
      rw [← hown (hssrc ▸ hne), hssrc, hunknown] at hreg
      cases hreg
    · split
      · cases hlookup : p.mapSsrcRtpStream.lookup encoding.1.ssrc with
        | none =>
          rintro _ ⟨⟩
          trivial
        | some i =>
          rintro _ ⟨⟩
          exact h.promises_attachOrIgnore hlookup
      · exact h.ssrcLookup_ends hunknown hne fun x hx => hl x (mem_cons_of_mem _ hx)

theorem Inv.ridLookup_ends (h : p.Inv) (hunknown : p.mapSsrcRtpStream.lookup r.packet.ssrc = none)
    (hannounced : p.Announced r) {rid : String} (hrid : r.readRid = some rid) :
    ∀ {l : List (p.rtpParameters.Encoding × Nat)}, (∀ x ∈ l, x ∈ p.rtpParameters.indexedEncodings) →
    Ends (p.Promises r.packet) Foreign (p.ridLookup r.packet rid r.order l)
  | [], _ => trivial
  | (encoding, k) :: rest, hl => by
    have hrest : Ends (p.Promises r.packet) Foreign (p.ridLookup r.packet rid r.order rest) :=
      h.ridLookup_ends hunknown hannounced hrid fun x hx => hl x (mem_cons_of_mem _ hx)
    have hk := RtpParameters.getElem?_of_mem_indexedEncodings (hl _ mem_cons_self)
    unfold ridLookup
    split
    · exact hrest
    rename_i hsame
    rw [not_not] at hsame
    apply (matchPacket_ends _ _ _).bind
    intro m hmedia
    cases hfind : (p.mapSsrcRtpStream.walk r.order).find? (p.hasRid rid) with
    | none =>
      split
      · rename_i hm
        have hown : encoding.1.ssrc ≠ 0 → encoding.1.ssrc = r.packet.ssrc :=
          hannounced.2 encoding.1 encoding.2 (by rw [hrid, hsame]) (hmedia hm)
        refine ⟨hunknown, h.slot_free hk ?_, encoding.1, hk, hown⟩
        rintro i s hs rfl
        obtain ⟨hreg, -, ⟨e, he, hrid', -⟩, -⟩ := h.registered hs
        obtain rfl : encoding.1 = e := Option.some.inj (hk.symm.trans he)
        have hwalk : i ∈ p.mapSsrcRtpStream.walk r.order := mem_walk.mpr ⟨_, hreg⟩
        apply List.find?_eq_none.mp hfind i hwalk
        simp [hasRid, hs, ← hrid', hsame]
      · split
        · trivial
        · exact hrest
    | some i =>
      obtain ⟨ssrc, hlookup⟩ := mem_walk.mp (mem_of_find?_eq_some hfind)
      split
      · trivial
      · split
        · exact h.promises_attachOrIgnore hlookup
        · exact hrest

theorem Inv.singleStreamLookup_ends (h : p.Inv) (hunknown : p.mapSsrcRtpStream.lookup r.packet.ssrc = none) :
    Ends (p.Promises r.packet) Foreign (p.singleStreamLookup r.packet r.order) := by
  unfold singleStreamLookup
  dsimp only
  split
  · rename_i hsingle
    obtain ⟨hlen, hssrc, -⟩ := hsingle
    apply (matchPacket_ends _ _ _).bind
    intro m hmedia
    cases hfirst : (p.mapSsrcRtpStream.walk r.order).head? with
    | none =>
      have hnil := List.head?_eq_none_iff.mp hfirst
      have hk : p.rtpParameters.encodings[0]? = some p.rtpParameters.firstEncoding.1 := by
        rw [← List.head?_eq_getElem?]
        exact List.head?_eq_some_head _
      split
      · refine ⟨hunknown, h.slot_free hk ?_, _, hk, fun hne => absurd hssrc hne⟩
        intro i s hs _
        have hwalk : i ∈ p.mapSsrcRtpStream.walk r.order := mem_walk.mpr ⟨_, (h.registered hs).ssrc⟩
        simp [hnil] at hwalk
      · split <;> trivial
    | some i =>
      obtain ⟨ssrc, hlookup⟩ := mem_walk.mp (mem_of_head? hfirst)
      split
      · trivial
      · split
        · exact h.promises_attachOrIgnore hlookup
        · trivial
  · trivial

theorem Inv.lookup_ends (h : p.Inv) (hexp : p.Expected r) : Ends (p.Promises r.packet) Foreign (p.lookup r) := by
  unfold Producer.lookup
  cases hssrc : p.mapSsrcRtpStream.lookup r.packet.ssrc with
  | some i =>
    obtain ⟨s, hs, hown⟩ := h.of_ssrc hssrc
    exact ⟨s, hs, .inl hown.symm⟩
  | none =>
    cases hrtx : p.mapRtxSsrcRtpStream.lookup r.packet.ssrc with
    | some i =>
      obtain ⟨s, hs, hown, -⟩ := h.of_rtxSsrc hrtx
      exact ⟨s, hs, .inr hown.symm⟩
    | none =>
      have hannounced : p.Announced r := by
        rcases hexp with (hknown | hknown) | hannounced
        · simp [hssrc] at hknown
        · simp [hrtx] at hknown
        · exact hannounced
      apply (h.ssrcLookup_ends hssrc hannounced.1 fun _ hx => hx).bind
      intro found hfound
      cases found with
      | some l => exact hfound l rfl
      | none =>
        cases hrid : r.readRid with
        | some rid => exact h.ridLookup_ends hssrc hannounced hrid fun _ hx => hx
        | none => exact h.singleStreamLookup_ends hssrc

/-! ## Reception -/

theorem Inv.createRtpStream_ends (h : p.Inv) {mediaCodec : RtpCodecParameters} {k : Nat}
    (hfree : p.Free packet k) :
    Ends (fun x => x.1.Inv ∧ ∃ s : RtpStreamRecv, x.1.streams[x.2]? = some s ∧ packet.ssrc = s.params.ssrc) Foreign
      (p.createRtpStream packet mediaCodec k) := by
  obtain ⟨e, hk, hown⟩ := hfree.encoding
  unfold createRtpStream
  rw [if_neg (by rw [hfree.ssrc]; simp), if_neg (by rw [hfree.slot]; simp)]
  have hlt : k < p.rtpMapping.encodings.length := by
    rw [p.config.sizes]
    exact (List.getElem?_eq_some_iff.mp hk).1
  have hm := List.getElem?_eq_getElem hlt
  rw [hm]
  -- a stream that is paused has the same parameters
  have hparams : ∀ stream : RtpStreamRecv, (if p.paused then stream.pause else stream).params = stream.params := by
    intro stream
    split <;> rfl
  dsimp only
  generalize hstream : (if p.paused then _ else _ : RtpStreamRecv) = stream
  have hp : stream.params = p.streamParams packet mediaCodec k := by
    rw [← hstream, hparams]
    rfl
  refine ⟨?_, stream, List.getElem?_concat_length, by rw [hp]; rfl⟩
  apply h.addStream
  · rw [hp]
    exact hfree.ssrc
  · rw [hp]
    exact hfree.slot
  · rw [hp]
    exact ⟨e, hk, by simp [streamParams, hk], hown⟩
  · rw [hp]
    exact hm

def HasStream (p : Producer) (packet : Packet) (i : Nat) : Prop :=
  ∃ s : RtpStreamRecv, p.streams[i]? = some s ∧ (packet.ssrc = s.params.ssrc ∨ packet.ssrc = s.params.rtxSsrc)

theorem Inv.getRtpStream_ends (h : p.Inv) (hexp : p.Expected r) :
    Ends (fun x => x.1.Inv ∧ ∀ i, x.2 = some i → x.1.HasStream r.packet i) Foreign (p.getRtpStream r) := by
  apply (h.lookup_ends hexp).bind
  intro l hl
  cases l with
  | found i =>
    refine ⟨h, ?_⟩
    rintro _ ⟨⟩
    exact hl
  | create mediaCodec k =>
    apply (h.createRtpStream_ends hl).bind
    rintro ⟨p', i⟩ ⟨hinv, s, hs, hssrc⟩
    refine ⟨hinv, ?_⟩
    rintro _ ⟨⟩
    exact ⟨s, hs, .inl hssrc⟩
  | attachRtx i =>
    obtain ⟨s, hs, hrtx⟩ := hl
    refine ⟨h.attachRtx hs hrtx, ?_⟩
    rintro _ ⟨⟩
    exact ⟨s.setRtx r.packet.payloadType r.packet.ssrc, getElem?_modifyStream hs _, .inr rfl⟩
  | ignore =>
    refine ⟨h, ?_⟩
    rintro _ ⟨⟩

theorem Inv.handOn_ends (h : p.Inv) (hs : p.streams[i]? = some s) (packet : Packet)
    (result : ReceiveRtpPacketResult) : Ends (fun x => x.1.Inv) Foreign (p.handOn i packet result) := by
  obtain ⟨m, -, hmapped, -⟩ := (h.registered hs).mapped
  have hmangle : Ends (fun _ => True) Foreign (p.mangleRtpPacket i packet) := by
    unfold mangleRtpPacket
    rw [hmapped]
    split <;> trivial
  unfold handOn
  split
  · exact h
  apply hmangle.bind
  intro mangled _
  cases mangled with
  | none => exact h
  | some packet => exact h

theorem liftFault_ends {P : α → Prop} {x : Except Fault α} (h : ∀ a, x = .ok a → P a) : Ends P Foreign (liftFault x) := by
  cases x with
  | ok a => exact h a rfl
  | error f => exact .inr ⟨f, rfl⟩

theorem Inv.setStream (h : p.Inv) {s s' : RtpStreamRecv} (hs : p.streams[i]? = some s) (hlater : s.Later s') :
    (p.modifyStream i fun _ => s').Inv ∧ (p.modifyStream i fun _ => s').streams[i]? = some s' := by
  constructor
  · apply h.modifyStream
    intro s0 hs0
    obtain rfl : s = s0 := Option.some.inj (hs.symm.trans hs0)
    exact hlater
  · exact getElem?_modifyStream hs _

theorem Inv.receiveOnStream_ends (isKeyFrame : List UInt8 → Bool) (h : p.Inv) (hi : p.HasStream r.packet i) :
    Ends (fun x => x.1.Inv) Foreign (p.receiveOnStream isKeyFrame i r) := by
  obtain ⟨s, hs, hssrc⟩ := hi
  unfold receiveOnStream
  rw [hs]
  dsimp only
  by_cases hmedia : r.packet.ssrc = s.params.ssrc
  · rw [if_pos hmedia]
    have hlater : Ends (fun x => s.Later x.1) Foreign
        (liftFault (s.receivePacket isKeyFrame r.trees r.packet r.nowMs)) :=
      liftFault_ends fun _ ha => RtpStreamRecv.later_receivePacket ha
    apply hlater.bind
    rintro ⟨s', passed, requests⟩ hs'
    obtain ⟨hinv, hget⟩ := h.setStream hs hs'
    cases passed with
    | true => exact hinv.handOn_ends hget _ _
    | false => exact hinv
  · rw [if_neg hmedia, if_pos (hssrc.resolve_left hmedia)]
    have hlater : Ends (fun x => s.Later x.1) Foreign
        (liftFault (s.receiveRtxPacket isKeyFrame r.trees r.packet r.nowMs)) :=
      liftFault_ends fun _ ha => RtpStreamRecv.later_receiveRtxPacket ha
    apply hlater.bind
    rintro ⟨s', original, requests⟩ hs'
    obtain ⟨hinv, hget⟩ := h.setStream hs hs'
    cases original with
    | some original => exact hinv.handOn_ends hget _ _
    | none => exact hinv

theorem Inv.receiveRtpPacket_ends (isKeyFrame : List UInt8 → Bool) (h : p.Inv) (hexp : p.Expected r) :
    Ends (fun x => x.1.Inv) Foreign (p.receiveRtpPacket isKeyFrame r) := by
  apply (h.getRtpStream_ends hexp).bind
  rintro ⟨p', stream⟩ ⟨hinv, hstream⟩
  cases stream with
  | none => exact hinv
  | some i => exact hinv.receiveOnStream_ends isKeyFrame (hstream i rfl)

end Producer

/-! ## Runs of a transport -/

namespace Transport

def producerOf (t : Transport) (r : Received) : Option Producer :=
  (t.rtpListener.getProducer r).1.bind fun id => t.mapProducers.lookup id

/-- New producers have distinct mapped SSRCs, and packets are expected by their producer. -/
def Orderly (t : Transport) : TransportEvent → Prop
  | .produce _ d _ => (d.encodings.map EncodingMappingData.mappedSsrc).Nodup
  | .packet r => ∀ p ∈ t.producerOf r, p.Expected r
  | _ => True

def Consistent (t : Transport) : Prop := ∀ id p, t.mapProducers.lookup id = some p → p.Consistent

/-- The listener refers to producers of the transport, which all have their invariant. -/
structure Inv (t : Transport) : Prop where
  listener : t.rtpListener.OwnedBy fun id => id ∈ t.mapProducers
  producers : ∀ {id p}, t.mapProducers.lookup id = some p → p.Inv

variable {t : Transport} {id : String}

theorem inv_empty : Inv {} := by
  refine ⟨⟨?_, ?_, ?_⟩, ?_⟩
  all_goals
    intro k v hk
    cases hk

theorem Inv.insert (h : t.Inv) {l : RtpListener} {p : Producer} (hl : l.OwnedBy fun k => k = id ∨ k ∈ t.mapProducers)
    (hp : p.Inv) : Inv { rtpListener := l, mapProducers := t.mapProducers.insert id p } := by
  refine ⟨hl.mono fun k hk => (AList.mem_insert t.mapProducers).mpr hk, ?_⟩
  intro k q hk
  rcases lookup_insert_iff.mp hk with ⟨-, rfl⟩ | ⟨-, hk⟩
  · exact hp
  · exact h.producers hk

theorem Inv.modifyProducer (h : t.Inv) {f : Producer → Producer} (hf : ∀ p, p.Inv → (f p).Inv) :
    (t.modifyProducer id f).Inv := by
  unfold Transport.modifyProducer
  cases hp : t.mapProducers.lookup id with
  | none => exact h
  | some p => exact h.insert (h.listener.mono fun _ hk => .inr hk) (hf p (h.producers hp))

theorem Inv.produce (h : t.Inv) {d : ProducerData} (hd : (d.encodings.map EncodingMappingData.mappedSsrc).Nodup)
    (accepted : Bool) : (t.produce id d accepted).Inv := by
  unfold Transport.produce
  split
  · exact h
  cases hp : Producer.create d with
  | error e => exact h
  | ok p =>
    have hlistener : t.rtpListener.OwnedBy fun k => k = id ∨ k ∈ t.mapProducers := h.listener.mono fun _ hk => .inr hk
    have hadded := added_addProducer hlistener (.inl rfl) p.rtpParameters
    dsimp only
    generalize t.rtpListener.addProducer id p.rtpParameters = added at hadded
    -- what is left of the new producer is removed
    have hold : ∀ k, (k = id ∨ k ∈ t.mapProducers) ∧ k ≠ id → k ∈ t.mapProducers := fun k hk => hk.1.resolve_left hk.2
    cases added with
    | error e => exact ⟨RtpListener.OwnedBy.mono hadded hold, h.producers⟩
    | ok l =>
      dsimp only
      split
      · exact h.insert hadded (Producer.inv_create hd hp)
      · exact ⟨(ownedBy_removeProducer hadded).mono hold, h.producers⟩

theorem Inv.closeProducer (h : t.Inv) : (t.closeProducer id).Inv := by
  refine ⟨(ownedBy_removeProducer h.listener).mono fun k hk => AList.mem_erase.mpr ⟨hk.2, hk.1⟩, ?_⟩
  intro k p hk
  by_cases hid : k = id
  · subst hid
    simp [Transport.closeProducer, AList.lookup_erase] at hk
  · rw [Transport.closeProducer, AList.lookup_erase_ne hid] at hk
    exact h.producers hk

theorem Inv.receiveRtpPacket_ends (isKeyFrame : List UInt8 → Bool) (h : t.Inv) {r : Received} (horderly : t.Orderly (.packet r)) :
    Ends Inv Producer.Foreign (t.receiveRtpPacket isKeyFrame r) := by
  obtain ⟨howner, hlistener⟩ := ownedBy_getProducer h.listener r
  have hexp : ∀ id p, (t.rtpListener.getProducer r).1 = some id → t.mapProducers.lookup id = some p → p.Expected r := by
    intro id p hid hp
    apply horderly p
    rw [producerOf, hid]
    exact hp
  unfold Transport.receiveRtpPacket
  generalize t.rtpListener.getProducer r = found at howner hlistener hexp ⊢
  obtain ⟨producer, l⟩ := found
  cases producer with
  | none => exact ⟨hlistener, h.producers⟩
  | some id =>
    obtain ⟨p, hp⟩ := Option.isSome_iff_exists.mp (AList.lookup_isSome.mpr (howner id rfl))
    simp only [hp]
    apply ((h.producers hp).receiveRtpPacket_ends isKeyFrame (hexp id p rfl hp)).bind
    intro x hx
    exact h.insert (hlistener.mono fun _ hk => .inr hk) hx

theorem Inv.step_ends (isKeyFrame : List UInt8 → Bool) (h : t.Inv) {e : TransportEvent} (horderly : t.Orderly e) :
    Ends Inv Producer.Foreign (t.step isKeyFrame e) := by
  cases e with
  | produce id d accepted => exact h.produce horderly accepted
  | closeProducer id => exact h.closeProducer
  | pauseProducer id => exact h.modifyProducer fun _ hp => hp.pause
  | resumeProducer id => exact h.modifyProducer fun _ hp => hp.resume
  | packet r => exact h.receiveRtpPacket_ends isKeyFrame horderly
  | nackTimer id stream nowMs =>
    exact h.modifyProducer fun _ hp => hp.modifyStream fun s _ => RtpStreamRecv.later_onNackTimer s nowMs
  | rtt id stream rtt =>
    exact h.modifyProducer fun _ hp => hp.modifyStream fun s _ => .of_params rfl fun hrtx => hrtx

theorem Inv.consistent (h : t.Inv) : t.Consistent := fun _ _ hp => (h.producers hp).consistent

/-- **One stream for each encoding.** In an orderly run no assertion of `CreateRtpStream` and no abort for a mismatching
stream is reached, and every state is consistent. -/
theorem outcomes_of_orderly (isKeyFrame : List UInt8 → Bool) (es : List TransportEvent)
    (h : Along (step isKeyFrame) Orderly {} es) :
    Outcomes (step isKeyFrame) (Ends Consistent Producer.Foreign) {} es := by
  refine outcomes_of_along ?_ es _ inv_empty h
  intro t e ht horderly
  have hends := ht.step_ends isKeyFrame horderly
  constructor
  · cases hstep : t.step isKeyFrame e with
    | error f =>
      rw [hstep] at hends
      exact hends
    | ok t' =>
      rw [hstep] at hends
      exact hends.consistent
  · intro t' hstep
    rw [hstep] at hends
    exact hends

/-! ## Runs with one producer -/

instance (t : Transport) : (e : TransportEvent) → Decidable (t.Orderly e)
  | .produce .. => inferInstanceAs (Decidable (List.Nodup _))
  | .packet r => inferInstanceAs (Decidable (∀ p ∈ t.producerOf r, p.Expected r))
  | .closeProducer _ | .pauseProducer _ | .resumeProducer _ | .nackTimer .. | .rtt .. => .isTrue trivial

def vp8WithRtx : List RtpCodecParameters :=
  [{ mimeType := ⟨.video, .vp8⟩, payloadType := 96 },
    { mimeType := ⟨.video, .rtx⟩, payloadType := 97, apt := some (.integer 96) }]

def packetOf (payloadType : UInt8) (ssrc : UInt32) (rid rrid : String) : TransportEvent :=
  .packet {
    packet := { payloadType := payloadType, sequenceNumber := 1, timestamp := 0, ssrc := ssrc, payload := [] }
    mid := "0", rid := rid, rrid := rrid, nowMs := 0, trees := ⟨.spine, .spine, .spine⟩, order := default }

def simulcast : ProducerData where
  rtpParameters := { mid := some "0", codecs := vp8WithRtx, encodings := [{ rid := "low" }, { rid := "high" }] }
  codecs := [(96, 101), (97, 102)]
  encodings := [{ rid := some "low", mappedSsrc := 1000 }, { rid := some "high", mappedSsrc := 1001 }]

theorem outcomes_simulcast :
    let es := [.produce "p" simulcast true, packetOf 96 11 "low" "", packetOf 96 12 "high" "", packetOf 97 13 "" "low",
      packetOf 96 11 "" "", packetOf 96 14 "low" "", .closeProducer "p"]
    Along (step fun _ => false) Orderly {} es ∧ Outcomes (step fun _ => false) (Ends Consistent Producer.Foreign) {} es :=
  have h : Along (step fun _ => false) Orderly {} [.produce "p" simulcast true, packetOf 96 11 "low" "",
      packetOf 96 12 "high" "", packetOf 97 13 "" "low", packetOf 96 11 "" "", packetOf 96 14 "low" "",
      .closeProducer "p"] := by decide +kernel
  ⟨h, outcomes_of_orderly _ _ h⟩

def anySsrc : ProducerData where
  rtpParameters := { mid := some "0", codecs := vp8WithRtx, encodings := [{}] }
  codecs := [(96, 101), (97, 102)]
  encodings := [{ mappedSsrc := 1000 }]

/-- A packet with SSRC 0 is taken for one of the encoding's own SSRC, and a second stream is made for the encoding. -/
theorem ssrc_zero_aborts : let es := [.produce "p" anySsrc true, packetOf 96 11 "" "", packetOf 96 0 "" ""]
    es.foldlM (step fun _ => false) {} = .error .encodingIdxAlreadyExists ∧
      ¬ Outcomes (step fun _ => false) (Ends Consistent Producer.Foreign) {} es := by
  have hrun : [.produce "p" anySsrc true, packetOf 96 11 "" "", packetOf 96 0 "" ""].foldlM (step fun _ => false) {} =
      .error .encodingIdxAlreadyExists := by decide +kernel
  have hforeign : ¬ Producer.Foreign .encodingIdxAlreadyExists := by
    rintro (h | ⟨_, h⟩) <;> cases h
  exact ⟨hrun, not_outcomes_of_fault hforeign hrun⟩

end Transport

end Mediasoup.Rtp
