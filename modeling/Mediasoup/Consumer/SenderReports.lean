import Mediasoup.Codecs.VP8
import Mediasoup.Consumer.Simulcast

/-!
# Sender Reports of a simulcast consumer

When a simulcast consumer syncs on a key frame of a layer other than the timestamp reference, it asserts that the reference and
the target stream have a Sender Report. That was checked when the layer was chosen; a Sender Report whose NTP time is 0
milliseconds, received in between, undoes it (`zero_ntp_aborts`). `Inv`: the layers on whose Sender Reports the choices so far
rest (`relied`) all have one. Every other call keeps it.
-/

namespace Mediasoup.Consumer

open Lib Rtp Codecs Mediasoup.Seq

namespace SimulcastConsumer

variable {δ κ : Type}

/-! ## Runs -/

inductive Event (δ : Type)
  | packet (env : SendEnv) (shared : SharedPackets) (p : MediaPacket δ)
  | nack (clones : List Packet) (nowMs : Nat) (items : List NackItem)
  | call (nowMs : Nat) (call : Call)

def step (codec : Codec δ κ) (c : SimulcastConsumer κ) : Event δ → Except ConsumerFault (SimulcastConsumer κ)
  | .packet env shared p => do
    let d ← c.sendRtpPacket codec env shared p
    return d.consumer
  | .nack clones nowMs items => .ok (c.receiveNack clones nowMs items).1
  | .call nowMs e => c.call nowMs e

/-! ## The invariant -/

/-- The layers on whose Sender Reports the target, current and provisional layers rest. -/
def relied (c : SimulcastConsumer κ) : List Int :=
  (if c.targetSpatialLayer ≠ -1 ∧ c.targetSpatialLayer ≠ c.tsReferenceSpatialLayer then
    [c.targetSpatialLayer, c.tsReferenceSpatialLayer] else []) ++
  (if c.currentSpatialLayer ≠ -1 ∧ c.currentSpatialLayer ≠ c.tsReferenceSpatialLayer then
    [c.tsReferenceSpatialLayer] else []) ++
  (if c.provisionalTargetSpatialLayer ≠ -1 ∧ c.tsReferenceSpatialLayer ≠ -1 ∧
      c.provisionalTargetSpatialLayer ≠ c.tsReferenceSpatialLayer then
    [c.provisionalTargetSpatialLayer, c.tsReferenceSpatialLayer] else [])

def HasReport (c : SimulcastConsumer κ) (layer : Int) : Prop :=
  ∃ s : RtpStreamRecv, c.stream layer = some s ∧ s.lastSenderReportNtpMs ≠ 0

structure Inv (c : SimulcastConsumer κ) : Prop where
  reports : ∀ layer ∈ c.relied, c.HasReport layer
  reference : c.targetSpatialLayer ≠ -1 → c.tsReferenceSpatialLayer ≠ -1
  stopped : c.targetSpatialLayer = -1 → c.currentSpatialLayer = -1 ∧ c.targetTemporalLayer = -1
  provisional : c.provisionalTargetSpatialLayer ≠ -1 → c.externallyManagedBitrate = true

def Tolerated (f : ConsumerFault) : Prop := f ≠ .noReferenceSenderReport ∧ f ≠ .noTargetSenderReport

/-- The call does not bring an NTP time of 0 milliseconds for a layer whose Sender Report is relied on. -/
def Reported (c : SimulcastConsumer κ) : Event δ → Prop
  | .call _ (.senderReport layer report _) =>
    (layer : Int) ∈ c.relied → ntp2TimeMs report.ntpSec report.ntpFrac ≠ 0
  | _ => True

instance (c : SimulcastConsumer κ) : ∀ e : Event δ, Decidable (Reported c e)
  | .packet .. | .nack .. => isTrue trivial
  | .call _ e => by
    cases e <;> first | exact isTrue trivial | exact inferInstanceAs (Decidable (_ → _))

variable {layer : Int}

theorem mem_relied {c : SimulcastConsumer κ} : layer ∈ c.relied ↔
    (c.targetSpatialLayer ≠ -1 ∧ c.targetSpatialLayer ≠ c.tsReferenceSpatialLayer ∧
      (layer = c.targetSpatialLayer ∨ layer = c.tsReferenceSpatialLayer)) ∨
    (c.currentSpatialLayer ≠ -1 ∧ c.currentSpatialLayer ≠ c.tsReferenceSpatialLayer ∧ layer = c.tsReferenceSpatialLayer) ∨
    (c.provisionalTargetSpatialLayer ≠ -1 ∧ c.tsReferenceSpatialLayer ≠ -1 ∧
      c.provisionalTargetSpatialLayer ≠ c.tsReferenceSpatialLayer ∧
      (layer = c.provisionalTargetSpatialLayer ∨ layer = c.tsReferenceSpatialLayer)) := by
  simp only [relied, List.mem_append, List.mem_ite_nil_right, List.mem_cons, List.not_mem_nil, or_false, and_assoc, or_assoc]

variable {c c' : SimulcastConsumer κ}

structure Frame (c c' : SimulcastConsumer κ) : Prop where
  target : c'.targetSpatialLayer = c.targetSpatialLayer
  temporal : c'.targetTemporalLayer = c.targetTemporalLayer
  current : c'.currentSpatialLayer = c.currentSpatialLayer
  reference : c'.tsReferenceSpatialLayer = c.tsReferenceSpatialLayer
  provisional : c'.provisionalTargetSpatialLayer = c.provisionalTargetSpatialLayer
  streams : c'.producerRtpStreams = c.producerRtpStreams
  external : c'.externallyManagedBitrate = c.externallyManagedBitrate

theorem Frame.relied (h : Frame c c') : c'.relied = c.relied := by
  unfold SimulcastConsumer.relied
  rw [h.target, h.current, h.reference, h.provisional]

theorem Frame.stream (h : Frame c c') (layer : Int) : c'.stream layer = c.stream layer := by
  unfold SimulcastConsumer.stream
  rw [h.streams]

theorem Inv.frame (hinv : Inv c) (h : Frame c c' := by constructor <;> rfl) : Inv c' where
  reports layer hmem := by
    rw [h.relied] at hmem
    obtain ⟨s, hs, hntp⟩ := hinv.reports layer hmem
    exact ⟨s, by rw [h.stream, hs], hntp⟩
  reference htarget := by
    rw [h.target] at htarget
    rw [h.reference]
    exact hinv.reference htarget
  stopped htarget := by
    rw [h.target] at htarget
    rw [h.current, h.temporal]
    exact hinv.stopped htarget
  provisional hprov := by
    rw [h.provisional] at hprov
    rw [h.external]
    exact hinv.provisional hprov

/-! ## Choosing a layer -/

def LayerFault (f : ConsumerFault) : Prop := f = .noProducerStream ∨ f = .nullStream

theorem LayerFault.tolerated {f : ConsumerFault} (h : LayerFault f) : Tolerated f := by
  rcases h with rfl | rfl
  · exact ⟨nofun, nofun⟩
  · exact ⟨nofun, nofun⟩

def Switchable (c : SimulcastConsumer κ) (layer : Int) : Prop :=
  c.tsReferenceSpatialLayer = -1 ∨ layer = c.tsReferenceSpatialLayer ∨
    (c.HasReport c.tsReferenceSpatialLayer ∧ c.HasReport layer)

theorem Switchable.hasReport {layer l : Int} (h : Switchable c layer) (href : c.tsReferenceSpatialLayer ≠ -1)
    (hne : layer ≠ c.tsReferenceSpatialLayer) (hl : l = layer ∨ l = c.tsReferenceSpatialLayer) : c.HasReport l := by
  obtain ⟨hreference, hlayer⟩ := (h.resolve_left href).resolve_left hne
  rcases hl with rfl | rfl
  · exact hlayer
  · exact hreference

theorem canSwitch_ends (c : SimulcastConsumer κ) (layer : Int) :
    Ends (fun b => b = true → Switchable c layer) LayerFault (c.canSwitchToSpatialLayer layer) := by
  unfold canSwitchToSpatialLayer
  cases hs : c.stream layer with
  | none => exact .inl rfl
  | some s =>
    dsimp only
    split
    · rename_i h
      intro _
      rcases h with h | h
      · exact .inl h
      · exact .inr (.inl h)
    cases hr : c.stream c.tsReferenceSpatialLayer with
    | none => exact .inr rfl
    | some reference =>
      intro hb
      simp only [Bool.and_eq_true, decide_eq_true_eq] at hb
      exact .inr (.inr ⟨⟨reference, hr, hb.1⟩, ⟨s, hs, hb.2⟩⟩)

theorem recalculate_ends (c : SimulcastConsumer κ) (nowMs : Nat) : ∀ (layers : List Nat) (new : Int),
    (new = -1 ∨ Switchable c new) →
    Ends (fun l => l = -1 ∨ Switchable c l) LayerFault (c.recalculateSpatialLayer nowMs layers new)
  | [], _, hnew => hnew
  | layer :: rest, new, hnew => by
    have ih := fun new => recalculate_ends c nowMs rest new
    unfold recalculateSpatialLayer
    split
    · exact ih new hnew
    split
    · exact ih new hnew
    split
    · exact ih new hnew
    split
    · exact ih new hnew
    have hcan := canSwitch_ends c layer
    split
    · rename_i heq
      rw [heq] at hcan
      exact hcan
    · exact ih new hnew
    rename_i heq
    rw [heq] at hcan
    split
    · exact .inr (hcan rfl)
    · exact ih layer (.inr (hcan rfl))

theorem Inv.updateTargetLayers_none (hinv : Inv c) (temporalLayer : Int) : Inv (c.updateTargetLayers (-1) temporalLayer) := by
  constructor
  · intro layer hmem
    rcases mem_relied.mp hmem with ⟨h, _⟩ | ⟨h, _⟩ | ⟨h1, h2, h3, h4⟩
    · exact absurd rfl h
    · exact absurd rfl h
    · exact hinv.reports layer (mem_relied.mpr (.inr (.inr ⟨h1, h2, h3, h4⟩)))
  · exact fun h => absurd rfl h
  · exact fun _ => ⟨rfl, rfl⟩
  · exact hinv.provisional

theorem Inv.updateTargetLayers_some (hinv : Inv c) (hprov : c.provisionalTargetSpatialLayer = -1)
    (hlayer : layer ≠ -1) (hswitch : Switchable c layer) (temporalLayer : Int) :
    Inv (c.updateTargetLayers layer temporalLayer) := by
  have hup : c.updateTargetLayers layer temporalLayer = { c with
        tsReferenceSpatialLayer := if c.tsReferenceSpatialLayer = -1 then layer else c.tsReferenceSpatialLayer
        targetSpatialLayer := layer
        targetTemporalLayer := temporalLayer
        encodingContext := (c.updateTargetLayers layer temporalLayer).encodingContext } := by
    simp only [updateTargetLayers, if_neg hlayer]
  rw [hup]
  by_cases href : c.tsReferenceSpatialLayer = -1
  · -- the layer becomes the reference: nothing was chosen before
    have htarget : c.targetSpatialLayer = -1 := by
      by_contra h
      exact hinv.reference h href
    have hcurrent := (hinv.stopped htarget).1
    constructor
    · intro l hmem
      rcases mem_relied.mp hmem with ⟨_, h, _⟩ | ⟨h, _⟩ | ⟨h, _⟩
      · simp [href] at h
      · exact absurd hcurrent h
      · exact absurd hprov h
    · simp [href, hlayer]
    · exact fun h => absurd h hlayer
    · exact fun h => absurd hprov h
  · constructor
    · intro l hmem
      simp only [mem_relied, if_neg href] at hmem
      rcases hmem with ⟨_, hne, h⟩ | h | ⟨h, _⟩
      · exact hswitch.hasReport href hne h
      · exact hinv.reports l (mem_relied.mpr (.inr (.inl h)))
      · exact absurd hprov h
    · simp [href]
    · exact fun h => absurd h hlayer
    · exact fun h => absurd hprov h

theorem Inv.updateTargetLayers (hinv : Inv c) (hprov : c.provisionalTargetSpatialLayer = -1)
    (hlayer : layer = -1 ∨ Switchable c layer) (temporalLayer : Int) :
    Inv (c.updateTargetLayers layer temporalLayer) := by
  by_cases h : layer = -1
  · rw [h]
    exact hinv.updateTargetLayers_none temporalLayer
  · exact hinv.updateTargetLayers_some hprov h (hlayer.resolve_left h) temporalLayer

theorem mayChangeLayers_ends (hinv : Inv c) (nowMs : Nat) : Ends Inv Tolerated (c.mayChangeLayers nowMs) := by
  apply Ends.bind ((recalculate_ends c nowMs _ (-1) (.inl rfl)).faults fun _ => LayerFault.tolerated)
  intro layer hlayer
  dsimp only
  split
  · cases hext : c.externallyManagedBitrate with
    | true => exact hinv
    | false =>
      have hprov : c.provisionalTargetSpatialLayer = -1 := by
        by_contra h
        simp [hinv.provisional h] at hext
      exact hinv.updateTargetLayers hprov hlayer _
  · exact hinv

theorem mayChangeLayersIf_ends (hinv : Inv c) (cond : Bool) (nowMs : Nat) :
    Ends Inv Tolerated (mayChangeLayersIf cond c nowMs) := by
  cases cond with
  | true => exact mayChangeLayers_ends hinv nowMs
  | false => exact hinv

/-! ## Externally managed bitrate -/

theorem tooYoung_ends (c : SimulcastConsumer κ) (nowMs layer : Nat) (s : RtpStreamRecv) :
    Ends (fun _ => True) LayerFault (c.tooYoung nowMs layer s) := by
  unfold tooYoung
  split
  · split
    · exact .inr rfl
    · trivial
  · trivial

theorem candidate_ends (c : SimulcastConsumer κ) (rates : Bitrates) (layer : Nat) (s : RtpStreamRecv) :
    Ends (fun o => ∀ x ∈ o, x.1 = layer) LayerFault (c.candidate rates layer s) := by
  unfold candidate
  split
  · rintro x ⟨⟩
  apply Ends.bind (P := fun _ => True)
  · simp only [requiredBitrate]
    split
    · split
      · exact .inr rfl
      · trivial
    · trivial
  · intro required _ x hx
    split at hx
    · cases hx
      rfl
    · cases hx

theorem nextLayers_ends (c : SimulcastConsumer κ) (nowMs : Nat) (rates : Bitrates) : ∀ layers : List Nat,
    Ends (fun o => ∀ x ∈ o, Switchable c (x.1 : Nat)) LayerFault (c.nextLayers nowMs rates layers)
  | [] => by rintro x ⟨⟩
  | layer :: rest => by
    have ih := nextLayers_ends c nowMs rates rest
    have hyoung := fun s => tooYoung_ends c nowMs layer s
    have hcan := canSwitch_ends c layer
    have hcandidate := fun s => candidate_ends c rates layer s
    unfold nextLayers
    split
    · rintro x ⟨⟩
    split
    · exact ih
    split
    · exact ih
    rename_i s _
    split
    · rename_i heq
      have := hyoung s
      rwa [heq] at this
    · exact ih
    split
    · rename_i heq
      rwa [heq] at hcan
    · exact ih
    rename_i hswitch
    rw [hswitch] at hcan
    split
    · rename_i heq
      have := hcandidate s
      rwa [heq] at this
    · rename_i heq
      have := hcandidate s
      rw [heq] at this
      intro x hx
      rw [this x hx]
      exact hcan rfl
    · split
      · rintro x ⟨⟩
      · exact ih

theorem increaseLayer_ends (hinv : Inv c) (nowMs : Nat) (rates : Bitrates) (bitrate virtualBitrate : Nat) :
    Ends (fun r => Inv r.1) Tolerated (c.increaseLayer nowMs rates bitrate virtualBitrate) := by
  unfold increaseLayer
  split
  · exact ⟨nofun, nofun⟩
  rename_i hext
  split
  · exact ⟨nofun, nofun⟩
  split
  · exact hinv
  have hnext := nextLayers_ends c nowMs rates (List.range c.producerRtpStreams.length)
  split
  · rename_i heq
    rw [heq] at hnext
    exact hnext.tolerated
  · exact hinv
  rename_i spatialLayer temporalLayer required heq
  rw [heq] at hnext
  have hswitch : Switchable c spatialLayer := hnext _ rfl
  split
  · exact hinv
  constructor
  · intro l hmem
    rcases mem_relied.mp hmem with h | h | ⟨_, href, hne, h⟩
    · exact hinv.reports l (mem_relied.mpr (.inl h))
    · exact hinv.reports l (mem_relied.mpr (.inr (.inl h)))
    · exact hswitch.hasReport href hne h
  · exact hinv.reference
  · exact hinv.stopped
  · simpa using hext

theorem Inv.resetProvisional (hinv : Inv c) : Inv c.resetProvisional := by
  constructor
  · intro l hmem
    rcases mem_relied.mp hmem with h | h | ⟨h, _⟩
    · exact hinv.reports l (mem_relied.mpr (.inl h))
    · exact hinv.reports l (mem_relied.mpr (.inr (.inl h)))
    · exact absurd rfl h
  · exact hinv.reference
  · exact hinv.stopped
  · exact fun h => absurd rfl h

theorem Inv.switchable (hinv : Inv c) :
    c.provisionalTargetSpatialLayer = -1 ∨ Switchable c c.provisionalTargetSpatialLayer := by
  by_cases hprov : c.provisionalTargetSpatialLayer = -1
  · exact .inl hprov
  by_cases href : c.tsReferenceSpatialLayer = -1
  · exact .inr (.inl href)
  by_cases hne : c.provisionalTargetSpatialLayer = c.tsReferenceSpatialLayer
  · exact .inr (.inr (.inl hne))
  · have h : ∀ l, l = c.provisionalTargetSpatialLayer ∨ l = c.tsReferenceSpatialLayer → c.HasReport l := fun l hl =>
      hinv.reports l (mem_relied.mpr (.inr (.inr ⟨hprov, href, hne, hl⟩)))
    exact .inr (.inr (.inr ⟨h _ (.inr rfl), h _ (.inl rfl)⟩))

theorem applyLayers_ends (hinv : Inv c) (nowMs : Nat) : Ends Inv Tolerated (c.applyLayers nowMs) := by
  unfold applyLayers
  split
  · exact ⟨nofun, nofun⟩
  split
  · exact ⟨nofun, nofun⟩
  split
  · have hup := hinv.resetProvisional.updateTargetLayers rfl hinv.switchable c.provisionalTargetTemporalLayer
    refine hup.frame ?_
    unfold noteDowngrade
    split <;> constructor <;> rfl
  · exact hinv.resetProvisional

/-! ## Streams of the producer -/

theorem stream_setStream_ne {layer : Nat} {l : Int} (s : RtpStreamRecv) (h : l ≠ layer) :
    (c.setStream layer s).stream l = c.stream l := by
  unfold stream
  split
  · rfl
  · have hne : layer ≠ l.toNat := by omega
    simp only [setStream, List.getElem?_set_ne hne]

theorem stream_setStream_self {layer : Nat} {s : RtpStreamRecv} (s' : RtpStreamRecv) (h : c.stream layer = some s) :
    (c.setStream layer s').stream layer = some s' := by
  simp only [stream, setStream, Int.toNat_natCast] at h ⊢
  have hlen : layer < c.producerRtpStreams.length := by
    by_contra hlen
    rw [List.getElem?_eq_none (by omega)] at h
    simp at h
  simp [hlen]

theorem Inv.setStream (hinv : Inv c) {layer : Nat} {s : RtpStreamRecv}
    (hs : (layer : Int) ∈ c.relied → s.lastSenderReportNtpMs ≠ 0) : Inv (c.setStream layer s) := by
  constructor
  · intro l hmem
    obtain ⟨s', hs', hntp⟩ := hinv.reports l hmem
    by_cases hl : l = layer
    · rw [hl] at hs' hmem ⊢
      exact ⟨s, stream_setStream_self s hs', hs hmem⟩
    · exact ⟨s', by rw [stream_setStream_ne s hl, hs'], hntp⟩
  · exact hinv.reference
  · exact hinv.stopped
  · exact hinv.provisional

theorem producerRtpStream_ends (hinv : Inv c) (s : RtpStreamRecv) (mappedSsrc : UInt32) :
    Ends Inv Tolerated (c.producerRtpStream s mappedSsrc) := by
  unfold producerRtpStream
  split
  · exact ⟨nofun, nofun⟩
  split
  · exact ⟨nofun, nofun⟩
  rename_i layer _ hnone
  apply hinv.setStream
  intro hmem
  obtain ⟨s', hs', _⟩ := hinv.reports layer hmem
  rw [hs'] at hnone
  exact absurd rfl hnone

theorem scoreChanged_ends (hinv : Inv c) (score previousScore nowMs : Nat) :
    Ends Inv Tolerated (c.scoreChanged score previousScore nowMs) := by
  unfold scoreChanged
  split
  · exact hinv
  · exact mayChangeLayersIf_ends hinv _ nowMs

theorem streamScore_ends (hinv : Inv c) (layer score nowMs : Nat) : Ends Inv Tolerated (c.streamScore layer score nowMs) := by
  unfold streamScore
  split
  · exact hinv
  rename_i s hs
  apply scoreChanged_ends
  apply hinv.setStream
  intro hmem
  obtain ⟨s', hs', hntp⟩ := hinv.reports layer hmem
  rw [hs] at hs'
  cases hs'
  exact hntp

theorem senderReport_ends (hinv : Inv c) (layer : Nat) (report : SenderReport) (score nowMs : Nat)
    (hntp : (layer : Int) ∈ c.relied → ntp2TimeMs report.ntpSec report.ntpFrac ≠ 0) :
    Ends Inv Tolerated (c.senderReport layer report score nowMs) := by
  unfold senderReport
  split
  · exact hinv
  · apply Ends.bind (scoreChanged_ends (hinv.setStream hntp) score _ nowMs)
    intro c' hinv'
    exact mayChangeLayersIf_ends hinv' _ nowMs

/-! ## Calls -/

theorem Inv.stop (hinv : Inv c) : Inv c.stop := by
  apply Inv.updateTargetLayers_none
  exact hinv.frame

theorem Inv.stopIf (hinv : Inv c) (cond : Bool) : Inv (c.stopIf cond) := by
  cases cond with
  | true => exact hinv.stop
  | false => exact hinv

theorem mayResume_ends (hinv : Inv c) (nowMs : Nat) : Ends Inv Tolerated (c.mayResume nowMs) := by
  unfold mayResume
  split
  · apply mayChangeLayers_ends
    exact hinv.frame
  · exact hinv

theorem call_ends (hinv : Inv c) (nowMs : Nat) (e : Call) (he : Reported c (.call nowMs e : Event δ)) :
    Ends Inv Tolerated (c.call nowMs e) := by
  cases e with
  | pause =>
    simp only [call]
    split
    · exact hinv
    · exact hinv.frame.stopIf _
  | resume =>
    simp only [call]
    split
    · exact mayResume_ends hinv.frame nowMs
    · exact hinv
  | setPreferredLayers spatialLayer temporalLayer =>
    exact mayChangeLayersIf_ends hinv.frame _ nowMs
  | transportConnected =>
    simp only [call]
    split
    · exact hinv
    · exact mayChangeLayersIf_ends hinv.frame _ nowMs
  | transportDisconnected =>
    simp only [call]
    split
    · exact hinv.frame.stop
    · exact hinv
  | producerPaused =>
    simp only [call]
    split
    · exact hinv
    · exact hinv.frame.stopIf _
  | producerResumed =>
    simp only [call]
    split
    · exact mayResume_ends hinv.frame nowMs
    · exact hinv
  | producerClosed => exact hinv.frame
  | producerRtpStream s mappedSsrc => exact producerRtpStream_ends hinv s mappedSsrc
  | producerNewRtpStream s mappedSsrc =>
    apply Ends.bind (producerRtpStream_ends hinv s mappedSsrc)
    intro c' hinv'
    exact mayChangeLayersIf_ends hinv' _ nowMs
  | streamScore layer score => exact streamScore_ends hinv layer score nowMs
  | senderReport layer report score => exact senderReport_ends hinv layer report score nowMs he
  | rtpStreamScore score => exact mayChangeLayersIf_ends hinv.frame _ nowMs
  | setExternallyManagedBitrate => exact ⟨hinv.reports, hinv.reference, hinv.stopped, fun _ => rfl⟩
  | increaseLayer rates bitrate virtualBitrate =>
    apply Ends.bind (increaseLayer_ends hinv nowMs rates bitrate virtualBitrate)
    intro r hr
    exact hr
  | applyLayers => exact applyLayers_ends hinv nowMs

/-! ## Packets -/

theorem syncOffset_ok (hinv : Inv c) (htarget : c.targetSpatialLayer ≠ -1) (hne : layer ≠ -1)
    (hlayer : layer = c.targetSpatialLayer ∨ layer = c.currentSpatialLayer) :
    ∃ tsOffset, c.syncOffset layer = .ok tsOffset := by
  unfold syncOffset
  split
  · exact ⟨0, rfl⟩
  rename_i href
  have hrelied : c.tsReferenceSpatialLayer ∈ c.relied := by
    rcases hlayer with h | h
    · rw [h] at hne href
      exact mem_relied.mpr (.inl ⟨hne, href, .inr rfl⟩)
    · rw [h] at hne href
      exact mem_relied.mpr (.inr (.inl ⟨hne, href, rfl⟩))
  have htargetReport : c.HasReport c.targetSpatialLayer := by
    by_cases heq : c.targetSpatialLayer = c.tsReferenceSpatialLayer
    · rw [heq]
      exact hinv.reports _ hrelied
    · exact hinv.reports _ (mem_relied.mpr (.inl ⟨htarget, heq, .inl rfl⟩))
  obtain ⟨reference, hr, hrntp⟩ := hinv.reports _ hrelied
  obtain ⟨target, ht, htntp⟩ := htargetReport
  exact ⟨ntpOffset c.rtpStream.params.clockRate reference target, by simp only [hr, ht, if_neg hrntp, if_neg htntp]⟩

variable (codec : Codec δ κ)

/-- What happens to a packet before it reaches the codec. The `Bool` tells whether the consumer switches with it; there is
none if the packet is left out. -/
def admitSelected (c : SimulcastConsumer κ) (p : MediaPacket δ) (layer : Int) (switches : Bool) :
    Except ConsumerFault (SimulcastConsumer κ × Option Bool) :=
  if c.syncRequired ∧ ¬ p.isKeyFrame codec then .ok (c, none)
  else
    (c.syncStream codec p.packet layer switches).map fun
      | (c, false) => (c, none)
      | (c, true) =>
        match if switches then (c, true) else c.checkOldPacket p.packet.sequenceNumber with
        | (c, false) => (c, none)
        | (c, true) => (c, some switches)

def admitPacket (c : SimulcastConsumer κ) (p : MediaPacket δ) : Except ConsumerFault (SimulcastConsumer κ × Option Bool) :=
  if !c.isActive || c.targetTemporalLayer = -1 || !c.supports p.packet.payloadType then .ok (c, none)
  else
    match c.mapMappedSsrcSpatialLayer.lookup p.packet.ssrc with
    | none => .error .unknownMappedSsrc
    | some layer =>
      match c.selectLayer codec p layer with
      | none => .ok (c, none)
      | some (c, switches) => c.admitSelected codec p layer switches

def proceed (sh : SharedPackets) (p : MediaPacket δ)
    (next : SimulcastConsumer κ → Bool → Except ConsumerFault (Delivery (SimulcastConsumer κ) δ)) :
    SimulcastConsumer κ × Option Bool → Except ConsumerFault (Delivery (SimulcastConsumer κ) δ)
  | (c, none) => .ok { consumer := c, shared := sh, packet := p }
  | (c, some switches) => next c switches

theorem sendRtpPacket_eq (env : SendEnv) (c : SimulcastConsumer κ) (sh : SharedPackets) (p : MediaPacket δ) :
    c.sendRtpPacket codec env sh p = c.admitPacket codec p >>= proceed sh p fun c switches => c.forward codec env sh p switches := by
  unfold sendRtpPacket admitPacket
  split
  · rfl
  rcases c.mapMappedSsrcSpatialLayer.lookup p.packet.ssrc with _ | layer
  · rfl
  dsimp only
  rcases c.selectLayer codec p layer with _ | ⟨c₁, switches⟩
  · rfl
  dsimp only
  unfold sendSelected admitSelected
  split
  · rfl
  rcases c₁.syncStream codec p.packet layer switches with f | ⟨c₂, _ | _⟩
  · rfl
  · rfl
  simp only [bind, Except.bind, Except.map]
  generalize (if switches then (c₂, true) else c₂.checkOldPacket p.packet.sequenceNumber) = r
  obtain ⟨c₃, _ | _⟩ := r
  · rfl
  · rfl

abbrev Settled (c : SimulcastConsumer κ) : Prop := c.spatialLayerToSync = -1

/-- What a packet leaves alone until it reaches the codec. If the consumer is `able` to sync it is settled then, and these
numbers are `left` as dropped if the packet is `kept`. -/
structure Syncs (able kept : Prop) (left : List Nat) (c c' : SimulcastConsumer κ) : Prop where
  frame : Frame c c'
  rtpStream : c'.rtpStream = c.rtpStream
  settled : able → c'.Settled
  dropped : able → kept → c'.rtpSeqManager.dropped = left

variable {able kept : Prop}

def unsynced (c : SimulcastConsumer κ) : List Nat := if c.syncRequired then [] else c.rtpSeqManager.dropped

theorem syncStream_syncs (hable : able → c.Settled ∨ (c.syncRequired = true ∧ c.spatialLayerToSync = layer))
    (packet : Packet) (switches : Bool) :
    Ends (fun r => Syncs able (r.2 = true) c.unsynced c r.1) (fun f => c.syncOffset layer = .error f)
      (c.syncStream codec packet layer switches) := by
  unfold syncStream
  split
  · rename_i hcond
    cases hoffset : c.syncOffset layer with
    | error f => rfl
    | ok tsOffset =>
      dsimp only [bind, Except.bind]
      split
      · exact ⟨by constructor <;> rfl, rfl, fun _ => rfl, fun _ _ => (if_pos hcond.1).symm⟩
      · exact ⟨by constructor <;> rfl, rfl, fun _ => rfl, fun _ => nofun⟩
  rename_i hcond
  have hnot : able → ¬ c.syncRequired = true := fun h hrequired =>
    hcond ⟨hrequired, (hable h).imp id And.right⟩
  refine ⟨by constructor <;> rfl, rfl, fun h => (hable h).resolve_right fun hs => hnot h hs.1, fun h _ => ?_⟩
  exact (if_neg (hnot h)).symm

theorem Syncs.checkOldPacket {left : List Nat} (h : Syncs able kept left c c') (seq : UInt16) :
    Syncs able kept left c (c'.checkOldPacket seq).1 := by
  unfold SimulcastConsumer.checkOldPacket
  split
  · split
    · exact h
    · split
      · exact ⟨{ h.frame with }, h.rtpStream, h.settled, h.dropped⟩
      · exact h
  · exact h

theorem admitSelected_syncs (hable : able → c.Settled ∨ (c.syncRequired = true ∧ c.spatialLayerToSync = layer))
    (p : MediaPacket δ) (switches : Bool) (hkey : able → c.Settled ∨ p.isKeyFrame codec = true) :
    Ends (fun r => Syncs able (r.2.isSome = true) c.unsynced c r.1) (fun f => c.syncOffset layer = .error f)
      (c.admitSelected codec p layer switches) := by
  unfold admitSelected
  split
  · rename_i hcond
    exact ⟨by constructor <;> rfl, rfl, fun h => (hkey h).resolve_right hcond.2, fun _ => nofun⟩
  refine (syncStream_syncs codec hable p.packet switches).map ?_
  rintro ⟨c₁, _ | _⟩ h
  · exact { h with dropped := fun _ => nofun }
  have hold : Syncs able (true = true) c.unsynced c
      (if switches then (c₁, true) else c₁.checkOldPacket p.packet.sequenceNumber).1 := by
    cases switches with
    | true => exact h
    | false => exact h.checkOldPacket _
  dsimp only
  generalize (if switches then (c₁, true) else c₁.checkOldPacket p.packet.sequenceNumber) = r at hold ⊢
  obtain ⟨c₂, _ | _⟩ := r
  · exact { hold with dropped := fun _ => nofun }
  · exact hold

def leftDropped (c : SimulcastConsumer κ) (p : MediaPacket δ) : List Nat :=
  if c.syncRequired then []
  else
    match c.mapMappedSsrcSpatialLayer.lookup p.packet.ssrc with
    | none => []
    | some layer => if (layer : Int) = c.currentSpatialLayer then c.rtpSeqManager.dropped else []

def AdmitFault (c : SimulcastConsumer κ) (f : ConsumerFault) : Prop :=
  f = .unknownMappedSsrc ∨ ∃ layer : Nat, c.targetTemporalLayer ≠ -1 ∧
    ((layer : Int) = c.targetSpatialLayer ∨ (layer : Int) = c.currentSpatialLayer) ∧ c.syncOffset layer = .error f

theorem admit_ends (c : SimulcastConsumer κ) (p : MediaPacket δ) :
    Ends (fun r => Syncs c.Settled (r.2.isSome = true) (c.leftDropped p) c r.1 ∧
      (r.2.isSome = true → c.targetTemporalLayer ≠ -1)) c.AdmitFault (c.admitPacket codec p) := by
  have hout : Syncs c.Settled (false = true) (c.leftDropped p) c c := ⟨by constructor <;> rfl, rfl, id, fun _ => nofun⟩
  unfold admitPacket
  split
  · exact ⟨hout, nofun⟩
  rename_i hactive
  have htarget : c.targetTemporalLayer ≠ -1 := by
    intro h
    simp [h] at hactive
  split
  · exact .inl rfl
  rename_i layer hlayer
  unfold selectLayer
  by_cases hswitch : c.currentSpatialLayer ≠ c.targetSpatialLayer ∧ (layer : Int) = c.targetSpatialLayer
  · rw [if_pos hswitch]
    cases hkey : p.isKeyFrame codec with
    | false => exact ⟨hout, nofun⟩
    | true =>
      -- the consumer syncs with the key frame of the new layer
      have h := admitSelected_syncs codec (c := { c with syncRequired := true, spatialLayerToSync := layer })
        (fun _ : True => .inr ⟨rfl, rfl⟩) p true fun _ => .inr hkey
      have hleft : c.leftDropped p = [] := by simp [leftDropped, hlayer, hswitch.2, hswitch.1.symm]
      refine (h.faults fun f hf => .inr ⟨layer, htarget, .inl hswitch.2, hf⟩).imp fun r hr => ⟨?_, fun _ => htarget⟩
      exact ⟨{ hr.frame with }, hr.rtpStream, fun _ => hr.settled trivial, fun _ hsome => hleft ▸ hr.dropped trivial hsome⟩
  · rw [if_neg hswitch]
    by_cases hcurrent : (layer : Int) = c.currentSpatialLayer
    · rw [if_pos hcurrent]
      have hleft : c.leftDropped p = c.unsynced := by simp [leftDropped, unsynced, hlayer, hcurrent]
      rw [hleft]
      refine ((admitSelected_syncs codec (fun h : c.Settled => .inl h) p false .inl).faults fun f hf => ?_).imp fun r hr => ?_
      · exact .inr ⟨layer, htarget, .inr hcurrent, hf⟩
      · exact ⟨hr, fun _ => htarget⟩
    · rw [if_neg hcurrent]
      exact ⟨hout, nofun⟩

theorem Inv.switchLayer (hinv : Inv c) (htarget : c.targetSpatialLayer ≠ -1) (p : MediaPacket δ) (nowMs : Nat) :
    Inv (c.switchLayer codec p nowMs) := by
  constructor
  · intro l hmem
    rcases mem_relied.mp hmem with h | ⟨h1, h2, h3⟩ | h
    · exact hinv.reports l (mem_relied.mpr (.inl h))
    · exact hinv.reports l (mem_relied.mpr (.inl ⟨h1, h2, .inr h3⟩))
    · exact hinv.reports l (mem_relied.mpr (.inr (.inr h)))
  · exact hinv.reference
  · exact fun h => absurd h htarget
  · exact hinv.provisional

theorem deliver_ends (env : SendEnv) (c : SimulcastConsumer κ) (sh : SharedPackets) (p : MediaPacket δ) :
    Ends (fun d => Frame c d.consumer) Tolerated (c.deliver codec env sh p) := by
  unfold deliver
  split
  · exact ⟨nofun, nofun⟩
  dsimp only
  split
  · exact ⟨nofun, nofun⟩
  · constructor <;> rfl

theorem forward_ends (env : SendEnv) (hinv : Inv c) (htarget : c.targetSpatialLayer ≠ -1) (sh : SharedPackets)
    (p : MediaPacket δ) (switches : Bool) :
    Ends (fun d => Inv d.consumer) Tolerated (c.forward codec env sh p switches) := by
  have hswitched : Inv (if switches then c.switchLayer codec p env.nowMs else c) := by
    cases switches with
    | true => exact hinv.switchLayer codec htarget p env.nowMs
    | false => exact hinv
  unfold forward
  generalize (if switches then c.switchLayer codec p env.nowMs else c) = c' at hswitched
  dsimp only
  split
  · exact ⟨nofun, nofun⟩
  rename_i r _
  split
  · apply (deliver_ends codec env { c' with encodingContext := r.context } sh (p.setPayload r.payload)).imp
    intro d hd
    exact hswitched.frame.frame hd
  · exact hswitched.frame

theorem sendRtpPacket_ends (env : SendEnv) (hinv : Inv c) (sh : SharedPackets) (p : MediaPacket δ) :
    Ends (fun d => Inv d.consumer) Tolerated (c.sendRtpPacket codec env sh p) := by
  have hnot : c.targetTemporalLayer ≠ -1 → c.targetSpatialLayer ≠ -1 := fun h htarget => h (hinv.stopped htarget).2
  rw [sendRtpPacket_eq]
  refine Ends.bind ((admit_ends codec c p).faults ?_) ?_
  · rintro f (rfl | ⟨layer, htemporal, hlayer, hoffset⟩)
    · exact ⟨nofun, nofun⟩
    · obtain ⟨tsOffset, hok⟩ := syncOffset_ok hinv (hnot htemporal) (by omega) hlayer
      simp [hok] at hoffset
  · rintro ⟨c₁, _ | switches⟩ ⟨h, htemporal⟩
    · exact hinv.frame h.frame
    · refine forward_ends codec env (hinv.frame h.frame) ?_ sh p switches
      rw [h.frame.target]
      exact hnot (htemporal rfl)

/-! ## The result -/

theorem step_ends (hinv : Inv c) (e : Event δ) (he : Reported c e) : Ends Inv Tolerated (step codec c e) := by
  cases e with
  | packet env shared p =>
    apply Ends.bind (sendRtpPacket_ends codec env hinv shared p)
    intro d hd
    exact hd
  | nack clones nowMs items =>
    simp only [step, receiveNack]
    split
    · exact hinv.frame
    · exact hinv
  | call nowMs e => exact call_ends hinv nowMs e he

theorem inv_create (paused : Bool) (supportedCodecPayloadTypes : List (Fin 128)) (consumableRtpEncodings : List UInt32)
    (preferredLayers : Option (Nat × Option Nat)) (rtpStream : RtpStreamSend) (state : κ) :
    Inv (create paused supportedCodecPayloadTypes consumableRtpEncodings preferredLayers rtpStream state) := by
  constructor
  · rintro layer ⟨⟩
  · exact fun h => absurd rfl h
  · exact fun _ => ⟨rfl, rfl⟩
  · exact fun h => absurd rfl h

/-- **The assertions on Sender Reports never fire** in a run, as long as no Sender Report with an NTP time of 0 milliseconds
arrives for a layer whose report is relied on at that moment. -/
theorem outcomes_of_reported (paused : Bool) (supportedCodecPayloadTypes : List (Fin 128))
    (consumableRtpEncodings : List UInt32) (preferredLayers : Option (Nat × Option Nat)) (rtpStream : RtpStreamSend)
    (state : κ) (es : List (Event δ))
    (hes : Along (step codec) Reported
      (create paused supportedCodecPayloadTypes consumableRtpEncodings preferredLayers rtpStream state) es) :
    Outcomes (step codec) (Ends (fun _ => True) Tolerated)
      (create paused supportedCodecPayloadTypes consumableRtpEncodings preferredLayers rtpStream state) es := by
  refine outcomes_of_along (I := Inv) ?_ es _ (inv_create ..) hes
  intro c e hinv he
  have hends := step_ends codec hinv e he
  constructor
  · exact hends.imp fun _ _ => trivial
  · intro c' hc'
    rwa [hc'] at hends

/-! ## A Sender Report without NTP time -/

def twoLayers : SimulcastConsumer VP8.State :=
  create false [96] [1000, 2000] none
    (RtpStreamSend.create { ssrc := 5, payloadType := 96, clockRate := 90000, spatialLayers := 2 } .video) {}

def producerStream (ssrc : UInt32) : RtpStreamRecv := .create { ssrc := ssrc, payloadType := 96, clockRate := 90000 } 0

def spines : Shapes := ⟨.spine, .spine, .spine⟩

def keyFrame (ssrc : UInt32) (timestamp : UInt32) : MediaPacket VP8.PayloadDescriptor :=
  VP8.processRtpPacket
    { packet :=
        { payloadType := 96, sequenceNumber := 1, timestamp := timestamp, ssrc := ssrc, payload := [0x90, 0, 0] } }

/-- Both streams start, the lower layer is sent, and Sender Reports with the given NTP seconds arrive. Then the higher layer
sends a key frame. -/
def layerSwitch (ntpSecs : List UInt32) : List (Event VP8.PayloadDescriptor) :=
  [.call 20000 .transportConnected, .call 20000 (.producerNewRtpStream (producerStream 1) 1000),
    .call 20000 (.producerNewRtpStream (producerStream 2) 2000),
    .packet ⟨20000, spines⟩ {} (keyFrame 1000 5000),
    .call 20000 (.senderReport 0 ⟨100, 0, 5000⟩ 10)] ++
  ntpSecs.map (fun ntpSec => .call 20000 (.senderReport 1 ⟨ntpSec, 0, 7000⟩ 10)) ++
  [.packet ⟨20000, spines⟩ {} (keyFrame 2000 8000)]

theorem outcomes_layerSwitch :
    (((layerSwitch [100, 101]).foldlM (step VP8.codec) twoLayers).toOption.map fun c => c.currentSpatialLayer) = some 1 ∧
    Outcomes (step VP8.codec) (Ends (fun _ => True) Tolerated) twoLayers (layerSwitch [100, 101]) :=
  ⟨by decide +kernel, outcomes_of_reported VP8.codec _ _ _ _ _ _ _ (by decide +kernel)⟩

/-- **A Sender Report with an NTP time of 0** for the target layer, before its key frame arrives: the assertion on the
Sender Report of the target stream fires. -/
theorem zero_ntp_aborts : (layerSwitch [100, 0]).foldlM (step VP8.codec) twoLayers = .error .noTargetSenderReport ∧
    ¬ Outcomes (step VP8.codec) (Ends (fun _ => True) Tolerated) twoLayers (layerSwitch [100, 0]) := by
  have hrun : (layerSwitch [100, 0]).foldlM (step VP8.codec) twoLayers = .error .noTargetSenderReport := by
    decide +kernel
  refine ⟨hrun, not_outcomes_of_fault ?_ hrun⟩
  rintro ⟨_, h⟩
  exact h rfl

end SimulcastConsumer

end Mediasoup.Consumer
