import Mediasoup.Producer.Listener

/-!
# The tables of the RTP listener over calls

`AddProducer` puts its entries into the tables one by one, only under keys that are free, and takes all entries of the producer
out again before it throws (`leaves_addProducer`). `GetProducer` enters further SSRCs of a packet, but only for a producer that
has an entry already. So the entries belong to producers that have been added and not removed since (`run_inv`).
-/

namespace Mediasoup.Rtp

open Lib List RtpListener

namespace RtpListener

variable {l : RtpListener} {producer : String}

def getProducerBySsrc (l : RtpListener) (ssrc : UInt32) : Option String := l.ssrcTable.lookup ssrc

/-! ## Rollback -/

theorem removeProducer_eq_self (h : OwnedBy (· ≠ producer) l) : l.removeProducer producer = l := by
  obtain ⟨ssrcTable, midTable, ridTable⟩ := l
  simp only [removeProducer, mk.injEq]
  exact ⟨Table.withoutValue_eq_self fun k hk => h.ssrc hk rfl, Table.withoutValue_eq_self fun k hk => h.mid hk rfl,
    Table.withoutValue_eq_self fun k hk => h.rid hk rfl⟩

end RtpListener

/-! ## Runs -/

structure Listening where
  listener : RtpListener := {}
  present : List String := []

inductive ListenerCall
  | addProducer (producer : String) (r : RtpParameters)
  | removeProducer (producer : String)
  | getProducer (r : Received)
  | getProducerBySsrc (ssrc : UInt32)

namespace Listening

/-- A producer whose `AddProducer` throws is not present afterwards. -/
def step (s : Listening) : ListenerCall → Listening
  | .addProducer producer r =>
    match s.listener.addProducer producer r with
    | .ok l => { listener := l, present := producer :: s.present }
    | .error (l, _) => { listener := l, present := s.present.filter (· ≠ producer) }
  | .removeProducer producer =>
    { listener := s.listener.removeProducer producer, present := s.present.filter (· ≠ producer) }
  | .getProducer r => { s with listener := (s.listener.getProducer r).2 }
  | .getProducerBySsrc _ => s

def run (s : Listening) (calls : List ListenerCall) : Listening := calls.foldl step s

def Adds (producer : String) (s : Listening) : ListenerCall → Prop
  | .addProducer producer' r => producer' = producer ∧ ∃ l, s.listener.addProducer producer' r = .ok l
  | _ => False

def NeverAdds (producer : String) : Listening → List ListenerCall → Prop
  | _, [] => True
  | s, c :: calls => ¬ s.Adds producer c ∧ NeverAdds producer (s.step c) calls

def Inv (s : Listening) : Prop := s.listener.OwnedBy (· ∈ s.present)

variable {s : Listening}

variable {producer : String}

theorem step_of_added {r : RtpParameters} {l : RtpListener}
    (h : s.listener.addProducer producer r = .ok l) :
    s.step (.addProducer producer r) = { listener := l, present := producer :: s.present } := by
  simp only [step, h]

theorem step_of_refused {r : RtpParameters} {l : RtpListener} {e : ListenerError}
    (h : s.listener.addProducer producer r = .error (l, e)) :
    s.step (.addProducer producer r) = { listener := l, present := s.present.filter (· ≠ producer) } := by
  simp only [step, h]

theorem step_inv (h : s.Inv) (c : ListenerCall) : (s.step c).Inv := by
  have hwithout : ∀ {producer : String} {l : RtpListener} (present : List String),
      l.OwnedBy (fun v => v ∈ producer :: present ∧ v ≠ producer) →
      Inv { listener := l, present := present.filter (· ≠ producer) } := by
    intro producer l present hl
    refine hl.mono fun v hv => mem_filter.mpr ?_
    simpa [hv.2] using hv.1
  cases c with
  | addProducer producer r =>
    have hadded := added_addProducer (P := (· ∈ producer :: s.present))
      (h.mono fun v hv => mem_cons_of_mem _ hv) (mem_cons_self ..) r
    cases hadd : s.listener.addProducer producer r with
    | ok l =>
      rw [hadd] at hadded
      rw [step_of_added hadd]
      exact hadded
    | error e =>
      rw [hadd] at hadded
      rw [step_of_refused hadd]
      exact hwithout s.present hadded
  | removeProducer producer =>
    refine hwithout s.present ?_
    exact (ownedBy_removeProducer h).mono fun v hv => ⟨mem_cons_of_mem _ hv.1, hv.2⟩
  | getProducer r => exact (ownedBy_getProducer h r).2
  | getProducerBySsrc ssrc => exact h

theorem run_inv (h : s.Inv) (calls : List ListenerCall) : (s.run calls).Inv := by
  induction calls generalizing s with
  | nil => exact h
  | cons c calls ih => exact ih (step_inv h c)

theorem inv_new : Inv {} := ⟨nofun, nofun, nofun⟩

theorem notMem_step {c : ListenerCall} (h : producer ∉ s.present) (hc : ¬ s.Adds producer c) :
    producer ∉ (s.step c).present := by
  cases c with
  | addProducer producer' r =>
    cases hadd : s.listener.addProducer producer' r with
    | ok l =>
      rw [step_of_added hadd]
      intro hmem
      rcases mem_cons.mp hmem with rfl | hmem
      · exact hc ⟨rfl, l, hadd⟩
      · exact h hmem
    | error e =>
      rw [step_of_refused hadd]
      exact fun hmem => h (mem_filter.mp hmem).1
  | removeProducer producer' => exact fun hmem => h (mem_filter.mp hmem).1
  | getProducer r => exact h
  | getProducerBySsrc ssrc => exact h

theorem notMem_run {calls : List ListenerCall} (h : producer ∉ s.present)
    (hcalls : NeverAdds producer s calls) : producer ∉ (s.run calls).present := by
  induction calls generalizing s with
  | nil => exact h
  | cons c calls ih => exact ih (notMem_step h hcalls.1) hcalls.2

theorem of_notMem (h : s.Inv) (hp : producer ∉ s.present) :
    (∀ r l e, s.listener.addProducer producer r = .error (l, e) → l = s.listener) ∧
      (∀ r, (s.listener.getProducer r).1 ≠ some producer) ∧ ∀ ssrc, s.listener.getProducerBySsrc ssrc ≠ some producer := by
  refine ⟨?_, ?_, ?_⟩
  · intro r l e hadd
    have hleaves := leaves_addProducer s.listener producer r
    rw [hadd] at hleaves
    have hnone : s.listener.OwnedBy (· ≠ producer) := h.mono fun v hv heq => hp (heq ▸ hv)
    rw [RtpListener.removeProducer_eq_self hnone] at hleaves
    exact hleaves
  · intro r hfound
    exact hp ((ownedBy_getProducer h r).1 producer hfound)
  · intro ssrc hfound
    exact hp (h.ssrc hfound)

end Listening

/-- **The tables over every run of calls**: an `AddProducer` that throws leaves the tables as they were, and after
`RemoveProducer` no `GetProducer` returns the producer until it has been added again. -/
theorem tables_of_calls (calls : List ListenerCall) (producer : String) :
    (producer ∉ (Listening.run {} calls).present → ∀ r l e,
      (Listening.run {} calls).listener.addProducer producer r = .error (l, e) →
        l.ssrcTable = (Listening.run {} calls).listener.ssrcTable ∧ l.midTable = (Listening.run {} calls).listener.midTable ∧
          l.ridTable = (Listening.run {} calls).listener.ridTable) ∧
    ∀ later, Listening.NeverAdds producer ((Listening.run {} calls).step (.removeProducer producer)) later →
      (∀ r, ((((Listening.run {} calls).step (.removeProducer producer)).run later).listener.getProducer r).1 ≠ some producer) ∧
      ∀ ssrc, (((Listening.run {} calls).step (.removeProducer producer)).run later).listener.getProducerBySsrc ssrc ≠
        some producer := by
  have hinv := Listening.run_inv Listening.inv_new calls
  constructor
  · intro hp r l e hadd
    rw [(Listening.of_notMem hinv hp).1 r l e hadd]
    exact ⟨rfl, rfl, rfl⟩
  · intro later hlater
    have hgone : producer ∉ ((Listening.run {} calls).step (.removeProducer producer)).present := by
      intro hmem
      simpa using (mem_filter.mp hmem).2
    exact (Listening.of_notMem (Listening.run_inv (Listening.step_inv hinv _) later) (Listening.notMem_run hgone hlater)).2

def midAndSsrcs (mid : String) (ssrc rtxSsrc : UInt32) : RtpParameters where
  mid := mid
  codecs := [{ mimeType := { type := .audio, subtype := .opus }, payloadType := 111 }]
  encodings := [{ ssrc := ssrc, rtxSsrc := rtxSsrc, codecPayloadType := 111 }]
  headerExtensionIds := []
  encodings_ne_nil := cons_ne_nil _ _
  codec_exists := forall_mem_singleton.mpr rfl

def midPacket (ssrc : UInt32) : Received :=
  { packet := { payloadType := 111, sequenceNumber := 1, timestamp := 0, ssrc := ssrc, payload := [] }
    mid := "0", nowMs := 0, trees := ⟨.spine, .spine, .spine⟩, order := default }

/-- The producer "a" is found by its MID and enters the SSRC 7. A producer "b" whose RTX has that SSRC is refused and leaves
no trace. -/
theorem tables_of_learnedSsrc : let s := Listening.run {} [.addProducer "a" (midAndSsrcs "0" 5 0), .getProducer (midPacket 7)]
    s.listener.getProducerBySsrc 7 = some "a" ∧
      (∃ l, s.listener.addProducer "b" (midAndSsrcs "1" 6 7) = .error (l, .rtxSsrcAlreadyExists 7) ∧
        l.ssrcTable = s.listener.ssrcTable) ∧
      (s.step (.removeProducer "a")).listener.getProducerBySsrc 7 ≠ some "a" := by
  have hrefused : ∃ l, (Listening.run {} [.addProducer "a" (midAndSsrcs "0" 5 0),
      .getProducer (midPacket 7)]).listener.addProducer "b" (midAndSsrcs "1" 6 7) = .error (l, .rtxSsrcAlreadyExists 7) :=
    ⟨_, rfl⟩
  obtain ⟨l, hl⟩ := hrefused
  exact ⟨by decide, ⟨l, hl, ((tables_of_calls _ "b").1 (by decide) _ l _ hl).1⟩, ((tables_of_calls _ "a").2 [] trivial).2 7⟩

end Mediasoup.Rtp
