import Mediasoup.Rtp.NackHistory
import Mediasoup.Rtp.NackItems

/-!
# From a NACK generator to the sender

What a call of the generator asks for becomes the items of a NACK packet. They read right if the numbers rise from the first one
and do not come round to it. A batch does so, as it is a part of the NACK list (`Window.increasing`).
-/

namespace Mediasoup.Rtp

open Lib List NackGenerator

variable {lastSeq : Nat} {l : List NackInfo}

theorem NackGenerator.Window.increasing (h : Window lastSeq l) (hl : lastSeq < 2 ^ 16) :
    CircularlyIncreasing (l.map fun info => UInt16.ofNat info.seq) := by
  cases l with
  | nil => trivial
  | cons first rest =>
    have hle : ∀ a ∈ first :: rest, age lastSeq a.seq ≤ age lastSeq first.seq := by
      intro a ha
      rcases mem_cons.mp ha with rfl | ha
      · exact le_rfl
      · exact ((pairwise_cons.mp h.sorted).1 a ha).le
    -- the distance from the first number is what its age is more
    have hdist : ∀ a ∈ first :: rest, (UInt16.ofNat a.seq - UInt16.ofNat first.seq).toNat =
        age lastSeq first.seq - age lastSeq a.seq := by
      intro a ha
      have hfirst := h.seq_lt first mem_cons_self
      have hlt := h.seq_lt a ha
      have hage := hle a ha
      rw [UInt16.toNat_sub, UInt16.toNat_ofNat_of_lt' hlt, UInt16.toNat_ofNat_of_lt' hfirst]
      unfold age at hage ⊢
      omega
    rw [map_cons, CircularlyIncreasing, ← map_cons (f := fun info : NackInfo => UInt16.ofNat info.seq), pairwise_map]
    refine h.sorted.imp_of_mem ?_
    intro a b ha hb hlt
    rw [hdist a ha, hdist b hb]
    have := hle a ha
    omega

theorem length_nackItems : ∀ l : List UInt16, (nackItems l).length ≤ l.length
  | [] => by simp [nackItems]
  | seq :: rest => by
    rw [nackItems, length_cons, length_cons]
    exact Nat.succ_le_succ ((length_nackItems _).trans (length_gather seq 0 rest))
termination_by l => l.length
decreasing_by exact Nat.lt_succ_of_le (length_gather seq 0 rest)

namespace NackTrace

/-- The sender that gets the items of what is asked for looks for just these numbers, in their order, and the
packet fits `RTCP::Buffer`. -/
def Delivers (s s' : NackTrace) : Prop :=
  ∃ seqNumbers : List UInt16, s'.requested = s.requested ++ seqNumbers.map UInt16.toNat ∧
    (nackItems seqNumbers).flatMap NackItem.requested = seqNumbers ∧ 12 + 4 * (nackItems seqNumbers).length ≤ 65536

variable {s s' : NackTrace}

theorem delivers_of_eq (h : s'.requested = s.requested) : Delivers s s' := ⟨[], by simp [h, nackItems]⟩

theorem delivers_batch (h : Window lastSeq l) (hl : lastSeq < 2 ^ 16) (g : NackGenerator) (filter : NackFilter) (nowMs : Nat)
    (hrequested : s'.requested = s.requested ++ g.batch filter nowMs l) : Delivers s s' := by
  have hbatch : Window lastSeq (l.filter (g.due filter nowMs)) := h.sublist filter_sublist
  refine ⟨_, ?_, flatMap_requested_nackItems _ (hbatch.increasing hl), ?_⟩
  · rw [hrequested, map_map]
    exact congrArg _ (map_congr_left fun info hinfo => (UInt16.toNat_ofNat_of_lt' (hbatch.seq_lt info hinfo)).symm)
  · have hsize := hbatch.size
    rw [← length_map fun info => UInt16.ofNat info.seq] at hsize
    have hitems := (length_nackItems _).trans hsize
    unfold maxNackPackets at hitems
    omega

theorem step_delivers {e : NackEvent} (hs : Sound s) (hstep : s.step e = .ok s') (he : e ≠ .reset) : Delivers s s' := by
  cases e with
  | packet t nowMs seq isKeyFrame isRecovered =>
    obtain ⟨g', nacked, requests, hreceive, heffect⟩ :=
      receivePacket_effect (t := t) hs.inv seq.toNat_lt nowMs isKeyFrame isRecovered
    rw [step, hreceive] at hstep
    cases hstep
    cases heffect with
    | @advanced _ _ _ l hadvanced k _ _ hrequests =>
      refine delivers_batch hadvanced.window seq.toNat_lt
        { s.generator with nackList := l, keyFrameList := k, lastSeq := seq.toNat } .seq nowMs ?_
      rw [note, flatMap_append, numbers_getNackBatch, flatMap_eq_nil_iff.mpr, nil_append]
      intro r hr
      rw [hrequests r hr]
      rfl
    | _ => exact delivers_of_eq (append_nil _)
  | timer nowMs =>
    cases hstep
    exact delivers_batch hs.inv.window hs.inv.lastSeq_lt _ .time nowMs (congrArg _ (numbers_onTimer s.generator nowMs))
  | updateRtt rtt =>
    cases hstep
    exact delivers_of_eq rfl
  | reset => exact absurd rfl he

/-- **Every call in every run of a generator**: the sender looks for what the call asks for. -/
theorem eachStep_delivers (sendNackDelayMs : Nat) (events : List NackEvent) :
    EachStep step (fun s e s' => e ≠ .reset → Delivers s s') { generator := { sendNackDelayMs := sendNackDelayMs } } events := by
  refine eachStep_of_along (C := fun _ _ => True) (I := Sound) ?_ events _ (sound_new _)
    (along_of_forall (fun _ _ => trivial) events _)
  intro s e s' hs _ hstep
  obtain ⟨s'', hstep', hsound⟩ := step_sound hs e
  obtain rfl : s'' = s' := Except.ok.inj (hstep'.symm.trans hstep)
  exact ⟨step_delivers hs hstep, hsound⟩

end NackTrace

end Mediasoup.Rtp
