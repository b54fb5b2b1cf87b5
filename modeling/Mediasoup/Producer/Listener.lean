import Mediasoup.Producer.Streams

/-!
# The RTP listener and the producers of a transport

`RtpListener` finds the producer a packet is for: by SSRC, then by MID, then by RID. A packet found by MID or RID enters its
SSRC in the table. `Transport.step` is one event of a transport with several producers.
-/

namespace Mediasoup.Rtp

open Lib Table

/-! ## `RtpListener` -/

/-- The tables point to producers, given by their ids. -/
structure RtpListener where
  ssrcTable : Table UInt32 String := ∅
  midTable : Table String String := ∅
  ridTable : Table String String := ∅
  deriving DecidableEq

inductive ListenerError
  /-- "ssrc already exists in RTP listener [ssrc:...]" -/
  | ssrcAlreadyExists (ssrc : UInt32)
  /-- "RTX ssrc already exists in RTP listener [ssrc:...]" -/
  | rtxSsrcAlreadyExists (ssrc : UInt32)
  /-- "MID already exists in RTP listener [mid:...]" -/
  | midAlreadyExists (mid : String)
  /-- "RID already exists in RTP listener and no MID is given [rid:...]" -/
  | ridAlreadyExists (rid : String)
  deriving DecidableEq

namespace RtpListener

def removeProducer (l : RtpListener) (producer : String) : RtpListener where
  ssrcTable := l.ssrcTable.withoutValue producer
  midTable := l.midTable.withoutValue producer
  ridTable := l.ridTable.withoutValue producer

/-- The producer is removed before the exception is thrown: the error comes with the listener left behind. -/
def fail (l : RtpListener) (producer : String) (error : ListenerError) :
    Except (RtpListener × ListenerError) RtpListener := .error (l.removeProducer producer, error)

def addSsrc (l : RtpListener) (producer : String) (ssrc : UInt32) (error : UInt32 → ListenerError) :
    Except (RtpListener × ListenerError) RtpListener :=
  if ssrc = 0 then .ok l
  else if (l.ssrcTable.lookup ssrc).isSome then l.fail producer (error ssrc)
  else .ok { l with ssrcTable := l.ssrcTable.insert ssrc producer }

def addSsrcs (producer : String) :
    List RtpEncodingParameters → RtpListener → Except (RtpListener × ListenerError) RtpListener
  | [], l => .ok l
  | encoding :: rest, l => do
    let l ← l.addSsrc producer encoding.ssrc .ssrcAlreadyExists
    let l ← l.addSsrc producer encoding.rtxSsrc .rtxSsrcAlreadyExists
    addSsrcs producer rest l

def addMid (l : RtpListener) (producer mid : String) : Except (RtpListener × ListenerError) RtpListener :=
  if mid = "" then .ok l
  else if (l.midTable.lookup mid).isSome then l.fail producer (.midAlreadyExists mid)
  else .ok { l with midTable := l.midTable.insert mid producer }

def addRids (producer mid : String) :
    List RtpEncodingParameters → RtpListener → Except (RtpListener × ListenerError) RtpListener
  | [], l => .ok l
  | encoding :: rest, l =>
    if encoding.rid = "" then addRids producer mid rest l
    else if (l.ridTable.lookup encoding.rid).isSome then
      if mid = "" then l.fail producer (.ridAlreadyExists encoding.rid) else addRids producer mid rest l
    else addRids producer mid rest { l with ridTable := l.ridTable.insert encoding.rid producer }

def addProducer (l : RtpListener) (producer : String) (r : RtpParameters) :
    Except (RtpListener × ListenerError) RtpListener := do
  let l ← addSsrcs producer r.encodings l
  let l ← l.addMid producer r.mid
  addRids producer r.mid r.encodings l

def getProducer (l : RtpListener) (r : Received) : Option String × RtpListener :=
  match l.ssrcTable.lookup r.packet.ssrc with
  | some producer => (some producer, l)
  | none =>
    match r.readMid.bind fun mid => l.midTable.lookup mid with
    | some producer => (some producer, { l with ssrcTable := l.ssrcTable.insert r.packet.ssrc producer })
    | none =>
      match r.readRid.bind fun rid => l.ridTable.lookup rid with
      | some producer => (some producer, { l with ssrcTable := l.ssrcTable.insert r.packet.ssrc producer })
      | none => (none, l)

/-! ### Whose entries the tables hold -/

structure OwnedBy (P : String → Prop) (l : RtpListener) : Prop where
  ssrc : ∀ {k v}, l.ssrcTable.lookup k = some v → P v
  mid : ∀ {k v}, l.midTable.lookup k = some v → P v
  rid : ∀ {k v}, l.ridTable.lookup k = some v → P v

variable {P Q : String → Prop} {l l' : RtpListener} {producer : String}

theorem OwnedBy.mono (h : OwnedBy P l) (hPQ : ∀ v, P v → Q v) : OwnedBy Q l :=
  ⟨fun hk => hPQ _ (h.ssrc hk), fun hk => hPQ _ (h.mid hk), fun hk => hPQ _ (h.rid hk)⟩

theorem ownedBy_removeProducer (h : OwnedBy P l) : OwnedBy (fun v => P v ∧ v ≠ producer) (l.removeProducer producer) := by
  constructor
  · intro k v hk
    obtain ⟨hk, hne⟩ := lookup_withoutValue.mp hk
    exact ⟨h.ssrc hk, hne⟩
  · intro k v hk
    obtain ⟨hk, hne⟩ := lookup_withoutValue.mp hk
    exact ⟨h.mid hk, hne⟩
  · intro k v hk
    obtain ⟨hk, hne⟩ := lookup_withoutValue.mp hk
    exact ⟨h.rid hk, hne⟩

theorem OwnedBy.insertSsrc (h : OwnedBy P l) (hp : P producer) (ssrc : UInt32) :
    OwnedBy P { l with ssrcTable := l.ssrcTable.insert ssrc producer } := by
  refine ⟨fun hk => ?_, h.mid, h.rid⟩
  rcases lookup_insert_iff.mp hk with ⟨-, rfl⟩ | ⟨-, hk⟩
  · exact hp
  · exact h.ssrc hk

theorem OwnedBy.of_removeProducer (h : OwnedBy P (l.removeProducer producer)) (hp : P producer) : OwnedBy P l := by
  have hentry {κ : Type} [DecidableEq κ] {t : Table κ String} {k : κ} {v : String}
      (ht : (t.withoutValue producer).lookup k = some v → P v) (hk : t.lookup k = some v) : P v := by
    by_cases hv : v = producer
    · exact hv ▸ hp
    · exact ht (lookup_withoutValue.mpr ⟨hk, hv⟩)
  exact ⟨hentry h.ssrc, hentry h.mid, hentry h.rid⟩

/-- What is left of the listener without the producer is `rest`, also after an exception. -/
abbrev Leaves (producer : String) (rest : RtpListener) : Except (RtpListener × ListenerError) RtpListener → Prop :=
  Ends (fun l => l.removeProducer producer = rest) fun e => e.1 = rest

variable {rest : RtpListener}

theorem leaves_addSsrc (h : l.removeProducer producer = rest) (ssrc : UInt32) (error : UInt32 → ListenerError) :
    Leaves producer rest (l.addSsrc producer ssrc error) := by
  unfold addSsrc
  split
  · exact h
  split
  · exact h
  rename_i hfree
  rw [Option.not_isSome_iff_eq_none] at hfree
  change _ = rest
  rw [← h]
  simp only [removeProducer, withoutValue_insert hfree]

theorem leaves_addSsrcs : ∀ (encodings : List RtpEncodingParameters) {l : RtpListener}, l.removeProducer producer = rest →
    Leaves producer rest (addSsrcs producer encodings l)
  | [], _, h => h
  | encoding :: encodings, _, h => by
    apply (leaves_addSsrc h _ _).bind
    intro l h
    apply (leaves_addSsrc h _ _).bind
    intro l h
    exact leaves_addSsrcs encodings h

theorem leaves_addMid (h : l.removeProducer producer = rest) (mid : String) : Leaves producer rest (l.addMid producer mid) := by
  unfold addMid
  split
  · exact h
  split
  · exact h
  rename_i hfree
  rw [Option.not_isSome_iff_eq_none] at hfree
  change _ = rest
  rw [← h]
  simp only [removeProducer, withoutValue_insert hfree]

theorem leaves_addRids (mid : String) : ∀ (encodings : List RtpEncodingParameters) {l : RtpListener},
    l.removeProducer producer = rest → Leaves producer rest (addRids producer mid encodings l)
  | [], _, h => h
  | encoding :: encodings, l, h => by
    unfold addRids
    split
    · exact leaves_addRids mid encodings h
    split
    · split
      · exact h
      · exact leaves_addRids mid encodings h
    rename_i hfree
    rw [Option.not_isSome_iff_eq_none] at hfree
    apply leaves_addRids mid encodings
    rw [← h]
    simp only [removeProducer, withoutValue_insert hfree]

/-- **What `AddProducer` throws** it throws after it has undone its entries. -/
theorem leaves_addProducer (l : RtpListener) (producer : String) (r : RtpParameters) :
    Leaves producer (l.removeProducer producer) (l.addProducer producer r) := by
  apply (leaves_addSsrcs r.encodings rfl).bind
  intro l h
  apply (leaves_addMid h r.mid).bind
  intro l h
  exact leaves_addRids r.mid r.encodings h

theorem added_addProducer (h : OwnedBy P l) (hp : P producer) (r : RtpParameters) :
    Ends (OwnedBy P) (fun e => OwnedBy (fun v => P v ∧ v ≠ producer) e.1) (l.addProducer producer r) := by
  have hrest : OwnedBy (fun v => P v ∧ v ≠ producer) (l.removeProducer producer) := ownedBy_removeProducer h
  refine ((leaves_addProducer l producer r).faults fun e he => he ▸ hrest).imp fun l' hl' => ?_
  exact OwnedBy.of_removeProducer (hl' ▸ hrest.mono fun _ hv => hv.1) hp

theorem ownedBy_getProducer (h : OwnedBy P l) (r : Received) :
    (∀ producer, (l.getProducer r).1 = some producer → P producer) ∧ OwnedBy P (l.getProducer r).2 := by
  unfold getProducer
  cases hssrc : l.ssrcTable.lookup r.packet.ssrc with
  | some producer =>
    refine ⟨?_, h⟩
    rintro _ ⟨⟩
    exact h.ssrc hssrc
  | none =>
    cases hmid : r.readMid.bind fun mid => l.midTable.lookup mid with
    | some producer =>
      obtain ⟨mid, -, hk⟩ := Option.bind_eq_some_iff.mp hmid
      refine ⟨?_, h.insertSsrc (h.mid hk) _⟩
      rintro _ ⟨⟩
      exact h.mid hk
    | none =>
      cases hrid : r.readRid.bind fun rid => l.ridTable.lookup rid with
      | some producer =>
        obtain ⟨rid, -, hk⟩ := Option.bind_eq_some_iff.mp hrid
        refine ⟨?_, h.insertSsrc (h.rid hk) _⟩
        rintro _ ⟨⟩
        exact h.rid hk
      | none =>
        refine ⟨?_, h⟩
        rintro _ ⟨⟩

end RtpListener

/-! ## Transports -/

structure Transport where
  rtpListener : RtpListener := {}
  mapProducers : Table String Producer := ∅
  deriving DecidableEq

inductive TransportEvent
  /-- a request for a new producer; `accepted` tells whether the router takes it -/
  | produce (id : String) (data : ProducerData) (accepted : Bool)
  | closeProducer (id : String)
  | pauseProducer (id : String)
  | resumeProducer (id : String)
  | packet (r : Received)
  | nackTimer (id : String) (stream nowMs : Nat)
  | rtt (id : String) (stream rtt : Nat)

namespace Transport

def modifyProducer (t : Transport) (id : String) (f : Producer → Producer) : Transport :=
  match t.mapProducers.lookup id with
  | none => t
  | some p => { t with mapProducers := t.mapProducers.insert id (f p) }

def produce (t : Transport) (id : String) (data : ProducerData) (accepted : Bool) : Transport :=
  -- "a Producer with same producerId already exists"
  if id ∈ t.mapProducers then t
  else
    match Producer.create data with
    | .error _ => t
    | .ok p =>
      match t.rtpListener.addProducer id p.rtpParameters with
      | .error (l, _) => { t with rtpListener := l }
      | .ok l =>
        if accepted then { rtpListener := l, mapProducers := t.mapProducers.insert id p }
        else { t with rtpListener := l.removeProducer id }

def closeProducer (t : Transport) (id : String) : Transport :=
  { rtpListener := t.rtpListener.removeProducer id, mapProducers := t.mapProducers.erase id }

variable (isKeyFrame : List UInt8 → Bool)

def receiveRtpPacket (t : Transport) (r : Received) : Except ProducerFault Transport :=
  match t.rtpListener.getProducer r with
  | (none, l) => .ok { t with rtpListener := l }
  | (some id, l) =>
    match t.mapProducers.lookup id with
    | none => .error .danglingProducer
    | some p => do
      let (p, _, _) ← p.receiveRtpPacket isKeyFrame r
      return { rtpListener := l, mapProducers := t.mapProducers.insert id p }

def step (t : Transport) : TransportEvent → Except ProducerFault Transport
  | .produce id data accepted => .ok (t.produce id data accepted)
  | .closeProducer id => .ok (t.closeProducer id)
  | .pauseProducer id => .ok (t.modifyProducer id Producer.pause)
  | .resumeProducer id => .ok (t.modifyProducer id Producer.resume)
  | .packet r => t.receiveRtpPacket isKeyFrame r
  | .nackTimer id stream nowMs =>
    .ok (t.modifyProducer id fun p => p.modifyStream stream fun s => (s.onNackTimer nowMs).1)
  | .rtt id stream rtt => .ok (t.modifyProducer id fun p => p.modifyStream stream fun s => s.updateRtt rtt)

end Transport

end Mediasoup.Rtp
