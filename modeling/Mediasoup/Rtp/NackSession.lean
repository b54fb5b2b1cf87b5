import Mediasoup.Rtp.Retransmission

/-!
# A stream with its clones and its retransmissions

A `Session` is a stream with the clones that it shares with other streams, and the history of its retransmissions.

- `nack_eq_answers`: a NACK is answered one number at a time, which gives an induction rule (`nack_induction`);
- `nack_clones`: a NACK of any stream leaves the clones with their payload, and gives them no padding.
-/

namespace Mediasoup.Rtp

open Lib Mediasoup.Seq List RtpStreamSend

/-- A retransmission: of which clone, when, and which RTT was used. -/
structure Resend where
  clone : Nat
  atMs : Nat
  rttMs : Nat
  deriving DecidableEq

structure Session where
  stream : RtpStreamSend
  clones : List Packet := []
  resends : List Resend := []
  /-- the packets as they were sent -/
  packets : List Packet := []
  /-- the time of the last NACK -/
  clockMs : Nat := 0
  deriving DecidableEq

namespace RtpStreamSend

theorem map_packet_items (s : RtpStreamSend) :
    s.stored.reduceOption.map Stored.packet = s.items.map fun item => item.packet := by
  rw [reduceOption_stored, map_map]
  rfl

theorem items_of_find {s : RtpStreamSend} {seq : UInt16} {idx : Nat} {item : Item} (h : s.find seq = some (idx, item)) :
    ∃ l₁ l₂, s.items = l₁ ++ item :: l₂ ∧ ∀ item', (s.setItem idx item').items = l₁ ++ item' :: l₂ := by
  simp only [find, Option.bind_eq_bind, Option.bind_eq_some_iff] at h
  obtain ⟨b, hb, idx', hidx, item', hitem, heq⟩ := h
  cases heq
  obtain ⟨hlt, hplace⟩ := List.getElem?_eq_some_iff.mp (Option.join_eq_some_iff.mp hitem)
  refine ⟨(b.buffer.take idx).reduceOption, (b.buffer.drop (idx + 1)).reduceOption, ?_, fun item' => ?_⟩
  · have hsplit : b.buffer = b.buffer.take idx ++ some item :: b.buffer.drop (idx + 1) := by
      rw [← hplace, ← drop_eq_getElem_cons hlt, take_append_drop]
    rw [items, hb]
    dsimp only
    rw [RetransmissionBuffer.items, hsplit, reduceOption_append, reduceOption_cons_of_some, ← hsplit]
  · rw [items, setItem, hb]
    show (b.setItem idx item').items = _
    rw [RetransmissionBuffer.items, RetransmissionBuffer.setItem, set_eq_take_append_cons_drop, if_pos hlt,
      reduceOption_append, reduceOption_cons_of_some]

end RtpStreamSend

namespace Session

open Retransmission

/-! ## NACKs -/

def resendsOf (nowMs : Nat) : Retransmission → List NackItem → List Resend
  | _, [] => []
  | r, item :: items =>
    (r.resentFor nowMs item).map (fun i => ⟨i.packet, nowMs, r.stream.rttMs⟩) ++
      resendsOf nowMs (r.receiveItem nowMs item) items

def nack (x : Session) (nowMs : Nat) (items : List NackItem) : Session :=
  let r := x.stream.receiveNack x.clones nowMs items
  { stream := r.stream
    clones := r.clones
    resends := x.resends ++
      resendsOf nowMs { stream := { x.stream with nackCount := x.stream.nackCount + 1 }, clones := x.clones } items
    packets := x.packets ++ r.packets
    clockMs := nowMs }

def touch (x : Session) (item : Stored) : Session :=
  { x with clones := x.clones.modify item.packet (·.setNumbers item) }

def resend (x : Session) (idx : Nat) (item : Item) : Session :=
  { x with
    stream := (x.stream.countRtx.setItem idx (resentItem x.clockMs item)).countRetransmitted (resentItem x.clockMs item)
    clones := x.clones.modify item.packet fun p => x.stream.decapsulate item.ssrc (encoded x.stream item.toStored p)
    resends := x.resends ++ [⟨item.packet, x.clockMs, x.stream.rttMs⟩]
    packets := x.packets ++ (x.clones[item.packet]?.map (encoded x.stream item.toStored)).toList }

def answer (x : Session) (seq : UInt16) : Session :=
  match x.stream.find seq with
  | none => x
  | some (idx, item) => if Recent x.stream x.clockMs item then x.touch item.toStored else x.resend idx item

def countNack (x : Session) (item : NackItem) : Session :=
  { x with stream := { x.stream with nackPacketCount := x.stream.nackPacketCount + item.countRequestedPackets } }

def answers (x : Session) (item : NackItem) : Session := (numbers item).foldl answer (x.countNack item)

def view (x : Session) (nowMs : Nat) (r : Retransmission) (log : List Resend) : Session :=
  { stream := r.stream
    clones := r.clones
    resends := x.resends ++ log
    packets := x.packets ++ r.packets
    clockMs := nowMs }

variable {x : Session} {r : Retransmission} {nowMs : Nat} {log : List Resend} {seq : UInt16}

theorem answer_none (hfind : x.stream.find seq = none) : x.answer seq = x := by
  rw [answer, hfind]

theorem answer_some {idx : Nat} {item : Item} (hfind : x.stream.find seq = some (idx, item)) :
    x.answer seq = if Recent x.stream x.clockMs item then x.touch item.toStored else x.resend idx item := by
  rw [answer, hfind]

theorem view_answer : x.view nowMs (r.answer nowMs seq)
        (log ++ (r.filling nowMs seq).container.map fun i => ⟨i.packet, nowMs, r.stream.rttMs⟩) =
      (x.view nowMs r log).answer seq := by
  cases hfind : r.stream.find seq with
  | none =>
    have hcontainer : (r.filling nowMs seq).container = [] := by rw [filling, request_of_find_none hfind]
    rw [answer_of_find_none hfind, hcontainer, answer_none (x := x.view nowMs r log) hfind, map_nil, append_nil]
  | some found =>
    obtain ⟨idx, item⟩ := found
    have hanswer := answer_some (x := x.view nowMs r log) hfind
    rw [answer_of_find hfind, container_filling_of_find hfind, hanswer]
    show _ = if Recent r.stream nowMs item then _ else _
    split
    · simp only [view, change, touch, map_nil, append_nil, id]
    · rw [send_resent]
      simp only [view, resend, append_assoc, map_cons, map_nil, resentItem_packet]

theorem view_answers (x : Session) (nowMs : Nat) (seqs : List UInt16) : ∀ (r : Retransmission) (log : List Resend),
    x.view nowMs (seqs.foldl (Retransmission.answer nowMs) r)
        (log ++ (answered nowMs r seqs).map fun i => ⟨i.packet, nowMs, r.stream.rttMs⟩) =
      seqs.foldl answer (x.view nowMs r log) := by
  induction seqs with
  | nil =>
    simp [answered]
  | cons seq seqs ih =>
    intro r log
    rw [foldl_cons, foldl_cons, ← view_answer, ← ih, answered, map_append, append_assoc, (stored_answer r nowMs seq).2]

theorem stored_answers (seqs : List UInt16) : ∀ r : Retransmission,
    (seqs.foldl (Retransmission.answer nowMs) r).stream.stored = r.stream.stored := by
  induction seqs with
  | nil => exact fun r => rfl
  | cons seq seqs ih =>
    intro r
    rw [foldl_cons, ih, (stored_answer r nowMs seq).1]

theorem view_receiveItems (x : Session) (nowMs : Nat) (items : List NackItem) : ∀ (r : Retransmission) (log : List Resend),
    (r.stream.stored.reduceOption.map Stored.packet).Nodup →
    x.view nowMs (items.foldl (receiveItem nowMs) r) (log ++ resendsOf nowMs r items) =
      items.foldl answers (x.view nowMs r log) := by
  induction items with
  | nil =>
    simp [resendsOf]
  | cons item items ih =>
    intro r log hdistinct
    obtain ⟨hreceive, hresent⟩ := receiveItem_eq_answers hdistinct nowMs item
    have hstored : (r.receiveItem nowMs item).stream.stored = r.stream.stored := by
      rw [hreceive, stored_answers]
      rfl
    have hview := view_answers x nowMs (numbers item) (r.countNack item) log
    rw [foldl_cons, foldl_cons, resendsOf, ← append_assoc, ih _ _ (by rw [hstored]; exact hdistinct), hresent, hreceive]
    congr 1

theorem nack_eq_answers (x : Session) (nowMs : Nat) (items : List NackItem)
    (hdistinct : (x.stream.items.map fun item => item.packet).Nodup) :
    x.nack nowMs items =
      items.foldl answers { x with stream := { x.stream with nackCount := x.stream.nackCount + 1 }, clockMs := nowMs } := by
  have hview := view_receiveItems x nowMs items
    { stream := { x.stream with nackCount := x.stream.nackCount + 1 }, clones := x.clones } []
    (by rw [← RtpStreamSend.map_packet_items] at hdistinct; exact hdistinct)
  simp only [view, append_nil, nil_append] at hview
  exact hview

/-! ## What a NACK leaves of the clones -/

/-- The clone keeps its payload, and gets no padding. -/
structure Preserved (p p' : Packet) : Prop where
  payload : p'.payload = p.payload
  padding : p.payloadPadding = 0 → p'.payloadPadding = 0

/-- All clones are preserved; there may be new ones. -/
def ClonesKept (clones clones' : List Packet) : Prop :=
  ∀ (k : Nat) (p : Packet), clones[k]? = some p → ∃ p', clones'[k]? = some p' ∧ Preserved p p'

theorem ClonesKept.refl (clones : List Packet) : ClonesKept clones clones := fun _ p hp => ⟨p, hp, rfl, id⟩

theorem ClonesKept.trans {clones clones' clones'' : List Packet} (h : ClonesKept clones clones')
    (h' : ClonesKept clones' clones'') : ClonesKept clones clones'' := by
  intro k p hp
  obtain ⟨p', hp', hpayload, hpadding⟩ := h k p hp
  obtain ⟨p'', hp'', hpayload', hpadding'⟩ := h' k p' hp'
  exact ⟨p'', hp'', hpayload'.trans hpayload, hpadding' ∘ hpadding⟩

theorem ClonesKept.modify (clones : List Packet) (k : Nat) {g : Packet → Packet} (hg : ∀ p, Preserved p (g p)) :
    ClonesKept clones (clones.modify k g) := by
  intro j p hp
  by_cases heq : k = j
  · subst heq
    exact ⟨g p, by rw [List.getElem?_modify_eq, hp]; rfl, hg p⟩
  · exact ⟨p, by rw [List.getElem?_modify_ne _ _ heq, hp], rfl, id⟩

theorem ClonesKept.append (clones : List Packet) (packet : Packet) : ClonesKept clones (clones ++ [packet]) := by
  intro k p hp
  have hlt := (List.getElem?_eq_some_iff.mp hp).1
  exact ⟨p, by rw [List.getElem?_append_left hlt, hp], rfl, id⟩

def restoredClone (s : RtpStreamSend) (item : Stored) (p : Packet) : Packet :=
  s.decapsulate item.ssrc (encoded s item p)

theorem restoredClone_eq (s : RtpStreamSend) (item : Stored) (p : Packet) : restoredClone s item p =
      if s.hasRtx then { (p.setNumbers item).setPayloadType s.params.payloadType with payloadPadding := 0 }
      else p.setNumbers item := by
  cases hrtx : s.hasRtx with
  | false => simp [restoredClone, encoded, decapsulate, encapsulate, countRtx, hrtx]
  | true =>
    simp [restoredClone, encoded, decapsulate, encapsulate, countRtx, hrtx,
      Packet.rtxDecode_rtxEncode_eq]
    rfl

theorem preserved_restoredClone (s : RtpStreamSend) (item : Stored) (p : Packet) : Preserved p (restoredClone s item p) := by
  rw [restoredClone_eq]
  split
  · exact ⟨rfl, fun _ => rfl⟩
  · exact ⟨rfl, id⟩

theorem answer_clones (x : Session) (seq : UInt16) : ClonesKept x.clones (x.answer seq).clones := by
  cases hfind : x.stream.find seq with
  | none =>
    rw [answer_none hfind]
    exact .refl _
  | some found =>
    obtain ⟨idx, item⟩ := found
    rw [answer_some hfind]
    split
    · exact .modify _ _ fun p => ⟨rfl, id⟩
    · exact .modify _ _ fun p => preserved_restoredClone x.stream item.toStored p

theorem nack_induction {P : List UInt16 → Session → Prop} (x : Session) (nowMs : Nat) (items : List NackItem)
    (hdistinct : (x.stream.items.map fun item => item.packet).Nodup)
    (hstart : P [] { x with stream := { x.stream with nackCount := x.stream.nackCount + 1 }, clockMs := nowMs })
    (hcount : ∀ done y item, P done y → P done (countNack y item))
    (hanswer : ∀ done y seq, P done y → P (done ++ [seq]) (answer y seq)) :
    P (items.flatMap numbers) (x.nack nowMs items) := by
  have hanswers (seqs : List UInt16) : ∀ done y, P done y → P (done ++ seqs) (seqs.foldl answer y) := by
    induction seqs with
    | nil =>
      intro done y h
      rwa [append_nil]
    | cons seq seqs ih =>
      intro done y h
      have hrest := ih _ _ (hanswer done y seq h)
      rwa [append_assoc] at hrest
  have hitems (items : List NackItem) : ∀ done y, P done y → P (done ++ items.flatMap numbers) (items.foldl answers y) := by
    induction items with
    | nil =>
      intro done y h
      rwa [flatMap_nil, append_nil]
    | cons item items ih =>
      intro done y h
      have hrest := ih _ _ (hanswers (numbers item) done _ (hcount done y item h))
      rwa [append_assoc, ← flatMap_cons] at hrest
  rw [nack_eq_answers x nowMs items hdistinct]
  exact hitems items [] _ hstart

theorem nack_clones (x : Session) (nowMs : Nat) (items : List NackItem)
    (hdistinct : (x.stream.items.map fun item => item.packet).Nodup) : ClonesKept x.clones (x.nack nowMs items).clones :=
  nack_induction (P := fun _ y => ClonesKept x.clones y.clones) x nowMs items hdistinct (.refl _) (fun _ _ _ h => h)
    fun _ y seq h => h.trans (answer_clones y seq)

end Session

end Mediasoup.Rtp
