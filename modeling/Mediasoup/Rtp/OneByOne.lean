import Mediasoup.Rtp.StreamSend

/-!
# NACKs answered one packet at a time

For an item of a NACK, the source first encodes all packets that are to be resent (`FillRetransmissionContainer`), and then sends
and restores one after the other. As the packets have clones of their own, this is the same as to do all of it one packet at a
time (`receiveItem_eq_answers`). `answer_cases` says what the answer to one number does.
-/

namespace Mediasoup.Rtp

open Lib Mediasoup.Seq List Stored

/-! ## Stored packets by their sequence numbers -/

def placeOf (l : List (Option Stored)) (seq : UInt16) : Option Nat :=
  match l.head?.join with
  | none => none
  | some oldest =>
    if seqLower seq oldest.sequenceNumber then none
    else if (seq - oldest.sequenceNumber).toNat > (l.length - 1) % 2 ^ 16 then none
    else some (seq - oldest.sequenceNumber).toNat

def storedAt (l : List (Option Stored)) (seq : UInt16) : Option Stored := (placeOf l seq).bind fun idx => l[idx]?.join

variable (b : RetransmissionBuffer)

def RetransmissionBuffer.stored : List (Option Stored) :=
  b.buffer.map (Option.map Item.toStored)

def RtpStreamSend.stored (s : RtpStreamSend) : List (Option Stored) :=
  match s.retransmissionBuffer with
  | none => []
  | some b => b.stored

theorem RetransmissionBuffer.reduceOption_stored : b.stored.reduceOption = b.items.map Item.toStored :=
  reduceOption_map

theorem RtpStreamSend.reduceOption_stored (s : RtpStreamSend) : s.stored.reduceOption = s.items.map Item.toStored := by
  unfold stored items
  cases s.retransmissionBuffer with
  | none => rfl
  | some b => exact b.reduceOption_stored

theorem RetransmissionBuffer.indexOf_eq (seq : UInt16) : b.indexOf seq = placeOf b.stored seq := by
  have hhead : b.stored.head?.join = b.getOldest.map Item.toStored := by
    unfold stored getOldest
    cases b.buffer with
    | nil => rfl
    | cons o rest => rfl
  unfold indexOf placeOf
  rw [hhead]
  cases b.getOldest with
  | none => rfl
  | some oldest =>
    simp only [Option.map_some, stored, length_map]

variable {l : List (Option Stored)}

theorem place_inj (hdistinct : (l.reduceOption.map packet).Nodup) {i j : Nat}
    {a b : Stored} (ha : l[i]? = some (some a)) (hb : l[j]? = some (some b)) (hab : a.packet = b.packet) : i = j := by
  have hpairs : l.Pairwise fun x y => ∀ a ∈ x, ∀ b ∈ y, a.packet ≠ b.packet := by
    rw [List.Nodup, pairwise_map, List.reduceOption, pairwise_filterMap] at hdistinct
    exact hdistinct
  rw [pairwise_iff_getElem] at hpairs
  obtain ⟨hi, ha⟩ := List.getElem?_eq_some_iff.mp ha
  obtain ⟨hj, hb⟩ := List.getElem?_eq_some_iff.mp hb
  rcases Nat.lt_trichotomy i j with h | h | h
  · exact absurd hab (hpairs i j hi hj h a ha b hb)
  · exact h
  · exact absurd hab.symm (hpairs j i hj hi h b hb a ha)

theorem storedAt_eq_some {seq : UInt16} {a : Stored} (h : storedAt l seq = some a) :
    ∃ oldest, l.head?.join = some oldest ∧ l[(seq - oldest.sequenceNumber).toNat]? = some (some a) := by
  unfold storedAt placeOf at h
  cases hold : l.head?.join with
  | none =>
    simp [hold] at h
  | some oldest =>
    rw [hold] at h
    dsimp only at h
    split at h
    · cases h
    · split at h
      · cases h
      · exact ⟨oldest, rfl, Option.join_eq_some_iff.mp h⟩

theorem mem_of_storedAt {seq : UInt16} {a : Stored} (h : storedAt l seq = some a) : a ∈ l.reduceOption := by
  obtain ⟨oldest, -, h⟩ := storedAt_eq_some h
  exact reduceOption_mem_iff.mpr (mem_of_getElem? h)

theorem storedAt_inj (hdistinct : (l.reduceOption.map packet).Nodup)
    {seq seq' : UInt16} {a b : Stored} (ha : storedAt l seq = some a) (hb : storedAt l seq' = some b)
    (hab : a.packet = b.packet) : seq = seq' := by
  obtain ⟨oldest, hold, ha⟩ := storedAt_eq_some ha
  obtain ⟨oldest', hold', hb⟩ := storedAt_eq_some hb
  obtain rfl : oldest = oldest' := by
    rw [hold] at hold'
    exact Option.some.inj hold'
  have hplace := UInt16.toNat_inj.mp (place_inj hdistinct ha hb hab)
  rw [← UInt16.sub_add_cancel seq oldest.sequenceNumber, hplace, UInt16.sub_add_cancel]

namespace RtpStreamSend

variable {s : RtpStreamSend} {seq : UInt16} {idx : Nat} {item : Item}

theorem stored_of_find (h : s.find seq = some (idx, item)) :
    storedAt s.stored seq = some item.toStored ∧ s.stored[idx]? = some (some item.toStored) := by
  obtain ⟨b, hb, h⟩ := Option.bind_eq_some_iff.mp h
  obtain ⟨idx', hidx, h⟩ := Option.bind_eq_some_iff.mp h
  obtain ⟨item', hitem, h⟩ := Option.bind_eq_some_iff.mp h
  cases h
  have hplace : b.stored[idx]? = some (some item.toStored) := by
    have hitem : b.buffer[idx]? = some (some item) := Option.join_eq_some_iff.mp hitem
    rw [RetransmissionBuffer.stored, List.getElem?_map, hitem]
    rfl
  have hstored : s.stored = b.stored := by
    unfold stored
    rw [hb]
  rw [hstored]
  refine ⟨?_, hplace⟩
  rw [RetransmissionBuffer.indexOf_eq] at hidx
  rw [storedAt, hidx]
  exact Option.join_eq_some_iff.mpr hplace

theorem stored_setItem (h : s.stored[idx]? = some (some item.toStored)) : (s.setItem idx item).stored = s.stored := by
  unfold stored setItem at *
  cases hb : s.retransmissionBuffer with
  | none => rfl
  | some b =>
    rw [hb] at h
    simp only [Option.map_some, RetransmissionBuffer.stored, RetransmissionBuffer.setItem, map_set] at h ⊢
    obtain ⟨hlt, h⟩ := List.getElem?_eq_some_iff.mp h
    rw [← h, set_getElem_self]

/-! ## The requested numbers -/

theorem toNat_sub_lt_of_mem_requestedSeqs : ∀ {n : Nat} {requested : Bool} {bitmask : Nat} {currentSeq seq : UInt16},
    seq ∈ requestedSeqs n requested bitmask currentSeq → (seq - currentSeq).toNat < n
  | 0, _, _, _, _, h => by cases h
  | n + 1, requested, bitmask, currentSeq, seq, h => by
    have hrest : seq ∈ requestedSeqs n (bitmask % 2 == 1) (bitmask / 2) (currentSeq + 1) →
        (seq - currentSeq).toNat < n + 1 := by
      intro hmem
      have ih := toNat_sub_lt_of_mem_requestedSeqs hmem
      have hc := currentSeq.toNat_lt
      simp only [UInt16.toNat_sub, UInt16.toNat_add, UInt16.toNat_one] at ih ⊢
      omega
    unfold requestedSeqs at h
    split at h
    · split at h
      · rcases mem_cons.mp h with rfl | h
        · simp
        · exact hrest h
      · exact hrest h
    · cases h

theorem nodup_requestedSeqs : ∀ {n : Nat} (_ : n ≤ 2 ^ 16) (requested : Bool) (bitmask : Nat) (currentSeq : UInt16),
    (requestedSeqs n requested bitmask currentSeq).Nodup
  | 0, _, _, _, _ => nodup_nil
  | n + 1, hn, requested, bitmask, currentSeq => by
    have ih := nodup_requestedSeqs (Nat.le_of_succ_le hn) (bitmask % 2 == 1) (bitmask / 2) (currentSeq + 1)
    unfold requestedSeqs
    split
    · split
      · refine nodup_cons.mpr ⟨?_, ih⟩
        intro hmem
        have hlt := toNat_sub_lt_of_mem_requestedSeqs hmem
        simp only [UInt16.toNat_sub, UInt16.toNat_add, UInt16.toNat_one] at hlt
        omega
      · exact ih
    · exact nodup_nil

end RtpStreamSend

namespace Retransmission

def filling (nowMs : Nat) (r : Retransmission) (seq : UInt16) : Filling :=
  Filling.request nowMs { stream := r.stream, clones := r.clones } seq

def answer (nowMs : Nat) (r : Retransmission) (seq : UInt16) : Retransmission :=
  (r.filling nowMs seq).container.foldl send
    { r with stream := (r.filling nowMs seq).stream, clones := (r.filling nowMs seq).clones }

def answered (nowMs : Nat) : Retransmission → List UInt16 → List Item
  | _, [] => []
  | r, seq :: seqs => (r.filling nowMs seq).container ++ answered nowMs (r.answer nowMs seq) seqs

variable {r : Retransmission} {nowMs : Nat} {seq : UInt16}

/-! ## Sending and other changes -/

def change (r : Retransmission) (u : RtpStreamSend → RtpStreamSend) (k : Nat) (g : Packet → Packet) : Retransmission :=
  { r with stream := u r.stream, clones := r.clones.modify k g }

/-- The change of the stream has nothing to do with sending. -/
structure Independent (u : RtpStreamSend → RtpStreamSend) : Prop where
  counters : ∀ s item, u (s.countRetransmitted item) = (u s).countRetransmitted item
  params : ∀ s, (u s).params = s.params
  hasRtx : ∀ s, (u s).hasRtx = s.hasRtx

theorem independent_id : Independent id := ⟨fun _ _ => rfl, fun _ => rfl, fun _ => rfl⟩

theorem independent_resend (idx : Nat) (item : Item) : Independent fun s => s.countRtx.setItem idx item := by
  refine ⟨fun s i => ?_, fun s => ?_, fun s => ?_⟩
  · cases hrtx : s.hasRtx <;> simp [RtpStreamSend.countRtx, RtpStreamSend.countRetransmitted, RtpStreamSend.setItem, hrtx]
  · cases hrtx : s.hasRtx <;> simp [RtpStreamSend.countRtx, RtpStreamSend.setItem, hrtx]
  · cases hrtx : s.hasRtx <;> simp [RtpStreamSend.countRtx, RtpStreamSend.setItem, hrtx]

variable {s t : RtpStreamSend}

theorem decapsulate_congr (hparams : t.params = s.params) (hrtx : t.hasRtx = s.hasRtx) (ssrc : UInt32) :
    t.decapsulate ssrc = s.decapsulate ssrc := by
  funext p
  simp only [RtpStreamSend.decapsulate, hparams, hrtx]

theorem decapsulate_resend {s : RtpStreamSend} {idx : Nat} {item : Item} (ssrc : UInt32) :
    (s.countRtx.setItem idx item).decapsulate ssrc = s.decapsulate ssrc :=
  decapsulate_congr ((independent_resend idx item).params s) ((independent_resend idx item).hasRtx s) ssrc

theorem send_change {u : RtpStreamSend → RtpStreamSend} (hu : Independent u) {k : Nat} (g : Packet → Packet) {item : Item}
    (hk : item.packet ≠ k) : (r.change u k g).send item = (r.send item).change u k g := by
  have hdecapsulate := decapsulate_congr (hu.params r.stream) (hu.hasRtx r.stream) item.ssrc
  simp only [change, send, hu.counters, hdecapsulate, List.getElem?_modify_ne _ _ (Ne.symm hk), modify_modify_ne _ _ _ (Ne.symm hk)]

theorem sendAll_change {u : RtpStreamSend → RtpStreamSend} (hu : Independent u) {k : Nat} (g : Packet → Packet)
    (items : List Item) (hk : ∀ item ∈ items, item.packet ≠ k) (r : Retransmission) :
    items.foldl send (r.change u k g) = (items.foldl send r).change u k g := by
  induction items generalizing r with
  | nil => rfl
  | cons item items ih =>
    rw [foldl_cons, foldl_cons, send_change hu g (hk item mem_cons_self)]
    exact ih (fun i hi => hk i (mem_cons_of_mem _ hi)) _

structure SameStream (s t : RtpStreamSend) : Prop where
  buffer : t.retransmissionBuffer = s.retransmissionBuffer
  params : t.params = s.params
  hasRtx : t.hasRtx = s.hasRtx
  rtxSeq : t.rtxSeq = s.rtxSeq
  rtt : t.rtt = s.rtt

theorem sameStream_sendAll (items : List Item) (r : Retransmission) : SameStream r.stream (items.foldl send r).stream := by
  induction items generalizing r with
  | nil => exact ⟨rfl, rfl, rfl, rfl, rfl⟩
  | cons item items ih =>
    obtain ⟨hbuffer, hparams, hrtx, hseq, hrtt⟩ := ih (r.send item)
    exact ⟨hbuffer, hparams, hrtx, hseq, hrtt⟩

/-! ## One number -/

/-- The item was resent in the last RTT milliseconds. -/
def Recent (s : RtpStreamSend) (nowMs : Nat) (item : Item) : Prop :=
  item.resentAtMs ≠ 0 ∧ elapsedMs nowMs item.resentAtMs ≤ s.rttMs

instance (s : RtpStreamSend) (nowMs : Nat) (item : Item) : Decidable (Recent s nowMs item) :=
  inferInstanceAs (Decidable (_ ∧ _))

def resentItem (nowMs : Nat) (item : Item) : Item :=
  { item with resentAtMs := nowMs, sentTimes := item.sentTimes + 1 }

@[simp] theorem resentItem_packet (nowMs : Nat) (item : Item) : (resentItem nowMs item).packet = item.packet := rfl

def encoded (s : RtpStreamSend) (item : Stored) (p : Packet) : Packet := s.countRtx.encapsulate (p.setNumbers item)

variable {idx : Nat} {item : Item}

variable {f : Filling}

theorem request_of_find (hfind : f.stream.find seq = some (idx, item)) : f.request nowMs seq =
      if Recent f.stream nowMs item then { f with clones := f.clones.modify item.packet (·.setNumbers item.toStored) }
      else
        { stream := f.stream.countRtx.setItem idx (resentItem nowMs item)
          clones := f.clones.modify item.packet (encoded f.stream item.toStored)
          container := f.container ++ [resentItem nowMs item] } := by
  rw [Filling.request, hfind]
  dsimp only
  split
  · rw [if_pos ‹_›]
  · rw [if_neg ‹_›]
    simp only [Filling.resend, modify_modify_eq, resentItem]
    rfl

theorem request_of_find_none (hfind : f.stream.find seq = none) : f.request nowMs seq = f := by
  rw [Filling.request, hfind]

theorem answer_of_find_none (hfind : r.stream.find seq = none) : r.answer nowMs seq = r := by
  rw [answer, filling, request_of_find_none hfind]
  rfl

theorem answer_of_find (hfind : r.stream.find seq = some (idx, item)) : r.answer nowMs seq =
      if Recent r.stream nowMs item then r.change id item.packet (·.setNumbers item.toStored)
      else
        (r.change (fun s => s.countRtx.setItem idx (resentItem nowMs item)) item.packet
          (encoded r.stream item.toStored)).send (resentItem nowMs item) := by
  have hrequest : r.filling nowMs seq = _ := request_of_find (f := { stream := r.stream, clones := r.clones }) hfind
  rw [answer, hrequest]
  split
  · rfl
  · rfl

theorem send_resent : (r.change (fun s => s.countRtx.setItem idx (resentItem nowMs item)) item.packet
      (encoded r.stream item.toStored)).send (resentItem nowMs item) =
    { stream := (r.stream.countRtx.setItem idx (resentItem nowMs item)).countRetransmitted (resentItem nowMs item)
      clones := r.clones.modify item.packet fun p => r.stream.decapsulate item.ssrc (encoded r.stream item.toStored p)
      packets := r.packets ++ (r.clones[item.packet]?.map (encoded r.stream item.toStored)).toList } := by
  simp only [change, send, resentItem_packet, decapsulate_resend, modify_modify_eq, List.getElem?_modify_eq, Option.map_eq_map]
  rfl

theorem container_filling_of_find (hfind : r.stream.find seq = some (idx, item)) :
    (r.filling nowMs seq).container = if Recent r.stream nowMs item then [] else [resentItem nowMs item] := by
  have hrequest : r.filling nowMs seq = _ := request_of_find (f := { stream := r.stream, clones := r.clones }) hfind
  rw [hrequest]
  split
  · rfl
  · rfl

/-! ## All numbers of an item -/

/-- The container with its packets sent is what the answers to the numbers `done` give. -/
structure Ahead (r : Retransmission) (done : List UInt16) (f : Filling) (r' : Retransmission) (items : List Item) : Prop where
  sent : f.container.foldl send { r with stream := f.stream, clones := f.clones } = r'
  items : f.container = items
  stored : f.stream.stored = r.stream.stored
  found : ∀ item ∈ f.container, ∃ seq ∈ done, storedAt r.stream.stored seq = some item.toStored

theorem SameStream.find (h : SameStream s t) (seq : UInt16) : t.find seq = s.find seq := by
  simp only [RtpStreamSend.find, h.buffer]

theorem SameStream.recent (h : SameStream s t) (nowMs : Nat) (item : Item) : Recent t nowMs item ↔ Recent s nowMs item := by
  simp only [Recent, RtpStreamSend.rttMs, h.rtt]

theorem SameStream.encoded (h : SameStream s t) (item : Stored) :
    Retransmission.encoded t item = Retransmission.encoded s item := by
  funext p
  simp only [Retransmission.encoded, RtpStreamSend.countRtx, h.hasRtx]
  split
  · simp only [RtpStreamSend.encapsulate, h.params, h.rtxSeq]
  · simp only [RtpStreamSend.encapsulate, h.params, h.hasRtx, h.rtxSeq]

theorem stored_countRtx (s : RtpStreamSend) : s.countRtx.stored = s.stored := by
  unfold RtpStreamSend.countRtx
  split <;> rfl

theorem stored_answer (r : Retransmission) (nowMs : Nat) (seq : UInt16) :
    (r.answer nowMs seq).stream.stored = r.stream.stored ∧ (r.answer nowMs seq).stream.rttMs = r.stream.rttMs := by
  cases hfind : r.stream.find seq with
  | none => rw [answer_of_find_none hfind]; exact ⟨rfl, rfl⟩
  | some found =>
    obtain ⟨idx, item⟩ := found
    rw [answer_of_find hfind]
    split
    · exact ⟨rfl, rfl⟩
    obtain ⟨-, hplace⟩ := RtpStreamSend.stored_of_find hfind
    constructor
    · have hplace' : r.stream.countRtx.stored[idx]? = some (some (resentItem nowMs item).toStored) := by
        rw [stored_countRtx]
        exact hplace
      exact (RtpStreamSend.stored_setItem hplace').trans (stored_countRtx r.stream)
    · cases hrtx : r.stream.hasRtx <;>
        simp [change, send, RtpStreamSend.countRetransmitted, RtpStreamSend.setItem, RtpStreamSend.countRtx,
          RtpStreamSend.rttMs, hrtx]

theorem Ahead.request {done : List UInt16} {r' : Retransmission} {items : List Item}
    (hdistinct : (r.stream.stored.reduceOption.map packet).Nodup) (h : Ahead r done f r' items) (hseq : seq ∉ done) :
    Ahead r (seq :: done) (f.request nowMs seq) (r'.answer nowMs seq) (items ++ (r'.filling nowMs seq).container) := by
  have hsame : SameStream f.stream r'.stream := by
    rw [← h.sent]
    exact sameStream_sendAll f.container { r with stream := f.stream, clones := f.clones }
  have hmore : ∀ item ∈ f.container, ∃ seq' ∈ seq :: done, storedAt r.stream.stored seq' = some item.toStored := by
    intro item hitem
    obtain ⟨seq', hseq', hat⟩ := h.found item hitem
    exact ⟨seq', mem_cons_of_mem _ hseq', hat⟩
  cases hfind : f.stream.find seq with
  | none =>
    have hfind' : r'.stream.find seq = none := (hsame.find seq).trans hfind
    rw [request_of_find_none hfind, answer_of_find_none hfind', filling, request_of_find_none hfind', append_nil]
    exact ⟨h.sent, h.items, h.stored, hmore⟩
  | some found =>
    obtain ⟨idx, item⟩ := found
    have hfind' : r'.stream.find seq = some (idx, item) := (hsame.find seq).trans hfind
    obtain ⟨hat, hplace⟩ := RtpStreamSend.stored_of_find hfind
    rw [h.stored] at hat hplace
    -- the items of the container were requested with other numbers, so their clones are others
    have hnew : ∀ i ∈ f.container, i.packet ≠ item.packet := by
      intro i hi heq
      obtain ⟨seq', hseq', hi⟩ := h.found i hi
      exact hseq (storedAt_inj hdistinct hi hat heq ▸ hseq')
    rw [request_of_find hfind, answer_of_find hfind', container_filling_of_find hfind']
    by_cases hrecent : Recent f.stream nowMs item
    · have hrecent' := (hsame.recent nowMs item).mpr hrecent
      have hsent := sendAll_change independent_id (·.setNumbers item.toStored) f.container hnew
        { r with stream := f.stream, clones := f.clones }
      rw [h.sent] at hsent
      rw [if_pos hrecent, if_pos hrecent', if_pos hrecent', append_nil]
      exact ⟨hsent, h.items, h.stored, hmore⟩
    have hrecent' := mt (hsame.recent nowMs item).mp hrecent
    have hsent := sendAll_change (independent_resend idx (resentItem nowMs item)) (encoded f.stream item.toStored) f.container
      hnew { r with stream := f.stream, clones := f.clones }
    rw [h.sent] at hsent
    rw [if_neg hrecent, if_neg hrecent', if_neg hrecent', hsame.encoded]
    refine ⟨?_, by rw [h.items], ?_, ?_⟩
    · rw [foldl_append, ← hsent]
      rfl
    · refine (RtpStreamSend.stored_setItem ?_).trans ((stored_countRtx f.stream).trans h.stored)
      rw [stored_countRtx, h.stored]
      exact hplace
    · intro i hi
      rcases mem_append.mp hi with hi | hi
      · exact hmore i hi
      · obtain rfl := mem_singleton.mp hi
        exact ⟨seq, mem_cons_self, hat⟩

theorem Ahead.requests (hdistinct : (r.stream.stored.reduceOption.map packet).Nodup) (nowMs : Nat)
    (seqs : List UInt16) :
    ∀ {done : List UInt16} {f : Filling} {r' : Retransmission} {items : List Item}, Ahead r done f r' items →
      (∀ seq ∈ seqs, seq ∉ done) → seqs.Nodup →
      ∃ done', Ahead r done' (seqs.foldl (Filling.request nowMs) f) (seqs.foldl (answer nowMs) r')
        (items ++ answered nowMs r' seqs) := by
  induction seqs with
  | nil =>
    intro done f r' items h _ _
    exact ⟨done, by rwa [answered, append_nil]⟩
  | cons seq seqs ih =>
    intro done f r' items h hnew hnodup
    rw [nodup_cons] at hnodup
    rw [foldl_cons, foldl_cons, answered, ← append_assoc]
    refine ih (h.request hdistinct (hnew seq mem_cons_self)) ?_ hnodup.2
    intro seq' hseq' hmem
    rcases mem_cons.mp hmem with rfl | hmem
    · exact hnodup.1 hseq'
    · exact hnew seq' (mem_cons_of_mem _ hseq') hmem

def numbers (item : NackItem) : List UInt16 :=
  RtpStreamSend.requestedSeqs 17 true item.lostPacketBitmask.toNat item.packetId

def countNack (r : Retransmission) (item : NackItem) : Retransmission :=
  { r with stream := { r.stream with nackPacketCount := r.stream.nackPacketCount + item.countRequestedPackets } }

def resentFor (nowMs : Nat) (r : Retransmission) (item : NackItem) : List Item :=
  ((r.countNack item).stream.fillRetransmissionContainer r.clones nowMs item.packetId item.lostPacketBitmask).container

theorem receiveItem_eq_answers (hdistinct : (r.stream.stored.reduceOption.map packet).Nodup) (nowMs : Nat)
    (item : NackItem) :
    r.receiveItem nowMs item = (numbers item).foldl (answer nowMs) (r.countNack item) ∧
      r.resentFor nowMs item = answered nowMs (r.countNack item) (numbers item) := by
  have hstart : Ahead (r.countNack item) [] { stream := (r.countNack item).stream, clones := r.clones }
      (r.countNack item) [] := by
    refine ⟨rfl, rfl, rfl, ?_⟩
    rintro i ⟨⟩
  obtain ⟨done, hahead⟩ := Ahead.requests (r := r.countNack item) hdistinct nowMs (numbers item) hstart
    (fun _ _ => not_mem_nil) (RtpStreamSend.nodup_requestedSeqs (by decide) ..)
  exact ⟨hahead.sent, hahead.items⟩

end Retransmission

end Mediasoup.Rtp
