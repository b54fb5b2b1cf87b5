import Mediasoup.Rtp.NackSession

/-!
# Runs of NACKs on a stream with RTX

A stream receives packets and NACKs, while the NACKs of other streams change the clones that they share. `Inv` is what every event
keeps. `nacks_restore`, for every run on a clock that does not go back: each NACK leaves the clones it has touched with the
numbers of their items, their payload, and no padding; an item is resent only more than the RTT after the last time; and the RTX
numbers are consecutive.
-/

namespace Mediasoup.Rtp

open Lib Mediasoup.Seq List RtpStreamSend

namespace Session

open Retransmission

variable {x : Session} {nowMs : Nat} {seq : UInt16}

/-! ## The invariant -/

/-- Retransmissions of one item are more than the RTT apart. An item is told by its clone. -/
def Spaced (resends : List Resend) : Prop :=
  resends.Pairwise fun e e' => e.clone = e'.clone → e'.rttMs < e'.atMs - e.atMs

def Consecutive (start : UInt16) (packets : List Packet) : Prop :=
  ∀ (i : Nat) (p : Packet), packets[i]? = some p → p.sequenceNumber = start + UInt16.ofNat (i + 1)

structure Inv (start : UInt16) (x : Session) : Prop where
  hasRtx : x.stream.hasRtx = true
  distinct : (x.stream.items.map fun item => item.packet).Nodup
  clone : ∀ item ∈ x.stream.items, ∃ p, x.clones[item.packet]? = some p ∧ (item.resentAtMs ≠ 0 → p.payloadPadding = 0)
  before : ∀ item ∈ x.stream.items, item.resentAtMs ≤ x.clockMs
  /-- the last retransmission of an item is the one it knows of -/
  latest : ∀ e ∈ x.resends, ∀ item ∈ x.stream.items, item.packet = e.clone → item.resentAtMs ≠ 0 ∧ e.atMs ≤ item.resentAtMs
  logged : ∀ e ∈ x.resends, (x.clones[e.clone]?).isSome = true
  spaced : Spaced x.resends
  rtxSeq : x.stream.rtxSeq = start + UInt16.ofNat x.packets.length
  consecutive : Consecutive start x.packets

variable {start : UInt16}

theorem Inv.mono (h : Inv start x) {stream : RtpStreamSend} {clones : List Packet}
    (hsub : stream.items.Sublist x.stream.items) (hkept : ClonesKept x.clones clones)
    (hrtx : stream.hasRtx = x.stream.hasRtx) (hseq : stream.rtxSeq = x.stream.rtxSeq) :
    Inv start { x with stream := stream, clones := clones } where
  hasRtx := hrtx.trans h.hasRtx
  distinct := h.distinct.sublist (hsub.map _)
  clone item hitem := by
    obtain ⟨p, hp, hpadding⟩ := h.clone item (hsub.mem hitem)
    obtain ⟨p', hp', hpreserved⟩ := hkept _ p hp
    exact ⟨p', hp', fun hresent => hpreserved.padding (hpadding hresent)⟩
  before item hitem := h.before item (hsub.mem hitem)
  latest e he item hitem := h.latest e he item (hsub.mem hitem)
  logged e he := by
    obtain ⟨p, hp⟩ := Option.isSome_iff_exists.mp (h.logged e he)
    obtain ⟨p', hp', -⟩ := hkept _ p hp
    exact Option.isSome_iff_exists.mpr ⟨p', hp'⟩
  spaced := h.spaced
  rtxSeq := hseq.trans h.rtxSeq
  consecutive := h.consecutive

theorem items_resend (s : RtpStreamSend) (idx : Nat) (item item' : Item) :
    ((s.countRtx.setItem idx item).countRetransmitted item').items = (s.setItem idx item).items := by
  unfold countRtx
  split <;> rfl

theorem mem_of_replaced {l₁ l₂ : List Item} {item item' i : Item}
    (hdistinct : ((l₁ ++ item :: l₂).map fun item => item.packet).Nodup) (hi : i ∈ l₁ ++ item' :: l₂) :
    i = item' ∨ i ∈ l₁ ++ item :: l₂ ∧ i.packet ≠ item.packet := by
  simp only [map_append, map_cons, nodup_append, nodup_cons, mem_map, mem_cons] at hdistinct
  obtain ⟨-, ⟨hright, -⟩, hleft⟩ := hdistinct
  rcases mem_append.mp hi with hi | hi
  · exact .inr ⟨mem_append_left _ hi, hleft _ ⟨i, hi, rfl⟩ _ (.inl rfl)⟩
  · rcases mem_cons.mp hi with rfl | hi
    · exact .inl rfl
    · exact .inr ⟨mem_append_right _ (mem_cons_of_mem _ hi), fun heq => hright ⟨i, hi, heq⟩⟩

variable {s : RtpStreamSend} {item : Item}

theorem rttMs_lt_of_not_recent (hle : item.resentAtMs ≤ nowMs) (hlt : nowMs < 2 ^ 64)
    (hresent : item.resentAtMs ≠ 0) (hrecent : ¬Recent s nowMs item) : s.rttMs < nowMs - item.resentAtMs := by
  have helapsed := Nat.lt_of_not_le fun hle => hrecent ⟨hresent, hle⟩
  unfold elapsedMs at helapsed
  omega

theorem rtxSeq_resend (hrtx : s.hasRtx = true) (idx : Nat) (item item' : Item) :
    ((s.countRtx.setItem idx item).countRetransmitted item').rtxSeq = s.rtxSeq + 1 := by
  simp [countRtx, setItem, countRetransmitted, hrtx]

theorem encoded_sequenceNumber (hrtx : s.hasRtx = true) (item : Stored) (p : Packet) :
    (encoded s item p).sequenceNumber = s.rtxSeq + 1 := by
  simp [encoded, encapsulate, countRtx, hrtx, Packet.rtxEncode]

theorem Consecutive.append {packets : List Packet} (h : Consecutive start packets) {p : Packet}
    (hp : p.sequenceNumber = start + UInt16.ofNat (packets.length + 1)) : Consecutive start (packets ++ [p]) := by
  intro i q hq
  rcases Nat.lt_trichotomy i packets.length with hlt | rfl | hgt
  · rw [List.getElem?_append_left hlt] at hq
    exact h i q hq
  · rw [List.getElem?_concat_length] at hq
    cases hq
    exact hp
  · rw [List.getElem?_eq_none (by simpa using hgt)] at hq
    cases hq

theorem Inv.resend (h : Inv start x) (hclock : 0 < x.clockMs ∧ x.clockMs < 2 ^ 64) {idx : Nat}
    (hfind : x.stream.find seq = some (idx, item)) (hrecent : ¬Recent x.stream x.clockMs item) :
    Inv start (x.resend idx item) := by
  obtain ⟨l₁, l₂, hitems, hset⟩ := items_of_find hfind
  have hmem : item ∈ x.stream.items := by
    rw [hitems]
    exact mem_append_right _ mem_cons_self
  obtain ⟨p, hp, -⟩ := h.clone item hmem
  have hitems' : (x.resend idx item).stream.items = l₁ ++ resentItem x.clockMs item :: l₂ :=
    (items_resend ..).trans (hset _)
  have hother : ∀ i ∈ (x.resend idx item).stream.items,
      i = resentItem x.clockMs item ∨ i ∈ x.stream.items ∧ i.packet ≠ item.packet := by
    intro i hi
    rw [hitems'] at hi
    rw [hitems]
    exact mem_of_replaced (by rw [← hitems]; exact h.distinct) hi
  have hclones : (x.resend idx item).clones = x.clones.modify item.packet (restoredClone x.stream item.toStored) := rfl
  have hkept : ClonesKept x.clones (x.resend idx item).clones :=
    .modify _ _ fun p => preserved_restoredClone x.stream item.toStored p
  have hpackets : (x.resend idx item).packets = x.packets ++ [encoded x.stream item.toStored p] := by
    rw [Session.resend, hp]
    rfl
  have hnext : start + UInt16.ofNat (x.packets.length + 1) = x.stream.rtxSeq + 1 := by
    rw [h.rtxSeq, UInt16.ofNat_add, ← UInt16.add_assoc]
    rfl
  refine ⟨?_, ?_, ?_, ?_, ?_, ?_, ?_, ?_, ?_⟩
  · exact ((independent_resend idx (resentItem x.clockMs item)).hasRtx x.stream).trans h.hasRtx
  · have hdistinct := h.distinct
    rw [hitems, map_append, map_cons] at hdistinct
    rw [hitems', map_append, map_cons]
    exact hdistinct
  · intro i hi
    rcases hother i hi with rfl | ⟨hi, hne⟩
    · refine ⟨restoredClone x.stream item.toStored p, ?_, fun _ => ?_⟩
      · rw [hclones, resentItem_packet, List.getElem?_modify_eq, hp]
        rfl
      · rw [restoredClone_eq, h.hasRtx, if_pos rfl]
    · obtain ⟨q, hq, hpadding⟩ := h.clone i hi
      exact ⟨q, by rw [hclones, List.getElem?_modify_ne _ _ (Ne.symm hne), hq], hpadding⟩
  · intro i hi
    rcases hother i hi with rfl | ⟨hi, -⟩
    · exact Nat.le_refl _
    · exact h.before i hi
  · intro e he i hi heq
    rcases mem_append.mp he with he | he
    · rcases hother i hi with rfl | ⟨hi, -⟩
      · obtain ⟨-, hle⟩ := h.latest e he item hmem heq
        exact ⟨Nat.pos_iff_ne_zero.mp hclock.1, hle.trans (h.before item hmem)⟩
      · exact h.latest e he i hi heq
    · obtain rfl := mem_singleton.mp he
      obtain rfl := (hother i hi).resolve_right fun hi => hi.2 heq
      exact ⟨Nat.pos_iff_ne_zero.mp hclock.1, Nat.le_refl _⟩
  · intro e he
    have hsome : (x.clones[e.clone]?).isSome = true := by
      rcases mem_append.mp he with he | he
      · exact h.logged e he
      · obtain rfl := mem_singleton.mp he
        exact Option.isSome_iff_exists.mpr ⟨p, hp⟩
    obtain ⟨q, hq⟩ := Option.isSome_iff_exists.mp hsome
    obtain ⟨q', hq', -⟩ := hkept _ q hq
    exact Option.isSome_iff_exists.mpr ⟨q', hq'⟩
  · refine pairwise_append.mpr ⟨h.spaced, pairwise_singleton _ _, ?_⟩
    intro e he e' he' heq
    obtain rfl := mem_singleton.mp he'
    obtain ⟨hresent, hle⟩ := h.latest e he item hmem heq.symm
    have hrtt := rttMs_lt_of_not_recent (h.before item hmem) hclock.2 hresent hrecent
    show x.stream.rttMs < x.clockMs - e.atMs
    omega
  · rw [hpackets, length_append, length_singleton, hnext]
    exact rtxSeq_resend h.hasRtx ..
  · rw [hpackets]
    exact h.consecutive.append ((encoded_sequenceNumber h.hasRtx item.toStored p).trans hnext.symm)

theorem Inv.answer (h : Inv start x) (hclock : 0 < x.clockMs ∧ x.clockMs < 2 ^ 64) (seq : UInt16) :
    Inv start (x.answer seq) := by
  cases hfind : x.stream.find seq with
  | none => rwa [answer_none hfind]
  | some found =>
    rw [answer_some hfind]
    split
    · exact h.mono (List.Sublist.refl _) (.modify _ _ fun p => ⟨rfl, id⟩) rfl rfl
    · exact h.resend hclock hfind ‹_›

/-! ## Restored packets -/

/-- The clone of the item is restored: it has the numbers of the item and the payload it had, and no padding. -/
def RestoredItem (x y : Session) (item : Stored) : Prop :=
  ∃ p p', x.clones[item.packet]? = some p ∧ y.clones[item.packet]? = some p' ∧ p'.ssrc = item.ssrc ∧
    p'.sequenceNumber = item.sequenceNumber ∧ p'.timestamp = item.timestamp ∧ p'.payload = p.payload ∧ p'.payloadPadding = 0

def Restored (x : Session) (seqs : List UInt16) (y : Session) : Prop :=
  ∀ seq ∈ seqs, ∀ idx item, x.stream.find seq = some (idx, item) → RestoredItem x y item.toStored

theorem find_of_storedAt {item : Stored} (h : storedAt s.stored seq = some item) :
    ∃ idx i, s.find seq = some (idx, i) ∧ i.toStored = item := by
  unfold RtpStreamSend.stored at h
  cases hb : s.retransmissionBuffer with
  | none =>
    rw [hb] at h
    cases h
  | some b =>
    rw [hb] at h
    obtain ⟨idx, hidx, hplace⟩ := Option.bind_eq_some_iff.mp h
    change b.stored[idx]?.join = some item at hplace
    rw [RetransmissionBuffer.stored, List.getElem?_map, Option.join_eq_some_iff, Option.map_eq_some_iff] at hplace
    obtain ⟨place, hplace, heq⟩ := hplace
    cases place with
    | none => cases heq
    | some i =>
    refine ⟨idx, i, ?_, Option.some.inj heq⟩
    simp only [find, Option.bind_eq_bind, hb, Option.bind_some, b.indexOf_eq, hidx,
      RetransmissionBuffer.itemAt, hplace, Option.join_some, Option.pure_def]

theorem stored_session_answer (x : Session) (seq : UInt16) :
    (x.answer seq).stream.stored = x.stream.stored ∧ (x.answer seq).clockMs = x.clockMs := by
  cases hfind : x.stream.find seq with
  | none =>
    rw [answer_none hfind]
    exact ⟨rfl, rfl⟩
  | some found =>
    obtain ⟨idx, item⟩ := found
    rw [answer_some hfind]
    split
    · exact ⟨rfl, rfl⟩
    obtain ⟨-, hplace⟩ := stored_of_find hfind
    have hplace' : x.stream.countRtx.stored[idx]? = some (some (resentItem x.clockMs item).toStored) := by
      rw [stored_countRtx]
      exact hplace
    exact ⟨(stored_setItem hplace').trans (stored_countRtx x.stream), rfl⟩

theorem Inv.answer_clone (h : Inv start x) {idx : Nat} (hfind : x.stream.find seq = some (idx, item)) :
    ∃ p p', x.clones[item.packet]? = some p ∧ (x.answer seq).clones[item.packet]? = some p' ∧ p'.ssrc = item.ssrc ∧
      p'.sequenceNumber = item.sequenceNumber ∧ p'.timestamp = item.timestamp ∧ p'.payload = p.payload ∧
      p'.payloadPadding = 0 ∧ ∀ k ≠ item.packet, (x.answer seq).clones[k]? = x.clones[k]? := by
  obtain ⟨l₁, l₂, hitems, -⟩ := items_of_find hfind
  have hmem : item ∈ x.stream.items := by
    rw [hitems]
    exact mem_append_right _ mem_cons_self
  obtain ⟨p, hp, hpadding⟩ := h.clone item hmem
  have hmodified (g : Packet → Packet) : (x.clones.modify item.packet g)[item.packet]? = some (g p) ∧
      ∀ k ≠ item.packet, (x.clones.modify item.packet g)[k]? = x.clones[k]? := by
    refine ⟨?_, fun k hk => List.getElem?_modify_ne _ _ (Ne.symm hk)⟩
    rw [List.getElem?_modify_eq, hp]
    rfl
  rw [answer_some hfind]
  split
  · rename_i hrecent
    obtain ⟨hclone, hothers⟩ := hmodified (·.setNumbers item.toStored)
    exact ⟨p, _, hp, hclone, rfl, rfl, rfl, rfl, hpadding hrecent.1, hothers⟩
  · obtain ⟨hclone, hothers⟩ := hmodified (restoredClone x.stream item.toStored)
    rw [restoredClone_eq, h.hasRtx, if_pos rfl] at hclone
    exact ⟨p, _, hp, hclone, rfl, rfl, rfl, rfl, rfl, hothers⟩

/-- What has been reached in a NACK: the numbers `done` have been answered. -/
structure Progress (start : UInt16) (x : Session) (nowMs : Nat) (done : List UInt16) (y : Session) : Prop where
  inv : Inv start y
  clock : y.clockMs = nowMs
  stored : y.stream.stored = x.stream.stored
  kept : ClonesKept x.clones y.clones
  restored : ∀ seq ∈ done, ∀ item, storedAt x.stream.stored seq = some item → RestoredItem x y item

theorem Progress.answer {y : Session} {done : List UInt16} (hx : Inv start x) (hclock : 0 < nowMs ∧ nowMs < 2 ^ 64)
    (h : Progress start x nowMs done y) (seq : UInt16) : Progress start x nowMs (done ++ [seq]) (y.answer seq) := by
  obtain ⟨hstored, hsame⟩ := stored_session_answer y seq
  have hdistinct : (x.stream.stored.reduceOption.map Stored.packet).Nodup := by
    rw [map_packet_items]
    exact hx.distinct
  refine ⟨h.inv.answer (by rw [h.clock]; exact hclock) seq, hsame.trans h.clock, hstored.trans h.stored,
    h.kept.trans (answer_clones y seq), ?_⟩
  -- the item of the number that is answered now
  have hnow (item : Stored) (hat : storedAt x.stream.stored seq = some item) : RestoredItem x (y.answer seq) item := by
    rw [← h.stored] at hat
    obtain ⟨idx, i, hfind, rfl⟩ := find_of_storedAt hat
    obtain ⟨p, p', hp, hp', hssrc, hseq, hts, hpayload, hpadding, -⟩ := h.inv.answer_clone hfind
    rw [h.stored] at hat
    obtain ⟨q, hq⟩ : ∃ q, x.clones[i.packet]? = some q := by
      have hmem := mem_of_storedAt hat
      rw [reduceOption_stored] at hmem
      obtain ⟨j, hj, heq⟩ := mem_map.mp hmem
      obtain ⟨q, hq, -⟩ := hx.clone j hj
      rw [show j.packet = i.packet from congrArg Stored.packet heq] at hq
      exact ⟨q, hq⟩
    obtain ⟨q', hq', hpreserved⟩ := h.kept _ q hq
    cases hp.symm.trans hq'
    exact ⟨q, p', hq, hp', hssrc, hseq, hts, hpayload.trans hpreserved.payload, hpadding⟩
  intro seq' hseq' item' hat'
  rcases mem_append.mp hseq' with hseq' | hseq'
  · by_cases heq : seq' = seq
    · subst heq
      exact hnow item' hat'
    obtain ⟨q, q', hq, hq', hrest⟩ := h.restored seq' hseq' item' hat'
    refine ⟨q, q', hq, ?_, hrest⟩
    cases hfind : y.stream.find seq with
    | none => rwa [answer_none hfind]
    | some found =>
      obtain ⟨hat, -⟩ := stored_of_find hfind
      rw [h.stored] at hat
      obtain ⟨-, -, -, -, -, -, -, -, -, hothers⟩ := h.inv.answer_clone hfind
      rw [hothers item'.packet fun hpacket => heq (storedAt_inj hdistinct hat' hat hpacket)]
      exact hq'
  · obtain rfl := mem_singleton.mp hseq'
    exact hnow item' hat'

theorem Inv.nack (h : Inv start x) (hle : x.clockMs ≤ nowMs) (hclock : 0 < nowMs ∧ nowMs < 2 ^ 64) (items : List NackItem) :
    Progress start x nowMs (items.flatMap numbers) (x.nack nowMs items) := by
  refine nack_induction (P := Progress start x nowMs) x nowMs items h.distinct ?_ ?_ ?_
  · refine ⟨?_, rfl, rfl, .refl _, nofun⟩
    exact { h with before := fun item hitem => (h.before item hitem).trans hle }
  · intro done y item hy
    exact { hy with inv := hy.inv.mono (List.Sublist.refl _) (.refl _) rfl rfl }
  · intro done y seq hy
    exact hy.answer h hclock seq

/-! ## Runs -/

inductive Event
  /-- `ReceivePacket`, with the clone that another stream has made of the packet, if any -/
  | packet (shared : Option Nat) (packet : Packet) (size nowMs : Nat)
  | nack (nowMs : Nat) (items : List NackItem)
  /-- a NACK for another stream with the same clones -/
  | otherNack (other : RtpStreamSend) (nowMs : Nat) (items : List NackItem)
  /-- another stream clones a packet -/
  | otherClone (packet : Packet)
  /-- a Receiver Report brings a new RTT -/
  | report (rtt : Option Nat)
  | clear

def step (x : Session) : Event → Except SendFault Session
  | .packet shared packet size nowMs =>
    match x.stream.receivePacket { clones := x.clones, shared := shared } packet size nowMs with
    | .error f => .error f
    | .ok (stream, sh, _) => .ok { x with stream := stream, clones := sh.clones }
  | .nack nowMs items => .ok (x.nack nowMs items)
  | .otherNack other nowMs items => .ok { x with clones := (other.receiveNack x.clones nowMs items).clones }
  | .otherClone packet => .ok { x with clones := x.clones ++ [packet] }
  | .report rtt => .ok { x with stream := { x.stream with rtt := rtt } }
  | .clear => .ok { x with stream := x.stream.clearBuffer }

/-- The clone of a packet is a new one for the stream, the clock does not go back, and the items of another stream have clones
of their own. -/
def Allowed (x : Session) : Event → Prop
  | .packet (some k) _ _ _ =>
    k < x.clones.length ∧ (∀ item ∈ x.stream.items, item.packet ≠ k) ∧ ∀ e ∈ x.resends, e.clone ≠ k
  | .nack nowMs _ => x.clockMs ≤ nowMs ∧ 0 < nowMs ∧ nowMs < 2 ^ 64
  | .otherNack other _ _ => (other.items.map fun item => item.packet).Nodup
  | _ => True

instance (x : Session) : ∀ e, Decidable (Allowed x e)
  | .packet (some _) _ _ _ => inferInstanceAs (Decidable (_ ∧ _ ∧ _))
  | .nack _ _ => inferInstanceAs (Decidable (_ ∧ _ ∧ _))
  | .otherNack _ _ _ => inferInstanceAs (Decidable (List.Nodup _))
  | .packet none _ _ _ | .otherClone _ | .report _ | .clear => .isTrue trivial

structure Good (start : UInt16) (x : Session) (e : Event) (y : Session) : Prop where
  restored : ∀ nowMs items, e = .nack nowMs items → Restored x (items.flatMap numbers) y
  spaced : Spaced y.resends
  consecutive : Consecutive start y.packets

theorem Inv.packet (h : Inv start x) {shared : Option Nat} {packet : Packet} {size : Nat} {s' : RtpStreamSend}
    {sh' : SharedPackets} {valid : Bool} (hallowed : Allowed x (.packet shared packet size nowMs))
    (hreceive : x.stream.receivePacket { clones := x.clones, shared := shared } packet size nowMs = .ok (s', sh', valid)) :
    Inv start { x with stream := s', clones := sh'.clones } := by
  obtain ⟨-, ⟨st, b, hs'⟩, ⟨hsub, rfl⟩ | ⟨-, -, rfl, l₁, l₂, hitems, hsub⟩⟩ := receivePacket_cases hreceive
  · exact h.mono hsub (.refl _) (by rw [hs']) (by rw [hs'])
  have hlength {k : Nat} (hk : (x.clones[k]?).isSome = true) : k < x.clones.length := by
    obtain ⟨p, hp⟩ := Option.isSome_iff_exists.mp hk
    exact (List.getElem?_eq_some_iff.mp hp).1
  have hitem (item : Item) (hmem : item ∈ x.stream.items) : item.packet < x.clones.length := by
    obtain ⟨p, hp, -⟩ := h.clone item hmem
    exact (List.getElem?_eq_some_iff.mp hp).1
  -- the clone is one that no item and no retransmission refers to
  obtain ⟨hexists, hnew, hlog, hkept⟩ :
      (∃ p, (({ clones := x.clones, shared := shared } : SharedPackets).share packet).1.clones[
        (fillItem { clones := x.clones, shared := shared } packet).2.packet]? = some p) ∧
      (∀ item ∈ x.stream.items, item.packet ≠ (fillItem { clones := x.clones, shared := shared } packet).2.packet) ∧
      (∀ e ∈ x.resends, e.clone ≠ (fillItem { clones := x.clones, shared := shared } packet).2.packet) ∧
      ClonesKept x.clones (({ clones := x.clones, shared := shared } : SharedPackets).share packet).1.clones := by
    cases shared with
    | some k => exact ⟨⟨_, List.getElem?_eq_getElem hallowed.1⟩, hallowed.2.1, hallowed.2.2, .refl _⟩
    | none =>
      exact ⟨⟨packet, List.getElem?_concat_length⟩, fun item hmem => Nat.ne_of_lt (hitem item hmem),
        fun e he => Nat.ne_of_lt (hlength (h.logged e he)), .append _ _⟩
  have hrest : Inv start { x with clones := (({ clones := x.clones, shared := shared } : SharedPackets).share packet).1.clones } :=
    h.mono (List.Sublist.refl _) hkept rfl rfl
  have hfresh : (fillItem { clones := x.clones, shared := shared } packet).2.resentAtMs = 0 := rfl
  generalize (fillItem { clones := x.clones, shared := shared } packet).2 = item at hitems hexists hnew hlog hfresh
  have hcases (i : Item) (hi : i ∈ s'.items) : i = item ∨ i ∈ x.stream.items := by
    rw [hitems, mem_append, mem_cons, or_left_comm, ← mem_append] at hi
    exact hi.imp_right fun hi => hsub.mem hi
  refine ⟨hs' ▸ h.hasRtx, ?_, fun i hi => ?_, fun i hi => ?_, fun e he i hi heq => ?_, hrest.logged, h.spaced,
    hs' ▸ h.rtxSeq, h.consecutive⟩
  · rw [hitems, map_append, map_cons, nodup_middle, ← map_append]
    refine nodup_cons.mpr ⟨?_, h.distinct.sublist (hsub.map _)⟩
    intro hmem
    obtain ⟨i, hi, heq⟩ := mem_map.mp hmem
    exact hnew i (hsub.mem hi) heq
  · rcases hcases i hi with rfl | hi
    · obtain ⟨p, hp⟩ := hexists
      exact ⟨p, hp, fun hresent => absurd hfresh hresent⟩
    · exact hrest.clone i hi
  · rcases hcases i hi with rfl | hi
    · rw [hfresh]
      exact Nat.zero_le _
    · exact h.before i hi
  · rcases hcases i hi with rfl | hi
    · exact absurd heq.symm (hlog e he)
    · exact h.latest e he i hi heq

theorem Inv.step {e : Event} {y : Session} (h : Inv start x) (hallowed : Allowed x e) (hstep : x.step e = .ok y) :
    Good start x e y ∧ Inv start y := by
  -- apart from a NACK, the events only have to keep the invariant
  have hgood (hinv : Inv start y) (hother : ∀ nowMs items, e ≠ .nack nowMs items) : Good start x e y ∧ Inv start y :=
    ⟨⟨fun nowMs items heq => absurd heq (hother nowMs items), hinv.spaced, hinv.consecutive⟩, hinv⟩
  cases e with
  | packet shared packet size nowMs =>
    simp only [Session.step] at hstep
    split at hstep
    · cases hstep
    · cases hstep
      exact hgood (h.packet hallowed ‹_›) (nofun)
  | nack nowMs items =>
    cases hstep
    have hprogress := h.nack hallowed.1 hallowed.2 items
    refine ⟨⟨?_, hprogress.inv.spaced, hprogress.inv.consecutive⟩, hprogress.inv⟩
    rintro _ _ ⟨⟩ seq hseq idx item hfind
    exact hprogress.restored seq hseq _ (stored_of_find hfind).1
  | otherNack other nowMs items =>
    cases hstep
    exact hgood (h.mono (List.Sublist.refl _) (nack_clones { stream := other, clones := x.clones } nowMs items hallowed) rfl rfl)
      (nofun)
  | otherClone packet =>
    cases hstep
    exact hgood (h.mono (List.Sublist.refl _) (.append _ _) rfl rfl) (nofun)
  | report rtt =>
    cases hstep
    exact hgood (h.mono (List.Sublist.refl _) (.refl _) rfl rfl) (nofun)
  | clear =>
    cases hstep
    refine hgood (h.mono ?_ (.refl _) rfl rfl) (nofun)
    rw [items_clearBuffer]
    exact nil_sublist _

/-- **Every run of NACKs on a stream with RTX**: each NACK restores the packets that it asks for, an item is resent only more than
the RTT after the last time, and the RTX numbers are consecutive. -/
theorem nacks_restore (params : RtpStreamParams) (type : MimeType.Kind) (payloadType : UInt8) (ssrc : UInt32)
    (rtxSeq : UInt16) (clones : List Packet) (events : List Event)
    (h : Along step Allowed
      { stream := (create params type).setRtx payloadType ssrc rtxSeq, clones := clones } events) :
    EachStep step (Good rtxSeq)
      { stream := (create params type).setRtx payloadType ssrc rtxSeq, clones := clones } events := by
  have hitems : ((create params type).setRtx payloadType ssrc rtxSeq).items = [] := by
    unfold RtpStreamSend.items setRtx create
    cases params.useNack <;> rfl
  have hinv : Inv rtxSeq { stream := (create params type).setRtx payloadType ssrc rtxSeq, clones := clones } := by
    refine ⟨rfl, ?_, ?_, ?_, nofun, nofun, List.Pairwise.nil, ?_, nofun⟩
    · rw [hitems]
      exact nodup_nil
    · rw [hitems]
      rintro _ ⟨⟩
    · rw [hitems]
      rintro _ ⟨⟩
    · exact (UInt16.add_zero rtxSeq).symm
  exact eachStep_of_along (fun x e y hx he hstep => hx.step he hstep) events _ hinv h

def otherStream : RtpStreamSend :=
  { params := { ssrc := 2, payloadType := 96, clockRate := 90000 }
    retransmissionBuffer := some
      { maxItems := 8, maxRetransmissionDelayMs := 2000, clockRate := 90000, buffer := [some ⟨⟨0, 2, 7, 5000⟩, 0, 0⟩] } }

/-- The first packet is requested three times: at first with the other one, then too early, and then twice in one NACK. -/
def threeNacks : List Event :=
  [.packet none { payloadType := 96, sequenceNumber := 1, timestamp := 1000, ssrc := 1, payload := [1, 2], payloadPadding := 4 } 18
      1000,
    .packet none { payloadType := 96, sequenceNumber := 2, timestamp := 1000, ssrc := 1, payload := [3] } 13 1000,
    .nack 2000 [⟨1, 1⟩],
    .nack 2050 [⟨1, 0⟩],
    .otherNack otherStream 2060 [⟨7, 0⟩],
    .report (some 20),
    .nack 2080 [⟨1, 0⟩, ⟨1, 0⟩]]

def videoSession : Session :=
  { stream := (create { ssrc := 1, payloadType := 96, clockRate := 90000, useNack := true } .video).setRtx 97 3
      65534 }

theorem nacks_restore_threeNacks :
    ((threeNacks.foldlM step videoSession).toOption.map fun x => x.packets.map (·.sequenceNumber)) = some [65535, 0, 1] ∧
      EachStep step (Good 65534) videoSession threeNacks :=
  ⟨by decide +kernel, nacks_restore _ _ _ _ _ _ _ (by decide +kernel)⟩

end Session

end Mediasoup.Rtp
