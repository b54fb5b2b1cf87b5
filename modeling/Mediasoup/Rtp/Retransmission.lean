import Mediasoup.Rtp.OneByOne

/-!
# What a stream retransmits

The clones are shared with other streams, so an item of a buffer is tied to the packet that its stream sent by the parts that no
stream rewrites when it retransmits: `core`, the payload type, the marker and the payload. `Sound`: every item of a stream has the
numbers of a packet of its log, and its clone the core of that packet. Packets and NACKs keep it (`Sound.receivePacket`,
`Sound.receiveNack`).
-/

namespace Mediasoup.Rtp

open Lib Mediasoup.Seq List RtpStreamSend Item

/-! ## Cores -/

def Packet.core (p : Packet) : UInt8 × Bool × List UInt8 := (p.payloadType, p.marker, p.payload)

def Packet.SameButPadding (p q : Packet) : Prop := { p with payloadPadding := 0 } = { q with payloadPadding := 0 }

/-- The clones keep their cores; there may be new ones. -/
def CoresKept (clones clones' : List Packet) : Prop :=
  ∀ (k : Nat) (c : UInt8 × Bool × List UInt8), clones[k]?.map Packet.core = some c → clones'[k]?.map Packet.core = some c

structure Resent where
  hasRtx : Bool
  params : RtpStreamParams
  packet : Packet
  deriving DecidableEq

def Resent.undo (r : Resent) : Option Packet :=
  if r.hasRtx then r.packet.rtxDecode r.params.payloadType r.params.ssrc else some r.packet

/-- The packet is one of the log, padding excepted. -/
def Resent.Faithful (log : List Packet) (r : Resent) : Prop :=
  ∃ u, r.undo = some u ∧ ∃ o ∈ log, u.SameButPadding o

/-- The item is the one of a packet of the log, in a stream with these parameters. -/
structure Original (clones log : List Packet) (params : RtpStreamParams) (hasRtx : Bool) (item : Stored) (o : Packet) :
    Prop where
  logged : o ∈ log
  ssrc : o.ssrc = item.ssrc
  sequenceNumber : o.sequenceNumber = item.sequenceNumber
  timestamp : o.timestamp = item.timestamp
  core : clones[item.packet]?.map Packet.core = some o.core
  ownSsrc : item.ssrc = params.ssrc
  sevenBits : o.payloadType % 128 = o.payloadType
  ownPayloadType : hasRtx = true → o.payloadType = params.payloadType

structure Sound (clones log : List Packet) (s : RtpStreamSend) : Prop where
  original : ∀ item ∈ s.stored.reduceOption, ∃ o, Original clones log s.params s.hasRtx item o
  distinct : (s.stored.reduceOption.map Stored.packet).Nodup

variable {clones clones' log : List Packet}

theorem CoresKept.refl (clones : List Packet) : CoresKept clones clones := fun _ _ h => h

theorem CoresKept.trans {clones'' : List Packet} (h : CoresKept clones clones') (h' : CoresKept clones' clones'') :
    CoresKept clones clones'' := fun k c hc => h' k c (h k c hc)

theorem Sound.mono {log' : List Packet} {s s' : RtpStreamSend} (h : Sound clones log s) (hclones : CoresKept clones clones')
    (hlog : log ⊆ log') (hstored : s'.stored.reduceOption.Sublist s.stored.reduceOption) (hparams : s'.params = s.params)
    (hrtx : s'.hasRtx = s.hasRtx) : Sound clones' log' s' where
  original item hitem := by
    obtain ⟨o, ho⟩ := h.original item (hstored.subset hitem)
    refine ⟨o, ?_⟩
    rw [hparams, hrtx]
    exact { ho with logged := hlog ho.logged, core := hclones _ _ ho.core }
  distinct := h.distinct.sublist (hstored.map Stored.packet)

variable {item : Stored}

theorem Original.setNumbers {params : RtpStreamParams} {hasRtx : Bool} {o p : Packet}
    (h : Original clones log params hasRtx item o) (hp : p.core = o.core) :
    p.setNumbers item = { o with payloadPadding := p.payloadPadding } := by
  simp only [Packet.core, Prod.mk.injEq] at hp
  obtain ⟨hpt, hmarker, hpayload⟩ := hp
  simp only [Packet.setNumbers, ← h.ssrc, ← h.sequenceNumber, ← h.timestamp, hpt, hmarker, hpayload]

open Retransmission

theorem Original.retransmitted {s : RtpStreamSend} {o p : Packet}
    (h : Original clones log s.params s.hasRtx item o) (hp : p.core = o.core) :
    Resent.Faithful log ⟨s.hasRtx, s.params, encoded s item p⟩ ∧
      (s.decapsulate item.ssrc (encoded s item p)).core = o.core := by
  rw [encoded, h.setNumbers hp]
  have hclean : ∀ b : UInt8, ({ o with payloadPadding := b } : Packet).SameButPadding o := fun _ => rfl
  cases hrtx : s.hasRtx with
  | false =>
    simp only [countRtx, encapsulate, decapsulate, hrtx, Bool.false_eq_true, if_false]
    exact ⟨⟨_, rfl, o, h.logged, hclean _⟩, rfl⟩
  | true =>
    have hdecode (rtxSeq : UInt16) : (({ o with payloadPadding := p.payloadPadding } : Packet).rtxEncode
        s.params.rtxPayloadType s.params.rtxSsrc rtxSeq).rtxDecode s.params.payloadType item.ssrc =
          some { o with payloadPadding := 0 } := by
      rw [← h.ownPayloadType hrtx, ← h.ssrc]
      exact Packet.rtxDecode_rtxEncode { o with payloadPadding := p.payloadPadding } _ _ _ h.sevenBits
    simp only [countRtx, encapsulate, decapsulate, hrtx, if_true, hdecode]
    refine ⟨⟨{ o with payloadPadding := 0 }, ?_, o, h.logged, hclean 0⟩, rfl⟩
    rw [Resent.undo, if_pos rfl, ← h.ownSsrc]
    exact hdecode _

/-! ## Storing a packet -/

/-- **Whether a packet is sent**, or which assertion fails, does not depend on the clones. -/
theorem RtpStreamSend.receivePacket_agree (s : RtpStreamSend) (sh sh' : SharedPackets) (packet : Packet)
    (size nowMs : Nat) :
    (∃ f, s.receivePacket sh packet size nowMs = .error f ∧ s.receivePacket sh' packet size nowMs = .error f) ∨
    ∃ t sh₁ t' sh₂ valid, s.receivePacket sh packet size nowMs = .ok (t, sh₁, valid) ∧
      s.receivePacket sh' packet size nowMs = .ok (t', sh₂, valid) := by
  unfold receivePacket
  split
  · exact .inl ⟨_, rfl, rfl⟩
  generalize s.receiveStreamPacket packet nowMs = r
  obtain ⟨t, valid⟩ := r
  cases valid with
  | false => exact .inr ⟨t, sh, t, sh', false, rfl, rfl⟩
  | true =>
    dsimp only
    unfold storePacket
    cases t.retransmissionBuffer with
    | none => exact .inr ⟨t, sh, t, sh', true, rfl, rfl⟩
    | some b =>
      dsimp only
      split
      · exact .inr ⟨t, sh, t, sh', true, rfl, rfl⟩
      have hinsert := b.insert_fault_eq sh sh' packet
      cases hx : b.insert sh packet with
      | error f =>
        rw [hx] at hinsert
        cases hy : b.insert sh' packet with
        | error f' =>
          rw [hy] at hinsert
          cases hinsert
          exact .inl ⟨_, rfl, rfl⟩
        | ok r' =>
          rw [hy] at hinsert
          cases hinsert
      | ok r =>
        rw [hx] at hinsert
        cases hy : b.insert sh' packet with
        | error f' =>
          rw [hy] at hinsert
          cases hinsert
        | ok r' => exact .inr ⟨_, _, _, _, true, rfl, rfl⟩

theorem CoresKept.share (sh : SharedPackets) (packet : Packet) : CoresKept sh.clones (sh.share packet).1.clones := by
  intro k c hc
  unfold SharedPackets.share
  cases sh.shared with
  | some i => exact hc
  | none =>
    obtain ⟨p, hp, rfl⟩ := Option.map_eq_some_iff.mp hc
    have hlt := (List.getElem?_eq_some_iff.mp hp).1
    rw [List.getElem?_append_left hlt, hp]
    rfl

/-- A clone that has been made for the packet already has the core of the packet, and no item refers to it. -/
def Shareable (sh : SharedPackets) (packet : Packet) (s : RtpStreamSend) : Prop :=
  ∀ k, sh.shared = some k → sh.clones[k]?.map Packet.core = some packet.core ∧ ∀ item ∈ s.stored.reduceOption, item.packet ≠ k

theorem Sound.share {s : RtpStreamSend} {sh : SharedPackets} {packet : Packet} (hs : Sound sh.clones log s)
    (hshared : Shareable sh packet s) :
    (sh.share packet).1.clones[(sh.share packet).2]?.map Packet.core = some packet.core ∧
      ∀ item ∈ s.stored.reduceOption, item.packet ≠ (sh.share packet).2 := by
  unfold SharedPackets.share
  cases hk : sh.shared with
  | some k => exact hshared k hk
  | none =>
    constructor
    · simp
    · intro item hitem heq
      obtain ⟨o, ho⟩ := hs.original item hitem
      obtain ⟨p, hp, -⟩ := Option.map_eq_some_iff.mp ho.core
      have hlt := (List.getElem?_eq_some_iff.mp hp).1
      dsimp only at heq
      omega

theorem Sound.receivePacket {s s' : RtpStreamSend} {sh sh' : SharedPackets} {packet : Packet} {size nowMs : Nat}
    {valid : Bool} {log' : List Packet} (hs : Sound sh.clones log s)
    (h : s.receivePacket sh packet size nowMs = .ok (s', sh', valid)) (hlog : log ⊆ log')
    (hsent : valid = true → packet ∈ log')
    (hown : s.retransmissionBuffer.isSome = true → packet.payloadType % 128 = packet.payloadType ∧
      (s.hasRtx = true → packet.payloadType = s.params.payloadType) ∧ Shareable sh packet s) :
    Sound sh'.clones log' s' ∧ CoresKept sh.clones sh'.clones := by
  obtain ⟨hssrc, ⟨st, b, rfl⟩, ⟨hsub, rfl⟩ | ⟨hvalid, hbuffer, rfl, l₁, l₂, hitems, hsub⟩⟩ :=
    receivePacket_cases h
  · refine ⟨hs.mono (CoresKept.refl _) hlog ?_ rfl rfl, CoresKept.refl _⟩
    rw [reduceOption_stored, reduceOption_stored]
    exact hsub.map toStored
  have hstored := (reduceOption_stored _).trans (congrArg (List.map toStored) hitems)
  rw [map_append, map_cons] at hstored
  have hsub : (l₁.map toStored ++ l₂.map toStored).Sublist s.stored.reduceOption := by
    rw [reduceOption_stored, ← map_append]
    exact hsub.map toStored
  obtain ⟨hpt, hptRtx, hshared⟩ := hown hbuffer
  obtain ⟨hcore, hother⟩ := hs.share hshared
  have hcores := CoresKept.share sh packet
  have hold : Sound (sh.share packet).1.clones log' s := hs.mono hcores hlog (List.Sublist.refl _) rfl rfl
  refine ⟨⟨?_, ?_⟩, hcores⟩
  · intro item hitem
    rw [hstored, mem_append, mem_cons] at hitem
    have hmem : item = (fillItem sh packet).2.toStored ∨ item ∈ l₁.map toStored ++ l₂.map toStored := by
      rcases hitem with h | h | h
      · exact .inr (mem_append_left _ h)
      · exact .inl h
      · exact .inr (mem_append_right _ h)
    rcases hmem with rfl | hmem
    · exact ⟨packet, hsent hvalid, rfl, rfl, rfl, hcore, hssrc, hpt, hptRtx⟩
    · exact hold.original item (hsub.subset hmem)
  · rw [hstored, map_append, map_cons, nodup_middle, ← map_append, nodup_cons]
    refine ⟨?_, hold.distinct.sublist (hsub.map Stored.packet)⟩
    intro hmem
    obtain ⟨item, hitem, heq⟩ := mem_map.mp hmem
    exact hother item (hsub.subset hitem) heq

/-! ## NACKs -/

structure Answered (s : RtpStreamSend) (clones log : List Packet) (r : Retransmission) : Prop where
  stored : r.stream.stored = s.stored
  params : r.stream.params = s.params
  hasRtx : r.stream.hasRtx = s.hasRtx
  cores : CoresKept clones r.clones
  faithful : ∀ p ∈ r.packets, Resent.Faithful log ⟨s.hasRtx, s.params, p⟩

theorem Answered.sound (h : Answered s clones log r) (hs : Sound clones log s) : Sound r.clones log r.stream :=
  hs.mono h.cores (List.Subset.refl log) (by rw [h.stored]) h.params h.hasRtx

theorem CoresKept.modify {k : Nat} {g : Packet → Packet} (hg : ∀ p, clones[k]? = some p → (g p).core = p.core) :
    CoresKept clones (clones.modify k g) := by
  intro i c hc
  obtain ⟨p, hp, rfl⟩ := Option.map_eq_some_iff.mp hc
  rw [List.getElem?_modify, hp]
  split
  · subst i
    exact congrArg some (hg p hp)
  · rfl

theorem Answered.answer (hs : Sound clones log s) (h : Answered s clones log r) (nowMs : Nat) (seq : UInt16) :
    Answered s clones log (r.answer nowMs seq) := by
  have hstored := (stored_answer r nowMs seq).1.trans h.stored
  cases hfind : r.stream.find seq with
  | none => rwa [answer_of_find_none hfind]
  | some found =>
    obtain ⟨idx, item⟩ := found
    obtain ⟨o, ho⟩ := (h.sound hs).original _ (mem_of_storedAt (stored_of_find hfind).1)
    rw [answer_of_find hfind] at hstored ⊢
    split
    · exact { h with cores := h.cores.trans (.modify fun _ _ => rfl) }
    rename_i hrecent
    rw [if_neg hrecent] at hstored
    rw [send_resent] at hstored ⊢
    have hkept := independent_resend idx (resentItem nowMs item)
    refine ⟨hstored, (hkept.params _).trans h.params, (hkept.hasRtx _).trans h.hasRtx, h.cores.trans (.modify ?_), ?_⟩
    · intro p hp
      have hcore : p.core = o.core := by simpa [hp] using ho.core
      rw [(ho.retransmitted hcore).2, hcore]
    · intro q hq
      rcases mem_append.mp hq with hq | hq
      · exact h.faithful q hq
      · obtain ⟨p, hp, rfl⟩ := Option.map_eq_some_iff.mp (Option.mem_toList.mp hq)
        rw [← h.params, ← h.hasRtx]
        exact (ho.retransmitted (by simpa [hp] using ho.core)).1

theorem Answered.receiveItem (hs : Sound clones log s) (h : Answered s clones log r) (nowMs : Nat) (item : NackItem) :
    Answered s clones log (r.receiveItem nowMs item) := by
  rw [(receiveItem_eq_answers (h.sound hs).distinct nowMs item).1]
  exact List.foldlRecOn _ _ ⟨h.stored, h.params, h.hasRtx, h.cores, h.faithful⟩ fun r h seq _ => h.answer hs nowMs seq

theorem Sound.receiveNack (hs : Sound clones log s) (nowMs : Nat) (items : List NackItem) :
    Answered s clones log (s.receiveNack clones nowMs items) :=
  List.foldlRecOn _ _ ⟨rfl, rfl, rfl, CoresKept.refl clones, nofun⟩ fun _ h item _ => h.receiveItem hs nowMs item

end Mediasoup.Rtp
