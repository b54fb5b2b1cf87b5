import Mediasoup.Rtp.Stream

/-!
# Counting the expected packets

A stream counts its packets by the 16-bit numbers on the wire and the cycles of them. The sender numbers them without bound: an
`Arrival` is a packet with that number. As long as no number is `MaxDropout` ahead or `MaxMisorder` behind the highest one
(`Steady`), the stream follows the sender (`Follows`), but it sees one cycle too many if the first number on the wire is 0: the
highest number is then set to 65535 before the first packet is checked.
-/

namespace Mediasoup.Rtp

structure Arrival where
  number : Nat
  packet : Packet
  nowMs : Nat
  wire : packet.sequenceNumber.toNat = number % 2 ^ 16

def highest (h : Nat) : List Arrival → Nat
  | [] => h
  | a :: as => highest (max h a.number) as

/-- Every packet is less than `MaxDropout` numbers ahead of the highest one before it, and less than `MaxMisorder`
behind. -/
def Steady (h : Nat) : List Arrival → Prop
  | [] => True
  | a :: as => a.number < h + maxDropout ∧ h < a.number + maxMisorder ∧ Steady (max h a.number) as

namespace SequenceState

def receiveAll (s : SequenceState) : List Arrival → SequenceState
  | [] => s
  | a :: as => receiveAll (s.receive a.packet a.nowMs).1 as

theorem receiveAll_cons (s : SequenceState) (a : Arrival) (as : List Arrival) :
    s.receiveAll (a :: as) = (s.receive a.packet a.nowMs).1.receiveAll as := rfl

/-- The state after packets up to the sender's number `h`, the first of which was `first`: `cycles` and `maxSeq` count
from the first number on the wire, with one cycle more if that is 0. -/
structure Follows (first h : Nat) (s : SequenceState) : Prop where
  started : s.started = true
  base : s.baseSeq = first % 2 ^ 16
  maxSeq : s.maxSeq = h % 2 ^ 16
  counted : (s.cycles + s.maxSeq) % 2 ^ 32 = (first % 2 ^ 16 + (h - first) + if first % 2 ^ 16 = 0 then 2 ^ 16 else 0) % 2 ^ 32

theorem Follows.congr {first h : Nat} {s t : SequenceState} (hs : Follows first h s) (hstarted : t.started = s.started)
    (hbase : t.baseSeq = s.baseSeq) (hmax : t.maxSeq = s.maxSeq) (hcycles : t.cycles = s.cycles) : Follows first h t :=
  ⟨hstarted.trans hs.started, hbase.trans hs.base, hmax.trans hs.maxSeq, by rw [hcycles, hmax]; exact hs.counted⟩

def udelta (s : SequenceState) (packet : Packet) : Nat :=
  (packet.sequenceNumber.toNat + 2 ^ 16 - s.maxSeq) % 2 ^ 16

theorem receive_ahead {s : SequenceState} {packet : Packet} (nowMs : Nat) (hs : s.started = true)
    (hdelta : s.udelta packet < maxDropout) :
    (s.receive packet nowMs).2 = true ∧ (s.receive packet nowMs).1.started = true ∧
      (s.receive packet nowMs).1.baseSeq = s.baseSeq ∧
      (s.receive packet nowMs).1.maxSeq = packet.sequenceNumber.toNat ∧
      (s.receive packet nowMs).1.cycles =
        if packet.sequenceNumber.toNat < s.maxSeq then (s.cycles + rtpSeqMod) % 2 ^ 32 else s.cycles := by
  unfold udelta at hdelta
  simp only [receive, updateSeq, hs, if_true, hdelta]
  split
  · exact ⟨rfl, rfl, rfl, rfl, rfl⟩
  · exact ⟨rfl, rfl, rfl, rfl, rfl⟩

theorem receive_behind {s : SequenceState} {packet : Packet} (nowMs : Nat) (hs : s.started = true)
    (hdelta : ¬ s.udelta packet < maxDropout) (hback : ¬ s.udelta packet ≤ rtpSeqMod - maxMisorder) :
    (s.receive packet nowMs).2 = true ∧ (s.receive packet nowMs).1.started = true ∧
      (s.receive packet nowMs).1.baseSeq = s.baseSeq ∧ (s.receive packet nowMs).1.maxSeq = s.maxSeq ∧
      (s.receive packet nowMs).1.cycles = s.cycles := by
  unfold udelta at hdelta hback
  simp only [receive, updateSeq, hs, if_true, hdelta, hback, if_false]
  split
  · exact ⟨rfl, rfl, rfl, rfl, rfl⟩
  · exact ⟨rfl, hs, rfl, rfl, rfl⟩

theorem Follows.receive {first h : Nat} {s : SequenceState} (hs : Follows first h s) (hfirst : first ≤ h) (a : Arrival)
    (hdrop : a.number < h + maxDropout) (hmis : h < a.number + maxMisorder) :
    (s.receive a.packet a.nowMs).2 = true ∧ s.resets a.packet = false ∧
      Follows first (max h a.number) (s.receive a.packet a.nowMs).1 := by
  have hcounted := hs.counted
  have hresets : s.resets a.packet = true → ¬ s.udelta a.packet < maxDropout ∧ s.udelta a.packet ≤ rtpSeqMod - maxMisorder := by
    intro h
    simp only [resets, hs.started, Bool.true_and, decide_eq_true_eq] at h
    exact ⟨h.1, h.2.1⟩
  have hudelta : s.udelta a.packet = (a.number % 2 ^ 16 + 2 ^ 16 - h % 2 ^ 16) % 2 ^ 16 := by
    rw [udelta, a.wire, hs.maxSeq]
  rw [hudelta] at hresets
  unfold maxDropout at hdrop hresets
  unfold maxMisorder at hmis
  by_cases hnew : h ≤ a.number
  · -- ahead of the highest number: a wrap is seen exactly if the number on the wire has become smaller
    have hdelta : (a.number % 2 ^ 16 + 2 ^ 16 - h % 2 ^ 16) % 2 ^ 16 < 3000 := by omega
    obtain ⟨hvalid, hstarted, hbase, hmax, hcycles⟩ :=
      receive_ahead a.nowMs hs.started (by rw [hudelta]; exact hdelta)
    refine ⟨hvalid, Bool.eq_false_of_not_eq_true fun h => (hresets h).1 hdelta, ?_⟩
    rw [max_eq_right hnew]
    refine ⟨hstarted, hbase.trans hs.base, hmax.trans a.wire, ?_⟩
    rw [hs.maxSeq] at hcounted
    rw [hcycles, hmax, a.wire, hs.maxSeq, rtpSeqMod]
    split <;> omega
  · -- behind it
    have hback : ¬ (a.number % 2 ^ 16 + 2 ^ 16 - h % 2 ^ 16) % 2 ^ 16 ≤ 2 ^ 16 - 1500 := by omega
    obtain ⟨hvalid, hstarted, hbase, hmax, hcycles⟩ :=
      receive_behind a.nowMs hs.started (by rw [hudelta]; unfold maxDropout; omega)
        (by rw [hudelta]; exact hback)
    refine ⟨hvalid, Bool.eq_false_of_not_eq_true fun h => hback (hresets h).2, ?_⟩
    rw [max_eq_left (by omega)]
    exact hs.congr (hstarted.trans hs.started.symm) hbase hmax hcycles

theorem Follows.receiveAll {first : Nat} : ∀ {as : List Arrival} {h : Nat} {s : SequenceState}, Follows first h s →
    first ≤ h → Steady h as → Follows first (highest h as) (s.receiveAll as)
  | [], _, _, hs, _, _ => hs
  | a :: as, h, s, hs, hfirst, hsteady => by
    obtain ⟨hdrop, hmis, hrest⟩ := hsteady
    obtain ⟨_, _, hnext⟩ := hs.receive hfirst a hdrop hmis
    exact hnext.receiveAll (hfirst.trans (le_max_left _ _)) hrest

/-- The state in which the first packet is checked: the highest number is the one before it. -/
def beforeFirst (packet : Packet) (nowMs : Nat) : SequenceState :=
  { ({} : SequenceState).initSeq packet.sequenceNumber.toNat with
    started := true
    maxSeq := (packet.sequenceNumber.toNat + 2 ^ 16 - 1) % 2 ^ 16
    maxPacketTs := packet.timestamp.toNat
    maxPacketMs := nowMs }

theorem receive_first (packet : Packet) (nowMs : Nat) :
    ({} : SequenceState).receive packet nowMs = (beforeFirst packet nowMs).receive packet nowMs := by
  simp only [SequenceState.receive, beforeFirst, Bool.false_eq_true, if_true, if_false]

theorem follows_first (a : Arrival) : Follows a.number a.number (({} : SequenceState).receive a.packet a.nowMs).1 := by
  have hmaxSeq : (beforeFirst a.packet a.nowMs).maxSeq = (a.number % 2 ^ 16 + 2 ^ 16 - 1) % 2 ^ 16 := by
    rw [← a.wire]
    rfl
  have hdelta : (beforeFirst a.packet a.nowMs).udelta a.packet < maxDropout := by
    rw [udelta, hmaxSeq, a.wire, maxDropout]
    omega
  obtain ⟨_, hstarted, hbase, hmax, hcycles⟩ := receive_ahead a.nowMs rfl hdelta
  rw [receive_first]
  refine ⟨hstarted, hbase.trans a.wire, hmax.trans a.wire, ?_⟩
  rw [hcycles, hmax, a.wire, show (beforeFirst a.packet a.nowMs).cycles = 0 from rfl, rtpSeqMod]
  by_cases hzero : a.number % 2 ^ 16 = 0
  · rw [if_pos (by omega), if_pos hzero]
    omega
  · rw [if_neg (by omega), if_neg hzero]
    omega

/-- What is reported after any run of packets in range is right exactly if the first number is not 0 and the sum fits 32 bits.
-/
theorem counts_iff (first : Arrival) (rest : List Arrival) (hsteady : Steady first.number rest) :
    (({} : SequenceState).receiveAll (first :: rest)).getExpectedPackets = highest first.number rest - first.number + 1 ∧
      (({} : SequenceState).receiveAll (first :: rest)).lastSeq =
        first.packet.sequenceNumber.toNat + (highest first.number rest - first.number) ↔
    first.packet.sequenceNumber ≠ 0 ∧
      first.packet.sequenceNumber.toNat + (highest first.number rest - first.number) < 2 ^ 32 := by
  have hs := (follows_first first).receiveAll le_rfl hsteady
  rw [← receiveAll_cons] at hs
  have hzero : first.packet.sequenceNumber ≠ 0 ↔ first.number % 2 ^ 16 ≠ 0 := by
    rw [← first.wire, ← UInt16.toNat_inj.ne]
    rfl
  have hcounted := hs.counted
  rw [hzero, getExpectedPackets, lastSeq, first.wire, hs.base]
  by_cases h0 : first.number % 2 ^ 16 = 0
  · rw [if_pos h0] at hcounted
    constructor
    · rintro ⟨hexpected, _⟩
      omega
    · rintro ⟨hne, _⟩
      exact absurd h0 hne
  rw [if_neg h0] at hcounted
  constructor
  · rintro ⟨_, hlast⟩
    exact ⟨h0, by omega⟩
  · rintro ⟨_, hfits⟩
    constructor <;> omega

def arrival (number : Nat) : Arrival where
  number := number
  packet :=
    { payloadType := 96, sequenceNumber := UInt16.ofNat number, timestamp := 0, ssrc := 1, payload := [] }
  nowMs := 0
  wire := UInt16.toNat_ofNat'

theorem counts_wrap : (({} : SequenceState).receiveAll ([65535, 65536, 65538, 65537].map arrival)).getExpectedPackets = 4 ∧
      (({} : SequenceState).receiveAll ([65535, 65536, 65538, 65537].map arrival)).lastSeq = 65538 :=
  (counts_iff (arrival 65535) ([65536, 65538, 65537].map arrival)
    ⟨by decide, by decide, by decide, by decide, by decide, by decide, trivial⟩).mpr ⟨by decide, by decide⟩

theorem first_zero : ¬ ((({} : SequenceState).receiveAll [arrival 0]).getExpectedPackets = highest 0 [] - 0 + 1 ∧
      (({} : SequenceState).receiveAll [arrival 0]).lastSeq = 0 + (highest 0 [] - 0)) := by
  decide

end SequenceState

end Mediasoup.Rtp
