import Mediasoup.Lib.Run
import Mediasoup.Rtcp.FeedbackRtpTransport.Serialize

/-!
# From the calls of `AddPacket` to the results of the receiver

A run is a list of calls of `AddPacket` on a fresh packet that all return `SUCCESS`. The first call gives the base; after it a
call records a packet when its number is newer than the newest one so far (`recorded`). In every run along `Fits` the receiver
reads what was recorded (`results_of_fits`). Without it a run can be longer than its 13-bit field, and the bytes are refused
(`wrapped_gap_refused`).
-/

namespace Mediasoup.Rtcp.FeedbackRtpTransport

open Mediasoup.Seq Lib List

/-! ## Calls -/

structure Arrival where
  sequenceNumber : Nat
  timestamp : Nat
  maxRtcpPacketLen : Nat
  sequenceNumber_lt : sequenceNumber < 2 ^ 16 := by decide
  timestamp_lt : timestamp < 2 ^ 64 := by decide

inductive Stop
  | fault (f : Fault)
  | result (r : AddPacketResult)
  deriving DecidableEq

def addStep (p : Packet) (a : Arrival) : Except Stop Packet :=
  match p.addPacket a.sequenceNumber a.timestamp a.maxRtcpPacketLen with
  | .ok (p', .success) => .ok p'
  | .ok (_, r) => .error (.result r)
  | .error f => .error (.fault f)

def fresh (senderSsrc mediaSsrc feedbackPacketCount : Nat) : Packet :=
  { senderSsrc := senderSsrc, mediaSsrc := mediaSsrc, feedbackPacketCount := feedbackPacketCount }

def recorded (newest : Nat) : List Arrival → List Arrival
  | [] => []
  | a :: as =>
    if isSeqHigherThan 16 a.sequenceNumber newest then a :: recorded a.sequenceNumber as else recorded newest as

def newestAfter (newest : Nat) : List Arrival → Nat
  | [] => newest
  | a :: as => newestAfter (if isSeqHigherThan 16 a.sequenceNumber newest then a.sequenceNumber else newest) as

/-- The call adds the packet to the feedback; the first one only gives the base. -/
def Recorded (p : Packet) (a : Arrival) : Prop :=
  p.latestTimestamp ≠ 0 ∧ isSeqHigherThan 16 a.sequenceNumber p.latestSequenceNumber = true

instance (p : Packet) (a : Arrival) : Decidable (Recorded p a) := inferInstanceAs (Decidable (_ ∧ _))

/-- The time is not that of an empty packet. For a recorded packet, the gap and the pending statuses fit a run, the statuses
fit 16 bits, and four times the time difference does not wrap. -/
def Fits (p : Packet) (a : Arrival) : Prop :=
  64 ≤ a.timestamp ∧ (Recorded p a →
    missingBetween p.latestSequenceNumber a.sequenceNumber ≤ 8191 ∧ p.context.statuses.length < 8191 ∧
    p.packetStatusCount + p.context.statuses.length + missingBetween p.latestSequenceNumber a.sequenceNumber + 1 < 2 ^ 16 ∧
    a.timestamp < p.latestTimestamp + 2 ^ 61 ∧ p.latestTimestamp < a.timestamp + 2 ^ 61)

instance (p : Packet) (a : Arrival) : Decidable (Fits p a) := inferInstanceAs (Decidable (_ ∧ (_ → _)))

/-- The results say what the calls recorded. -/
structure Reports (first : Arrival) (rest : List Arrival) (rs : List PacketResult) : Prop where
  numbers : rs.map (·.sequenceNumber) = (List.range rs.length).map fun i => (first.sequenceNumber + 1 + i) % 2 ^ 16
  once : (rs.map (·.sequenceNumber)).Nodup
  newest : (first.sequenceNumber + rs.length) % 2 ^ 16 = newestAfter first.sequenceNumber rest
  marked : ∀ r ∈ rs, r.received = true ↔ ∃ a ∈ recorded first.sequenceNumber rest, a.sequenceNumber = r.sequenceNumber
  times : ∃ c : Int, (rs.filter (·.received)).map (fun r => (r.sequenceNumber, r.receivedAtMs - c)) =
    (recorded first.sequenceNumber rest).map fun a => (a.sequenceNumber, (a.timestamp : Int))

/-! ## The history of a run -/

def history (newest latestTimestamp : Nat) : List Arrival → List (Option Int)
  | [] => []
  | a :: as =>
    if isSeqHigherThan 16 a.sequenceNumber newest then
      List.replicate (missingBetween newest a.sequenceNumber) none ++
        some (4 * ((a.timestamp : Int) - latestTimestamp)) :: history a.sequenceNumber a.timestamp as
    else history newest latestTimestamp as

theorem delta64_eq {timestamp latest : Nat} (hup : timestamp < latest + 2 ^ 61) (hdown : latest < timestamp + 2 ^ 61) :
    delta64 timestamp latest = 4 * ((timestamp : Int) - latest) := by
  unfold delta64
  simp only
  split <;> omega

theorem addStep_cases {p q : Packet} {a : Arrival} (h : addStep p a = .ok q) :
    (p.latestTimestamp = 0 ∧ ∃ base reference latest timestamp, q =
      { p with baseSequenceNumber := base, referenceTime := reference, latestSequenceNumber := latest,
               latestTimestamp := timestamp }) ∨
    (¬Recorded p a ∧ q = p) ∨
    (Recorded p a ∧ delta64 a.timestamp p.latestTimestamp ≤ maxPacketDelta ∧
      -maxPacketDelta ≤ delta64 a.timestamp p.latestTimestamp ∧ q =
      { p.fillChunk p.latestSequenceNumber a.sequenceNumber (delta64 a.timestamp p.latestTimestamp) with
        latestSequenceNumber := a.sequenceNumber, latestTimestamp := a.timestamp }) := by
  unfold addStep at h
  split at h
  · rename_i q' heq
    cases h
    unfold Packet.addPacket at heq
    split at heq
    · cases heq
    split at heq
    · rename_i hbase
      obtain ⟨rfl, -⟩ := Prod.mk.inj (Except.ok.inj heq)
      exact .inl ⟨hbase, _, _, _, _, rfl⟩
    rename_i hbase
    split at heq
    · rename_i hold
      cases heq
      refine .inr (.inl ⟨fun h => ?_, rfl⟩)
      simp [h.2] at hold
    rename_i hnew
    split at heq
    · cases heq
    dsimp only at heq
    split at heq
    · cases heq
    rename_i hdelta
    split at heq
    · cases heq
    · obtain ⟨rfl, -⟩ := Prod.mk.inj (Except.ok.inj heq)
      exact .inr (.inr ⟨⟨hbase, by simpa using hnew⟩, by omega, by omega, rfl⟩)
  · cases h
  · cases h

structure Building (p : Packet) (h : List (Option Int)) : Prop where
  encodes : Encodes p h
  context : ContextOk p.context
  dense : Dense p
  inRange : InRange h
  short : h.length < 2 ^ 16
  started : p.latestTimestamp ≠ 0

theorem Building.record {p q : Packet} {h : List (Option Int)} {a : Arrival} (hb : Building p h) (hfits : Fits p a)
    (hstep : addStep p a = .ok q) (hseq : isSeqHigherThan 16 a.sequenceNumber p.latestSequenceNumber = true) :
    Building q (h ++ (List.replicate (missingBetween p.latestSequenceNumber a.sequenceNumber) none ++
      [some (4 * ((a.timestamp : Int) - p.latestTimestamp))])) ∧ SameHeader p q ∧
      q.latestSequenceNumber = a.sequenceNumber ∧ q.latestTimestamp = a.timestamp := by
  obtain ⟨hstart, hfits⟩ := hfits
  obtain ⟨hm, hpend, htotal, hup, hdown⟩ := hfits ⟨hb.started, hseq⟩
  rcases addStep_cases hstep with ⟨hno, -⟩ | ⟨hno, -⟩ | ⟨-, hle, hge, rfl⟩
  · exact absurd hno hb.started
  · exact absurd ⟨hb.started, hseq⟩ hno
  rw [delta64_eq hup hdown] at hle hge ⊢
  have hlen := hb.encodes.length_eq
  rw [← hb.encodes.count] at hlen
  obtain ⟨he, hd⟩ := fillChunk_encodes hb.encodes hb.context hb.dense hpend rfl hm (by omega)
    (4 * ((a.timestamp : Int) - p.latestTimestamp))
  have hc := fillChunk_contextOk hb.context p.latestSequenceNumber a.sequenceNumber
    (4 * ((a.timestamp : Int) - p.latestTimestamp))
  have hsame := SameHeader.fillChunk p p.latestSequenceNumber a.sequenceNumber
    (4 * ((a.timestamp : Int) - p.latestTimestamp))
  generalize p.fillChunk p.latestSequenceNumber a.sequenceNumber (4 * ((a.timestamp : Int) - p.latestTimestamp)) = r
    at he hd hc hsame ⊢
  refine ⟨⟨⟨he.statuses, he.full, he.short, he.count, he.deltas, he.size⟩, hc, hd, ?_, ?_, ?_⟩, ⟨hsame.1, hsame.2, hsame.3⟩, rfl, rfl⟩
  · intro d hmem
    rcases mem_append.mp hmem with hmem | hmem
    · exact hb.inRange d hmem
    rcases mem_append.mp hmem with hmem | hmem
    · cases eq_of_mem_replicate hmem
    · obtain rfl : d = _ := Option.some.inj (mem_singleton.mp hmem)
      simp only [maxPacketDelta] at hle hge
      omega
  · simp only [length_append, length_replicate, length_singleton]
    omega
  · show a.timestamp ≠ 0
    omega

theorem Building.run : ∀ {as : List Arrival} {p q : Packet} {h : List (Option Int)}, Building p h →
    Along addStep Fits p as → as.foldlM addStep p = .ok q →
    Building q (h ++ history p.latestSequenceNumber p.latestTimestamp as) ∧ SameHeader p q
  | [], p, q, h, hb, _, hrun => by
    cases hrun
    rw [history, append_nil]
    exact ⟨hb, .refl p⟩
  | a :: as, p, q, h, hb, hfits, hrun => by
    cases hstep : addStep p a with
    | error e => simp [List.foldlM, hstep, bind, Except.bind] at hrun
    | ok p' =>
      obtain ⟨hfit, hrest⟩ := (along_cons_ok hstep).mp hfits
      have hrun' : as.foldlM addStep p' = .ok q := by
        simpa [List.foldlM, hstep, bind, Except.bind] using hrun
      cases hseq : isSeqHigherThan 16 a.sequenceNumber p.latestSequenceNumber with
      | false =>
        obtain rfl : p' = p := by
          rcases addStep_cases hstep with ⟨hno, -⟩ | ⟨-, heq⟩ | ⟨hyes, -⟩
          · exact absurd hno hb.started
          · exact heq
          · simp [Recorded, hseq] at hyes
        rw [history, hseq]
        exact Building.run hb hrest hrun'
      | true =>
        obtain ⟨hb', hsame, hlatest, htime⟩ := hb.record hfit hstep hseq
        obtain ⟨hbq, hsameq⟩ := Building.run hb' hrest hrun'
        rw [hlatest, htime] at hbq
        rw [history, hseq, if_pos rfl]
        constructor
        · simpa using hbq
        · exact hsame.trans hsameq

theorem addStep_fresh (s m f : Nat) (first : Arrival) (hge : 64 ≤ first.timestamp) : ∃ p, addStep (fresh s m f) first = .ok p ∧ Building p [] ∧
    p.baseSequenceNumber = (first.sequenceNumber + 1) % 2 ^ 16 ∧ p.referenceTime < 2 ^ 24 ∧ p.size = 0 ∧
    p.latestSequenceNumber = first.sequenceNumber := by
  refine ⟨_, rfl, ⟨⟨rfl, ?_, Nat.zero_le _, rfl, rfl, rfl⟩, contextOk_nil _ _, Nat.le_refl 0, ?_, by decide, ?_⟩, rfl, ?_, rfl, rfl⟩
  · intro c hc
    cases hc
  · intro d hd
    cases hd
  · show (first.timestamp >>> 6) * 64 ≠ 0
    omega
  · have hand : first.timestamp &&& 0x1fffffc0 ≤ 0x1fffffc0 := Nat.and_le_right
    show (first.timestamp &&& 0x1fffffc0) / 64 < 2 ^ 24
    omega

/-! ## The results of a history -/

def resultsOf : Int → Nat → List (Option Int) → List PacketResult
  | _, _, [] => []
  | t, seq, none :: h =>
    { sequenceNumber := (seq + 1) % 2 ^ 16, received := false } :: resultsOf t ((seq + 1) % 2 ^ 16) h
  | t, seq, some d :: h =>
    { sequenceNumber := (seq + 1) % 2 ^ 16, delta := d, received := true, receivedAtMs := t + d.tdiv 4 } ::
      resultsOf (t + d.tdiv 4) ((seq + 1) % 2 ^ 16) h

theorem fillDeltas_fillResults : ∀ (h : List (Option Int)) (t : Int) (seq : Nat),
    fillDeltas t (h.filterMap id) (fillResults seq (h.map statusOf)) = some (resultsOf t seq h)
  | [], _, _ => rfl
  | none :: h, t, seq => by
    have ih := fillDeltas_fillResults h t ((seq + 1) % 2 ^ 16)
    have hrec : (statusOf none).received = false := rfl
    show fillDeltas t (h.filterMap id) (fillResults seq (statusOf none :: h.map statusOf)) = _
    simp only [fillResults, fillDeltas, hrec, ih, Bool.false_eq_true, if_false]
    rfl
  | some d :: h, t, seq => by
    have ih := fillDeltas_fillResults h (t + d.tdiv 4) ((seq + 1) % 2 ^ 16)
    have hrec : (statusOf (some d)).received = true := by
      by_cases hd : 0 ≤ d ∧ d ≤ 255 <;> simp [statusOf, hd, Status.received]
    show fillDeltas t (d :: h.filterMap id) (fillResults seq (statusOf (some d) :: h.map statusOf)) = _
    simp only [fillResults, fillDeltas, hrec, ih, if_true]
    rfl

theorem length_resultsOf : ∀ (h : List (Option Int)) (t : Int) (seq : Nat), (resultsOf t seq h).length = h.length
  | [], _, _ => rfl
  | none :: h, _, _ => congrArg (· + 1) (length_resultsOf h _ _)
  | some _ :: h, _, _ => congrArg (· + 1) (length_resultsOf h _ _)

theorem numbers_resultsOf : ∀ (h : List (Option Int)) (t : Int) (seq : Nat),
    (resultsOf t seq h).map (·.sequenceNumber) = (List.range h.length).map fun i => (seq + 1 + i) % 2 ^ 16
  | [], _, _ => rfl
  | o :: h, t, seq => by
    have hshift : ∀ t', (resultsOf t' ((seq + 1) % 2 ^ 16) h).map (·.sequenceNumber) =
        (List.range h.length).map ((fun i => (seq + 1 + i) % 2 ^ 16) ∘ Nat.succ) := by
      intro t'
      rw [numbers_resultsOf h t' _]
      refine map_congr_left fun i _ => ?_
      simp only [Function.comp_apply]
      omega
    rw [length_cons, range_succ_eq_map, map_cons, map_map]
    cases o with
    | none => rw [resultsOf, map_cons, hshift]
    | some d => rw [resultsOf, map_cons, hshift]

theorem filter_resultsOf_replicate (h : List (Option Int)) (t : Int) : ∀ (m seq : Nat), seq < 2 ^ 16 →
    (resultsOf t seq (List.replicate m none ++ h)).filter (·.received) =
      (resultsOf t ((seq + m) % 2 ^ 16) h).filter (·.received)
  | 0, seq, hseq => by rw [Nat.add_zero, Nat.mod_eq_of_lt hseq]; rfl
  | m + 1, seq, hseq => by
    have ih := filter_resultsOf_replicate h t m ((seq + 1) % 2 ^ 16) (Nat.mod_lt _ (by decide))
    rw [replicate_succ, cons_append, resultsOf, filter_cons_of_neg (by simp), ih]
    rw [show ((seq + 1) % 2 ^ 16 + m) % 2 ^ 16 = (seq + (m + 1)) % 2 ^ 16 by omega]

theorem missingBetween_add (newest : Nat) {seq : Nat} (hs : seq < 2 ^ 16) :
    (newest + missingBetween newest seq + 1) % 2 ^ 16 = seq := by
  unfold missingBetween
  omega

theorem received_resultsOf (c : Int) : ∀ (as : List Arrival) (newest latest : Nat), newest < 2 ^ 16 →
    ((resultsOf (latest + c) newest (history newest latest as)).filter (·.received)).map
        (fun r => (r.sequenceNumber, r.receivedAtMs - c)) =
      (recorded newest as).map fun a => (a.sequenceNumber, (a.timestamp : Int))
  | [], _, _, _ => rfl
  | a :: as, newest, latest, hn => by
    rw [history, recorded]
    cases hseq : isSeqHigherThan 16 a.sequenceNumber newest with
    | false => exact received_resultsOf c as newest latest hn
    | true =>
      have hnext := missingBetween_add newest a.sequenceNumber_lt
      have htime : (latest : Int) + c + (4 * ((a.timestamp : Int) - latest)).tdiv 4 = a.timestamp + c := by
        rw [Int.mul_tdiv_cancel_left _ (by decide)]
        omega
      have ih := received_resultsOf c as a.sequenceNumber a.timestamp a.sequenceNumber_lt
      rw [if_pos rfl, if_pos rfl, filter_resultsOf_replicate _ _ _ _ hn, resultsOf, filter_cons_of_pos rfl,
        map_cons, map_cons, htime, Nat.mod_add_mod, hnext, ih]
      rw [Int.add_sub_cancel]

theorem newest_history : ∀ (as : List Arrival) (newest latest : Nat), newest < 2 ^ 16 →
    (newest + (history newest latest as).length) % 2 ^ 16 = newestAfter newest as
  | [], _, _, hn => Nat.mod_eq_of_lt hn
  | a :: as, newest, latest, hn => by
    rw [history, newestAfter]
    cases hseq : isSeqHigherThan 16 a.sequenceNumber newest with
    | false => exact newest_history as newest latest hn
    | true =>
      have hnext := missingBetween_add newest a.sequenceNumber_lt
      have ih := newest_history as a.sequenceNumber a.timestamp a.sequenceNumber_lt
      rw [if_pos rfl, if_pos rfl, ← ih, length_append, length_replicate, length_cons]
      omega

/-! ## The round trip -/

theorem nodup_numbers {s n : Nat} (hn : n < 2 ^ 16) : ((List.range n).map fun i => (s + 1 + i) % 2 ^ 16).Nodup := by
  refine List.Nodup.map_on ?_ nodup_range
  intro i hi j hj heq
  have := mem_range.mp hi
  have := mem_range.mp hj
  omega

theorem reports_resultsOf (first : Arrival) (rest : List Arrival) (latest : Nat) (t : Int)
    (hshort : (history first.sequenceNumber latest rest).length < 2 ^ 16) :
    Reports first rest (resultsOf t first.sequenceNumber (history first.sequenceNumber latest rest)) := by
  have hlen := length_resultsOf (history first.sequenceNumber latest rest) t first.sequenceNumber
  have hnum := numbers_resultsOf (history first.sequenceNumber latest rest) t first.sequenceNumber
  have htimes := received_resultsOf (t - latest) rest first.sequenceNumber latest first.sequenceNumber_lt
  rw [show (latest : Int) + (t - latest) = t by omega] at htimes
  have honce : ((resultsOf t first.sequenceNumber (history first.sequenceNumber latest rest)).map
      (·.sequenceNumber)).Nodup := by
    rw [hnum]
    exact nodup_numbers hshort
  have hnew := newest_history rest first.sequenceNumber latest first.sequenceNumber_lt
  generalize resultsOf t first.sequenceNumber (history first.sequenceNumber latest rest) = rs at hlen hnum htimes honce ⊢
  refine ⟨by rw [hlen]; exact hnum, honce, by rw [hlen]; exact hnew, fun r hr => ⟨fun hrec => ?_, ?_⟩, t - latest, htimes⟩
  · have hmem : (r.sequenceNumber, r.receivedAtMs - (t - latest)) ∈
        (recorded first.sequenceNumber rest).map fun a => (a.sequenceNumber, (a.timestamp : Int)) := by
      rw [← htimes]
      exact mem_map.mpr ⟨r, mem_filter.mpr ⟨hr, hrec⟩, rfl⟩
    obtain ⟨a, ha, heq⟩ := mem_map.mp hmem
    exact ⟨a, ha, congrArg Prod.fst heq⟩
  · rintro ⟨a, ha, hseq⟩
    have hmem : (a.sequenceNumber, (a.timestamp : Int)) ∈
        (rs.filter (·.received)).map fun r => (r.sequenceNumber, r.receivedAtMs - (t - latest)) := by
      rw [htimes]
      exact mem_map_of_mem ha
    obtain ⟨r', hr', heq⟩ := mem_map.mp hmem
    obtain ⟨hmem', hrec'⟩ := mem_filter.mp hr'
    -- the numbers are distinct, so the received result of that number is this one
    have hsame : r' = r := inj_on_of_nodup_map honce hmem' hr ((congrArg Prod.fst heq).trans hseq)
    exact hsame ▸ hrec'

/-- **Round trip.** In a run whose calls all fit, what the receiver reads is what the calls recorded. -/
theorem results_of_fits (senderSsrc mediaSsrc feedbackPacketCount : Nat) (first : Arrival) (rest : List Arrival)
    {p : Packet} (hfits : Along addStep Fits (fresh senderSsrc mediaSsrc feedbackPacketCount) (first :: rest))
    (hrun : (first :: rest).foldlM addStep (fresh senderSsrc mediaSsrc feedbackPacketCount) = .ok p) :
    ∃ finished bytes q rs, p.finish = .ok finished ∧ finished.serialize = .ok bytes ∧
      parse bytes bytes.length = .ok q ∧ q.getPacketResults = some rs ∧ q.packetStatusCount = rs.length ∧
      Reports first rest rs := by
  obtain ⟨p₀, hfirst, hb₀, hbase₀, href₀, hsize₀, hlatest₀⟩ := addStep_fresh senderSsrc mediaSsrc feedbackPacketCount first hfits.1.1
  have hrest := ((along_cons_ok hfirst).mp hfits).2
  have hrun' : rest.foldlM addStep p₀ = .ok p := by
    simpa [List.foldlM, hfirst, bind, Except.bind] using hrun
  obtain ⟨hb, hsame⟩ := hb₀.run hrest hrun'
  rw [nil_append, hlatest₀] at hb
  obtain ⟨finished, hfinish, hf, hheader⟩ := addPendingChunks_encodes hb.encodes hb.context hb.dense hb.short
  have hsame' := hsame.trans hheader
  obtain ⟨bytes, q, hser, hparse, hqb, -, hqp, hqc, hqd⟩ := parse_serialize_finished hf hb.short hb.inRange
    (hsame'.size.trans hsize₀)
    (by rw [hsame'.baseSequenceNumber, hbase₀]; exact Nat.mod_lt _ (by decide))
    (by rw [hsame'.referenceTime]; exact href₀)
  have hstart : (q.baseSequenceNumber + 2 ^ 16 - 1) % 2 ^ 16 = first.sequenceNumber := by
    have := first.sequenceNumber_lt
    rw [hqb, hsame'.baseSequenceNumber, hbase₀]
    omega
  have hresults : q.getPacketResults = some (resultsOf ((q.referenceTime * 64 % 2 ^ 32 : Nat)) first.sequenceNumber
      (history first.sequenceNumber p₀.latestTimestamp rest)) := by
    unfold Packet.getPacketResults
    rw [hstart, hqc, hf.statuses, hqd]
    exact fillDeltas_fillResults _ _ _
  refine ⟨finished, bytes, q, _, hfinish, hser, hparse, hresults, ?_, reports_resultsOf first rest _ _ hb.short⟩
  rw [hqp, length_resultsOf]

def arrivalsAcrossWrap : Arrival × List Arrival :=
  ({ sequenceNumber := 65534, timestamp := 1000, maxRtcpPacketLen := 1200 },
    [{ sequenceNumber := 65535, timestamp := 1010, maxRtcpPacketLen := 1200 },
      { sequenceNumber := 2, timestamp := 1300, maxRtcpPacketLen := 1200 },
      { sequenceNumber := 1, timestamp := 1310, maxRtcpPacketLen := 1200 },
      { sequenceNumber := 3, timestamp := 1290, maxRtcpPacketLen := 1200 }])

theorem results_across_wrap : ∃ p finished bytes q rs,
    (arrivalsAcrossWrap.1 :: arrivalsAcrossWrap.2).foldlM addStep (fresh 1 2 3) = .ok p ∧ p.finish = .ok finished ∧
      finished.serialize = .ok bytes ∧ parse bytes bytes.length = .ok q ∧ q.getPacketResults = some rs ∧
      q.packetStatusCount = rs.length ∧ Reports arrivalsAcrossWrap.1 arrivalsAcrossWrap.2 rs := by
  obtain ⟨p, hp⟩ : ∃ p, (arrivalsAcrossWrap.1 :: arrivalsAcrossWrap.2).foldlM addStep (fresh 1 2 3) = .ok p := ⟨_, rfl⟩
  exact ⟨p, (results_of_fits 1 2 3 arrivalsAcrossWrap.1 arrivalsAcrossWrap.2 (by decide +kernel) hp).imp
    fun finished h => h.imp fun bytes h => h.imp fun q h => h.imp fun rs h => ⟨hp, h⟩⟩

def wrappedGap : List Arrival :=
  [{ sequenceNumber := 60000, timestamp := 6400, maxRtcpPacketLen := 1200 },
    { sequenceNumber := 10000, timestamp := 6400, maxRtcpPacketLen := 1200 }]

/-- **A gap across the wrap is not limited to 8191 packets**: a run of 15528 is written as 7336, and the receiver refuses the
bytes. -/
theorem wrapped_gap_refused : ∃ p finished bytes, wrappedGap.foldlM addStep (fresh 1 2 3) = .ok p ∧
    p.finish = .ok finished ∧ finished.serialize = .ok bytes ∧
    parse bytes bytes.length = .error .statusCountMismatch := by
  let chunks : List Chunk := [.twoBitVector (List.replicate 7 .notReceived), .runLength .notReceived 15528]
  let p : Packet :=
    { senderSsrc := 1, mediaSsrc := 2, baseSequenceNumber := 60001, referenceTime := 100, latestSequenceNumber := 10000,
      latestTimestamp := 6400, packetStatusCount := 15535, feedbackPacketCount := 3, chunks := chunks, deltas := [0],
      context := { currentStatus := .smallDelta, statuses := [.smallDelta] }, deltasAndChunksSize := 5 }
  let finished : Packet :=
    { p with
      packetStatusCount := 15536, chunks := chunks ++ [.runLength .smallDelta 1],
      context := { currentStatus := .smallDelta }, deltasAndChunksSize := 7 }
  refine ⟨p, finished, [143, 205, 0, 6, 0, 0, 0, 1, 0, 0, 0, 2, 234, 97, 60, 176, 0, 0, 100, 3, 192, 0, 28, 168, 32, 1, 0, 0],
    ?_, ?_, ?_, ?_⟩ <;> decide +kernel

end Mediasoup.Rtcp.FeedbackRtpTransport
