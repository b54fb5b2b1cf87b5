import Mediasoup.Lib.Batches
import Mediasoup.Rtcp.XR

/-!
# Sender Reports and Receiver Reports

`SenderReportPacket` writes a packet for every report; `ReceiverReportPacket` writes a packet for every 31 reports, in front
of each of which it puts the SSRC of the packet. A Sender Report packet that announces report blocks is parsed into two
packets (`reports`).
-/

namespace Mediasoup.Rtcp

open Utils Lib XR List Packet

/-! ## Reports -/

structure SenderReport where
  ssrc : UInt32
  ntpSec : UInt32
  ntpFrac : UInt32
  rtpTs : UInt32
  packetCount : UInt32
  octetCount : UInt32
  deriving DecidableEq

namespace SenderReport

def headerSize : Nat := 24

def serialize (r : SenderReport) : List UInt8 :=
  set4 r.ssrc ++ (set4 r.ntpSec ++ (set4 r.ntpFrac ++ (set4 r.rtpTs ++ (set4 r.packetCount ++ set4 r.octetCount))))

def parse (data : List UInt8) : Option SenderReport := do
  let (ssrc, data) ← take4 data
  let (ntpSec, data) ← take4 data
  let (ntpFrac, data) ← take4 data
  let (rtpTs, data) ← take4 data
  let (packetCount, data) ← take4 data
  let (octetCount, _) ← take4 data
  return { ssrc, ntpSec, ntpFrac, rtpTs, packetCount, octetCount }

theorem length_serialize (r : SenderReport) : r.serialize.length = headerSize := rfl

theorem parse_serialize_append (r : SenderReport) (rest : List UInt8) : parse (r.serialize ++ rest) = some r := by
  simp only [serialize, parse, append_assoc, take4_set4_append, Option.bind_eq_bind, Option.bind_some, Option.pure_def]

end SenderReport

/-- The lost packets are counted in 24 bits. -/
structure ReceiverReport where
  ssrc : UInt32
  fractionLost : UInt8
  totalLost : BitVec 24
  lastSeq : UInt32
  jitter : UInt32
  lsr : UInt32
  dlsr : UInt32
  deriving DecidableEq

namespace ReceiverReport

def headerSize : Nat := 24

def serialize (r : ReceiverReport) : List UInt8 :=
  set4 r.ssrc ++ (r.fractionLost :: (set3Bytes r.totalLost.toNat ++
    (set4 r.lastSeq ++ (set4 r.jitter ++ (set4 r.lsr ++ set4 r.dlsr)))))

def getLost : List UInt8 → Option ((UInt8 × BitVec 24) × List UInt8)
  | b0 :: b1 :: b2 :: b3 :: rest => some ((b0, .ofNat 24 (get3Bytes b1 b2 b3)), rest)
  | _ => none

def parse (data : List UInt8) : Option ReceiverReport := do
  let (ssrc, data) ← take4 data
  let ((fractionLost, totalLost), data) ← getLost data
  let (lastSeq, data) ← take4 data
  let (jitter, data) ← take4 data
  let (lsr, data) ← take4 data
  let (dlsr, _) ← take4 data
  return { ssrc, fractionLost, totalLost, lastSeq, jitter, lsr, dlsr }

theorem length_serialize (r : ReceiverReport) : r.serialize.length = headerSize := rfl

theorem getLost_append (fractionLost : UInt8) (totalLost : BitVec 24) (rest : List UInt8) :
    getLost (fractionLost :: (set3Bytes totalLost.toNat ++ rest)) = some ((fractionLost, totalLost), rest) := by
  have htotal : BitVec.ofNat 24 (totalLost.toNat % 16777216) = totalLost := by
    rw [Nat.mod_eq_of_lt totalLost.isLt, BitVec.ofNat_toNat, BitVec.setWidth_eq]
  simp only [set3Bytes, cons_append, nil_append, getLost, get3Bytes_set3Bytes, htotal]

theorem parse_serialize_append (r : ReceiverReport) (rest : List UInt8) : parse (r.serialize ++ rest) = some r := by
  simp only [serialize, parse, append_assoc, cons_append, take4_set4_append, getLost_append, Option.bind_eq_bind,
    Option.bind_some, Option.pure_def]

theorem readsBack (tail : List UInt8) (rs : List ReceiverReport) : ReadsBack parse serialize tail rs := by
  induction rs with
  | nil => trivial
  | cons r rs ih => exact ⟨parse_serialize_append r _, ih⟩

end ReceiverReport

/-! ## Sender Report packets -/

namespace SenderReportPacket

variable (r : SenderReport)

def bytes : List UInt8 := header 0 .sr (4 + SenderReport.headerSize) ++ r.serialize

def serialize (reports : List SenderReport) : List UInt8 := reports.flatMap bytes

def parse (data : List UInt8) : List SenderReport := (SenderReport.parse (data.drop 4)).toList

def getSize (reports : List SenderReport) : Nat := (reports.map fun _ => 4 + SenderReport.headerSize).sum

theorem isPacket_bytes : Packet.IsPacket .sr (bytes r) :=
  ⟨0, r.serialize, rfl, by rw [r.length_serialize]; decide⟩

theorem length_bytes : (bytes r).length = 28 := rfl

theorem length_serialize (rs : List SenderReport) : (serialize rs).length = getSize rs := by
  rw [serialize, length_flatMap, getSize]
  rfl

theorem parse_bytes : parse (bytes r) = [r] := by
  have hdrop : (bytes r).drop 4 = r.serialize ++ [] := (append_nil _).symm
  rw [parse, hdrop, SenderReport.parse_serialize_append]
  rfl

end SenderReportPacket

/-! ## Receiver Report packets -/

structure ReceiverReportPacket where
  ssrc : UInt32
  reports : List ReceiverReport
  deriving DecidableEq

namespace ReceiverReportPacket

def maxReportsPerPacket : Nat := 31

def packetSize (count : Nat) : Nat := 4 + 4 + ReceiverReport.headerSize * count

def serializeReport (ssrc : UInt32) (i : Nat) (c : Option PacketCursor) (r : ReceiverReport) : Option PacketCursor :=
  if i % maxReportsPerPacket = 0 then
    some
      { before := PacketCursor.buffer .rr c
        count := i % maxReportsPerPacket + 1
        length := packetSize (i % maxReportsPerPacket + 1)
        body := set4 ssrc ++ r.serialize }
  else
    c.map fun c =>
      { c with
        count := i % maxReportsPerPacket + 1
        length := packetSize (i % maxReportsPerPacket + 1)
        body := c.body ++ r.serialize }

def serializeFrom (ssrc : UInt32) : Nat → Option PacketCursor → List ReceiverReport → Option PacketCursor
  | _, c, [] => c
  | i, c, r :: rs => serializeFrom ssrc (i + 1) (serializeReport ssrc i c r) rs

variable (p : ReceiverReportPacket)

def serialize : List UInt8 := PacketCursor.buffer .rr (serializeFrom p.ssrc 0 none p.reports)

/-- The size that is taken for the packets; it counts one packet too many where the last one is full. -/
def getSize : Nat :=
  (4 + 4) * (p.reports.length / maxReportsPerPacket + 1) + ReceiverReport.headerSize * p.reports.length

/-- `offset` is where the first report stands, or 0. -/
def parse (data : List UInt8) (offset : Nat) : Option ReceiverReportPacket :=
  match data with
  | b0 :: _ :: _ :: _ :: s0 :: s1 :: s2 :: s3 :: _ =>
    some
      { ssrc := .ofNat (get4Bytes s0 s1 s2 s3)
        reports := readMany ReceiverReport.parse (fun _ => ReceiverReport.headerSize) (b0.toNat % 32)
          (data.drop (if offset = 0 then 4 + 4 else offset)) }
  | _ => none

/-! ### The packets of a list of reports -/

def bytes : List UInt8 :=
  header p.reports.length .rr (packetSize p.reports.length) ++
    (set4 p.ssrc ++ p.reports.flatMap ReceiverReport.serialize)

def packets : List ReceiverReportPacket :=
  (batches maxReportsPerPacket p.reports).map fun reports => { p with reports }

theorem length_flatMap_reports (rs : List ReceiverReport) : (rs.flatMap ReceiverReport.serialize).length = 24 * rs.length := by
  induction rs with
  | nil => rfl
  | cons r rs ih =>
    rw [flatMap_cons, length_append, r.length_serialize, ih, length_cons, ReceiverReport.headerSize]
    omega

theorem buffer_serializeFrom (ssrc : UInt32) (rs : List ReceiverReport) (i : Nat) (batch : List ReceiverReport)
    (before : List UInt8) (hcount : batch.length = i % maxReportsPerPacket + 1) :
    PacketCursor.buffer .rr (serializeFrom ssrc (i + 1)
      (some ⟨before, batch.length, packetSize batch.length, set4 ssrc ++ batch.flatMap ReceiverReport.serialize⟩) rs) =
      before ++ (batchesFrom maxReportsPerPacket batch rs).flatMap fun reports => bytes { ssrc, reports } := by
  induction rs generalizing i batch before with
  | nil => simp [serializeFrom, PacketCursor.buffer, batchesFrom, bytes]
  | cons r rs ih =>
    rw [serializeFrom, serializeReport, batchesFrom]
    unfold maxReportsPerPacket at hcount ⊢ ih
    by_cases hfull : batch.length = 31
    · have hnew : (i + 1) % 31 = 0 := by omega
      have hrest := ih (i + 1) [r] (before ++ bytes { ssrc, reports := batch }) (by rw [hnew]; rfl)
      rw [if_pos hnew, if_pos hfull, flatMap_cons, ← append_assoc, ← hrest, hnew]
      simp [PacketCursor.buffer, bytes]
    have hsame : (i + 1) % 31 = batch.length := by omega
    have hrest := ih (i + 1) (batch ++ [r]) before (by rw [hsame, length_append]; rfl)
    rw [if_neg (by omega), if_neg hfull, ← hrest, hsame]
    simp

theorem serialize_eq : p.serialize = p.packets.flatMap bytes := by
  rw [packets, flatMap_map, serialize]
  cases p.reports with
  | nil => rfl
  | cons r rs =>
    have h := buffer_serializeFrom p.ssrc rs 0 [r] [] rfl
    simpa [serializeFrom, serializeReport, batches, PacketCursor.buffer] using h

theorem flatMap_packets : p.packets.flatMap ReceiverReportPacket.reports = p.reports := by
  rw [packets, flatMap_map]
  show (batches maxReportsPerPacket p.reports).flatMap id = _
  rw [flatMap_id, flatten_batches]

theorem length_le_of_mem_packets {p q : ReceiverReportPacket} (hq : q ∈ p.packets) :
    q.reports.length ≤ maxReportsPerPacket := by
  obtain ⟨batch, hbatch, rfl⟩ := mem_map.mp hq
  exact length_le_of_mem_batches (by decide) hbatch

theorem length_bytes : (bytes p).length = packetSize p.reports.length := by
  rw [bytes, length_append, length_append, length_flatMap_reports, packetSize, ReceiverReport.headerSize]
  show 4 + (4 + _) = _
  omega

theorem length_bytes_le {p q : ReceiverReportPacket} (hq : q ∈ p.packets) : (bytes q).length ≤ 2 ^ 18 := by
  have hcount := length_le_of_mem_packets hq
  rw [length_bytes, packetSize, ReceiverReport.headerSize]
  unfold maxReportsPerPacket at hcount
  omega

theorem isPacket_bytes : Packet.IsPacket .rr (bytes p) := by
  have hsize : packetSize p.reports.length = 4 + (set4 p.ssrc ++ p.reports.flatMap ReceiverReport.serialize).length := by
    rw [length_append, length_flatMap_reports, packetSize, ReceiverReport.headerSize]
    show _ = 4 + (4 + _)
    omega
  refine ⟨p.reports.length, set4 p.ssrc ++ p.reports.flatMap ReceiverReport.serialize, ?_, ?_⟩
  · rw [bytes, hsize]
  · rw [packetSize, ReceiverReport.headerSize] at hsize
    omega

theorem length_serialize : p.serialize.length = (4 + 4) * ((p.reports.length + 30) / 31) + 24 * p.reports.length := by
  have hlen : ∀ rss : List (List ReceiverReport),
      (rss.flatMap fun reports => bytes { p with reports }).length = (4 + 4) * rss.length + 24 * rss.flatten.length := by
    intro rss
    induction rss with
    | nil => rfl
    | cons rs rss ih =>
      have hrs : (bytes { p with reports := rs }).length = 4 + 4 + 24 * rs.length := length_bytes _
      rw [flatMap_cons, length_append, ih, hrs, flatten_cons, length_append, length_cons]
      omega
  rw [serialize_eq, packets, flatMap_map, hlen, flatten_batches, length_batches (by decide)]
  rfl

theorem length_serialize_le : p.serialize.length ≤ p.getSize := by
  rw [length_serialize, getSize, ReceiverReport.headerSize, maxReportsPerPacket]
  omega

/-- **The size is right unless the last packet is full**, or there is none: `GetSize` takes one packet too many there. -/
theorem length_serialize_iff : p.serialize.length = p.getSize ↔ ¬ maxReportsPerPacket ∣ p.reports.length := by
  rw [length_serialize, getSize, ReceiverReport.headerSize, maxReportsPerPacket]
  omega

theorem parse_bytes {p : ReceiverReportPacket} (hcount : p.reports.length ≤ maxReportsPerPacket) :
    parse (bytes p) 0 = some p := by
  have hfield : (UInt8.ofNat (0x80 + p.reports.length % 32)).toNat % 32 = p.reports.length := by
    unfold maxReportsPerPacket at hcount
    rw [UInt8.toNat_ofNat']
    omega
  have hssrc : UInt32.ofNat (p.ssrc.toNat % 4294967296) = p.ssrc := by
    rw [Nat.mod_eq_of_lt p.ssrc.toNat_lt, UInt32.ofNat_toNat]
  have hread := readMany_append ReceiverReport.length_serialize (ReceiverReport.readsBack [] p.reports) 0
  rw [append_nil, Nat.add_zero] at hread
  simp only [bytes, header, set2Bytes, set4, set4Bytes, cons_append, nil_append, parse,
    get4Bytes_set4Bytes, hssrc, hfield, if_pos, drop_succ_cons, drop_zero, hread]
  rw [readMany, append_nil]

end ReceiverReportPacket

end Mediasoup.Rtcp
