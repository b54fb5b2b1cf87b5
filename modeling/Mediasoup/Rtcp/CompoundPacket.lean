import Mediasoup.Lib.Run
import Mediasoup.Rtcp.Reports
import Mediasoup.Rtcp.Sdes

/-!
# Compound packets

`CompoundPacket` writes reports, chunks and blocks one packet behind the other: Sender Reports, Receiver Reports, SDES chunks,
Extended Report blocks. `RTCP::Packet::Parse` finds the reports again (`parse_serialize_compound`).

The size that is sent is the one that `GetSize` computes before. It is never too small (`length_serialize_le`), and too large just
where Receiver Reports or chunks fill their last packet (`length_eq_getSize_iff`).
-/

namespace Mediasoup.Rtcp

open Utils Lib XR List ReceiverReportPacket Packet

structure CompoundPacket where
  senderReports : List SenderReport := []
  receiverReportPacket : ReceiverReportPacket := ⟨0, []⟩
  sdesChunks : List SdesChunk := []
  xrPacket : ExtendedReport := ⟨0, []⟩

namespace CompoundPacket

/-! ## Filling -/

/-- The MTU without the headers of IPv6 and TCP and what SRTP adds. -/
def maxSize : Nat := 1500 - 40 - 20 - 148

def sdesSize (chunks : List SdesChunk) : Nat :=
  4 * (chunks.length / SdesPacket.maxChunksPerPacket + 1) + (chunks.map SdesChunk.getSize).sum

def getSize (c : CompoundPacket) : Nat :=
  (if 0 < c.senderReports.length then SenderReportPacket.getSize c.senderReports else 0) +
  (if 0 < c.receiverReportPacket.reports.length then c.receiverReportPacket.getSize else 0) +
  (if 0 < c.sdesChunks.length then sdesSize c.sdesChunks else 0) +
  (if c.xrPacket.reports ≠ [] then c.xrPacket.getSize else 0)

variable (c : CompoundPacket)

def addSenderReport (report : SenderReport) : CompoundPacket :=
  { c with senderReports := c.senderReports ++ [report] }

def addReceiverReport (report : ReceiverReport) : CompoundPacket :=
  { c with
    receiverReportPacket :=
      { c.receiverReportPacket with reports := c.receiverReportPacket.reports ++ [report] } }

def addSdesChunk (chunk : SdesChunk) : CompoundPacket := { c with sdesChunks := c.sdesChunks ++ [chunk] }

/-- `AddReceiverReferenceTime` and `AddDelaySinceLastRr` -/
def addBlock (block : Block) : CompoundPacket :=
  { c with xrPacket := { c.xrPacket with reports := c.xrPacket.reports ++ [block] } }

/-- The three forms of `Add`, of which each leaves some of the lists empty: the items are taken out again if the packet
cannot hold them. -/
def add (senderReports : List SenderReport) (receiverReports : List ReceiverReport)
    (sdesChunks : List SdesChunk) (blocks : List Block) : CompoundPacket × Bool :=
  let filled := blocks.foldl addBlock (sdesChunks.foldl addSdesChunk
    (receiverReports.foldl addReceiverReport (senderReports.foldl addSenderReport c)))
  if filled.getSize ≤ maxSize then (filled, true) else (c, false)

end CompoundPacket

/-! ## Taking items out again

`Add` appends the items before it looks at the size, and takes those that do not fit out again by their addresses. -/

/-- A pointer to a report, a chunk or a block. -/
structure Ref (α : Type) where
  address : Nat
  object : α

namespace Ref

variable {α : Type}

variable (l xs : List (Ref α))

def addAll : List (Ref α) := xs.foldl (fun l x => l ++ [x]) l

def removeAll : List (Ref α) := xs.foldl (fun l x => l.eraseP (·.address = x.address)) l

/-- The items are not in the list already: a packet owns what it holds. -/
def Apart : Prop := ∀ x ∈ xs, ∀ y ∈ l, y.address ≠ x.address

instance (l xs : List (Ref α)) : Decidable (Apart l xs) :=
  inferInstanceAs (Decidable (∀ x ∈ xs, ∀ y ∈ l, y.address ≠ x.address))

theorem addAll_eq : addAll l xs = l ++ xs := by
  induction xs generalizing l with
  | nil => simp [addAll]
  | cons x xs ih => simpa [addAll] using ih (l ++ [x])

theorem removeAll_addAll {l xs : List (Ref α)} (h : Apart l xs) : removeAll (addAll l xs) xs = l := by
  rw [addAll_eq]
  induction xs with
  | nil => simp [removeAll]
  | cons x xs ih =>
    have hx : ∀ y ∈ l, ¬ decide (y.address = x.address) = true := by simpa using h x mem_cons_self
    rw [removeAll, foldl_cons, eraseP_append_right _ hx, eraseP_cons_of_pos (by simp)]
    exact ih fun x hx => h x (mem_cons_of_mem _ hx)

end Ref

/-- What a compound packet holds, or is handed over to it. -/
structure Held where
  senderReports : List (Ref SenderReport) := []
  receiverReports : List (Ref ReceiverReport) := []
  sdesChunks : List (Ref SdesChunk) := []
  blocks : List (Ref Block) := []

inductive AddCall
  | one (senderReport : Option (Ref SenderReport)) (sdesChunk : Option (Ref SdesChunk)) (delaySinceLastRr : Option (Ref Block))
  | several (senderReports : List (Ref SenderReport)) (sdesChunks : List (Ref SdesChunk)) (delaySinceLastRrs : List (Ref Block))
  | receiver (receiverReports : List (Ref ReceiverReport)) (receiverReferenceTime : Option (Ref Block))

def AddCall.items : AddCall → Held
  | one senderReport sdesChunk block => ⟨senderReport.toList, [], sdesChunk.toList, block.toList⟩
  | several senderReports sdesChunks blocks => ⟨senderReports, [], sdesChunks, blocks⟩
  | receiver receiverReports block => ⟨[], receiverReports, [], block.toList⟩

namespace Held

def packet (c : Held) : CompoundPacket where
  senderReports := c.senderReports.map Ref.object
  receiverReportPacket := ⟨0, c.receiverReports.map Ref.object⟩
  sdesChunks := c.sdesChunks.map Ref.object
  xrPacket := ⟨0, c.blocks.map Ref.object⟩

def each (f : ∀ {α : Type}, List (Ref α) → List (Ref α) → List (Ref α)) (c items : Held) : Held :=
  ⟨f c.senderReports items.senderReports, f c.receiverReports items.receiverReports, f c.sdesChunks items.sdesChunks,
    f c.blocks items.blocks⟩

def add (c items : Held) : Held × Bool :=
  let filled := c.each Ref.addAll items
  if filled.packet.getSize ≤ CompoundPacket.maxSize then (filled, true) else (filled.each Ref.removeAll items, false)

def step (c : Held) (call : AddCall) : Except Empty Held := .ok (c.add call.items).1

def Apart (c : Held) (call : AddCall) : Prop :=
  Ref.Apart c.senderReports call.items.senderReports ∧ Ref.Apart c.receiverReports call.items.receiverReports ∧
    Ref.Apart c.sdesChunks call.items.sdesChunks ∧ Ref.Apart c.blocks call.items.blocks

instance (c : Held) (call : AddCall) : Decidable (c.Apart call) := inferInstanceAs (Decidable (_ ∧ _ ∧ _ ∧ _))

def Kept (c : Held) (call : AddCall) (c' : Held) : Prop :=
  if (c.add call.items).2 then c'.packet.getSize ≤ CompoundPacket.maxSize else c' = c

variable {c : Held} {call : AddCall}

theorem add_eq (h : c.Apart call) : c.add call.items =
    if (c.each Ref.addAll call.items).packet.getSize ≤ CompoundPacket.maxSize then (c.each Ref.addAll call.items, true)
    else (c, false) := by
  obtain ⟨hsr, hrr, hsdes, hxr⟩ := h
  simp only [add, each, Ref.removeAll_addAll hsr, Ref.removeAll_addAll hrr, Ref.removeAll_addAll hsdes,
    Ref.removeAll_addAll hxr]
  rfl

theorem packet_add (h : c.Apart call) : ((c.add call.items).1.packet, (c.add call.items).2) =
    c.packet.add (call.items.senderReports.map Ref.object) (call.items.receiverReports.map Ref.object)
      (call.items.sdesChunks.map Ref.object) (call.items.blocks.map Ref.object) := by
  have hfold : ∀ {α : Type} (f : CompoundPacket → α → CompoundPacket) (g : List α → CompoundPacket) (l xs : List (Ref α)),
      (∀ l x, f (g l) x = g (l ++ [x])) →
        (xs.map Ref.object).foldl f (g (l.map Ref.object)) = g ((Ref.addAll l xs).map Ref.object) := by
    intro α f g l xs hf
    rw [Ref.addAll_eq]
    induction xs generalizing l with
    | nil => simp
    | cons x xs ih => simpa [hf] using ih (l ++ [x])
  have hsr := hfold .addSenderReport (fun l => { c.packet with senderReports := l }) c.senderReports
    call.items.senderReports fun _ _ => rfl
  have hrr := hfold .addReceiverReport
    (fun l => { (c.each Ref.addAll call.items).packet with
      receiverReportPacket := ⟨0, l⟩, sdesChunks := c.packet.sdesChunks, xrPacket := c.packet.xrPacket })
    c.receiverReports call.items.receiverReports fun _ _ => rfl
  have hsdes := hfold .addSdesChunk
    (fun l => { (c.each Ref.addAll call.items).packet with sdesChunks := l, xrPacket := c.packet.xrPacket })
    c.sdesChunks call.items.sdesChunks fun _ _ => rfl
  have hxr := hfold .addBlock (fun l => { (c.each Ref.addAll call.items).packet with xrPacket := ⟨0, l⟩ }) c.blocks
    call.items.blocks fun _ _ => rfl
  rw [add_eq h]
  simp only [CompoundPacket.add]
  erw [hsr, hrr, hsdes, hxr]
  exact apply_ite (fun r : Held × Bool => (r.1.packet, r.2)) _ _ _

/-- **Every sequence of calls**: an accepted one leaves a packet that fits, and a refused one leaves the packet as it was. -/
theorem add_keeps (calls : List AddCall) (h : Along step Apart {} calls) : EachStep step Kept {} calls := by
  refine eachStep_of_along (I := fun _ => True) ?_ calls _ trivial h
  rintro c call _ - hapart ⟨⟩
  refine ⟨?_, trivial⟩
  rw [Kept, add_eq hapart]
  split
  · rename_i hsize
    exact hsize
  · rfl

theorem add_keeps_refused :
    ((({} : Held).add (AddCall.receiver ((List.range 53).map fun i => ⟨i, ⟨5, 0, 0, 0, 0, 0, 0⟩⟩) none).items).1.add
      (AddCall.receiver [⟨53, ⟨6, 0, 0, 0, 0, 0, 0⟩⟩] none).items).2 = false ∧
    EachStep step Kept {} [.receiver ((List.range 53).map fun i => ⟨i, ⟨5, 0, 0, 0, 0, 0, 0⟩⟩) none,
      .receiver [⟨53, ⟨6, 0, 0, 0, 0, 0, 0⟩⟩] none] :=
  ⟨by decide +kernel, add_keeps _ (by decide +kernel)⟩

end Held

namespace CompoundPacket

/-! ## Writing -/

def serialize (c : CompoundPacket) : Except String (List UInt8) :=
  if ¬ (0 < c.senderReports.length ∨ 0 < c.receiverReportPacket.reports.length) then
    .error "no Sender or Receiver report present"
  else
    .ok ((if 0 < c.senderReports.length then SenderReportPacket.serialize c.senderReports else []) ++
      ((if 0 < c.receiverReportPacket.reports.length then c.receiverReportPacket.serialize else []) ++
      ((if 0 < c.sdesChunks.length then SdesPacket.serialize c.sdesChunks else []) ++
      (if c.xrPacket.reports ≠ [] then c.xrPacket.serialize else []))))

end CompoundPacket

/-! ## Reading -/

/-- A packet of the chain with reports. -/
inductive ReportPacket
  | sr (reports : List SenderReport)
  | rr (packet : ReceiverReportPacket)
  deriving DecidableEq

def Packet.count : List UInt8 → Nat
  | b0 :: _ => b0.toNat % 32
  | [] => 0

/-- The parsers of the two report types. The report blocks of a Sender Report packet are a packet of their own. -/
def reports {π : Type} (others : Packet.Switch π) : Packet.Switch (ReportPacket ⊕ π) := fun type data =>
  if type = PacketType.sr.value then
    if 0 < Packet.count data then
      match parse data (SenderReportPacket.getSize (SenderReportPacket.parse data)) with
      | none => some [.inl (.sr (SenderReportPacket.parse data))]
      | some rr => some [.inl (.sr (SenderReportPacket.parse data)), .inl (.rr rr)]
    else some [.inl (.sr (SenderReportPacket.parse data))]
  else if type = PacketType.rr.value then (parse data 0).map fun packet => [.inl (.rr packet)]
  else (others type data).map (List.map .inr)

section

variable {π : Type}

def senderReportsOf (chain : List (ReportPacket ⊕ π)) : List SenderReport :=
  chain.flatMap fun
    | .inl (.sr reports) => reports
    | _ => []

def receiverReportsOf (chain : List (ReportPacket ⊕ π)) : List ReceiverReport :=
  chain.flatMap fun
    | .inl (.rr packet) => packet.reports
    | _ => []

theorem senderReportsOf_append (a b : List (ReportPacket ⊕ π)) :
    senderReportsOf (a ++ b) = senderReportsOf a ++ senderReportsOf b := flatMap_append

theorem receiverReportsOf_append (a b : List (ReportPacket ⊕ π)) :
    receiverReportsOf (a ++ b) = receiverReportsOf a ++ receiverReportsOf b := flatMap_append

variable (others : Packet.Switch π)

theorem reports_senderReport (r : SenderReport) :
    reports others PacketType.sr.value (SenderReportPacket.bytes r) = some [.inl (.sr [r])] := by
  have hcount : ¬ 0 < Packet.count (SenderReportPacket.bytes r) := by
    show ¬ 0 < (UInt8.ofNat (0x80 + 0 % 32)).toNat % 32
    decide
  rw [reports, if_pos rfl, if_neg hcount, SenderReportPacket.parse_bytes]

theorem reports_receiverReports {p : ReceiverReportPacket} (h : p.reports.length ≤ maxReportsPerPacket) :
    reports others PacketType.rr.value p.bytes = some [.inl (.rr p)] := by
  rw [reports, if_neg (by decide), if_pos rfl, parse_bytes h]
  rfl

theorem senderReportsOf_packets (rs : List SenderReport) :
    senderReportsOf (rs.flatMap fun r => ([.inl (.sr [r])] : List (ReportPacket ⊕ π))) = rs ∧
      receiverReportsOf (rs.flatMap fun r => ([.inl (.sr [r])] : List (ReportPacket ⊕ π))) = [] := by
  rw [senderReportsOf, receiverReportsOf, flatMap_assoc, flatMap_assoc]
  exact ⟨flatMap_singleton' rs, flatMap_eq_nil_iff.mpr fun _ _ => rfl⟩

theorem receiverReportsOf_packets (ps : List ReceiverReportPacket) :
    senderReportsOf (ps.flatMap fun p => ([.inl (.rr p)] : List (ReportPacket ⊕ π))) = [] ∧
      receiverReportsOf (ps.flatMap fun p => ([.inl (.rr p)] : List (ReportPacket ⊕ π))) =
        ps.flatMap ReceiverReportPacket.reports := by
  rw [senderReportsOf, receiverReportsOf, flatMap_assoc, flatMap_assoc]
  refine ⟨flatMap_eq_nil_iff.mpr fun _ _ => rfl, ?_⟩
  exact flatMap_congr fun p _ => append_nil p.reports

theorem parse_reports_append (srs : List SenderReport) (rrs : ReceiverReportPacket) (rest : List UInt8) :
    Packet.parse (reports others) (SenderReportPacket.serialize srs ++ (rrs.serialize ++ rest)) =
        (srs.flatMap fun r => [.inl (.sr [r])]) ++ ((rrs.packets.flatMap fun p => [.inl (.rr p)]) ++
          Packet.parse (reports others) rest) ∧
      consumed (reports others) (SenderReportPacket.serialize srs ++ (rrs.serialize ++ rest)) =
        (SenderReportPacket.serialize srs).length + (rrs.serialize.length + consumed (reports others) rest) := by
  have hsr := parse_flatMap_append (reports others) .sr SenderReportPacket.bytes (fun r => [.inl (.sr [r])]) srs
    (fun r _ => ⟨SenderReportPacket.isPacket_bytes r, by rw [SenderReportPacket.length_bytes]; decide,
      reports_senderReport others r⟩) (rrs.serialize ++ rest)
  have hrr := parse_flatMap_append (reports others) .rr bytes (fun p => [.inl (.rr p)])
    rrs.packets (fun p hp => ⟨p.isPacket_bytes, length_bytes_le hp,
      reports_receiverReports others (length_le_of_mem_packets hp)⟩) rest
  rw [← ReceiverReportPacket.serialize_eq] at hrr
  rw [SenderReportPacket.serialize, hsr.1, hsr.2, hrr.1, hrr.2]
  exact ⟨rfl, rfl⟩

end

namespace CompoundPacket

variable {c : CompoundPacket}

theorem serialize_eq (hsome : c.senderReports ≠ [] ∨ c.receiverReportPacket.reports ≠ []) :
    c.serialize = .ok (SenderReportPacket.serialize c.senderReports ++ (c.receiverReportPacket.serialize ++
      ((if 0 < c.sdesChunks.length then SdesPacket.serialize c.sdesChunks else []) ++
      (if c.xrPacket.reports ≠ [] then c.xrPacket.serialize else [])))) := by
  have hsr : (if 0 < c.senderReports.length then SenderReportPacket.serialize c.senderReports else []) =
      SenderReportPacket.serialize c.senderReports := by
    cases c.senderReports with
    | nil => rfl
    | cons r rs => rfl
  have hrr : (if 0 < c.receiverReportPacket.reports.length then c.receiverReportPacket.serialize else []) =
      c.receiverReportPacket.serialize := by
    rw [ReceiverReportPacket.serialize]
    cases c.receiverReportPacket.reports with
    | nil => rfl
    | cons r rs => rfl
  rw [serialize, if_neg (not_not.mpr (hsome.imp length_pos_of_ne_nil length_pos_of_ne_nil)), hsr, hrr]

/-- **Reports come back**, in the same order. -/
theorem parse_serialize_compound {π : Type} (others : Packet.Switch π) (c : CompoundPacket)
    (hsome : c.senderReports ≠ [] ∨ c.receiverReportPacket.reports ≠ []) (hsdes : c.sdesChunks = [])
    (hxr : c.xrPacket.reports = []) :
    ∃ data, c.serialize = .ok data ∧ consumed (reports others) data = data.length ∧
      senderReportsOf (Packet.parse (reports others) data) = c.senderReports ∧
      receiverReportsOf (Packet.parse (reports others) data) = c.receiverReportPacket.reports := by
  have hdata := serialize_eq hsome
  rw [hsdes, hxr, if_neg (show ¬ 0 < ([] : List SdesChunk).length from Nat.lt_irrefl 0),
    if_neg (not_not.mpr rfl), append_nil] at hdata
  obtain ⟨hparse, hconsumed⟩ := parse_reports_append others c.senderReports c.receiverReportPacket []
  have hsr := senderReportsOf_packets (π := π) c.senderReports
  have hrr := receiverReportsOf_packets (π := π) c.receiverReportPacket.packets
  refine ⟨_, hdata, ?_, ?_, ?_⟩
  · rw [hconsumed, append_nil, length_append]
    rfl
  · rw [hparse, senderReportsOf_append, senderReportsOf_append, hsr.1, hrr.1]
    exact append_nil _
  · rw [hparse, receiverReportsOf_append, receiverReportsOf_append, hsr.2, hrr.2, flatMap_packets]
    exact append_nil _

theorem parse_serialize_thirtyTwo : ∃ data, serialize
        { senderReports := [⟨1, 2, 3, 4, 5, 6⟩, ⟨7, 8, 9, 10, 11, 12⟩]
          receiverReportPacket := ⟨0, (List.range 32).map fun i => ⟨.ofNat i, 255, 0xFFFFFF, 1, 2, 3, 4⟩⟩ } = .ok data ∧
      data.length = 2 * 28 + 2 * 8 + 32 * 24 ∧
      (receiverReportsOf (Packet.parse (reports fun _ _ => (none : Option (List Empty))) data)).length = 32 := by
  obtain ⟨data, hdata, hconsumed, -, hrr⟩ := parse_serialize_compound (fun _ _ => (none : Option (List Empty)))
    { senderReports := [⟨1, 2, 3, 4, 5, 6⟩, ⟨7, 8, 9, 10, 11, 12⟩]
      receiverReportPacket := ⟨0, (List.range 32).map fun i => ⟨.ofNat i, 255, 0xFFFFFF, 1, 2, 3, 4⟩⟩ }
    (.inl (cons_ne_nil _ _)) rfl rfl
  refine ⟨data, hdata, ?_, ?_⟩
  · cases hdata
    decide +kernel
  · rw [hrr]
    rfl

/-! ## Sizes -/

theorem length_serialize_sdes_le (chunks : List SdesChunk) : (SdesPacket.serialize chunks).length ≤ sdesSize chunks := by
  rw [SdesPacket.length_serialize, sdesSize, SdesPacket.maxChunksPerPacket]
  omega

theorem length_serialize_sdes_iff (chunks : List SdesChunk) :
    (SdesPacket.serialize chunks).length = sdesSize chunks ↔ ¬ SdesPacket.maxChunksPerPacket ∣ chunks.length := by
  rw [SdesPacket.length_serialize, sdesSize, SdesPacket.maxChunksPerPacket]
  omega

section Parts

variable {p : Prop} [Decidable p] {count max size : Nat} {written : List UInt8}

theorem length_part_le (h : written.length ≤ size) : (if p then written else []).length ≤ if p then size else 0 := by
  split_ifs
  · exact h
  · exact Nat.le_refl 0

theorem length_part (h : written.length = size) : (if p then written else []).length = if p then size else 0 := by
  split_ifs
  · exact h
  · rfl

/-- The reports or chunks, of which a packet takes `max`, do not just fill their packets. -/
def LastOpen (count max : Nat) : Prop := count = 0 ∨ ¬ max ∣ count

theorem length_part_iff (h : written.length = size ↔ ¬ max ∣ count) :
    (if 0 < count then written else []).length = (if 0 < count then size else 0) ↔ LastOpen count max := by
  unfold LastOpen
  split_ifs with hcount
  · rw [h, or_iff_right (Nat.pos_iff_ne_zero.mp hcount)]
  · exact iff_of_true rfl (.inl (Nat.eq_zero_of_not_pos hcount))

end Parts

theorem length_serialize {data : List UInt8} (h : c.serialize = .ok data) : data.length =
      (if 0 < c.senderReports.length then SenderReportPacket.serialize c.senderReports else []).length +
      (if 0 < c.receiverReportPacket.reports.length then c.receiverReportPacket.serialize else []).length +
      (if 0 < c.sdesChunks.length then SdesPacket.serialize c.sdesChunks else []).length +
      (if c.xrPacket.reports ≠ [] then c.xrPacket.serialize else []).length := by
  unfold serialize at h
  split at h
  · cases h
  · cases h
    simp only [length_append, Nat.add_assoc]

/-- **What is written fits the size that was reckoned with.** -/
theorem length_serialize_le {data : List UInt8} (h : c.serialize = .ok data) : data.length ≤ c.getSize := by
  rw [length_serialize h, getSize]
  refine Nat.add_le_add (Nat.add_le_add (Nat.add_le_add ?_ ?_) ?_) ?_
  · exact length_part_le (Nat.le_of_eq (SenderReportPacket.length_serialize c.senderReports))
  · exact length_part_le c.receiverReportPacket.length_serialize_le
  · exact length_part_le (length_serialize_sdes_le c.sdesChunks)
  · exact length_part_le (Nat.le_of_eq c.xrPacket.length_serialize)

theorem length_serialize_iff {data : List UInt8} (h : c.serialize = .ok data) : data.length = c.getSize ↔
      LastOpen c.receiverReportPacket.reports.length maxReportsPerPacket ∧
        LastOpen c.sdesChunks.length SdesPacket.maxChunksPerPacket := by
  have hrr := length_part_iff c.receiverReportPacket.length_serialize_iff
  have hrrle := length_part_le c.receiverReportPacket.length_serialize_le
    (p := 0 < c.receiverReportPacket.reports.length)
  have hsdes := length_part_iff (length_serialize_sdes_iff c.sdesChunks)
  have hsdesle := length_part_le (length_serialize_sdes_le c.sdesChunks) (p := 0 < c.sdesChunks.length)
  -- neither part is longer than its size, so that the sums agree only if both parts do
  rw [length_serialize h, getSize, length_part (SenderReportPacket.length_serialize c.senderReports),
    length_part c.xrPacket.length_serialize, ← hrr, ← hsdes]
  omega

end CompoundPacket

namespace Held

def Refines (c : Held) (call : AddCall) (c' : Held) : Prop :=
  (c'.packet, (c.add call.items).2) = c.packet.add (call.items.senderReports.map Ref.object)
      (call.items.receiverReports.map Ref.object) (call.items.sdesChunks.map Ref.object) (call.items.blocks.map Ref.object) ∧
    ∀ data, c'.packet.serialize = .ok data → data.length ≤ CompoundPacket.maxSize

/-- **Every sequence of calls** does with the items what `CompoundPacket.add` does, and what is written then fits the MTU. -/
theorem add_refines (calls : List AddCall) (h : Along step Apart {} calls) : EachStep step Refines {} calls := by
  refine eachStep_of_along (I := fun c => c.packet.getSize ≤ CompoundPacket.maxSize) ?_ calls _ (by decide) h
  rintro c call _ hsize hapart ⟨⟩
  have hfits : (c.add call.items).1.packet.getSize ≤ CompoundPacket.maxSize := by
    rw [add_eq hapart]
    split_ifs with hfilled
    · exact hfilled
    · exact hsize
  exact ⟨⟨packet_add hapart, fun data hdata => (CompoundPacket.length_serialize_le hdata).trans hfits⟩, hfits⟩

theorem add_refines_two : EachStep step Refines {}
    [.receiver [⟨0, ⟨5, 0, 0, 0, 0, 0, 0⟩⟩] none, .receiver [⟨1, ⟨6, 0, 0, 0, 0, 0, 0⟩⟩] none] :=
  add_refines _ (by decide)

end Held

/-- What is sent as RTCP: a packet of reports, of chunks or of blocks, or a compound packet. -/
inductive Sendable
  | senderReports (reports : List SenderReport)
  | receiverReports (packet : ReceiverReportPacket)
  | sdes (chunks : List SdesChunk)
  | extendedReports (packet : ExtendedReport)
  | compound (packet : CompoundPacket)

namespace Sendable

def getSize : Sendable → Nat
  | senderReports reports => SenderReportPacket.getSize reports
  | receiverReports packet => packet.getSize
  | sdes chunks => CompoundPacket.sdesSize chunks
  | extendedReports packet => packet.getSize
  | compound packet => packet.getSize

def serialize : Sendable → Except String (List UInt8)
  | senderReports reports => .ok (SenderReportPacket.serialize reports)
  | receiverReports packet => .ok packet.serialize
  | sdes chunks => .ok (SdesPacket.serialize chunks)
  | extendedReports packet => .ok packet.serialize
  | compound packet => packet.serialize

/-- The last packet of Receiver Reports and the last one of chunks have room for more. A compound packet may be without
them. -/
def LastOpen : Sendable → Prop
  | senderReports _ | extendedReports _ => True
  | receiverReports packet => ¬ maxReportsPerPacket ∣ packet.reports.length
  | sdes chunks => ¬ SdesPacket.maxChunksPerPacket ∣ chunks.length
  | compound packet =>
    CompoundPacket.LastOpen packet.receiverReportPacket.reports.length maxReportsPerPacket ∧
      CompoundPacket.LastOpen packet.sdesChunks.length SdesPacket.maxChunksPerPacket

/-- **The size that is computed is that of what is written just if no last packet is full.** -/
theorem length_eq_getSize_iff (p : Sendable) {data : List UInt8} (h : p.serialize = .ok data) :
    data.length = p.getSize ↔ p.LastOpen := by
  cases p with
  | senderReports reports =>
    cases h
    exact iff_of_true (SenderReportPacket.length_serialize reports) trivial
  | receiverReports packet =>
    cases h
    exact packet.length_serialize_iff
  | sdes chunks =>
    cases h
    exact CompoundPacket.length_serialize_sdes_iff chunks
  | extendedReports packet =>
    cases h
    exact iff_of_true packet.length_serialize trivial
  | compound packet => exact CompoundPacket.length_serialize_iff h

def receiverReportsOnly (count : Nat) : CompoundPacket :=
  { receiverReportPacket := ⟨0, (List.range count).map fun i => ⟨.ofNat i, 0, 0, 0, 0, 0, 0⟩⟩ }

theorem length_eq_getSize_thirtyTwo :
    ∃ data, serialize (compound (receiverReportsOnly 32)) = .ok data ∧ data.length = 2 * 8 + 32 * 24 ∧
      data.length = getSize (compound (receiverReportsOnly 32)) := by
  obtain ⟨data, hdata⟩ : ∃ data, serialize (compound (receiverReportsOnly 32)) = .ok data := ⟨_, rfl⟩
  have hsize : data.length = getSize (compound (receiverReportsOnly 32)) :=
    (length_eq_getSize_iff (compound (receiverReportsOnly 32)) hdata).mpr ⟨.inr (by decide), .inl rfl⟩
  exact ⟨data, hdata, hsize, hsize⟩

theorem thirtyOne_size :
    (CompoundPacket.add {} [] (receiverReportsOnly 31).receiverReportPacket.reports [] []) = (receiverReportsOnly 31, true) ∧
      ∃ data, serialize (compound (receiverReportsOnly 31)) = .ok data ∧ data.length = 752 ∧
        getSize (compound (receiverReportsOnly 31)) = 760 :=
  ⟨rfl, _, rfl, by decide +kernel, rfl⟩

end Sendable

end Mediasoup.Rtcp
