import Mediasoup.Lib.Elements
import Mediasoup.Lib.Memory
import Mediasoup.Lib.Run
import Mediasoup.Lib.Table
import Mediasoup.Utils.Byte

/-!
# Parsing RTP packets

`RtpPacket::Parse` checks the bytes of a datagram and gives a packet that points into them; its constructor looks for the elements
of the header extension (`ParseExtensions`). Pointers are offsets from the first byte of the packet.
-/

namespace Mediasoup.Rtp

open Lib Utils

inductive Discard
  | notRtp
  | csrcList
  | headerExtension
  | headerExtensionValue
  | noPaddingByte
  | zeroPadding
  | paddingTooLong
  deriving DecidableEq

inductive Failure
  | discarded (why : Discard)
  | outOfBounds
  | assertion (message : String)
  deriving DecidableEq

def inBuffer {α : Type} : Option α → Except Failure α
  | some a => .ok a
  | none => .error .outOfBounds

structure RtpPacket where
  /-- The buffer from the fixed header on: the packet, and the room behind it. -/
  memory : List UInt8
  headerExtension : Option Nat
  payload : Nat
  payloadLength : Nat
  payloadPadding : Nat
  size : Nat
  oneByteExtensions : Table UInt8 Nat := ∅
  mapTwoBytesExtensions : Table UInt8 Nat := ∅

namespace RtpPacket

/-! ## The fixed header -/

def headerSize : Nat := 12

/-- The fields of the first byte: version, padding, extension, csrcCount. -/
def version (first : UInt8) : Nat := first.toNat / 64

def hasPadding (first : UInt8) : Bool := first.toNat / 32 % 2 = 1

def hasExtension (first : UInt8) : Bool := first.toNat / 16 % 2 = 1

def csrcCount (first : UInt8) : Nat := first.toNat % 16

/-! ## The header extension -/

section

variable (p : RtpPacket)

def byte (o : Nat) : UInt8 := p.memory.getD o 0

def getHeaderExtensionId : Nat :=
  match p.headerExtension with
  | none => 0
  | some o => get2Bytes (p.byte o) (p.byte (o + 1))

def getHeaderExtensionLength : Nat :=
  match p.headerExtension with
  | none => 0
  | some o => get2Bytes (p.byte (o + 2)) (p.byte (o + 3)) * 4

def extensionStart : Nat := p.headerExtension.getD 0 + 4

def getHeaderExtensionValue : List UInt8 := Memory.slice p.memory p.extensionStart p.getHeaderExtensionLength

def hasOneByteExtensions : Bool := p.getHeaderExtensionId = 0xBEDE

/-- The last four bits of the id are free. -/
def hasTwoBytesExtensions : Bool := p.getHeaderExtensionId / 16 = 0x100

end

/-- The id and the length of an One-Byte element; id 15 ends the elements, id 0 is for alignment. -/
def oneByte : Elements UInt8 UInt8 where
  next
    | [] => none
    | b :: rest =>
      if b / 16 = 15 then none
      else if b / 16 ≠ 0 then
        if rest.length < (b % 16).toNat + 1 then none else some (some (b / 16), 1 + ((b % 16).toNat + 1))
      else some (none, 1)
  pad b := b = 0
  next_pos {s k n} h := by
    cases s with
    | nil => cases h
    | cons b rest =>
      dsimp only at h
      split_ifs at h <;> cases h <;> omega
  next_le {s k n} h := by
    cases s with
    | nil => cases h
    | cons b rest =>
      dsimp only at h
      split_ifs at h <;> cases h <;> simp only [List.length_cons] <;> omega

/-- The id and the length of a Two-Bytes element, which may be 0; id 0 is for alignment. -/
def twoBytes : Elements UInt8 UInt8 where
  next
    | id :: len :: rest =>
      if id ≠ 0 then if rest.length < len.toNat then none else some (some id, 2 + len.toNat) else some (none, 1)
    | _ => none
  pad b := b = 0
  next_pos {s k n} h := by
    match s, h with
    | id :: len :: rest, h =>
      dsimp only at h
      split_ifs at h <;> cases h <;> omega
  next_le {s k n} h := by
    match s, h with
    | id :: len :: rest, h =>
      dsimp only at h
      split_ifs at h <;> cases h <;> simp only [List.length_cons] <;> omega

def parseExtensions (p : RtpPacket) : RtpPacket :=
  if p.hasOneByteExtensions then
    { p with oneByteExtensions := Table.insertAll ∅ (oneByte.scan p.extensionStart p.getHeaderExtensionValue) }
  else if p.hasTwoBytesExtensions then
    { p with mapTwoBytesExtensions := Table.insertAll ∅ (twoBytes.scan p.extensionStart p.getHeaderExtensionValue) }
  else p

def getExtension (p : RtpPacket) (id : UInt8) : Option (List UInt8) :=
  if id = 0 then none
  else if p.hasOneByteExtensions then
    if 14 < id then none
    else (p.oneByteExtensions.lookup id).map fun o => Memory.slice p.memory (o + 1) ((p.byte o % 16).toNat + 1)
  else if p.hasTwoBytesExtensions then
    match p.mapTwoBytesExtensions.lookup id with
    | none => none
    | some o => if p.byte (o + 1) = 0 then none else some (Memory.slice p.memory (o + 2) (p.byte (o + 1)).toNat)
  else none

/-! ## `Parse` -/

variable (memory : List UInt8)

def new (headerExtension : Option Nat) (payload payloadLength payloadPadding size : Nat) : RtpPacket :=
  parseExtensions { memory, headerExtension, payload, payloadLength, payloadPadding, size }

def isRtp (len : Nat) : Except Failure Bool :=
  if len < headerSize then pure false
  else do
    let first ← inBuffer memory[0]?
    pure (127 < first ∧ first < 192 ∧ version first = 2)

/-- The header extension at `ptr`, and the size of its value. -/
def parseHeaderExtension (len ptr : Nat) (first : UInt8) : Except Failure (Option Nat × Nat) :=
  if hasExtension first then
    if len < ptr + 4 then .error (.discarded .headerExtension)
    else do
      let l0 ← inBuffer memory[ptr + 2]?
      let l1 ← inBuffer memory[ptr + 3]?
      if len < ptr + 4 + get2Bytes l0 l1 * 4 then .error (.discarded .headerExtensionValue)
      else pure (some ptr, get2Bytes l0 l1 * 4)
  else pure (none, 0)

def parsePadding (len payloadLength : Nat) (first : UInt8) : Except Failure Nat :=
  if hasPadding first then
    if payloadLength = 0 then .error (.discarded .noPaddingByte)
    else do
      let padding ← inBuffer memory[len - 1]?
      if padding = 0 then .error (.discarded .zeroPadding)
      else if payloadLength < padding.toNat then .error (.discarded .paddingTooLong)
      else pure padding.toNat
  else pure 0

def extensionSize : Option Nat × Nat → Nat
  | (some _, valueSize) => 4 + valueSize
  | (none, _) => 0

/-- What is behind the CSRC list, which ends at `ptr`. -/
def parseRest (len ptr : Nat) (first : UInt8) : Except Failure RtpPacket := do
  let extension ← parseHeaderExtension memory len ptr first
  if len < ptr + extensionSize extension then .error (.assertion "payload has negative size")
  else do
    let padding ← parsePadding memory len (len - (ptr + extensionSize extension)) first
    let payloadLength := len - (ptr + extensionSize extension) - padding
    if len ≠ ptr + extensionSize extension + payloadLength + padding then
      .error (.assertion "packet's computed size does not match received size")
    else pure (new memory extension.1 (ptr + extensionSize extension) payloadLength padding len)

def parse (len : Nat) : Except Failure RtpPacket := do
  let rtp ← isRtp memory len
  if !rtp then .error (.discarded .notRtp)
  else do
    let first ← inBuffer memory[0]?
    if csrcCount first ≠ 0 ∧ len < headerSize + csrcCount first * 4 then .error (.discarded .csrcList)
    else parseRest memory len (headerSize + csrcCount first * 4) first

end RtpPacket

end Mediasoup.Rtp
