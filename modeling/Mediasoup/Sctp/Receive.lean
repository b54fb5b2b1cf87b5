import Mathlib.Init

/-!
# Receiving SCTP data

The receive side of `SctpAssociation`: `OnUsrSctpReceiveSctpData` gets the chunks of the incoming messages from the
SCTP stack and hands whole messages to the listener. The first `messageBufferLen` bytes of `messageBuffer` are kept as
a list; `received` are the calls of `OnSctpAssociationMessageReceived`, oldest first.
-/

namespace Mediasoup.Sctp

structure Message where
  streamId : UInt16
  ppid : UInt32
  data : List UInt8
  deriving DecidableEq

structure Association where
  maxSctpMessageSize : Nat
  messageBuffer : List UInt8 := []
  lastSsnReceived : UInt16 := 0
  received : List Message := []
  deriving DecidableEq

/-- The arguments of `OnUsrSctpReceiveSctpData`; `eor` is `flags & MSG_EOR`. -/
structure Chunk where
  streamId : UInt16
  ssn : UInt16
  ppid : UInt32
  eor : Bool
  data : List UInt8
  deriving DecidableEq

namespace Association

variable (s : Association)

/-- A non-empty buffer is discarded when the SSN changes; the SSN is remembered. -/
def updateSsn (ssn : UInt16) : Association :=
  { s with
    messageBuffer := if s.messageBuffer.length ≠ 0 ∧ ssn ≠ s.lastSsnReceived then [] else s.messageBuffer
    lastSsnReceived := ssn }

def onMessageReceived (c : Chunk) (data : List UInt8) : Association :=
  { s with received := s.received ++ [⟨c.streamId, c.ppid, data⟩] }

def onUsrSctpReceiveSctpData (c : Chunk) : Association :=
  -- WebRTC DataChannel Control DATA chunks are ignored
  if c.ppid = 50 then s
  else
    let s := s.updateSsn c.ssn
    if s.messageBuffer.length + c.data.length > s.maxSctpMessageSize then
      { s with lastSsnReceived := 0 }
    else if c.eor ∧ s.messageBuffer.length = 0 then
      s.onMessageReceived c c.data
    else if c.eor ∧ s.messageBuffer.length ≠ 0 then
      { s.onMessageReceived c (s.messageBuffer ++ c.data) with messageBuffer := [] }
    else
      { s with messageBuffer := s.messageBuffer ++ c.data }

def receiveAll (cs : List Chunk) : Association := cs.foldl onUsrSctpReceiveSctpData s

end Association

/-! ## What the peer sends -/

/-- A message of the peer on a data PPID, cut into chunks. -/
structure SentMessage where
  streamId : UInt16
  ssn : UInt16
  ppid : UInt32
  chunks : List (List UInt8)
  ppid_ne : ppid ≠ 50
  chunks_ne : chunks ≠ []
  chunk_ne : ∀ c ∈ chunks, c ≠ []

namespace SentMessage

variable (m : SentMessage)

def chunk (eor : Bool) (data : List UInt8) : Chunk := ⟨m.streamId, m.ssn, m.ppid, eor, data⟩

def data : List UInt8 := m.chunks.flatten

def calls : List Chunk :=
  m.chunks.dropLast.map (m.chunk false) ++ [m.chunk true (m.chunks.getLast m.chunks_ne)]

def message : Message := ⟨m.streamId, m.ppid, m.data⟩

end SentMessage

end Mediasoup.Sctp
