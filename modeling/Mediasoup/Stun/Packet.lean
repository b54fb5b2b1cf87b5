import Mediasoup.Lib.Memory
import Mediasoup.Utils.Byte
import Mediasoup.Utils.Crypto

/-!
# STUN packets

`StunPacket`: `Parse` reads a message and its attributes, `CheckAuthentication` compares its MESSAGE-INTEGRITY with the one
of local credentials, `Serialize` writes a message into a buffer. The digest of MESSAGE-INTEGRITY is computed over a message
whose length field leaves the FINGERPRINT out, so both sides rewrite that field and restore it.
-/

namespace Mediasoup.Stun

open Lib Utils Memory

inductive Class
  | request
  | indication
  | successResponse
  | errorResponse
  deriving DecidableEq

def Class.toNat : Class → Nat
  | .request => 0
  | .indication => 1
  | .successResponse => 2
  | .errorResponse => 3

/-- `static_cast<Class>` of two bits. -/
def Class.ofBits : Nat → Class
  | 0 => .request
  | 1 => .indication
  | 2 => .successResponse
  | _ => .errorResponse

/-- `Method::BINDING`, the only method with a name. -/
def binding : Nat := 1

/-- The attributes that are read or written; the others are ignored. -/
inductive Attribute
  | username
  | messageIntegrity
  | errorCode
  | xorMappedAddress
  | priority
  | useCandidate
  | fingerprint
  | iceControlled
  | iceControlling
  | nomination
  | other
  deriving DecidableEq

def Attribute.ofType : Nat → Attribute
  | 0x0006 => .username
  | 0x0008 => .messageIntegrity
  | 0x0009 => .errorCode
  | 0x0020 => .xorMappedAddress
  | 0x0024 => .priority
  | 0x0025 => .useCandidate
  | 0x8028 => .fingerprint
  | 0x8029 => .iceControlled
  | 0x802A => .iceControlling
  | 0xC001 => .nomination
  | _ => .other

def Attribute.toNat : Attribute → Nat
  | .username => 0x0006
  | .messageIntegrity => 0x0008
  | .errorCode => 0x0009
  | .xorMappedAddress => 0x0020
  | .priority => 0x0024
  | .useCandidate => 0x0025
  | .fingerprint => 0x8028
  | .iceControlled => 0x8029
  | .iceControlling => 0x802A
  | .nomination => 0xC001
  | .other => 0

inductive Authentication
  | ok
  | unauthorized
  | badRequest
  deriving DecidableEq

/-- `sockaddr`, with port and address in network order. -/
inductive Sockaddr
  | inet (port : Vector UInt8 2) (address : Vector UInt8 4)
  | inet6 (port : Vector UInt8 2) (address : Vector UInt8 16)
  | other
  deriving DecidableEq

inductive Discard
  | notStun
  | lengthField
  | attributeLength
  | afterFingerprint
  | afterMessageIntegrity
  | lengthOf (type : Attribute)
  | size
  | fingerprint
  deriving DecidableEq

inductive Failure
  | discarded (why : Discard)
  | endless
  | outOfBounds
  | assertion (message : String)
  deriving DecidableEq

structure StunPacket where
  klass : Class
  method : Nat
  transactionId : List UInt8
  /-- The memory at `data`; the message is its first `size` bytes. -/
  data : List UInt8 := []
  size : Nat := 0
  username : List UInt8 := []
  priority : UInt32 := 0
  iceControlling : UInt64 := 0
  iceControlled : UInt64 := 0
  hasNomination : Bool := false
  nomination : UInt32 := 0
  hasUseCandidate : Bool := false
  /-- Where the value of MESSAGE-INTEGRITY begins in `data`. -/
  messageIntegrity : Option Nat := none
  hasFingerprint : Bool := false
  xorMappedAddress : Option Sockaddr := none
  errorCode : UInt16 := 0
  password : List UInt8 := []
  deriving DecidableEq

def magicCookie : List UInt8 := [0x21, 0x12, 0xA4, 0x42]

variable (data : List UInt8)

def setLength (n : Nat) : List UInt8 := data.take 2 ++ (set2Bytes n ++ data.drop 4)

namespace StunPacket

/-! ## Parse -/

def isStun (data : List UInt8) : Bool := 20 ≤ data.length && data.getD 0 0 < 3 && slice data 4 4 = magicCookie

def methodOf (msgType : Nat) : Nat := msgType % 16 + msgType / 32 % 8 * 16 + msgType / 512 % 32 * 128

def classOf (msgType : Nat) : Class := .ofBits (msgType / 256 % 2 * 2 + msgType / 16 % 2)

/-- The local variables of `Parse`; the position and the value of the FINGERPRINT are there once it was found. -/
structure Parsing where
  packet : StunPacket
  hasMessageIntegrity : Bool := false
  fingerprint : Option (Nat × UInt32) := none
  deriving DecidableEq

section

variable (p : StunPacket)

def setUsername (username : List UInt8) : StunPacket := { p with username }

def setPriority (priority : UInt32) : StunPacket := { p with priority }

def setIceControlling (iceControlling : UInt64) : StunPacket := { p with iceControlling }

def setIceControlled (iceControlled : UInt64) : StunPacket := { p with iceControlled }

def setUseCandidate : StunPacket := { p with hasUseCandidate := true }

def setNomination (nomination : UInt32) : StunPacket := { p with hasNomination := true, nomination }

def setMessageIntegrity (messageIntegrity : Nat) : StunPacket := { p with messageIntegrity := some messageIntegrity }

def setFingerprint : StunPacket := { p with hasFingerprint := true }

def setErrorCode (errorCode : UInt16) : StunPacket := { p with errorCode }

end

def setAttribute (st : Parsing) (pos : Nat) (type : Attribute) (value : List UInt8) : Except Failure Parsing :=
  match type with
  | .username => .ok { st with packet := st.packet.setUsername value }
  | .priority =>
    if value.length ≠ 4 then .error (.discarded (.lengthOf .priority))
    else .ok { st with packet := st.packet.setPriority (.ofNat (get4 value 0)) }
  | .iceControlling =>
    if value.length ≠ 8 then .error (.discarded (.lengthOf .iceControlling))
    else .ok { st with packet := st.packet.setIceControlling (.ofNat (get8 value 0)) }
  | .iceControlled =>
    if value.length ≠ 8 then .error (.discarded (.lengthOf .iceControlled))
    else .ok { st with packet := st.packet.setIceControlled (.ofNat (get8 value 0)) }
  | .useCandidate =>
    if value.length ≠ 0 then .error (.discarded (.lengthOf .useCandidate))
    else .ok { st with packet := st.packet.setUseCandidate }
  | .nomination =>
    if value.length ≠ 4 then .error (.discarded (.lengthOf .nomination))
    else .ok { st with packet := st.packet.setNomination (.ofNat (get4 value 0)) }
  | .messageIntegrity =>
    if value.length ≠ 20 then .error (.discarded (.lengthOf .messageIntegrity))
    else .ok { st with hasMessageIntegrity := true, packet := st.packet.setMessageIntegrity (pos + 4) }
  | .fingerprint =>
    if value.length ≠ 4 then .error (.discarded (.lengthOf .fingerprint))
    else .ok { st with fingerprint := some (pos, .ofNat (get4 value 0)), packet := st.packet.setFingerprint }
  | .errorCode =>
    if value.length < 4 then .error (.discarded (.lengthOf .errorCode))
    else .ok { st with
      packet := st.packet.setErrorCode (.ofNat ((value.getD 2 0).toNat * 100 + (value.getD 3 0).toNat)) }
  | .xorMappedAddress | .other => .ok st

/-- An attribute with what must not stand in front of it. -/
def readAttribute (st : Parsing) (pos : Nat) (type : Attribute) (value : List UInt8) : Except Failure Parsing :=
  if st.fingerprint.isSome then .error (.discarded .afterFingerprint)
  else if st.hasMessageIntegrity ∧ type ≠ .fingerprint then .error (.discarded .afterMessageIntegrity)
  else setAttribute st pos type value

/-- The loop over the attributes, from `pos`. The next position is a `uint16_t`, so that it may lie behind. -/
def readAttributes (data : List UInt8) : Nat → Nat → Parsing → Except Failure (Nat × Parsing)
  | 0, _, _ => .error .endless
  | rounds + 1, pos, st =>
    if pos + 4 ≤ data.length then
      let attrLength := get2 data (pos + 2)
      if data.length < pos + 4 + attrLength then .error (.discarded .attributeLength)
      else do
        let st ← readAttribute st pos (.ofType (get2 data pos)) (slice data (pos + 4) attrLength)
        readAttributes data rounds (padTo4Bytes ((pos + 4 + attrLength) % 65536)) st
    else .ok (pos, st)

def checkFingerprint (data : List UInt8) (pos : Nat) (st : Parsing) : Except Failure StunPacket :=
  if pos ≠ data.length then .error (.discarded .size)
  else
    match st.fingerprint with
    | none => .ok st.packet
    | some (fingerprintAttrPos, fingerprint) =>
      if fingerprint ≠ getCRC32 (data.take fingerprintAttrPos) ^^^ 0x5354554e then .error (.discarded .fingerprint)
      else .ok st.packet

/-- `StunPacket(klass, method, transactionId, data, size)` with the fields of the header. -/
def ofHeader (data : List UInt8) : StunPacket where
  klass := classOf (get2 data 0)
  method := methodOf (get2 data 0)
  transactionId := slice data 8 12
  data := data
  size := data.length

def parse (data : List UInt8) : Except Failure StunPacket :=
  if ¬ isStun data then .error (.discarded .notStun)
  else if get2 data 2 ≠ data.length - 20 ∨ get2 data 2 % 4 ≠ 0 then .error (.discarded .lengthField)
  else do
    let (pos, st) ← readAttributes data data.length 20 { packet := ofHeader data }
    checkFingerprint data pos st

/-! ## CheckAuthentication -/

def colon : UInt8 := 0x3A

def isFor (username localUsername : List UInt8) : Bool :=
  localUsername.length < username.length && username[localUsername.length]? = some colon &&
    username.take localUsername.length = localUsername

section

variable (hmac : HmacSha1)

/-- The comparison of the digests; the length field is rewritten for the time of it. -/
def checkMessageIntegrity (p : StunPacket) (messageIntegrity : Nat) (localPassword : List UInt8) :
    Authentication × StunPacket :=
  let data := if p.hasFingerprint then setLength p.data (p.size - 20 - 8) else p.data
  let result :=
    if slice data messageIntegrity 20 = hmac.digest localPassword (data.take (messageIntegrity - 4)) then .ok
    else .unauthorized
  (result, { p with data := if p.hasFingerprint then setLength data (p.size - 20) else data })

/-- The result, and the packet with the bytes as they are left. -/
def checkAuthentication (p : StunPacket) (localUsername localPassword : List UInt8) : Authentication × StunPacket :=
  match p.klass with
  | .request | .indication =>
    match p.messageIntegrity with
    | none => (.badRequest, p)
    | some messageIntegrity =>
      if p.username = [] then (.badRequest, p)
      else if ¬ isFor p.username localUsername then (.unauthorized, p)
      else p.checkMessageIntegrity hmac messageIntegrity localPassword
  | .successResponse | .errorResponse => (.badRequest, p)

/-! ## Responses -/

def successResponse (p : StunPacket) : StunPacket where
  klass := .successResponse
  method := p.method
  transactionId := p.transactionId

def errorResponse (p : StunPacket) (errorCode : UInt16) : StunPacket where
  klass := .errorResponse
  method := p.method
  transactionId := p.transactionId
  errorCode := errorCode

def authenticate (p : StunPacket) (password : List UInt8) : StunPacket :=
  if p.klass = .errorResponse then p else { p with password }

/-! ## Serialize -/

structure Writer where
  buffer : List UInt8
  pos : Nat

/-- Type, length and value of an attribute, which takes `paddedLen` bytes behind the first two. -/
def writeAttribute (type : Attribute) (value : List UInt8) (paddedLen : Nat) (w : Writer) : Except Failure Writer :=
  match write w.buffer w.pos (set2Bytes type.toNat ++ (set2Bytes value.length ++ value)) with
  | none => .error .outOfBounds
  | some buffer => .ok ⟨buffer, w.pos + 4 + paddedLen⟩

variable (p : StunPacket)

def usernamePaddedLen : Nat := if p.username = [] then 0 else padTo4Bytes (p.username.length % 65536)

/-- `(a ^ b)` byte by byte, as long as the first one. -/
def xorBytes (a b : List UInt8) : List UInt8 := List.zipWith (· ^^^ ·) a b

def xorMappedAddressValue : Option (List UInt8) :=
  if p.method = binding ∧ p.klass = .successResponse then
    match p.xorMappedAddress with
    | some (.inet port address) =>
      some ([0, 0x01] ++ (xorBytes port.toList magicCookie ++ xorBytes address.toList magicCookie))
    | some (.inet6 port address) =>
      some ([0, 0x02] ++ (xorBytes port.toList magicCookie ++ xorBytes address.toList (magicCookie ++ p.transactionId)))
    -- "invalid inet family in XOR-MAPPED-ADDRESS attribute"
    | some .other | none => none
  else none

def xorMappedAddressPaddedLen : Nat :=
  if p.method = binding ∧ p.klass = .successResponse then
    match p.xorMappedAddress with
    | some (.inet ..) => 8
    | some (.inet6 ..) => 20
    | some .other | none => 0
  else 0

def addErrorCode : Bool := p.errorCode ≠ 0 ∧ p.klass = .errorResponse

def addMessageIntegrity : Bool := p.klass ≠ .errorResponse ∧ p.password ≠ []

/-- The size of the attributes from USERNAME to ERROR-CODE, where the username takes `usernamePaddedLen` bytes. -/
def attributesSize (usernamePaddedLen : Nat) : Nat :=
  (if p.username = [] then 0 else 4 + usernamePaddedLen) + (if p.priority ≠ 0 then 4 + 4 else 0) +
    (if p.iceControlling ≠ 0 then 4 + 8 else 0) + (if p.iceControlled ≠ 0 then 4 + 8 else 0) +
    (if p.hasUseCandidate then 4 else 0) +
    (if p.xorMappedAddressPaddedLen ≠ 0 then 4 + p.xorMappedAddressPaddedLen else 0) +
    (if p.addErrorCode then 4 + 4 else 0)

def sizeWith (usernamePaddedLen : Nat) : Nat :=
  20 + p.attributesSize usernamePaddedLen + (if p.addMessageIntegrity then 4 + 20 else 0) + (4 + 4)

def serializedSize : Nat := p.sizeWith p.usernamePaddedLen

/-- The masks `0x0f80`, `0x0070`, `0x000f` of the method and `0x02`, `0x01` of the class, each shifted to its place. -/
def typeField : Nat :=
  p.method / 128 % 32 * 512 + p.method / 16 % 8 * 32 + p.method % 16 + p.klass.toNat / 2 % 2 * 256 + p.klass.toNat % 2 * 16

def header (typeField length : Nat) (transactionId : List UInt8) : List UInt8 :=
  set2Bytes typeField ++ (set2Bytes length ++ (magicCookie ++ transactionId))

def writeHeader (buffer : List UInt8) : Except Failure Writer :=
  match write buffer 0 (header p.typeField (p.serializedSize - 20) p.transactionId) with
  | none => .error .outOfBounds
  | some buffer => .ok ⟨buffer, 20⟩

variable (w : Writer)

def writeUsername : Except Failure Writer :=
  if p.usernamePaddedLen ≠ 0 then writeAttribute .username p.username p.usernamePaddedLen w else .ok w

def writePriority : Except Failure Writer :=
  if p.priority ≠ 0 then writeAttribute .priority (set4Bytes p.priority.toNat) 4 w else .ok w

def writeIceControlling : Except Failure Writer :=
  if p.iceControlling ≠ 0 then writeAttribute .iceControlling (set8Bytes p.iceControlling.toNat) 8 w else .ok w

def writeIceControlled : Except Failure Writer :=
  if p.iceControlled ≠ 0 then writeAttribute .iceControlled (set8Bytes p.iceControlled.toNat) 8 w else .ok w

def writeUseCandidate : Except Failure Writer :=
  if p.hasUseCandidate then writeAttribute .useCandidate [] 0 w else .ok w

def writeXorMappedAddress : Except Failure Writer :=
  match p.xorMappedAddressValue with
  | some value => writeAttribute .xorMappedAddress value p.xorMappedAddressPaddedLen w
  | none => .ok w

/-- `codeClass` and `codeNumber` are bytes. -/
def errorCodeValue : List UInt8 :=
  let codeClass := p.errorCode.toNat / 100 % 256
  set2Bytes 0 ++ [.ofNat codeClass, UInt8.ofNat p.errorCode.toNat - UInt8.ofNat (codeClass * 100)]

def writeErrorCode : Except Failure Writer :=
  if p.addErrorCode then writeAttribute .errorCode p.errorCodeValue 4 w else .ok w

def writeAttributes : Writer → Except Failure Writer :=
  p.writeUsername >=> p.writePriority >=> p.writeIceControlling >=> p.writeIceControlled >=> p.writeUseCandidate >=>
    p.writeXorMappedAddress >=> p.writeErrorCode

def writeMessageIntegrity : Except Failure (Writer × Option Nat) :=
  if p.addMessageIntegrity then do
    let buffer := setLength w.buffer (p.serializedSize - 20 - 8)
    let computedMessageIntegrity := hmac.digest p.password (buffer.take w.pos)
    let w' ← writeAttribute .messageIntegrity computedMessageIntegrity 20 ⟨buffer, w.pos⟩
    .ok (⟨setLength w'.buffer (p.serializedSize - 20), w'.pos⟩, some (w.pos + 4))
  else .ok (w, none)

def writeFingerprint : Except Failure Writer :=
  let computedFingerprint := getCRC32 (w.buffer.take w.pos) ^^^ 0x5354554e
  writeAttribute .fingerprint (set4Bytes computedFingerprint.toNat) 4 w

def serialize (buffer : List UInt8) : Except Failure StunPacket := do
  let w ← p.writeHeader buffer
  let w ← p.writeAttributes w
  let (w, messageIntegrity) ← p.writeMessageIntegrity hmac w
  let w ← writeFingerprint w
  if w.pos = p.serializedSize then
    .ok { p with data := w.buffer, size := p.serializedSize, messageIntegrity, hasFingerprint := true }
  else .error (.assertion "pos != this->size")

end

def message (p : StunPacket) : List UInt8 := p.data.take p.size

end StunPacket

end Mediasoup.Stun
