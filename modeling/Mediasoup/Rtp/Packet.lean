import Mediasoup.Utils.Byte

/-!
# RTP packets

The fields of an RTP packet that the worker rewrites, and the RTX encapsulation: `rtxEncode` puts the sequence number in
front of the payload, `rtxDecode` takes it back (`rtxDecode_rtxEncode`). Both drop the padding.
-/

namespace Mediasoup.Rtp

open Utils

structure Packet where
  payloadType : UInt8
  marker : Bool := false
  sequenceNumber : UInt16
  timestamp : UInt32
  ssrc : UInt32
  payload : List UInt8
  payloadPadding : UInt8 := 0
  deriving DecidableEq

namespace Packet

variable (p : Packet)

/-- The payload type is a field of seven bits. -/
def setPayloadType (payloadType : UInt8) : Packet := { p with payloadType := payloadType % 128 }

def rtxEncode (payloadType : UInt8) (ssrc : UInt32) (seq : UInt16) : Packet :=
  { p.setPayloadType payloadType with
    ssrc := ssrc
    payload := set2Bytes p.sequenceNumber.toNat ++ p.payload
    sequenceNumber := seq
    payloadPadding := 0 }

/-- `none` where the source returns `false`: the payload has less than two bytes. -/
def rtxDecode (payloadType : UInt8) (ssrc : UInt32) : Option Packet :=
  match p.payload with
  | b0 :: b1 :: payload =>
    some
      { p.setPayloadType payloadType with
        sequenceNumber := .ofNat (get2Bytes b0 b1)
        ssrc := ssrc
        payload := payload
        payloadPadding := 0 }
  | _ => none

theorem rtxDecode_rtxEncode_eq (rtxPayloadType : UInt8) (rtxSsrc : UInt32) (rtxSeq : UInt16)
    (payloadType : UInt8) (ssrc : UInt32) :
    (p.rtxEncode rtxPayloadType rtxSsrc rtxSeq).rtxDecode payloadType ssrc =
      some { p.setPayloadType payloadType with ssrc := ssrc, payloadPadding := 0 } := by
  have hseq : UInt16.ofNat (p.sequenceNumber.toNat % 65536) = p.sequenceNumber := by
    rw [Nat.mod_eq_of_lt p.sequenceNumber.toNat_lt, UInt16.ofNat_toNat]
  simp only [rtxEncode, rtxDecode, setPayloadType, set2Bytes, List.cons_append, List.nil_append, get2Bytes_set2Bytes, hseq]

/-- **Undoing the RTX encapsulation** gives the packet back, without its padding. -/
theorem rtxDecode_rtxEncode (rtxPayloadType : UInt8) (rtxSsrc : UInt32) (rtxSeq : UInt16)
    (hpt : p.payloadType % 128 = p.payloadType) :
    (p.rtxEncode rtxPayloadType rtxSsrc rtxSeq).rtxDecode p.payloadType p.ssrc = some { p with payloadPadding := 0 } := by
  rw [rtxDecode_rtxEncode_eq, setPayloadType, hpt]

end Packet

end Mediasoup.Rtp
