import Mediasoup.Lib.Run

/-!
# RTP parameters

`RtpParameters` holds the codecs and encodings an endpoint announces. Its constructor checks and completes them; here it returns
the parameters with the facts that were checked (`codec_exists`), so that `getCodecForEncoding`, which aborts when there is no
codec, is a total function.

The input is the JSON object after its fields have been read. Clock rates, channels, RTCP parameters and codec parameters other
than `apt` are left out.
-/

namespace Mediasoup.Rtp

open Lib

/-! ## Codecs -/

inductive MimeType.Kind
  | audio
  | video
  deriving DecidableEq

inductive MimeType.Subtype
  | opus | multiopus | pcma | pcmu | isac | g722 | ilbc | silk
  | vp8 | vp9 | h264 | h264Svc | xH264uc | h265
  | cn | telephoneEvent
  | rtx | ulpfec | xUlpfecuc | flexfec | red
  deriving DecidableEq

/-- The numbers of the source: audio codecs from 100, video codecs from 200, complementary codecs from 300 and feature
codecs from 400. -/
def MimeType.Subtype.code : MimeType.Subtype → Nat
  | opus => 100 | multiopus => 101 | pcma => 102 | pcmu => 103 | isac => 104 | g722 => 105 | ilbc => 106 | silk => 107
  | vp8 => 200 | vp9 => 201 | h264 => 202 | h264Svc => 203 | xH264uc => 204 | h265 => 205
  | cn => 300 | telephoneEvent => 301
  | rtx => 400 | ulpfec => 401 | xUlpfecuc => 402 | flexfec => 403 | red => 404

structure MimeType where
  type : MimeType.Kind
  subtype : MimeType.Subtype
  deriving DecidableEq

namespace MimeType

def isMediaCodec (m : MimeType) : Bool := decide (m.subtype.code ≥ 100) && decide (m.subtype.code < 300)

def isFeatureCodec (m : MimeType) : Bool := decide (m.subtype.code ≥ 400)

end MimeType

inductive ParametersType
  | none
  | simple
  | simulcast
  | svc
  | pipe
  deriving DecidableEq

def isValidTypeForCodec (type : ParametersType) (m : MimeType) : Bool :=
  match type with
  | .none => false
  | .simple => true
  | .simulcast => m.type == .video && (m.subtype == .vp8 || m.subtype == .h264)
  | .svc => m.type == .video && (m.subtype == .vp9 || m.subtype == .h264Svc)
  | .pipe => true

/-- A value of `Parameters`; only integers matter here. -/
inductive ParameterValue
  | integer (n : Int)
  | other
  deriving DecidableEq

/-- `integerValue`, which is 0 in a value of another type. -/
def ParameterValue.integerValue : ParameterValue → Int
  | integer n => n
  | other => 0

structure RtcpFeedback where
  type : String
  parameter : String := ""
  deriving DecidableEq

structure RtpCodecParameters where
  mimeType : MimeType
  payloadType : UInt8
  /-- The parameter of that name, if there is one. -/
  apt : Option ParameterValue := none
  rtcpFeedback : List RtcpFeedback := []
  deriving DecidableEq

inductive TypeError
  | emptyMid
  | emptyCodecs
  | emptyEncodings
  /-- "missing apt parameter in RTX codec" -/
  | missingApt
  | duplicatedPayloadType
  /-- "apt in RTX codec points to a RTX codec", "... a ULPFEC codec", "... a FLEXFEC codec" -/
  | aptToFeatureCodec (subtype : MimeType.Subtype)
  /-- "apt in RTX codec points to a non existing codec" -/
  | aptToNoCodec
  | noMediaCodecs
  /-- "cannot use both simulcast and encodings with multiple SVC spatial layers" -/
  | simulcastWithSpatialLayers
  | invalidCodecPayloadType
  | unknownCodecPayloadType
  /-- "... codec not supported for ..." -/
  | codecNotSupported (mimeType : MimeType) (type : ParametersType)
  /-- "wrong entry in rtpMapping.encodings (missing ssrc or rid)" -/
  | missingSsrcOrRid
  /-- "wrong entry in rtpMapping.encodings (missing ssrc or rid, or rtpParameters.mid)" -/
  | missingSsrcRidOrMid
  /-- "rtpParameters.encodings size does not match rtpMapping.encodings size" -/
  | sizesDiffer
  /-- "RTP extension id cannot be 0" -/
  | extensionIdZero
  deriving DecidableEq

namespace RtpCodecParameters

def checkCodec (codec : RtpCodecParameters) : Except TypeError Unit :=
  match codec.mimeType.subtype, codec.apt with
  | .rtx, some (.integer n) => if 0 ≤ n then .ok () else .error .missingApt
  | .rtx, _ => .error .missingApt
  | _, _ => .ok ()

/-- The first codec that the `apt` of an RTX codec points to is no RTX, ULPFEC or FLEXFEC codec. -/
def validateApt (codecs : List RtpCodecParameters) (codec : RtpCodecParameters) : Except TypeError Unit :=
  let apt := (codec.apt.map ParameterValue.integerValue).getD 0
  match codecs.find? fun c => c.payloadType.toNat = apt with
  | none => .error .aptToNoCodec
  | some c =>
    if c.mimeType.subtype = .rtx ∨ c.mimeType.subtype = .ulpfec ∨ c.mimeType.subtype = .flexfec then
      .error (.aptToFeatureCodec c.mimeType.subtype)
    else .ok ()

end RtpCodecParameters

def validateCodecs (codecs : List RtpCodecParameters) :
    List UInt8 → List RtpCodecParameters → Except TypeError Unit
  | _, [] => .ok ()
  | payloadTypes, codec :: rest =>
    if codec.payloadType ∈ payloadTypes then .error .duplicatedPayloadType
    else do
      if codec.mimeType.subtype = .rtx then codec.validateApt codecs
      validateCodecs codecs (codec.payloadType :: payloadTypes) rest

/-! ## Encodings -/

/-- An `ssrc` of 0 and an empty `rid` stand for fields that are not given. -/
structure RtpEncodingParameters where
  ssrc : UInt32 := 0
  rid : String := ""
  codecPayloadType : UInt8 := 0
  hasCodecPayloadType : Bool := false
  rtxSsrc : UInt32 := 0
  hasRtx : Bool := false
  spatialLayers : Nat := 1
  temporalLayers : Nat := 1
  deriving DecidableEq

def findCodec (codecs : List RtpCodecParameters) (encoding : RtpEncodingParameters) : Option RtpCodecParameters :=
  codecs.find? fun codec => codec.payloadType == encoding.codecPayloadType

def validateEncoding (codecs : List RtpCodecParameters) (firstMediaPayloadType : UInt8) (count : Nat)
    (encoding : RtpEncodingParameters) : Except TypeError RtpEncodingParameters :=
  if encoding.spatialLayers > 1 ∧ count > 1 then .error .simulcastWithSpatialLayers
  else if !encoding.hasCodecPayloadType then
    .ok { encoding with codecPayloadType := firstMediaPayloadType, hasCodecPayloadType := true }
  else
    match findCodec codecs encoding with
    | none => .error .unknownCodecPayloadType
    | some codec => if codec.mimeType.isMediaCodec then .ok encoding else .error .invalidCodecPayloadType

def validateEachEncoding (codecs : List RtpCodecParameters) (firstMediaPayloadType : UInt8) (count : Nat) :
    List RtpEncodingParameters → Except TypeError (List RtpEncodingParameters)
  | [] => .ok []
  | encoding :: rest => do
    let encoding ← validateEncoding codecs firstMediaPayloadType count encoding
    let rest ← validateEachEncoding codecs firstMediaPayloadType count rest
    return encoding :: rest

def validateEncodings (codecs : List RtpCodecParameters) (encodings : List RtpEncodingParameters) :
    Except TypeError (List RtpEncodingParameters) :=
  match codecs.find? fun codec => codec.mimeType.isMediaCodec with
  | none => .error .noMediaCodecs
  | some first => validateEachEncoding codecs first.payloadType encodings.length encodings

variable {codecs : List RtpCodecParameters}

theorem findCodec_of_mem {codec : RtpCodecParameters} (h : codec ∈ codecs)
    {encoding : RtpEncodingParameters} (he : codec.payloadType = encoding.codecPayloadType) :
    (findCodec codecs encoding).isSome = true := by
  rw [findCodec, List.find?_isSome]
  exact ⟨codec, h, by simp [he]⟩

theorem validateEncoding_findCodec {first : RtpCodecParameters} (hmem : first ∈ codecs)
    {count : Nat} {encoding encoding' : RtpEncodingParameters}
    (h : validateEncoding codecs first.payloadType count encoding = .ok encoding') :
    (findCodec codecs encoding').isSome = true := by
  unfold validateEncoding at h
  split at h
  · cases h
  split at h
  · cases h
    exact findCodec_of_mem hmem rfl
  cases hfind : findCodec codecs encoding with
  | none => simp [hfind] at h
  | some codec =>
    simp only [hfind] at h
    split at h
    · cases h
      rw [hfind, Option.isSome_some]
    · cases h

theorem validateEachEncoding_findCodec {first : RtpCodecParameters}
    (hmem : first ∈ codecs) {count : Nat} : ∀ {encodings encodings' : List RtpEncodingParameters},
    validateEachEncoding codecs first.payloadType count encodings = .ok encodings' →
    encodings'.length = encodings.length ∧ ∀ e ∈ encodings', (findCodec codecs e).isSome = true
  | [], _, h => by
    cases h
    exact ⟨rfl, by simp⟩
  | encoding :: rest, _, h => by
    obtain ⟨encoding', he, h⟩ := exists_of_bind_eq_ok h
    obtain ⟨rest', hrest, h⟩ := exists_of_bind_eq_ok h
    cases h
    obtain ⟨hlen, hall⟩ := validateEachEncoding_findCodec hmem hrest
    refine ⟨by simp [hlen], ?_⟩
    rintro e (_ | ⟨_, hmem'⟩)
    · exact validateEncoding_findCodec hmem he
    · exact hall e hmem'

theorem validateEncodings_findCodec {encodings encodings' : List RtpEncodingParameters}
    (h : validateEncodings codecs encodings = .ok encodings') :
    encodings'.length = encodings.length ∧ ∀ e ∈ encodings', (findCodec codecs e).isSome = true := by
  unfold validateEncodings at h
  cases hfirst : codecs.find? fun codec => codec.mimeType.isMediaCodec with
  | none => simp [hfirst] at h
  | some first =>
    rw [hfirst] at h
    exact validateEachEncoding_findCodec (List.mem_of_find?_eq_some hfirst) h

/-! ## Parameters -/

structure RtpParametersData where
  mid : Option String := none
  codecs : List RtpCodecParameters
  encodings : List RtpEncodingParameters
  headerExtensionIds : List UInt8 := []
  deriving DecidableEq

/-- Checked parameters; an empty `mid` stands for none. -/
structure RtpParameters where
  mid : String
  codecs : List RtpCodecParameters
  encodings : List RtpEncodingParameters
  headerExtensionIds : List UInt8
  encodings_ne_nil : encodings ≠ []
  codec_exists : ∀ e ∈ encodings, (findCodec codecs e).isSome = true
  deriving DecidableEq

namespace RtpParameters

def create (d : RtpParametersData) : Except TypeError RtpParameters :=
  if d.mid = some "" then .error .emptyMid
  else do
    d.codecs.forM RtpCodecParameters.checkCodec
    if d.codecs = [] then throw .emptyCodecs
    if henc : d.encodings = [] then throw .emptyEncodings
    else
      validateCodecs d.codecs [] d.codecs
      match hval : validateEncodings d.codecs d.encodings with
      | .error e => .error e
      | .ok encodings =>
        let ⟨hlen, hcodec⟩ := validateEncodings_findCodec hval
        .ok ⟨d.mid.getD "", d.codecs, encodings, d.headerExtensionIds,
          fun h => henc (List.length_eq_zero_iff.mp (by rw [← hlen, h, List.length_nil])), hcodec⟩

variable (r : RtpParameters)

abbrev Encoding := { e : RtpEncodingParameters // e ∈ r.encodings }

def firstEncoding : r.Encoding := ⟨r.encodings.head r.encodings_ne_nil, List.head_mem _⟩

def indexedEncodings : List (r.Encoding × Nat) := r.encodings.attach.zipIdx

theorem getElem?_of_mem_indexedEncodings {r : RtpParameters} {e : r.Encoding} {i : Nat}
    (h : (e, i) ∈ r.indexedEncodings) : r.encodings[i]? = some e.1 := by
  have hget : r.encodings.attach[i]? = some e := List.mem_zipIdx_iff_getElem?.mp h
  have hmap : (r.encodings.attach.map Subtype.val)[i]? = some e.1 := by rw [List.getElem?_map, hget, Option.map_some]
  rwa [List.attach_map_subtype_val] at hmap

def getCodecForEncoding (e : r.Encoding) : RtpCodecParameters :=
  (findCodec r.codecs e.1).get (r.codec_exists e.1 e.2)

def getType : ParametersType :=
  let mimeType := (r.getCodecForEncoding r.firstEncoding).mimeType
  if r.encodings.length = 1 then
    if r.firstEncoding.1.spatialLayers > 1 ∨ r.firstEncoding.1.temporalLayers > 1 then
      if isValidTypeForCodec .svc mimeType then .svc
      else if isValidTypeForCodec .simulcast mimeType then .simulcast
      else .none
    else .simple
  else .simulcast

end RtpParameters

end Mediasoup.Rtp
