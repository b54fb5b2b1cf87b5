import Mediasoup.Ortc.SupportedRtpCapabilities

/-!
# The negotiation of RTP parameters

The functions of `ortc.ts` that make the capabilities of a router, map the codecs of a producer to them, and make from both the
parameters of a consumer.

`H264` are the functions of the `h264-profile-level-id` package. Random numbers are arguments.
-/

namespace Mediasoup.Ortc

structure H264 where
  isSameProfile : Parameters → Parameters → Bool
  /-- `none`: it throws; `some none`: it returns `undefined` -/
  generateProfileLevelIdForAnswer : Parameters → Parameters → Option (Option String)

/-- What `matchCodecs` and `isRtxCodec` read of a codec, be it a capability or a parameter. -/
structure AnyCodec where
  mimeType : String
  clockRate : Int
  channels : Option Int
  parameters : Parameters

def RtpCodecCapability.any (codec : RtpCodecCapability) : AnyCodec where
  mimeType := codec.mimeType
  clockRate := codec.clockRate
  channels := codec.channels
  -- Codecs are matched after their validation, which sets the parameters.
  parameters := codec.parameters.getD []

def RtpCodecParameters.any (codec : RtpCodecParameters) : AnyCodec where
  mimeType := codec.mimeType
  clockRate := codec.clockRate
  channels := codec.channels
  parameters := codec.parameters

def isRtxCodec (codec : AnyCodec) : Bool := isRtxMimeType codec.mimeType

variable (h264 : H264)

/-- The checks of `video/h264` and `video/h264-svc`, in strict mode. -/
def matchH264 (a b : Parameters) (modify : Bool) : Option Parameters :=
  if (a.get "packetization-mode").orZero ≠ (b.get "packetization-mode").orZero then none
  else if !h264.isSameProfile a b then none
  else
    match h264.generateProfileLevelIdForAnswer a b with
    | none => none
    | some selectedProfileLevelId =>
      if !modify then some a
      else
        match selectedProfileLevelId with
        | none => some (a.delete "profile-level-id")
        | some "" => some (a.delete "profile-level-id")
        | some id => some (a.set "profile-level-id" (.str id))

/-- `matchCodecs`: if the codecs match, the parameters of the first one after the call. -/
def matchCodecs (aCodec bCodec : AnyCodec) (strict modify : Bool) : Option Parameters :=
  let aMimeType := toLowerCase aCodec.mimeType
  let bMimeType := toLowerCase bCodec.mimeType
  let a := aCodec.parameters
  let b := bCodec.parameters
  if aMimeType ≠ bMimeType then none
  else if aCodec.clockRate ≠ bCodec.clockRate then none
  else if aCodec.channels ≠ bCodec.channels then none
  else if aMimeType = "audio/multiopus".toList then
    if a.get "num_streams" ≠ b.get "num_streams" then none
    else if a.get "coupled_streams" ≠ b.get "coupled_streams" then none
    else some a
  else if aMimeType = "video/h264".toList ∨ aMimeType = "video/h264-svc".toList then
    if strict then matchH264 h264 a b modify else some a
  else if aMimeType = "video/vp9".toList then
    if strict ∧ (a.get "profile-id").orZero ≠ (b.get "profile-id").orZero then none else some a
  else some a

/-! ## The capabilities of a router -/

def DynamicPayloadTypes : List Int := [
  100, 101, 102, 103, 104, 105, 106, 107, 108, 109, 110,
  111, 112, 113, 114, 115, 116, 117, 118, 119, 120, 121,
  122, 123, 124, 125, 126, 127, 96, 97, 98, 99]

def shift : List Int → Except OrtcError (Int × List Int)
  | [] => .error (.error "cannot allocate more dynamic codec payload types")
  | pt :: pts => if pt = 0 then .error (.error "cannot allocate more dynamic codec payload types") else .ok (pt, pts)

def choosePayloadType (media supported : Option Int) (dynamicPayloadTypes : List Int) : Except OrtcError (Int × List Int) :=
  match media, supported with
  | some pt, _ => .ok (pt, dynamicPayloadTypes.erase pt)
  | none, some pt => .ok (pt, dynamicPayloadTypes)
  | none, none => shift dynamicPayloadTypes

/-- The codecs of the router so far and the dynamic payload types that are left. -/
structure RouterCodecs where
  codecs : List RtpCodecCapability := []
  dynamicPayloadTypes : List Int := DynamicPayloadTypes

def routerCodec (matched mediaCodec : RtpCodecCapability) (pt : Int) : RtpCodecCapability :=
  { matched with
    preferredPayloadType := some pt
    parameters := some ((matched.parameters.getD []).assign (mediaCodec.parameters.getD [])) }

def rtxCodec (codec : RtpCodecCapability) (mediaPt pt : Int) : RtpCodecCapability where
  kind := codec.kind
  mimeType := codec.kind.toString ++ "/rtx"
  preferredPayloadType := some pt
  clockRate := codec.clockRate
  parameters := some [("apt", .num mediaPt)]
  rtcpFeedback := some []

def addMediaCodec (supported : List RtpCodecCapability) (s : RouterCodecs) (mediaCodec : RtpCodecCapability) :
    Except OrtcError RouterCodecs := do
  let mediaCodec ← validateRtpCodecCapability mediaCodec
  match supported.find? fun supportedCodec => (matchCodecs h264 mediaCodec.any supportedCodec.any false false).isSome with
  | none => throw (.unsupportedError s!"media codec not supported [mimeType:{mediaCodec.mimeType}]")
  | some matched =>
    let (pt, dynamicPayloadTypes) ←
      choosePayloadType mediaCodec.preferredPayloadType matched.preferredPayloadType s.dynamicPayloadTypes
    if s.codecs.any (·.preferredPayloadType = some pt) then throw (.typeError "duplicated codec.preferredPayloadType")
    else
      let codec := routerCodec matched mediaCodec pt
      match codec.kind with
      | .audio => return { codecs := s.codecs ++ [codec], dynamicPayloadTypes := dynamicPayloadTypes }
      | .video =>
        let (rtxPt, dynamicPayloadTypes) ← shift dynamicPayloadTypes
        return { codecs := s.codecs ++ [codec, rtxCodec codec pt rtxPt], dynamicPayloadTypes := dynamicPayloadTypes }

def generateRouterRtpCapabilities (mediaCodecs : List RtpCodecCapability) :
    Except OrtcError RtpCapabilities := do
  let supported ← validateRtpCapabilities supportedRtpCapabilities
  let s ← mediaCodecs.foldlM (addMediaCodec h264 (supported.codecs.getD [])) {}
  return { codecs := some s.codecs, headerExtensions := supported.headerExtensions }

/-! ## The codecs of a producer -/

structure CodecMapping where
  payloadType : Int
  mappedPayloadType : Int
  deriving DecidableEq

structure EncodingMapping where
  ssrc : Option Int := none
  rid : Option String := none
  scalabilityMode : Option String := none
  mappedSsrc : Int
  deriving DecidableEq

structure RtpMapping where
  codecs : List CodecMapping
  encodings : List EncodingMapping
  deriving DecidableEq

/-- The first capability that a codec of the producer matches, and the parameters of the codec after that. -/
def searchCapCodec (capCodecs : List RtpCodecCapability) (codec : RtpCodecParameters) :
    Option (RtpCodecCapability × Parameters) :=
  capCodecs.findSome? fun capCodec => (matchCodecs h264 codec.any capCodec.any true true).map (capCodec, ·)

/-- The first loop of `getProducerRtpParametersMapping`: the codecs as it leaves them, and the entries of `codecToCapCodec`.
Its keys are the positions of the codecs. -/
def matchMediaCodecs (h264 : H264) (capCodecs : List RtpCodecCapability) :
    Nat → List RtpCodecParameters → Except OrtcError (List RtpCodecParameters × List (Nat × RtpCodecCapability))
  | _, [] => .ok ([], [])
  | i, codec :: codecs =>
    if isRtxCodec codec.any then do
      let (codecs, entries) ← matchMediaCodecs h264 capCodecs (i + 1) codecs
      return (codec :: codecs, entries)
    else
      match searchCapCodec h264 capCodecs codec with
      | none => .error (.unsupportedError s!"unsupported codec [mimeType:{codec.mimeType}, payloadType:{codec.payloadType}]")
      | some (capCodec, parameters) => do
        let (codecs, entries) ← matchMediaCodecs h264 capCodecs (i + 1) codecs
        return ({ codec with parameters := parameters } :: codecs, (i, capCodec) :: entries)

def searchRtxCapCodec (capCodecs : List RtpCodecCapability) (pt : Option Int) : Option RtpCodecCapability :=
  capCodecs.find? fun capCodec =>
    isRtxCodec capCodec.any && capCodec.any.parameters.get "apt" = (pt.map ParamValue.num).getD .undefined

def matchRtxCodecs (capCodecs : List RtpCodecCapability) (params : List RtpCodecParameters) :
    Nat → List RtpCodecParameters → List (Nat × RtpCodecCapability) → Except OrtcError (List (Nat × RtpCodecCapability))
  | _, [], codecToCapCodec => .ok codecToCapCodec
  | i, codec :: codecs, codecToCapCodec =>
    if !isRtxCodec codec.any then matchRtxCodecs capCodecs params (i + 1) codecs codecToCapCodec
    else
      match params.findIdx? fun mediaCodec => ParamValue.num mediaCodec.payloadType = codec.parameters.get "apt" with
      | none => .error (.typeError s!"missing media codec found for RTX PT {codec.payloadType}")
      | some associated => do
        let capMediaCodec ← defined (codecToCapCodec.lookup associated)
        match searchRtxCapCodec capCodecs capMediaCodec.preferredPayloadType with
        | none =>
          let pt ← defined capMediaCodec.preferredPayloadType
          throw (.unsupportedError s!"no RTX codec for capability codec PT {pt}")
        | some capCodec => matchRtxCodecs capCodecs params (i + 1) codecs (codecToCapCodec ++ [(i, capCodec)])

def codecsMapping (codecs : List RtpCodecParameters) :
    List (Nat × RtpCodecCapability) → Except OrtcError (List CodecMapping)
  | [] => .ok []
  | (i, capCodec) :: entries => do
    let codec ← defined codecs[i]?
    let mappedPayloadType ← defined capCodec.preferredPayloadType
    let mappings ← codecsMapping codecs entries
    return { payloadType := codec.payloadType, mappedPayloadType := mappedPayloadType } :: mappings

/-- An empty text or 0 is as good as nothing. -/
def truthyText : Option String → Option String
  | some "" => none
  | t => t

def truthyNumber : Option Int → Option Int
  | some 0 => none
  | n => n

def encodingsMapping (mappedSsrc : Int) : List RtpEncodingParameters → List EncodingMapping
  | [] => []
  | encoding :: encodings =>
    { mappedSsrc := mappedSsrc
      rid := truthyText encoding.rid
      ssrc := truthyNumber encoding.ssrc
      scalabilityMode := truthyText encoding.scalabilityMode } :: encodingsMapping (mappedSsrc + 1) encodings

def getProducerRtpParametersMapping (params : RtpParameters) (caps : RtpCapabilities) (random : Int) :
    Except OrtcError (RtpMapping × RtpParameters) := do
  let capCodecs ← defined caps.codecs
  let (codecs, media) ← matchMediaCodecs h264 capCodecs 0 params.codecs
  let codecToCapCodec ← matchRtxCodecs capCodecs codecs 0 codecs media
  let mappings ← codecsMapping codecs codecToCapCodec
  return ({ codecs := mappings, encodings := encodingsMapping random params.encodings }, { params with codecs := codecs })

/-! ## Consumable parameters -/

def consumableCodec (codec : RtpCodecParameters) (capCodec : RtpCodecCapability) (pt : Int) : RtpCodecParameters where
  mimeType := capCodec.mimeType
  payloadType := pt
  clockRate := capCodec.clockRate
  channels := capCodec.channels
  -- Keep the Producer codec parameters.
  parameters := codec.parameters
  rtcpFeedback := capCodec.rtcpFeedback.getD []

def consumableRtxCodec (capCodec : RtpCodecCapability) (pt : Int) : RtpCodecParameters where
  mimeType := capCodec.mimeType
  payloadType := pt
  clockRate := capCodec.clockRate
  parameters := capCodec.parameters.getD []
  rtcpFeedback := capCodec.rtcpFeedback.getD []

def consumableCodecs (capCodecs : List RtpCodecCapability) (mappings : List CodecMapping) :
    List RtpCodecParameters → Except OrtcError (List RtpCodecParameters)
  | [] => .ok []
  | codec :: codecs =>
    if isRtxCodec codec.any then consumableCodecs capCodecs mappings codecs
    else do
      let entry ← defined (mappings.find? (·.payloadType = codec.payloadType))
      let matchedCapCodec ← defined (capCodecs.find? (·.preferredPayloadType = some entry.mappedPayloadType))
      let media := consumableCodec codec matchedCapCodec entry.mappedPayloadType
      match searchRtxCapCodec capCodecs (some media.payloadType) with
      | none =>
        let rest ← consumableCodecs capCodecs mappings codecs
        return media :: rest
      | some capRtxCodec =>
        let rtxPt ← defined capRtxCodec.preferredPayloadType
        let rest ← consumableCodecs capCodecs mappings codecs
        return media :: consumableRtxCodec capRtxCodec rtxPt :: rest

def consumableHeaderExtensions (kind : MediaKind) (exts : List RtpHeaderExtension) : List RtpHeaderExtensionParameters :=
  (exts.filter fun ext => ext.kind = kind ∧ (ext.direction = some .sendrecv ∨ ext.direction = some .sendonly)).map
    fun ext => { uri := ext.uri, id := ext.preferredId, encrypt := ext.preferredEncrypt }

def consumableEncodings : List EncodingMapping → List RtpEncodingParameters → Except OrtcError (List RtpEncodingParameters)
  | _, [] => .ok []
  | [], _ :: _ => .error .undefined
  | mapping :: mappings, encoding :: encodings => do
    let rest ← consumableEncodings mappings encodings
    return { encoding with rid := none, rtx := none, codecPayloadType := none, ssrc := some mapping.mappedSsrc } :: rest

def getConsumableRtpParameters (kind : MediaKind) (params : RtpParameters) (caps : RtpCapabilities) (rtpMapping : RtpMapping) :
    Except OrtcError RtpParameters := do
  let capCodecs ← defined caps.codecs
  let codecs ← consumableCodecs capCodecs rtpMapping.codecs params.codecs
  let exts ← defined caps.headerExtensions
  let encodings ← consumableEncodings rtpMapping.encodings params.encodings
  return {
    codecs := codecs
    headerExtensions := consumableHeaderExtensions kind exts
    encodings := encodings
    rtcp := { cname := params.rtcp.cname, reducedSize := some true, mux := some true } }

/-! ## Consumers -/

def searchRemoteCodec (capCodecs : List RtpCodecCapability) (codec : RtpCodecParameters) :
    Option RtpCodecCapability :=
  capCodecs.find? fun capCodec => (matchCodecs h264 capCodec.any codec.any true false).isSome

def hasMediaCodec : List RtpCodecParameters → Bool
  | [] => false
  | codec :: _ => !isRtxCodec codec.any

def canConsume (consumableParams : RtpParameters) (caps : RtpCapabilities) : Except OrtcError Bool := do
  let caps ← validateRtpCapabilities caps
  let capCodecs ← defined caps.codecs
  let matchingCodecs := consumableParams.codecs.filter fun codec => (searchRemoteCodec h264 capCodecs codec).isSome
  return hasMediaCodec matchingCodecs

def consumerCodecs (capCodecs : List RtpCodecCapability) (enableRtx : Bool)
    (codecs : List RtpCodecParameters) : List RtpCodecParameters :=
  codecs.filterMap fun codec =>
    if !enableRtx ∧ isRtxCodec codec.any then none
    else (searchRemoteCodec h264 capCodecs codec).map fun capCodec =>
      { codec with
        rtcpFeedback := (capCodec.rtcpFeedback.getD []).filter fun fb =>
          enableRtx ∨ fb.type ≠ "nack" ∨ (truthyText fb.parameter).isSome }

/-- The loop that removes useless RTX codecs, from the last codec on: `before` is reversed, `after` has been looked at. -/
def removeUselessRtx : List RtpCodecParameters → List RtpCodecParameters → Bool → List RtpCodecParameters × Bool
  | [], after, rtxSupported => (after, rtxSupported)
  | codec :: before, after, rtxSupported =>
    if isRtxCodec codec.any then
      if (before.reverse ++ codec :: after).any fun mediaCodec =>
          ParamValue.num mediaCodec.payloadType = codec.parameters.get "apt" then
        removeUselessRtx before (codec :: after) true
      else removeUselessRtx before after rtxSupported
    else removeUselessRtx before (codec :: after) rtxSupported

def transportCcUri : String := "http://www.ietf.org/id/draft-holmer-rmcat-transport-wide-cc-extensions-01"

def absSendTimeUri : String := "http://www.webrtc.org/experiments/rtp-hdrext/abs-send-time"

/-- Use Transport-CC if available, REMB otherwise. -/
def reduceRtcpFeedback (exts : List RtpHeaderExtensionParameters) (codec : RtpCodecParameters) : RtpCodecParameters :=
  if exts.any (·.uri = transportCcUri) then
    { codec with rtcpFeedback := codec.rtcpFeedback.filter (·.type ≠ "goog-remb") }
  else if exts.any (·.uri = absSendTimeUri) then
    { codec with rtcpFeedback := codec.rtcpFeedback.filter (·.type ≠ "transport-cc") }
  else
    { codec with rtcpFeedback := codec.rtcpFeedback.filter fun fb => fb.type ≠ "transport-cc" ∧ fb.type ≠ "goog-remb" }

structure ScalabilityMode where
  spatialLayers : Nat
  temporalLayers : Nat
  ksvc : Bool
  deriving DecidableEq

def parseLayers : List Char → Option (Nat × List Char)
  | c :: d :: cs =>
    if c.isDigit ∧ c ≠ '0' then
      if d.isDigit then some (10 * (c.toNat - '0'.toNat) + (d.toNat - '0'.toNat), cs)
      else some (c.toNat - '0'.toNat, d :: cs)
    else none
  | [c] => if c.isDigit ∧ c ≠ '0' then some (c.toNat - '0'.toNat, []) else none
  | [] => none

/-- The text after `L` or `S` in `^[LS]([1-9]\d{0,1})T([1-9]\d{0,1})(_KEY)?`. -/
def parseLayersMode (cs : List Char) : Option ScalabilityMode := do
  let (spatialLayers, cs) ← parseLayers cs
  match cs with
  | 'T' :: cs =>
    let (temporalLayers, cs) ← parseLayers cs
    return { spatialLayers := spatialLayers, temporalLayers := temporalLayers, ksvc := "_KEY".toList.isPrefixOf cs }
  | _ => none

def parseScalabilityMode (scalabilityMode : Option String) : ScalabilityMode :=
  let parsed :=
    match (scalabilityMode.getD "").toList with
    | 'L' :: cs => parseLayersMode cs
    | 'S' :: cs => parseLayersMode cs
    | _ => none
  parsed.getD { spatialLayers := 1, temporalLayers := 1, ksvc := false }

variable (encodings : List RtpEncodingParameters)

def consumerScalabilityMode : Option String :=
  let scalabilityMode := encodings.findSome? fun encoding => truthyText encoding.scalabilityMode
  if encodings.length > 1 then
    some s!"L{encodings.length}T{(parseScalabilityMode scalabilityMode).temporalLayers}"
  else scalabilityMode

def maxEncodingMaxBitrate : Int :=
  encodings.foldl (fun maxBitrate encoding =>
    match encoding.maxBitrate with
    | some b => if b ≠ 0 ∧ b > maxBitrate then b else maxBitrate
    | none => maxBitrate) 0

def consumerEncoding (rtxSupported : Bool) (ssrc : Int) :
    RtpEncodingParameters where
  ssrc := some ssrc
  rtx := if rtxSupported then some (ssrc + 1) else none
  scalabilityMode := consumerScalabilityMode encodings
  maxBitrate := truthyNumber (some (maxEncodingMaxBitrate encodings))

def pipeEncodings (rtxSupported : Bool) : Int → Int → List RtpEncodingParameters → List RtpEncodingParameters
  | _, _, [] => []
  | ssrc, rtxSsrc, encoding :: encodings =>
    { encoding with ssrc := some ssrc, rtx := if rtxSupported then some rtxSsrc else none } ::
      pipeEncodings rtxSupported (ssrc + 1) (rtxSsrc + 1) encodings

variable (consumable : RtpParameters)

/-- The header extensions of the remote, which are read for an extension of the consumable parameters only. -/
def remoteHeaderExtensions (remote : RtpCapabilities) :
    Except OrtcError (List RtpHeaderExtension) :=
  if consumable.headerExtensions.isEmpty then .ok [] else defined remote.headerExtensions

/-- The end of `getConsumerRtpParameters`, with the codecs that are left. -/
def consumerParams (remote : RtpCapabilities) (pipe : Bool) (random : Nat → Int)
    (codecs : List RtpCodecParameters) (rtxSupported : Bool) : Except OrtcError RtpParameters := do
  let capExts ← remoteHeaderExtensions consumable remote
  let exts := consumable.headerExtensions.filter fun ext =>
    capExts.any fun capExt => capExt.preferredId = ext.id ∧ capExt.uri = ext.uri
  return {
    codecs := codecs.map (reduceRtcpFeedback exts)
    headerExtensions := exts
    encodings :=
      if pipe then pipeEncodings rtxSupported (random 0) (random 1) consumable.encodings
      else [consumerEncoding consumable.encodings rtxSupported (random 0)]
    rtcp := consumable.rtcp }

def getConsumerRtpParameters (consumable : RtpParameters) (remote : RtpCapabilities) (pipe enableRtx : Bool)
    (random : Nat → Int) : Except OrtcError RtpParameters := do
  let capCodecs ← defined remote.codecs
  let capCodecs ← capCodecs.mapM validateRtpCodecCapability
  let left := removeUselessRtx (consumerCodecs h264 capCodecs enableRtx consumable.codecs).reverse [] false
  if hasMediaCodec left.1 then consumerParams consumable remote pipe random left.1 left.2
  else throw (.unsupportedError "no compatible media codecs")

def getPipeConsumerRtpParameters (enableRtx : Bool) (random : Nat → Int) : RtpParameters where
  codecs := (consumable.codecs.filter fun codec => enableRtx ∨ !isRtxCodec codec.any).map fun codec =>
    { codec with
      rtcpFeedback := codec.rtcpFeedback.filter fun fb =>
        fb.type = "nack" ∧ fb.parameter = some "pli" ∨ fb.type = "ccm" ∧ fb.parameter = some "fir" ∨
          enableRtx ∧ fb.type = "nack" ∧ truthyText fb.parameter = none }
  headerExtensions := consumable.headerExtensions.filter fun ext =>
    ext.uri ∉ ["urn:ietf:params:rtp-hdrext:sdes:mid", absSendTimeUri, transportCcUri]
  encodings := pipeEncodings enableRtx (random 0) (random 1) consumable.encodings
  rtcp := consumable.rtcp

end Mediasoup.Ortc
