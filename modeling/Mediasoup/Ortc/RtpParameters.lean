import Mathlib.Init

/-!
# RTP capabilities and parameters of the Node library

The types of `RtpParameters.ts` and the validation of capabilities in `ortc.ts`, which returns the value with the missing fields
set. Capabilities are validated by the functions that take them, so their optional fields are optional here too. `RtpParameters`
are validated before; their lists and `rtcp` are always there. Checks of a JavaScript type that a field has by its declaration are
left out.
-/

namespace Mediasoup.Ortc

inductive OrtcError
  | typeError (message : String)
  | unsupportedError (message : String)
  | error (message : String)
  /-- a property of `undefined` is read -/
  | undefined
  deriving DecidableEq

/-- `x!`: the program relies on the value being there. -/
def defined {α : Type} : Option α → Except OrtcError α
  | some a => .ok a
  | none => .error .undefined

theorem defined_eq_ok {α : Type} {x : Option α} {a : α} : defined x = .ok a ↔ x = some a := by
  cases x <;> simp [defined]

theorem defined_bind {α β : Type} {x : Option α} {a : α} {f : α → Except OrtcError β} (h : x = some a) :
    (defined x >>= f) = f a := by
  subst h
  rfl

/-! ## Codec parameters -/

/-- The value of a codec parameter, which has the type `any`. -/
inductive ParamValue
  | undefined
  | num (n : Int)
  | str (s : String)
  /-- a value of any other type, by its text -/
  | other (text : String)
  deriving DecidableEq

/-- `value || 0` -/
def ParamValue.orZero : ParamValue → ParamValue
  | .undefined => .num 0
  | .str "" => .num 0
  | v => v

/-- The codec parameters, in the order of their keys. -/
abbrev Parameters := List (String × ParamValue)

namespace Parameters

def get (p : Parameters) (key : String) : ParamValue := (p.lookup key).getD .undefined

def set (p : Parameters) (key : String) (value : ParamValue) : Parameters :=
  if p.any (·.1 = key) then p.map fun e => if e.1 = key then (key, value) else e else p ++ [(key, value)]

def delete (p : Parameters) (key : String) : Parameters := p.filter (·.1 ≠ key)

def assign (p q : Parameters) : Parameters := q.foldl (fun p e => p.set e.1 e.2) p

end Parameters

/-! ## The types -/

inductive MediaKind
  | audio
  | video
  deriving DecidableEq

def MediaKind.toString : MediaKind → String
  | .audio => "audio"
  | .video => "video"

structure RtcpFeedback where
  type : String
  parameter : Option String := none
  deriving DecidableEq

structure RtpCodecCapability where
  kind : MediaKind
  mimeType : String
  preferredPayloadType : Option Int := none
  clockRate : Int
  channels : Option Int := none
  parameters : Option Parameters := none
  rtcpFeedback : Option (List RtcpFeedback) := none
  deriving DecidableEq

inductive RtpHeaderExtensionDirection
  | sendrecv
  | sendonly
  | recvonly
  | inactive
  deriving DecidableEq

structure RtpHeaderExtension where
  kind : MediaKind
  uri : String
  preferredId : Int
  preferredEncrypt : Option Bool := none
  direction : Option RtpHeaderExtensionDirection := none
  deriving DecidableEq

structure RtpCapabilities where
  codecs : Option (List RtpCodecCapability) := none
  headerExtensions : Option (List RtpHeaderExtension) := none
  deriving DecidableEq

structure RtpCodecParameters where
  mimeType : String
  payloadType : Int
  clockRate : Int
  channels : Option Int := none
  parameters : Parameters := []
  rtcpFeedback : List RtcpFeedback := []
  deriving DecidableEq

structure RtpHeaderExtensionParameters where
  uri : String
  id : Int
  encrypt : Option Bool := none
  parameters : Parameters := []
  deriving DecidableEq

structure RtpEncodingParameters where
  ssrc : Option Int := none
  rid : Option String := none
  codecPayloadType : Option Int := none
  /-- the `ssrc` of `rtx` -/
  rtx : Option Int := none
  dtx : Option Bool := none
  scalabilityMode : Option String := none
  scaleResolutionDownBy : Option Int := none
  maxBitrate : Option Int := none
  deriving DecidableEq

structure RtcpParameters where
  cname : Option String := none
  reducedSize : Option Bool := none
  mux : Option Bool := none
  deriving DecidableEq

structure RtpParameters where
  mid : Option String := none
  codecs : List RtpCodecParameters
  headerExtensions : List RtpHeaderExtensionParameters := []
  encodings : List RtpEncodingParameters := []
  rtcp : RtcpParameters := {}
  deriving DecidableEq

/-! ## MIME types -/

/-- `toLowerCase()` on ASCII letters; JavaScript lowers other ones too. -/
def toLowerCase (s : String) : List Char := s.toList.map Char.toLower

/-- The characters that `.` of a regular expression does not match. -/
def isLineTerminator (c : Char) : Bool := c.toNat ∈ [0x0A, 0x0D, 0x2028, 0x2029]

/-- `/.+\/rtx$/i` -/
def isRtxMimeType (mimeType : String) : Bool :=
  match (toLowerCase mimeType).reverse with
  | 'x' :: 't' :: 'r' :: '/' :: c :: _ => !isLineTerminator c
  | _ => false

/-- `^(audio|video)/(.+)`, in any case: the kind is the first group. -/
def kindOfMimeType (mimeType : String) : Option MediaKind :=
  match toLowerCase mimeType with
  | 'a' :: 'u' :: 'd' :: 'i' :: 'o' :: '/' :: c :: _ => if isLineTerminator c then none else some .audio
  | 'v' :: 'i' :: 'd' :: 'e' :: 'o' :: '/' :: c :: _ => if isLineTerminator c then none else some .video
  | _ => none

/-! ## Validation -/

/-- One turn of the loop over the keys of `codec.parameters`. -/
def validateParameter : String × ParamValue → Except OrtcError (String × ParamValue)
  | (key, .undefined) =>
    if key = "apt" then .error (.typeError "invalid codec apt parameter") else .ok (key, .str "")
  | (key, .str s) => if key = "apt" then .error (.typeError "invalid codec apt parameter") else .ok (key, .str s)
  | (key, .num n) => .ok (key, .num n)
  | (key, .other text) => .error (.typeError s!"invalid codec parameter [key:{key}s, value:{text}]")

def validateRtcpFeedback (fb : RtcpFeedback) : Except OrtcError RtcpFeedback :=
  if fb.type = "" then .error (.typeError "missing fb.type")
  else .ok { fb with parameter := some (fb.parameter.getD "") }

/-- `channels` is optional. If unset, it is 1 (just if audio). -/
def validateChannels (channels : Option Int) : MediaKind → Option Int
  | .audio => some (channels.getD 1)
  | .video => none

def validateRtpCodecCapability (codec : RtpCodecCapability) : Except OrtcError RtpCodecCapability :=
  if codec.mimeType = "" then .error (.typeError "missing codec.mimeType")
  else
    match kindOfMimeType codec.mimeType with
    | none => .error (.typeError "invalid codec.mimeType")
    | some kind => do
      let parameters ← (codec.parameters.getD []).mapM validateParameter
      let rtcpFeedback ← (codec.rtcpFeedback.getD []).mapM validateRtcpFeedback
      return { codec with
        -- Just override kind with media component of mimeType.
        kind := kind
        channels := validateChannels codec.channels kind
        parameters := some parameters
        rtcpFeedback := some rtcpFeedback }

def validateRtpHeaderExtension (ext : RtpHeaderExtension) : Except OrtcError RtpHeaderExtension :=
  if ext.uri = "" then .error (.typeError "missing ext.uri")
  else .ok { ext with
    preferredEncrypt := some (ext.preferredEncrypt.getD false), direction := some (ext.direction.getD .sendrecv) }

def validateRtpCapabilities (caps : RtpCapabilities) : Except OrtcError RtpCapabilities := do
  let codecs ← (caps.codecs.getD []).mapM validateRtpCodecCapability
  let headerExtensions ← (caps.headerExtensions.getD []).mapM validateRtpHeaderExtension
  return { codecs := some codecs, headerExtensions := some headerExtensions }

end Mediasoup.Ortc
