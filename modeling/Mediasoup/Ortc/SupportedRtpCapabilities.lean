import Mediasoup.Ortc.RtpParameters

/-!
# The RTP capabilities that mediasoup supports

The data of `supportedRtpCapabilities.ts`.
-/

namespace Mediasoup.Ortc

def videoRtcpFeedback : List RtcpFeedback := [
  { type := "nack" },
  { type := "nack", parameter := some "pli" },
  { type := "ccm", parameter := some "fir" },
  { type := "goog-remb" },
  { type := "transport-cc" }]

def supportedCodecs : List RtpCodecCapability := [
  { kind := .audio, mimeType := "audio/opus", clockRate := 48000, channels := some 2,
    rtcpFeedback := some [{ type := "nack" }, { type := "transport-cc" }] },
  { kind := .audio, mimeType := "audio/multiopus", clockRate := 48000, channels := some 4,
    parameters := some [("channel_mapping", .str "0,1,2,3"), ("num_streams", .num 2), ("coupled_streams", .num 2)],
    rtcpFeedback := some [{ type := "nack" }, { type := "transport-cc" }] },
  { kind := .audio, mimeType := "audio/multiopus", clockRate := 48000, channels := some 6,
    parameters := some [("channel_mapping", .str "0,4,1,2,3,5"), ("num_streams", .num 4), ("coupled_streams", .num 2)],
    rtcpFeedback := some [{ type := "nack" }, { type := "transport-cc" }] },
  { kind := .audio, mimeType := "audio/multiopus", clockRate := 48000, channels := some 8,
    parameters := some [("channel_mapping", .str "0,6,1,2,3,4,5,7"), ("num_streams", .num 5), ("coupled_streams", .num 3)],
    rtcpFeedback := some [{ type := "nack" }, { type := "transport-cc" }] },
  { kind := .audio, mimeType := "audio/PCMU", preferredPayloadType := some 0, clockRate := 8000,
    rtcpFeedback := some [{ type := "transport-cc" }] },
  { kind := .audio, mimeType := "audio/PCMA", preferredPayloadType := some 8, clockRate := 8000,
    rtcpFeedback := some [{ type := "transport-cc" }] },
  { kind := .audio, mimeType := "audio/ISAC", clockRate := 32000,
    rtcpFeedback := some [{ type := "transport-cc" }] },
  { kind := .audio, mimeType := "audio/ISAC", clockRate := 16000,
    rtcpFeedback := some [{ type := "transport-cc" }] },
  { kind := .audio, mimeType := "audio/G722", preferredPayloadType := some 9, clockRate := 8000,
    rtcpFeedback := some [{ type := "transport-cc" }] },
  { kind := .audio, mimeType := "audio/iLBC", clockRate := 8000,
    rtcpFeedback := some [{ type := "transport-cc" }] },
  { kind := .audio, mimeType := "audio/SILK", clockRate := 24000,
    rtcpFeedback := some [{ type := "transport-cc" }] },
  { kind := .audio, mimeType := "audio/SILK", clockRate := 16000,
    rtcpFeedback := some [{ type := "transport-cc" }] },
  { kind := .audio, mimeType := "audio/SILK", clockRate := 12000,
    rtcpFeedback := some [{ type := "transport-cc" }] },
  { kind := .audio, mimeType := "audio/SILK", clockRate := 8000,
    rtcpFeedback := some [{ type := "transport-cc" }] },
  { kind := .audio, mimeType := "audio/CN", preferredPayloadType := some 13, clockRate := 32000 },
  { kind := .audio, mimeType := "audio/CN", preferredPayloadType := some 13, clockRate := 16000 },
  { kind := .audio, mimeType := "audio/CN", preferredPayloadType := some 13, clockRate := 8000 },
  { kind := .audio, mimeType := "audio/telephone-event", clockRate := 48000 },
  { kind := .audio, mimeType := "audio/telephone-event", clockRate := 32000 },
  { kind := .audio, mimeType := "audio/telephone-event", clockRate := 16000 },
  { kind := .audio, mimeType := "audio/telephone-event", clockRate := 8000 },
  { kind := .video, mimeType := "video/VP8", clockRate := 90000,
    rtcpFeedback := some videoRtcpFeedback },
  { kind := .video, mimeType := "video/VP9", clockRate := 90000,
    rtcpFeedback := some videoRtcpFeedback },
  { kind := .video, mimeType := "video/H264", clockRate := 90000,
    parameters := some [("level-asymmetry-allowed", .num 1)],
    rtcpFeedback := some videoRtcpFeedback },
  { kind := .video, mimeType := "video/H264-SVC", clockRate := 90000,
    parameters := some [("level-asymmetry-allowed", .num 1)],
    rtcpFeedback := some videoRtcpFeedback },
  { kind := .video, mimeType := "video/H265", clockRate := 90000,
    parameters := some [("level-asymmetry-allowed", .num 1)],
    rtcpFeedback := some videoRtcpFeedback }]

def supportedHeaderExtensions : List RtpHeaderExtension := [
  { kind := .audio, uri := "urn:ietf:params:rtp-hdrext:sdes:mid",
    preferredId := 1, preferredEncrypt := some false, direction := some .sendrecv },
  { kind := .video, uri := "urn:ietf:params:rtp-hdrext:sdes:mid",
    preferredId := 1, preferredEncrypt := some false, direction := some .sendrecv },
  { kind := .video, uri := "urn:ietf:params:rtp-hdrext:sdes:rtp-stream-id",
    preferredId := 2, preferredEncrypt := some false, direction := some .recvonly },
  { kind := .video, uri := "urn:ietf:params:rtp-hdrext:sdes:repaired-rtp-stream-id",
    preferredId := 3, preferredEncrypt := some false, direction := some .recvonly },
  { kind := .audio, uri := "http://www.webrtc.org/experiments/rtp-hdrext/abs-send-time",
    preferredId := 4, preferredEncrypt := some false, direction := some .sendrecv },
  { kind := .video, uri := "http://www.webrtc.org/experiments/rtp-hdrext/abs-send-time",
    preferredId := 4, preferredEncrypt := some false, direction := some .sendrecv },
  { kind := .audio, uri := "http://www.ietf.org/id/draft-holmer-rmcat-transport-wide-cc-extensions-01",
    preferredId := 5, preferredEncrypt := some false, direction := some .recvonly },
  { kind := .video, uri := "http://www.ietf.org/id/draft-holmer-rmcat-transport-wide-cc-extensions-01",
    preferredId := 5, preferredEncrypt := some false, direction := some .sendrecv },
  { kind := .video, uri := "http://tools.ietf.org/html/draft-ietf-avtext-framemarking-07",
    preferredId := 6, preferredEncrypt := some false, direction := some .sendrecv },
  { kind := .video, uri := "urn:ietf:params:rtp-hdrext:framemarking",
    preferredId := 7, preferredEncrypt := some false, direction := some .sendrecv },
  { kind := .audio, uri := "urn:ietf:params:rtp-hdrext:ssrc-audio-level",
    preferredId := 10, preferredEncrypt := some false, direction := some .sendrecv },
  { kind := .video, uri := "urn:3gpp:video-orientation",
    preferredId := 11, preferredEncrypt := some false, direction := some .sendrecv },
  { kind := .video, uri := "urn:ietf:params:rtp-hdrext:toffset",
    preferredId := 12, preferredEncrypt := some false, direction := some .sendrecv },
  { kind := .audio, uri := "http://www.webrtc.org/experiments/rtp-hdrext/abs-capture-time",
    preferredId := 13, preferredEncrypt := some false, direction := some .sendrecv },
  { kind := .video, uri := "http://www.webrtc.org/experiments/rtp-hdrext/abs-capture-time",
    preferredId := 13, preferredEncrypt := some false, direction := some .sendrecv }]

def supportedRtpCapabilities : RtpCapabilities where
  codecs := some supportedCodecs
  headerExtensions := some supportedHeaderExtensions

end Mediasoup.Ortc
