import Mediasoup.Sctp.Reassembly
import Mediasoup.Seq.InOrder
import Mediasoup.Rtp.Recovery
import Mediasoup.Producer.OneStream
import Mediasoup.Codecs.SvcLayers
import Mediasoup.Rtcp.FeedbackRtpTransport.BaseDelta
import Mediasoup.Consumer.Sequence
import Mediasoup.Router.Independence
import Mediasoup.Router.Sharing
import Mediasoup.Tcp.Connection
import Mediasoup.Rtp.ExtensionsRoundTrip
import Mediasoup.Stun.RoundTrip
import Mediasoup.Ice.Tuples
import Mediasoup.Ice.Credentials
import Mediasoup.Channel.Node
import Mediasoup.Channel.ConsumerSocket
import Mediasoup.Rtp.RateCalculator
import Mediasoup.Consumer.InPlace
import Mediasoup.Producer.Tables
import Mediasoup.Ports.Probing
import Mediasoup.Ortc.CanConsume
import Mediasoup.Transport.Distribution
import Mediasoup.KeyFrames.NoRequestLost
import Mediasoup.Rtcp.FeedbackRtpTransport.FillRuns
import Mediasoup.Consumer.SwitchTimestamps
import Mediasoup.Rtp.BufferRetention
import Mediasoup.Rtp.NackRuns
import Mediasoup.Transport.SendRtcp
import Mediasoup.Rtp.ScoreRuns
import Mediasoup.Rtcp.Bitrates
import Mediasoup.Rtp.RoundTripTime
import Mediasoup.Channel.PayloadChannel
import Mediasoup.Ice.TupleHash
import Mediasoup.Observer.ActiveSpeaker
import Mediasoup.Observer.AudioLevel
import Mediasoup.Ortc.ConsumerSsrcs
import Mediasoup.Ortc.ScalabilityModes
import Mediasoup.Rtp.RecoveredCycles
import Mediasoup.Rtp.ShiftPayload
import Mediasoup.Sctp.DataConsumer
import Mediasoup.Sctp.OutgoingStreams
import Mediasoup.Seq.AfterSync
import Mediasoup.Stun.Grammar
import Mediasoup.Transport.SctpStreamIds
import Mediasoup.Rtp.NackRequests
