import DatagramLink.Bytes.Hex
import DatagramLink.Channel.Relay
import DatagramLink.Json.Printer
import DatagramLink.Json.Reader
import DatagramLink.Main
import DatagramLink.Session
import DatagramLink.Settings.Json
import DatagramLink.Text.Letter
import DatagramLink.Text.Pattern.Fault
import DatagramLink.Text.Pattern.CharSet
import DatagramLink.Text.Pattern.Depth
import DatagramLink.Text.Pattern.Expr
import DatagramLink.Text.Pattern.Footprint
import DatagramLink.Text.Pattern.Meaning
import DatagramLink.Proofs.CursorReading
import DatagramLink.Proofs.HeaderCodec
import DatagramLink.Proofs.MessageSplitting
import DatagramLink.Proofs.Reassembly
import DatagramLink.Proofs.ChannelSafety
import DatagramLink.Proofs.BufferedChannels
import DatagramLink.Proofs.LoopbackLink
import DatagramLink.Proofs.FragmentHistory
import DatagramLink.Proofs.Leaving
import DatagramLink.Proofs.ClientIsolation
import DatagramLink.Proofs.PeerAddress
import DatagramLink.Proofs.ProbeLedger
import DatagramLink.Proofs.LoopbackRefinement
import DatagramLink.Proofs.CommandText
import DatagramLink.Proofs.MessageCodec
import DatagramLink.Proofs.EchoExchange
import DatagramLink.Proofs.EchoSession
import DatagramLink.Proofs.ClientOnNetwork
import DatagramLink.Proofs.ServerOnNetwork
import DatagramLink.Proofs.AcceptedRequests
import DatagramLink.Proofs.SessionAgreement
import DatagramLink.Proofs.ConstantLatency
import DatagramLink.Proofs.ReplyHistory
import DatagramLink.Proofs.StrangerRuns
import DatagramLink.Proofs.MachineRuns
import DatagramLink.Proofs.OverlongMessages
import DatagramLink.Proofs.PartialMessages
import DatagramLink.Proofs.PlanRuns
import DatagramLink.Proofs.LossAccounting
import DatagramLink.Proofs.SentDatagrams
import DatagramLink.Proofs.HeaderExactness
import DatagramLink.Proofs.CommandRoundTrip
import DatagramLink.Proofs.ReleaseTimes
import DatagramLink.Proofs.Polling
import DatagramLink.Proofs.PumpBudgets
import DatagramLink.Proofs.ConnectRequests
import DatagramLink.Proofs.EndedSessions
import DatagramLink.Proofs.DirectionIndependence
import DatagramLink.Proofs.PayloadResidues
import DatagramLink.Proofs.CursorRuns
import DatagramLink.Proofs.ServingOrder
