import EternalTerminal.Library.Program
import EternalTerminal.Library.TransitionSystem
import EternalTerminal.Library.Faults
import EternalTerminal.Library.Execution
import EternalTerminal.Library.Numeral
import EternalTerminal.Library.WireFormat
import EternalTerminal.Base.Headers
import EternalTerminal.Base.CryptoHandler
import EternalTerminal.Base.Packet
import EternalTerminal.Base.SocketHandler
import EternalTerminal.Base.Protobuf
import EternalTerminal.Base.BackedWriter
import EternalTerminal.Base.BackupBuffer
import EternalTerminal.Base.BackedReader
import EternalTerminal.Base.Connection
import EternalTerminal.Base.SocketReads
import EternalTerminal.Base.ProtoFrame
import EternalTerminal.Base.PeerSocket
import EternalTerminal.Base.SequenceNumbers
import EternalTerminal.Base.ServerConnection
import EternalTerminal.Base.ReconnectingPeer
import EternalTerminal.Base.ClientHandler
import EternalTerminal.Base.ClientConnection
import EternalTerminal.Base.ReturningClient
import EternalTerminal.Session.Ledger
import EternalTerminal.Session.Activity
import EternalTerminal.Session.RecoverStage
import EternalTerminal.Session.Session
import EternalTerminal.Session.Stalls
import EternalTerminal.Session.SessionRuns
import EternalTerminal.Session.Plan
import EternalTerminal.Session.FrameReading
import EternalTerminal.Session.ConnectionRuns
import EternalTerminal.Session.Refinement
import EternalTerminal.Session.Facing
import EternalTerminal.Session.Writing
import EternalTerminal.Session.Reading
import EternalTerminal.Session.Recovering
import EternalTerminal.Session.Simulation
import EternalTerminal.Session.Delivery
import EternalTerminal.Library.PartialMap
import EternalTerminal.Library.Forest
import EternalTerminal.Htm.TerminalHandler
import EternalTerminal.Htm.MultiplexerState
import EternalTerminal.Htm.Layout
import EternalTerminal.Htm.NewPanes
import EternalTerminal.Htm.ClosePane
import EternalTerminal.Htm.HtmSession
import EternalTerminal.Terminal.UserTerminalRouter
import EternalTerminal.Terminal.Registry
import EternalTerminal.Terminal.Listeners
import EternalTerminal.Terminal.ListenOutcome
import EternalTerminal.Terminal.ReverseTunnels
import EternalTerminal.Library.Multiplexer
import EternalTerminal.Library.MultiplexerLink
import EternalTerminal.Library.MultiplexerNet
import EternalTerminal.Terminal.ForwardHandlers
import EternalTerminal.Terminal.PortForwardHandler
import EternalTerminal.Terminal.DescriptorOwners
import EternalTerminal.Terminal.HandlerOwners
import EternalTerminal.Terminal.TunnelRefinement
import EternalTerminal.Terminal.TunnelUpdate
import EternalTerminal.Terminal.TunnelWrites
import EternalTerminal.Terminal.TunnelStreams
import EternalTerminal.Terminal.UserTerminalHandler
import EternalTerminal.Terminal.PendingInput
import EternalTerminal.Terminal.Handshake
import EternalTerminal.Terminal.RunLoops
import EternalTerminal.Base.UnixSocketHandler
import EternalTerminal.Session.ByteReading
import EternalTerminal.Session.Reassembly
import EternalTerminal.Session.Garbage
import EternalTerminal.Base.Descriptors
import EternalTerminal.Library.Method
import EternalTerminal.Base.RecoverMethod
import EternalTerminal.Base.ClientLife
import EternalTerminal.Session.Settled
import EternalTerminal.Session.Shutdown
import EternalTerminal.Terminal.ListenerTables
import EternalTerminal.Terminal.RefusedTunnels
import EternalTerminal.Terminal.SessionEnds
import EternalTerminal.Library.HandleTrace
import EternalTerminal.Terminal.DescriptorCalls
import EternalTerminal.Terminal.DescriptorOwnership
import EternalTerminal.Terminal.TunnelRoutes
import EternalTerminal.Terminal.TunnelRouting
import EternalTerminal.Library.HandleTable
import EternalTerminal.Terminal.ServerProcess
import EternalTerminal.Terminal.SessionLeaks
import EternalTerminal.Library.Sequence
import EternalTerminal.Setup.TunnelUtils
import EternalTerminal.Setup.TunnelElements
import EternalTerminal.Setup.TunnelLists
import EternalTerminal.Setup.TunnelReports
import EternalTerminal.Setup.TunnelRoundTrip
import EternalTerminal.Setup.HostParsing
import EternalTerminal.Library.Search
import EternalTerminal.Setup.SshSetupHandler
import EternalTerminal.Setup.TerminalMain
import EternalTerminal.Htm.ScrollbackReplay
import EternalTerminal.Terminal.RouterAccept
import EternalTerminal.Library.Inclusion
import EternalTerminal.Setup.ConfigTokens
import EternalTerminal.Setup.SshOptions
import EternalTerminal.Setup.ParseConfigFile
import EternalTerminal.Setup.ConfigIncludes
import EternalTerminal.Library.FirstWrite
import EternalTerminal.Setup.ConfigPrecedence
import EternalTerminal.Base.PipedPrograms
import EternalTerminal.Session.RecoveryDeadlock
import EternalTerminal.Htm.TabOrder
import EternalTerminal.Htm.SplitSizes
import EternalTerminal.Htm.ClosedPanes
import EternalTerminal.Base.NonceLockstep
import EternalTerminal.Htm.ScrollbackLimits
import EternalTerminal.Session.ReconnectThreads
import EternalTerminal.Session.ReconnectDeadlock
import EternalTerminal.Base.BackupEntries
import EternalTerminal.Session.Announcing
import EternalTerminal.Session.CatchupSize
import EternalTerminal.Terminal.JumpRelay
import EternalTerminal.Terminal.JumpSession
import EternalTerminal.Session.NonceLog
import EternalTerminal.Terminal.JumpNonces
import EternalTerminal.Library.Conveyor
import EternalTerminal.Terminal.Carrier
import EternalTerminal.Terminal.JumpStalls
import EternalTerminal.Terminal.JumpCarrier
import EternalTerminal.Terminal.TerminalClientRun
import EternalTerminal.Terminal.TerminalEnvironment
import EternalTerminal.Terminal.TerminalServerRun
import EternalTerminal.Terminal.TerminalSession
import EternalTerminal.Terminal.TerminalStalls
import EternalTerminal.Terminal.TerminalDelivery
import EternalTerminal.Terminal.TerminalIntegrity
import EternalTerminal.Terminal.TerminalWindows
import EternalTerminal.Terminal.TerminalKeepalives
import EternalTerminal.Terminal.TerminalVariables
import EternalTerminal.Library.OptionalFields
import EternalTerminal.Terminal.TunnelMessages
import EternalTerminal.Terminal.TunnelForwarder
import EternalTerminal.Terminal.TunnelSession
import EternalTerminal.Terminal.TerminalAborts
import EternalTerminal.Htm.HtmFormat
import EternalTerminal.Base.Base64
import EternalTerminal.Htm.HtmCommands
import EternalTerminal.Htm.HtmServer
import EternalTerminal.Htm.HtmReads
import EternalTerminal.Htm.HtmWire
import EternalTerminal.Htm.HtmRefinement
import EternalTerminal.Htm.HtmAttachment
import EternalTerminal.Htm.HtmHangUp
import EternalTerminal.Htm.HtmAborts
import EternalTerminal.Htm.HtmClient
import EternalTerminal.Setup.SshLogin
