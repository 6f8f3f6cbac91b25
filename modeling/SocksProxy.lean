import SocksProxy.StatefulPrograms
import SocksProxy.AccessScripts
import SocksProxy.FieldParsing
import SocksProxy.ByteStrings
import SocksProxy.AddressText
import SocksProxy.PositionalNotation
import SocksProxy.AddressNotation
import SocksProxy.SessionRecords
import SocksProxy.SessionSockets
import SocksProxy.SocksProtocols
import SocksProxy.OutwardActions
import SocksProxy.ConnectAttempts
import SocksProxy.HandshakeGrammar
import SocksProxy.SocksFiveRuns
import SocksProxy.SocksFiveRequests
import SocksProxy.DestinationNames
import SocksProxy.SocksFourRuns
import SocksProxy.SocksFourParsing
import SocksProxy.SocksFiveOutcomes
import SocksProxy.AttemptSequences
import SocksProxy.ReportedConnects
import SocksProxy.AcceptanceGrammar
import SocksProxy.ReplyTranscript
import SocksProxy.SuccessReply
import SocksProxy.DeliveredReplies
import SocksProxy.AnsweredRequests
import SocksProxy.AuthenticationGate
import SocksProxy.BoundedReads
import SocksProxy.HandshakeReads
import SocksProxy.KeyedTables
import SocksProxy.SessionTable
import SocksProxy.DatabaseService
import SocksProxy.DatabaseRuns
import SocksProxy.CreatedRecords
import SocksProxy.AtomicOperations
import SocksProxy.ByteCounters
import SocksProxy.TextLines
import SocksProxy.WordSeparation
import SocksProxy.ConfigReader
import SocksProxy.ReducedText
import SocksProxy.WhitespaceReduction
import SocksProxy.ConfigLines
import SocksProxy.PhantomAccounts
import SocksProxy.LastEntries
import SocksProxy.SettingLines
import SocksProxy.ConfigRoundTrip
import SocksProxy.CommentLines
import SocksProxy.TransitionSystems
import SocksProxy.LockedCalls
import SocksProxy.LockedRuns
import SocksProxy.ConcurrentService
import SocksProxy.ServiceStartup
import SocksProxy.ServiceCounters
import SocksProxy.RelaySession
import SocksProxy.RelayLedgers
import SocksProxy.RelayFidelity
import SocksProxy.StreamEnds
import SocksProxy.ServerSteps
import SocksProxy.ServerFrames
import SocksProxy.ServerInvariants
import SocksProxy.SessionLifetimes
import SocksProxy.ServerLifetimes
import SocksProxy.StartPhases
import SocksProxy.WaitLoop
import SocksProxy.SessionAccounting
import SocksProxy.ActiveRows
import SocksProxy.SequenceGrowth
import SocksProxy.SessionBooks
import SocksProxy.ActiveRecords
import SocksProxy.SessionStreams
import SocksProxy.GatewaySteps
import SocksProxy.SessionBuffers
import SocksProxy.GatewayStreams
import SocksProxy.RecordedBytes
import SocksProxy.RowLabels
import SocksProxy.CountedRows
import SocksProxy.MonitoredSessions
import SocksProxy.IntroducedClients
import SocksProxy.DrainedStreams
import SocksProxy.RelayStarts
import SocksProxy.ServedClients
import SocksProxy.ConfigValues
import SocksProxy.ServerStart
import SocksProxy.StartedServer
import SocksProxy.AccountNames
import SocksProxy.ConfigDump
import SocksProxy.WorkerQueues
import SocksProxy.Logger
import SocksProxy.LogLines
import SocksProxy.LoggerRuns
import SocksProxy.WrittenLogs
import SocksProxy.PlantedLines
import SocksProxy.FailedStarts
import SocksProxy.ClosedRecords
import SocksProxy.FilteredViews
import SocksProxy.SessionViews
import SocksProxy.ViewedSessions
