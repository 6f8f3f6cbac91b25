import SocksProxy.IntroducedClients
import SocksProxy.MonitoredSessions
import SocksProxy.RelayStarts
import SocksProxy.StartPhases
import SocksProxy.StartedServer

namespace SocksProxy.AccountNames

open TransitionSystems ByteStrings TcpServer ServerFrames ConfigReader ConfigRoundTrip ServerStart Main
open AuthenticationGate SocksFourRuns OutwardActions StartPhases IntroducedClients SessionStreams GatewaySteps GatewayStreams
open RecordedBytes RowLabels MonitoredSessions RelayStarts

section Sessions

variable {settings : Settings} {table : SessionTable} {issued : List Int64} {es : List (GatewayEvent × Sqlite)}
  {s : TcpServer} {k : ℕ} {c : Connection} {e : Env}

end Sessions

section Started

variable {h : Host} {q : Sqlite} {table : SessionTable} {issued : List Int64} {p : Process} {items : List Item}
  {auth : ℕ} {es : List (GatewayEvent × Sqlite)} {s : TcpServer} {k : ℕ} {c : Connection} {e : Env}

end Started

end SocksProxy.AccountNames
