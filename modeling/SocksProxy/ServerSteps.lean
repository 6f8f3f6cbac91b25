import SocksProxy.RelaySession
import SocksProxy.DatabaseService
import SocksProxy.TransitionSystems

namespace SocksProxy

open StatefulPrograms TransitionSystems

inductive Job
  | absent
  | posted
  | negotiating
  | initialised
  | reading
  | done
  deriving DecidableEq

namespace Job

def running : Job → Bool
  | .negotiating | .initialised | .reading => true
  | _ => false

def early : Job → Bool
  | .posted | .negotiating | .initialised => true
  | _ => false

end Job

/-- A `TcpSession` as the server sees it; `returned` is what `createRecord` has stored for it. -/
structure Connection where
  relay : RelaySession
  job : Job := .absent
  accepted : Bool := false
  returned : Option Int64 := none
  deriving DecidableEq

namespace Connection

def live (c : Connection) : Bool := c.accepted && !c.relay.isClosed

def held (c : Connection) : Bool :=
  c.job.early || c.job.running || c.relay.client.read != .idle || c.relay.server.read != .idle

end Connection

inductive IoThread
  | idle
  | waiting (new_connection : ℕ)
  deriving DecidableEq

structure Settings where
  maxSessions : UInt64
  poolThreads : ℕ
  bufferSize : ℕ

/-- The server process and its database; sessions are numbered in the order they are created.
`issued` are the ids that `createRecord` has returned so far. -/
structure TcpServer where
  settings : Settings
  sessions : Int32 := 0
  connections : List Connection := []
  io : IoThread := .idle
  accepting : Option ℕ := none
  table : SessionTable
  issued : List Int64 := []

inductive SocketEvent
  | arrive (d : Side) (bytes : Bytes)
  | transfer (d : Side) (size : ℕ)
  | readError (d : Side) (err : ErrorCode)

inductive ServerEvent
  | accept (error : Option ErrorCode)
  | spin
  | begin (k : ℕ)
  | createProxy (k : ℕ)
  | init (k : ℕ) (record : Session)
  | clientRead (k : ℕ)
  | serverRead (k : ℕ)
  | stop (k : ℕ)
  | socket (k : ℕ) (e : SocketEvent)
  | dispatch (k : ℕ) (d : Side) (o : WriteOutcome)

namespace RelaySession

def opened (s : RelaySession) (d : Side) : RelaySession :=
  s.setPeer d { s.peer d with isOpen := true }

def socketStep (bufferSize : ℕ) (s : RelaySession) : SocketEvent → Option RelaySession
  | .arrive d bytes => some (s.setPeer d { s.peer d with incoming := (s.peer d).incoming ++ bytes })
  | .transfer d size => s.transfer bufferSize d size
  | .readError d err => s.readError d err

end RelaySession

namespace TcpServer

/-- The condition of the loop in `start_accept`; the comparison converts the counter. -/
def limitReached (s : TcpServer) : Bool :=
  decide (0 < s.settings.maxSessions) && s.sessions.toInt64.toUInt64 == s.settings.maxSessions

@[simps] def setConnection (s : TcpServer) (k : ℕ) (c : Connection) : TcpServer :=
  { s with connections := s.connections.set k c }

def running (s : TcpServer) : ℕ := s.connections.countP fun c => c.job.running

@[simps] def onDatabase (s : TcpServer) (x : Database Unit) : TcpServer :=
  { s with table := (x.run s.table).2 }

def perform (q : Sqlite) (s : TcpServer) : Effect → TcpServer
  | .update id bytes dest => s.onDatabase (DatabaseService.update q id bytes dest)
  | .closeRecord id => s.onDatabase (DatabaseService.close q id)
  | .decrement => { s with sessions := s.sessions - 1 }
  | .wrote _ _ _ => s
  | .writeStat _ _ => s

def performAll (q : Sqlite) (s : TcpServer) (effects : List Effect) : TcpServer :=
  effects.foldl (perform q) s

def closeConnection (q : Sqlite) (k : ℕ) (s : TcpServer) : TcpServer :=
  match s.connections[k]? with
  | some c => (s.setConnection k { c with relay := c.relay.close.1 }).performAll q c.relay.close.2
  | none => s

def referenced (s : TcpServer) (k : ℕ) (c : Connection) : Bool :=
  s.accepting == some k || s.io == .waiting k || c.held

def release (q : Sqlite) (k : ℕ) (s : TcpServer) : TcpServer :=
  match s.connections[k]? with
  | some c => if s.referenced k c then s else s.closeConnection q k
  | none => s

def awaitClient (s : TcpServer) : TcpServer :=
  let buffer := List.replicate s.settings.bufferSize 0
  { s with
    connections := s.connections ++
      [{ relay := { client := { buffer := buffer }, server := { buffer := buffer } } }]
    accepting := some s.connections.length
    io := .idle }

/-- `start_accept` as the last call of `handle_accept`, which holds the session `k`. -/
def startAccept (q : Sqlite) (k : ℕ) (s : TcpServer) : TcpServer :=
  if s.limitReached then { s with io := .waiting k } else s.awaitClient.release q k

def post (s : TcpServer) (k : ℕ) (c : Connection) : TcpServer :=
  { s.setConnection k { c with relay := c.relay.opened .client, job := .posted, accepted := true } with
    sessions := s.sessions + 1
    accepting := none }

def handleAccept (q : Sqlite) (error : Option ErrorCode) (s : TcpServer) : Option TcpServer :=
  match s.io, s.accepting with
  | .idle, some k =>
    match s.connections[k]?, error with
    | some c, none => some ((s.post k c).startAccept q k)
    | some _, some _ => some ({ s with accepting := none }.startAccept q k)
    | none, _ => none
  | _, _ => none

def upon (s : TcpServer) (k : ℕ) (p : Connection → Bool) (f : Connection → TcpServer) :
    Option TcpServer :=
  match s.connections[k]? with
  | some c => if p c then some (f c) else none
  | none => none

/-- The part of `init` that ends in `createRecord`, whose result is not looked at. -/
def initialise (q : Sqlite) (k : ℕ) (record : Session) (s : TcpServer) (c : Connection) : TcpServer :=
  let relay := c.relay.opened .server
  match (DatabaseService.create q record).run s.table with
  | (.ok id, t) =>
    { s.setConnection k { c with relay := { relay with socks := some id }, job := .initialised, returned := some id } with
      table := t
      issued := s.issued ++ [id] }
  | (.error _, t) => { s.setConnection k { c with relay := relay, job := .initialised } with table := t }

def step (q : Sqlite) (s : TcpServer) : ServerEvent → Option TcpServer
  | .accept error => s.handleAccept q error
  | .spin => match s.io with
    | .waiting k => if s.limitReached then none else some (s.awaitClient.release q k)
    | .idle => none
  | .begin k => s.upon k (fun c => c.job == .posted && s.running < s.settings.poolThreads) fun c =>
    s.setConnection k { c with job := .negotiating }
  | .createProxy k => s.upon k (fun c => c.job == .negotiating && c.relay.socks == none) fun c =>
    s.setConnection k { c with relay := { c.relay with socks := some 0 } }
  | .init k record => s.upon k (fun c => c.job == .negotiating && c.relay.socks == some 0) fun c =>
    s.initialise q k record c
  | .clientRead k => s.upon k (fun c => c.job == .initialised) fun c =>
    s.setConnection k { c with relay := c.relay.clientRead, job := .reading }
  | .serverRead k => s.upon k (fun c => c.job == .reading) fun c =>
    (s.setConnection k { c with relay := c.relay.serverRead, job := .done }).release q k
  | .stop k => s.upon k (fun c => c.job == .negotiating || c.job == .initialised) fun c =>
    (s.setConnection k { c with job := .done }).release q k
  | .socket k e => match s.connections[k]? with
    | some c => (c.relay.socketStep s.settings.bufferSize e).map fun r =>
      s.setConnection k { c with relay := r }
    | none => none
  | .dispatch k d o => match s.io, s.connections[k]? with
    | .idle, some c => (c.relay.dispatch d o).map fun (r, effects) =>
      ((s.setConnection k { c with relay := r }).performAll q effects).release q k
    | _, _ => none

def launch (settings : Settings) (table : SessionTable) (issued : List Int64) : TcpServer :=
  TcpServer.awaitClient { settings := settings, table := table, issued := issued }

def machine : Machine TcpServer (ServerEvent × Sqlite) := ⟨fun s e => s.step e.2 e.1⟩

end TcpServer

end SocksProxy
