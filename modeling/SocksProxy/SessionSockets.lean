import SocksProxy.StatefulPrograms
import SocksProxy.SessionRecords
import Mathlib.Data.Finmap
import Mathlib.Tactic.Simps.Basic

namespace SocksProxy

inductive ErrorCode
  | eof
  | hostNotFound
  | hostUnreachable
  | connectionAborted
  | connectionRefused
  | timedOut
  | networkUnreachable
  | operationAborted
  | other (value : ℕ)
  deriving DecidableEq

structure Endpoint where
  address : Bytes
  port : UInt16
  deriving DecidableEq

structure SystemError where
  code : ErrorCode
  deriving DecidableEq

inductive Query
  | clientRemote
  | serverLocal
  | serverRemote
  deriving DecidableEq

/-- What a session meets outside its own code: the configuration and the outcome of every
socket, resolver and database call. Calls of one kind are numbered from zero. -/
structure Env where
  authFlag : Bool
  users : Finmap (fun _ : Bytes => Bytes)
  resolve : Bytes → Bytes → Except ErrorCode (List Endpoint)
  closeServer : ℕ → Option ErrorCode
  connectServer : ℕ → Endpoint → Option ErrorCode
  writeClient : ℕ → Option ErrorCode
  endpoint : Query → ℕ → Except SystemError Endpoint
  create : Session → Option Int64

def Env.permissive (authFlag : Bool) (accounts : List (Bytes × Bytes)) : Env where
  authFlag := authFlag
  users := accounts.foldr (fun a m => m.insert a.1 a.2) ∅
  resolve host _ := .ok [⟨host, 80⟩]
  closeServer _ := none
  connectServer _ _ := none
  writeClient _ := none
  endpoint _ _ := .ok ⟨[49], 1080⟩
  create _ := some 1

inductive Ver
  | socks4
  | socks5
  deriving DecidableEq

def Ver.code : Ver → UInt8
  | .socks4 => 4
  | .socks5 => 5

inductive Action
  | write (message : Bytes) (error : Option ErrorCode)
  | connect (host service : Bytes)
  | attempt (endpoint : Endpoint) (error : Option ErrorCode)
  | connected (error : Option ErrorCode)
  | create (record : Session) (id : Option Int64)
  | clientRead
  | serverRead
  deriving DecidableEq

structure Socks where
  id : Int64 := 0
  dstAddress : Bytes := []
  dstPort : UInt16 := 0
  bindPort : UInt16 := 0
  username : Bytes := []
  atyp : UInt8 := 0
  cmd : UInt8 := 0
  deriving DecidableEq

structure SessionState where
  input : Bytes
  trace : List Action := []
  writes : ℕ := 0
  queries : ℕ := 0
  serverSocket : Option Endpoint := none
  proxy : Option Ver := none
  socks : Socks := {}
  id : Int64 := 0
  deriving DecidableEq

namespace SessionState

@[simps] def withInput (s : SessionState) (input : Bytes) : SessionState := { s with input := input }

@[simps] def withSocks (s : SessionState) (socks : Socks) : SessionState := { s with socks := socks }

@[simps] def acted (s : SessionState) (a : Action) : SessionState := { s with trace := s.trace ++ [a] }

@[simps] def written (e : Env) (s : SessionState) (bytes : Bytes) : SessionState :=
  { s.acted (.write bytes (e.writeClient s.writes)) with writes := s.writes + 1 }

@[simp] theorem withInput_withInput (s : SessionState) (i j : Bytes) :
    (s.withInput i).withInput j = s.withInput j := rfl

@[simp] theorem withInput_self (s : SessionState) : s.withInput s.input = s := rfl

end SessionState

open StatefulPrograms

abbrev Handshake (α : Type) := Proc SessionState SystemError α

namespace TcpSession

def emit (a : Action) : Handshake Unit := Proc.modify fun s => s.acted a

def query (e : Env) (q : Query) : Handshake Endpoint := ⟨fun s =>
  match e.endpoint q s.queries with
  | .ok ep => (.ok ep, { s with queries := s.queries + 1 })
  | .error err => (.error err, { s with queries := s.queries + 1 })⟩

def readByte : Handshake (UInt8 × Option ErrorCode) := ⟨fun s =>
  match s.input with
  | [] => (.ok (0, some .eof), s)
  | b :: rest => (.ok (b, none), s.withInput rest)⟩

/-- A short read still takes what is there, and the buffer keeps its zeros behind it. -/
def readBytes (size : ℕ) : Handshake (Bytes × Option ErrorCode) := ⟨fun s =>
  if size ≤ s.input.length then
    (.ok (s.input.take size, none), s.withInput (s.input.drop size))
  else
    (.ok (s.input ++ List.replicate (size - s.input.length) 0, some .eof), s.withInput [])⟩

def writeBytes (e : Env) (bytes : Bytes) : Handshake (Option ErrorCode) := ⟨fun s =>
  (.ok (e.writeClient s.writes), s.written e bytes)⟩

/-- The loop over the resolver's endpoints: `close` sets the error code first and the
connection attempt sets it again. -/
def connectLoop (e : Env) : ℕ → List Endpoint → Option ErrorCode → Handshake (Option ErrorCode)
  | _, [], ec => pure ec
  | i, ep :: eps, ec =>
    if ec.isSome then do
      let _closed := e.closeServer i
      let ec := e.connectServer i ep
      Proc.modify fun s => { s.acted (.attempt ep ec) with
        serverSocket := if ec.isSome then none else some ep }
      connectLoop e (i + 1) eps ec
    else pure ec

def connect (e : Env) (host service : Bytes) : Handshake (UInt16 × Option ErrorCode) := do
  emit (.connect host service)
  match e.resolve host service with
  | .error err =>
    emit (.connected (some err))
    return (0, some err)
  | .ok endpoints =>
    let ec ← connectLoop e 0 endpoints (some .hostNotFound)
    if ec.isSome then
      emit (.connected ec)
      return (0, ec)
    else
      let bindPort ← query e .serverLocal
      let _ ← query e .serverRemote
      let _ ← query e .serverRemote
      emit (.connected none)
      return (bindPort.port, none)

end TcpSession

end SocksProxy
