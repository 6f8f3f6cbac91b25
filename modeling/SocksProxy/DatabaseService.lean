import SocksProxy.StatefulPrograms
import SocksProxy.SessionTable

namespace SocksProxy

open StatefulPrograms KeyedTables ByteStrings

structure DatabaseException where
  text : String
  deriving DecidableEq

/-- What sqlite does during one operation of the service: the result code of each call, numbered
from zero by kind, and the clock. A code of zero lets the statement do what its SQL says. -/
structure Sqlite where
  now : Bytes
  errstr : ℕ → String
  opens : ℕ → ℕ
  prepares : ℕ → ℕ
  bindTexts : ℕ → ℕ
  steps : ℕ → ℕ

def Sqlite.sound (errstr : ℕ → String) (now : Bytes) : Sqlite :=
  ⟨now, errstr, fun _ => 0, fun _ => 0, fun _ => 0, fun _ => 0⟩

def Sqlite.quiet : Sqlite := .sound (fun _ => "") []

def SQLITE_FULL : ℕ := 13
def SQLITE_CONSTRAINT : ℕ := 19

def columnInt (v : Int64) : Int64 := v.toInt32.toInt64

/-- `to_string(sqlite3_column_text(..))`: NULL gives the empty string. -/
def columnText (v : Option Bytes) : Bytes := cString (v.getD [])

abbrev Database (α : Type) := Proc SessionTable DatabaseException α

namespace DatabaseService

def readRow (r : Row) : Session where
  id := columnInt r.id
  user := columnText r.user
  create_date := columnText (some r.create_date)
  update_date := columnText (some r.update_date)
  is_active := (columnInt r.is_active).toInt8
  src_addr := columnText (some r.src_addr)
  src_port := columnText (some r.src_port)
  dst_addr := columnText (some r.dst_addr)
  dst_port := columnText (some r.dst_port)
  bytes_sent := columnInt r.bytes_sent
  bytes_recv := columnInt r.bytes_recv

def update_sent_bytes (now : Bytes) (value : Int64) : KeyedTable.Change Row.id :=
  ⟨fun r => { r with update_date := now, bytes_sent := value }, fun _ => rfl⟩

def update_recv_bytes (now : Bytes) (value : Int64) : KeyedTable.Change Row.id :=
  ⟨fun r => { r with update_date := now, bytes_recv := value }, fun _ => rfl⟩

def update_inactive (now : Bytes) : KeyedTable.Change Row.id :=
  ⟨fun r => { r with update_date := now, is_active := 0 }, fun _ => rfl⟩

def set_all_inactive : KeyedTable.Change Row.id :=
  ⟨fun r => { r with is_active := 0 }, fun _ => rfl⟩

def openConnection (q : Sqlite) (n : ℕ) : Database Unit :=
  if q.opens n = 0 then pure () else
    Proc.throw ⟨"Error during opening connection: " ++ q.errstr (q.opens n)⟩

def prepare (q : Sqlite) (n : ℕ) (operation : String) : Database Unit :=
  if q.prepares n = 0 then pure () else
    Proc.throw ⟨operation ++ ": error during preparing stmt: " ++ q.errstr (q.prepares n)⟩

def stepUpdate (q : Sqlite) (n : ℕ) (operation : String) (p : Int64 → Bool)
    (c : KeyedTable.Change Row.id) : Database Unit :=
  if q.steps n = 0 then Proc.modify fun t => t.alter p c else
    Proc.throw ⟨operation ++ ": error during executing stmt: " ++ q.errstr (q.steps n)⟩

/-- The error text of a failed step is that of the code `prepare` left, which is `SQLITE_OK`. -/
def selectSession (q : Sqlite) (session_id : Int64) : Database Session := do
  openConnection q 0
  prepare q 0 "Select"
  let row ← Proc.read fun t => t.get? session_id
  match row with
  | some r =>
    if q.steps 0 = 0 then return readRow r
    else Proc.throw ⟨"Select: error during executing stmt: " ++ q.errstr 0⟩
  | none => Proc.throw ⟨"Select: error during executing stmt: " ++ q.errstr 0⟩

/-- The table of a new database file is empty; an existing one is kept. -/
def createTable (q : Sqlite) : Database Unit := do
  openConnection q 0
  if q.steps 0 ≠ 0 then
    Proc.throw ⟨"createTable: error during executing stmt: " ++ q.errstr (q.steps 0)⟩
  else stepUpdate q 1 "createTable" (fun _ => true) set_all_inactive

/-- What `sqlite3_bind_text` with length -1 leaves in the `n`-th parameter. -/
def bindText (q : Sqlite) (n : ℕ) (text : Bytes) : Option Bytes :=
  if q.bindTexts n = 0 then some (cString text) else none

def stepInsert (q : Sqlite) (user src_addr src_port dst_addr dst_port : Option Bytes) :
    Database (ℕ × Int64) := ⟨fun t =>
  if q.steps 0 ≠ 0 then (.ok (q.steps 0, 0), t) else
    match src_addr, src_port, dst_addr, dst_port with
    | some src_addr, some src_port, some dst_addr, some dst_port =>
      if h : t.seq + 1 < 2 ^ 63 then
        (.ok (0, t.nextId), t.insert h q.now user src_addr src_port dst_addr dst_port)
      else (.ok (SQLITE_FULL, 0), t)
    | _, _, _, _ => (.ok (SQLITE_CONSTRAINT, 0), t)⟩

/-- Of the five bind results only the last is looked at. -/
def create (q : Sqlite) (session : Session) : Database Int64 := do
  openConnection q 0
  prepare q 0 "Create"
  if q.bindTexts 4 ≠ 0 then
    Proc.throw ⟨"Create: error during binding stmt: " ++ q.errstr (q.bindTexts 4)⟩
  else
    let (err, id) ← stepInsert q (bindText q 0 session.user) (bindText q 1 session.src_addr)
      (bindText q 2 session.src_port) (bindText q 3 session.dst_addr) (bindText q 4 session.dst_port)
    if err ≠ 0 then
      Proc.throw ⟨"Create: error during executing stmt: " ++ q.errstr err⟩
    else return id

/-- `long long` plus `size_t` is computed unsigned and stored back signed. -/
def newBytes (old : Int64) (bytes : UInt64) : Int64 := (old.toUInt64 + bytes).toInt64

def update (q : Sqlite) (session_id : Int64) (bytes : UInt64) (dest : Dest) : Database Unit := do
  let s ← selectSession q session_id
  if s.id = 0 then
    Proc.throw ⟨"Update: no session with id: " ++ toString session_id⟩
  else
    openConnection q 1
    let change := match dest with
      | .toClient => update_recv_bytes q.now (newBytes s.bytes_recv bytes)
      | .toServer => update_sent_bytes q.now (newBytes s.bytes_sent bytes)
    prepare q 1 "Update"
    stepUpdate q 1 "Update" (· == session_id) change

/-- The row that is changed is the one with the id read back. -/
def close (q : Sqlite) (session_id : Int64) : Database Unit := do
  let s ← selectSession q session_id
  if s.id = 0 then
    Proc.throw ⟨"Close: no session with id: " ++ toString session_id⟩
  else
    openConnection q 1
    prepare q 1 "Close"
    stepUpdate q 1 "Close" (· == s.id) (update_inactive q.now)

end DatabaseService

end SocksProxy
