import SocksProxy.DatabaseService
import SocksProxy.LockedRuns

namespace SocksProxy.ConcurrentService

open StatefulPrograms AccessScripts LockedCalls TransitionSystems KeyedTables
open DatabaseService (openConnection prepare stepUpdate stepInsert bindText readRow newBytes
  update_sent_bytes update_recv_bytes update_inactive set_all_inactive)

structure Service where
  hasInstance : Bool
  table : SessionTable

def Service.setTable (s : Service) (table : SessionTable) : Service := { s with table := table }

/-- The calls of `createTable` behind the connection that `createDB` has opened. -/
def behindOpen (q : Sqlite) : Sqlite := { q with opens := fun n => q.opens (n + 1) }

section Scripts

abbrev TableScript (α : Type) := Script SessionTable DatabaseException α

variable (q : Sqlite)

/-- Another process can come in between any two of the calls of sqlite. -/
def selectSession (session_id : Int64) : TableScript Session := do
  Script.call (openConnection q 0)
  Script.call (prepare q 0 "Select")
  let row ← Script.call (Proc.read fun t => t.get? session_id)
  match row with
  | some r =>
    if q.steps 0 = 0 then return readRow r
    else Script.throw ⟨"Select: error during executing stmt: " ++ q.errstr 0⟩
  | none => Script.throw ⟨"Select: error during executing stmt: " ++ q.errstr 0⟩

def createDB : TableScript Unit := Script.call (openConnection q 0)

def createTable : TableScript Unit := do
  Script.call (openConnection q 0)
  if q.steps 0 ≠ 0 then
    Script.throw ⟨"createTable: error during executing stmt: " ++ q.errstr (q.steps 0)⟩
  else Script.call (stepUpdate q 1 "createTable" (fun _ => true) set_all_inactive)

def create (session : Session) : TableScript Int64 := do
  Script.call (openConnection q 0)
  Script.call (prepare q 0 "Create")
  if q.bindTexts 4 ≠ 0 then
    Script.throw ⟨"Create: error during binding stmt: " ++ q.errstr (q.bindTexts 4)⟩
  else
    let (err, id) ← Script.call (stepInsert q (bindText q 0 session.user) (bindText q 1 session.src_addr)
      (bindText q 2 session.src_port) (bindText q 3 session.dst_addr) (bindText q 4 session.dst_port))
    if err ≠ 0 then
      Script.throw ⟨"Create: error during executing stmt: " ++ q.errstr err⟩
    else return id

def update (session_id : Int64) (bytes : UInt64) (dest : Dest) : TableScript Unit := do
  let s ← selectSession q session_id
  if s.id = 0 then
    Script.throw ⟨"Update: no session with id: " ++ toString session_id⟩
  else
    Script.call (openConnection q 1)
    let change := match dest with
      | .toClient => update_recv_bytes q.now (newBytes s.bytes_recv bytes)
      | .toServer => update_sent_bytes q.now (newBytes s.bytes_sent bytes)
    Script.call (prepare q 1 "Update")
    Script.call (stepUpdate q 1 "Update" (· == session_id) change)

def close (session_id : Int64) : TableScript Unit := do
  let s ← selectSession q session_id
  if s.id = 0 then
    Script.throw ⟨"Close: no session with id: " ++ toString session_id⟩
  else
    Script.call (openConnection q 1)
    Script.call (prepare q 1 "Close")
    Script.call (stepUpdate q 1 "Close" (· == s.id) (update_inactive q.now))

def construct : TableScript Unit := do
  createDB q
  createTable (behindOpen q)

def onTable {α : Type} (x : TableScript α) : Script Service DatabaseException α :=
  x.zoom Service.table Service.setTable

def getInstance : Script Service DatabaseException Unit := do
  let found ← Script.call (Proc.read fun s : Service => s.hasInstance)
  if found then return () else
    onTable (construct q)
    Script.call (Proc.modify fun s => { s with hasInstance := true })

end Scripts

inductive Operation
  | getInstance
  | create (session : Session)
  | update (session_id : Int64) (bytes : UInt64) (dest : Dest)
  | close (session_id : Int64)

abbrev Request := Operation × Sqlite

def script : Request → Script Service DatabaseException (Option Int64)
  | (.getInstance, q) => do getInstance q; return none
  | (.create session, q) => do let id ← onTable (create q session); return some id
  | (.update session_id bytes dest, q) => do onTable (update q session_id bytes dest); return none
  | (.close session_id, q) => do onTable (close q session_id); return none

/-- A method is called on the reference that `getInstance` has just returned. -/
def ready (last : Option (Request × Except DatabaseException (Option Int64))) : Request → Bool
  | (.getInstance, _) => true
  | _ => match last with
    | some ((.getInstance, _), .ok _) => true
    | _ => false

def service : Protocol Service DatabaseException (Option Int64) Request := ⟨script, ready⟩

def serve : Request → Proc Service DatabaseException (Option Int64)
  | (.getInstance, q) => ⟨fun s =>
    if s.hasInstance then (.ok none, s) else
      match (openConnection q 0 >>= fun _ => DatabaseService.createTable (behindOpen q)).run s.table with
      | (.ok _, table) => (.ok none, ⟨true, table⟩)
      | (.error err, table) => (.error err, s.setTable table)⟩
  | (.create session, q) => ⟨fun s => match (DatabaseService.create q session).run s.table with
    | (.ok id, table) => (.ok (some id), s.setTable table)
    | (.error err, table) => (.error err, s.setTable table)⟩
  | (.update session_id bytes dest, q) => ⟨fun s =>
    match (DatabaseService.update q session_id bytes dest).run s.table with
    | (.ok _, table) => (.ok none, s.setTable table)
    | (.error err, table) => (.error err, s.setTable table)⟩
  | (.close session_id, q) => ⟨fun s => match (DatabaseService.close q session_id).run s.table with
    | (.ok _, table) => (.ok none, s.setTable table)
    | (.error err, table) => (.error err, s.setTable table)⟩

theorem exec_selectSession (q : Sqlite) (session_id : Int64) :
    (selectSession q session_id).exec = DatabaseService.selectSession q session_id := by
  rw [selectSession, DatabaseService.selectSession]
  simp only [Script.exec_bind, Script.exec_call]
  congr 1; funext _; congr 1; funext _; congr 1; funext row
  cases row with
  | none => rfl
  | some r => exact Script.exec_ite _ _ _

theorem exec_createTable (q : Sqlite) : (createTable q).exec = DatabaseService.createTable q := by
  rw [createTable, DatabaseService.createTable, Script.exec_bind, Script.exec_call]
  congr 1; funext _
  exact Script.exec_ite _ _ _

theorem exec_create (q : Sqlite) (session : Session) :
    (create q session).exec = DatabaseService.create q session := by
  rw [create, DatabaseService.create]
  simp only [Script.exec_bind, Script.exec_call, Script.exec_ite, Script.exec_throw, Script.exec_pure]

theorem exec_update (q : Sqlite) (session_id : Int64) (bytes : UInt64) (dest : Dest) :
    (update q session_id bytes dest).exec = DatabaseService.update q session_id bytes dest := by
  rw [update, DatabaseService.update, Script.exec_bind, exec_selectSession]
  cases dest with
  | toServer => simp only [Script.exec_bind, Script.exec_call, Script.exec_ite, Script.exec_throw]
  | toClient => simp only [Script.exec_bind, Script.exec_call, Script.exec_ite, Script.exec_throw]

theorem exec_close (q : Sqlite) (session_id : Int64) :
    (close q session_id).exec = DatabaseService.close q session_id := by
  rw [close, DatabaseService.close, Script.exec_bind, exec_selectSession]
  simp only [Script.exec_bind, Script.exec_call, Script.exec_ite, Script.exec_throw]

theorem exec_construct (q : Sqlite) : (construct q).exec =
    openConnection q 0 >>= fun _ => DatabaseService.createTable (behindOpen q) := by
  rw [construct, Script.exec_bind, exec_createTable]
  rfl

theorem exec_onTable {α : Type} (x : TableScript α) (s : Service) :
    (onTable x).exec.run s = ((x.exec.run s.table).1, s.setTable (x.exec.run s.table).2) := by
  apply Script.exec_zoom
  all_goals
    intros
    rfl

theorem spec_service (r : Request) : service.spec r = serve r := by
  have hrun : ∀ s, (service.spec r).run s = (serve r).run s := by
    intro s
    rcases r with ⟨_ | session | ⟨session_id, bytes, dest⟩ | session_id, q⟩
    · simp only [Protocol.spec, service, script, serve, getInstance, Script.exec_bind, Script.exec_call,
        Script.exec_ite, Proc.run_bind, Proc.run_read, Proc.run_ite]
      cases s.hasInstance with
      | true => rfl
      | false =>
        simp only [Bool.false_eq_true, ↓reduceIte, Proc.run_bind, exec_onTable, exec_construct]
        rcases (openConnection q 0).run s.table with ⟨err | _, table⟩
        · rfl
        · simp only
          rcases (DatabaseService.createTable (behindOpen q)).run table with ⟨err | _, table⟩ <;> rfl
    · simp only [Protocol.spec, service, script, serve, Script.exec_bind, Proc.run_bind, exec_onTable, exec_create]
      rcases (DatabaseService.create q session).run s.table with ⟨err | id, table⟩ <;> rfl
    · simp only [Protocol.spec, service, script, serve, Script.exec_bind, Proc.run_bind, exec_onTable, exec_update]
      rcases (DatabaseService.update q session_id bytes dest).run s.table with ⟨err | _, table⟩ <;> rfl
    · simp only [Protocol.spec, service, script, serve, Script.exec_bind, Proc.run_bind, exec_onTable, exec_close]
      rcases (DatabaseService.close q session_id).run s.table with ⟨err | _, table⟩ <;> rfl
  exact congrArg Proc.mk (funext hrun)

section Single

variable (q : Sqlite)

theorem openConnection_silent (n : ℕ) : (Script.call (openConnection q n)).Silent id := by
  apply Script.silent_call
  intro t
  rw [openConnection]
  split_ifs <;> rfl

theorem prepare_silent (n : ℕ) (operation : String) : (Script.call (prepare q n operation)).Silent id := by
  apply Script.silent_call
  intro t
  rw [prepare]
  split_ifs <;> rfl

theorem selectSession_silent (session_id : Int64) : (selectSession q session_id).Silent id := by
  apply (openConnection_silent q 0).bind
  intro _
  apply (prepare_silent q 0 _).bind
  intro _
  apply (Script.silent_call fun t => rfl).bind
  intro row
  cases row with
  | none => trivial
  | some r =>
    dsimp only
    split_ifs <;> trivial

theorem write_single (operation : String) (p : Int64 → Bool) (c : KeyedTable.Change Row.id) :
    (Script.call (openConnection q 1) >>= fun _ => Script.call (prepare q 1 operation) >>= fun _ =>
      Script.call (stepUpdate q 1 operation p c)).Single id := by
  apply (openConnection_silent q 1).bind_single
  intro _
  apply (prepare_silent q 1 _).bind_single
  intro _
  exact Script.single_call _

theorem create_single (session : Session) : (create q session).Single id := by
  apply (openConnection_silent q 0).bind_single
  intro _
  apply (prepare_silent q 0 _).bind_single
  intro _
  apply Script.single_ite
  · trivial
  · apply (Script.single_call _).bind
    rintro ⟨err, id⟩
    dsimp only
    split_ifs <;> trivial

theorem update_single (session_id : Int64) (bytes : UInt64) (dest : Dest) :
    (update q session_id bytes dest).Single id := by
  apply (selectSession_silent q session_id).bind_single
  intro s
  apply Script.single_ite
  · trivial
  · exact write_single q _ _ _

theorem close_single (session_id : Int64) : (close q session_id).Single id := by
  apply (selectSession_silent q session_id).bind_single
  intro s
  apply Script.single_ite
  · trivial
  · exact write_single q _ _ _

theorem construct_single : (construct q).Single id := by
  apply (openConnection_silent q 0).bind_single
  intro _
  apply (openConnection_silent (behindOpen q) 0).bind_single
  intro _
  apply Script.single_ite
  · trivial
  · exact Script.single_call _

theorem onTable_single {α : Type} {x : TableScript α} (h : x.Single id) : (onTable x).Single Service.table :=
  h.zoom fun _ _ => rfl

theorem script_single (r : Request) : (script r).Single Service.table := by
  have hpure : ∀ a : Option Int64, (pure a : Script Service DatabaseException (Option Int64)).Silent Service.table :=
    fun _ => trivial
  rcases r with ⟨_ | session | ⟨session_id, bytes, dest⟩ | session_id, q⟩
  · apply Script.Single.bind ?_ fun _ => hpure none
    apply (Script.silent_call fun s => rfl).bind_single
    intro found
    apply Script.single_ite
    · trivial
    · apply (onTable_single (construct_single q)).bind
      intro _
      exact Script.silent_call fun s => rfl
  · exact (onTable_single (create_single q session)).bind fun id => hpure (some id)
  · exact (onTable_single (update_single q session_id bytes dest)).bind fun _ => hpure none
  · exact (onTable_single (close_single q session_id)).bind fun _ => hpure none

end Single

abbrev launched (store : Service) : World Service DatabaseException (Option Int64) Request := { memory := store }

/-- Whatever the threads do in between, the locked calls are single steps of the service, in an
order that no caller can tell from the real one; a reader without the mutex finds the table as it
is before or behind the step in progress. -/
theorem calls_linearize {store : Service} {es₁ es₂ : List (Event Request)}
    {s₁ s₂ : World Service DatabaseException (Option Int64) Request}
    (h₁ : service.machine.run (launched store) es₁ = some s₁) (h₂ : service.machine.run s₁ es₂ = some s₂) :
    Linearized service Service.table store s₁ s₂ ∧ ∀ r, service.spec r = serve r :=
  ⟨linearized script_single h₁ h₂, spec_service⟩

def opening : List (Event Request) :=
  [.call 0 (.getInstance, .quiet), .call 1 (.getInstance, .quiet), .lock 0, .call 2 (.getInstance, .quiet)] ++
    List.replicate 5 (.access 0) ++ [.unlock 0, .lock 2, .access 2, .unlock 2, .reply 2, .reply 0, .lock 1,
      .access 1, .unlock 1, .reply 1]

def racing : List (Event Request) :=
  [.call 1 (.create someSession, .quiet), .call 2 (.create someSession, .quiet), .lock 2, .access 2] ++
    List.replicate 2 (.access 2) ++ [.unlock 2, .lock 1, .access 1, .reply 2]
where someSession : Session := { user := [98], src_addr := [49], src_port := [50], dst_addr := [51], dst_port := [52] }

theorem calls_linearize_racing : ∃ s₁ s₂, service.machine.run (launched ⟨false, .empty⟩) opening = some s₁ ∧
    service.machine.run s₁ racing = some s₂ ∧ Linearized service Service.table ⟨false, .empty⟩ s₁ s₂ := by
  have hall : (service.machine.run (launched ⟨false, .empty⟩) (opening ++ racing)).isSome := by decide
  obtain ⟨s₂, hs₂⟩ := Option.isSome_iff_exists.mp hall
  rw [Machine.run_append] at hs₂
  obtain ⟨s₁, hs₁, hs₂⟩ := Option.bind_eq_some_iff.mp hs₂
  exact ⟨s₁, s₂, hs₁, hs₂, (calls_linearize hs₁ hs₂).1⟩

end SocksProxy.ConcurrentService
