import SocksProxy.ByteCounters
import SocksProxy.ServiceStartup

namespace SocksProxy.ConcurrentService

open StatefulPrograms LockedCalls TransitionSystems KeyedTables ByteCounters DatabaseRuns AtomicOperations
  CreatedRecords

variable {store : Service}

def createdId (e : Answer) : Option Int64 := match e.op.1, e.result with
  | .create _, .ok a => a
  | _, _ => none

def credited (entries : List Answer) (id : Int64) (dest : Dest) : List UInt64 :=
  entries.filterMap fun e => match e.op.1, e.result with
    | .update i bytes d, .ok _ => if i = id ∧ d = dest then some bytes else none
    | _, _ => none

def countOf (t : SessionTable) (id : Int64) (dest : Dest) : Int64 :=
  ((t.get? id).map fun r => counter r dest).getD 0

section Serve

variable {q : Sqlite} {s : Service} {session : Session} {id : Int64} {bytes : UInt64} {dest : Dest}
  {err : DatabaseException} {table : SessionTable}

theorem serve_create_of {a : Except DatabaseException Int64}
    (h : (DatabaseService.create q session).run s.table = (a, table)) :
    (serve (.create session, q)).run s = (a.map some, s.setTable table) := by
  cases a <;> simp only [serve, h] <;> rfl

theorem serve_update_of {a : Except DatabaseException Unit}
    (h : (DatabaseService.update q id bytes dest).run s.table = (a, table)) :
    (serve (.update id bytes dest, q)).run s = (a.map fun _ => none, s.setTable table) := by
  cases a <;> simp only [serve, h] <;> rfl

theorem serve_close_of {a : Except DatabaseException Unit}
    (h : (DatabaseService.close q id).run s.table = (a, table)) :
    (serve (.close id, q)).run s = (a.map fun _ => none, s.setTable table) := by
  cases a <;> simp only [serve, h] <;> rfl

end Serve

inductive Served (t : SessionTable) : SessionTable → Operation → Except DatabaseException (Option Int64) → Prop
  | failed (op : Operation) (err : DatabaseException) : Served t t op (.error err)
  | found : Served t t .getInstance (.ok none)
  | started : Served t (t.alter (fun _ => true) DatabaseService.set_all_inactive) .getInstance (.ok none)
  | created (session : Session) (hseq : t.seq + 1 < 2 ^ 63) (now : Bytes) (user : Option Bytes)
    (src_addr src_port dst_addr dst_port : Bytes) :
    Served t (t.insert hseq now user src_addr src_port dst_addr dst_port) (.create session) (.ok (some t.nextId))
  | updated (id : Int64) (bytes : UInt64) (dest : Dest) (now : Bytes) (r : Row) (hr : t.get? id = some r) :
    Served t (t.alter (· == id) (counted now r bytes dest)) (.update id bytes dest) (.ok none)
  | closed (id i : Int64) (now : Bytes) :
    Served t (t.alter (· == i) (DatabaseService.update_inactive now)) (.close id) (.ok none)

theorem served (r : Request) (s : Service) :
    Served s.table ((serve r).run s).2.table r.1 ((serve r).run s).1 := by
  rcases r with ⟨_ | session | ⟨id, bytes, dest⟩ | id, q⟩
  · cases h : s.hasInstance with
    | true =>
      rw [getInstance_again h rfl]
      exact .found
    | false =>
      rcases construct_failsOr q s.table with ⟨err, hrun⟩ | hrun
      · simp only [serve, h, hrun]
        exact .failed _ err
      · simp only [serve, h, hrun]
        exact .started
  · by_cases h : Noticed q s.table
    · obtain ⟨err, hrun⟩ : Proc.Throws (DatabaseService.create q session) s.table := create_throws h
      rw [serve_create_of hrun]
      exact .failed _ err
    · obtain ⟨hseq, hrun⟩ := create_inserts h session
      rw [serve_create_of hrun]
      exact .created session hseq _ _ _ _ _ _
  · cases h : s.table.get? id with
    | none =>
      obtain ⟨err, hrun⟩ : Proc.Throws (DatabaseService.update q id bytes dest) s.table :=
        (selectSession_absent h).bind
      rw [serve_update_of hrun]
      exact .failed _ err
    | some r =>
      rcases update_failsOr (q := q) h bytes dest with ⟨err, hrun⟩ | hrun
      · rw [serve_update_of hrun]
        exact .failed _ err
      · rw [serve_update_of hrun]
        exact .updated id bytes dest q.now r h
  · cases h : s.table.get? id with
    | none =>
      obtain ⟨err, hrun⟩ : Proc.Throws (DatabaseService.close q id) s.table := (selectSession_absent h).bind
      rw [serve_close_of hrun]
      exact .failed _ err
    | some r =>
      rcases close_failsOr (q := q) h with ⟨err, hrun⟩ | hrun
      · rw [serve_close_of hrun]
        exact .failed _ err
      · rw [serve_close_of hrun]
        exact .closed id _ q.now

theorem credited_append (xs ys : List Answer) (id : Int64) (dest : Dest) :
    credited (xs ++ ys) id dest = credited xs id dest ++ credited ys id dest := List.filterMap_append

theorem countOf_alter {t : SessionTable} {p : Int64 → Bool} {c : KeyedTable.Change Row.id}
    (hc : ∀ r dest, counter (c.apply r) dest = counter r dest) (id : Int64) (dest : Dest) :
    countOf (t.alter p c) id dest = countOf t id dest := by
  rw [countOf, countOf, SessionTable.get?_alter]
  cases t.get? id with
  | none => rfl
  | some r =>
    simp only [Option.map_some, Option.getD_some]
    split_ifs
    · exact hc r dest
    · rfl

theorem served_countOf {t u : SessionTable} {e : Answer} (h : Served t u e.op.1 e.result) (id : Int64)
    (dest : Dest) : countOf u id dest = (credited [e] id dest).foldl grow (countOf t id dest) := by
  obtain ⟨n, ⟨op, q⟩, result⟩ := e
  cases h with
  | failed op err => cases op <;> rfl
  | found => rfl
  | started => exact countOf_alter (by rintro r ⟨⟩ <;> rfl) id dest
  | closed i j now => exact countOf_alter (by rintro r ⟨⟩ <;> rfl) id dest
  | created session hseq now user src_addr src_port dst_addr dst_port =>
    change countOf _ id dest = countOf t id dest
    rw [countOf, countOf, SessionTable.get?_insert]
    split_ifs with hid
    · have hfresh : t.get? t.nextId = none := KeyedTable.get?_eq_none.mpr (SessionTable.nextId_fresh hseq)
      rw [hid, hfresh]
      cases dest <;> rfl
    · rfl
  | updated i bytes d now r hr =>
    rw [countOf, countOf, SessionTable.get?_alter]
    by_cases hid : i = id
    · subst hid
      rw [hr]
      simp only [Option.map_some, Option.getD_some, beq_self_eq_true, ↓reduceIte, counter_counted]
      by_cases hd : d = dest
      · simp [credited, hd]
      · simp [credited, hd]
    · have hcredited : credited [⟨n, (.update i bytes d, q), .ok none⟩] id dest = [] := by simp [credited, hid]
      rw [hcredited, List.foldl_nil]
      cases t.get? id with
      | none => rfl
      | some r' => simp [Ne.symm hid]

theorem countOf_after (entries : List Answer) (ha : service.Answers store entries) (id : Int64) (dest : Dest) :
    countOf (service.after store (entries.map Entry.op)).table id dest =
      (credited entries id dest).foldl grow (countOf store.table id dest) := by
  induction entries generalizing store with
  | nil => rfl
  | cons e entries ih =>
    have hstep := served e.op store
    rw [← spec_service, ha.1] at hstep
    have hafter : service.after store ((e :: entries).map Entry.op) =
        service.after ((service.spec e.op).run store).2 (entries.map Entry.op) := rfl
    have hsplit := credited_append [e] entries id dest
    rw [List.singleton_append] at hsplit
    rw [hafter, ih ha.2, served_countOf hstep, hsplit, List.foldl_append]

theorem served_createdId {t u : SessionTable} {e : Answer} (h : Served t u e.op.1 e.result) :
    (createdId e = none ∧ t.seq ≤ u.seq) ∨ ∃ id, createdId e = some id ∧ id.toInt = t.seq + 1 ∧ u.seq = t.seq + 1 := by
  obtain ⟨n, ⟨op, q⟩, result⟩ := e
  cases h with
  | failed op err => cases op <;> exact .inl ⟨rfl, Nat.le_refl _⟩
  | found => exact .inl ⟨rfl, Nat.le_refl _⟩
  | started => exact .inl ⟨rfl, Nat.le_refl _⟩
  | closed i j now => exact .inl ⟨rfl, Nat.le_refl _⟩
  | updated i bytes d now r hr => exact .inl ⟨rfl, Nat.le_refl _⟩
  | created session hseq now user src_addr src_port dst_addr dst_port =>
    exact .inr ⟨t.nextId, rfl, SessionTable.toInt_nextId hseq, rfl⟩

theorem ids_increase (entries : List Answer) (ha : service.Answers store entries) :
    (∀ id ∈ entries.filterMap createdId, (store.table.seq : ℤ) < id.toInt) ∧
      (entries.filterMap createdId).Pairwise fun i j => i.toInt < j.toInt := by
  induction entries generalizing store with
  | nil => exact ⟨by simp, List.Pairwise.nil⟩
  | cons e entries ih =>
    have hstep := served e.op store
    rw [← spec_service, ha.1] at hstep
    obtain ⟨hlow, hpair⟩ := ih ha.2
    rcases served_createdId hstep with ⟨hnone, hseq⟩ | ⟨id, hsome, hid, hseq⟩
    · rw [List.filterMap_cons_none hnone]
      refine ⟨fun id hid => ?_, hpair⟩
      have hlt := hlow id hid
      omega
    · rw [List.filterMap_cons_some hsome]
      refine ⟨fun j hj => ?_, List.pairwise_cons.mpr ⟨fun j hj => ?_, hpair⟩⟩
      · rcases List.mem_cons.mp hj with rfl | hj
        · omega
        · have hlt := hlow j hj
          omega
      · have hlt := hlow j hj
        omega

structure CountedOnce (store : Service) (s : ServiceWorld) : Prop where
  returned : ∀ e ∈ s.replies, e ∈ s.order
  once : (s.order.map Entry.number).Nodup
  modulo : ∀ id dest, (countOf s.memory.table id dest).toInt.bmod (2 ^ 32) =
    ((countOf store.table id dest).toInt + total (credited s.order id dest)).bmod (2 ^ 32)
  exact : ∀ id dest, 0 ≤ (countOf store.table id dest).toInt →
    (countOf store.table id dest).toInt + total (credited s.order id dest) < 2 ^ 31 →
      (countOf s.memory.table id dest).toInt =
        (countOf store.table id dest).toInt + total (credited s.order id dest)
  ids : (s.order.filterMap createdId).Pairwise fun i j => i.toInt < j.toInt

theorem total_dropLast_le (bytes : List UInt64) : total bytes.dropLast ≤ total bytes := by
  induction bytes using List.reverseRecOn with
  | nil => exact Nat.le_refl _
  | append_singleton bytes b _ =>
    rw [List.dropLast_concat, total_append]
    exact Nat.le_add_right _ _

theorem updates_counted {s : ServiceWorld} {es : List (Event Request)}
    (hrun : service.machine.run (launched store) es = some s) (hfree : s.mutex = none) : CountedOnce store s := by
  have hl := locked_run (locked_start service store) hrun
  have hb := booked_run (booked_start store) hrun
  have hcount : ∀ id dest, countOf s.memory.table id dest =
      (credited s.order id dest).foldl grow (countOf store.table id dest) := by
    intro id dest
    rw [hl.free hfree, World.ops, countOf_after s.order hl.answers]
  refine ⟨hb.replied, hb.nodup, fun id dest => ?_, fun id dest hbase hfit => ?_, (ids_increase s.order hl.answers).2⟩
  · rw [hcount, foldl_grow_bmod]
  · rw [hcount]
    apply (foldl_grow_eq_iff (by omega)).mpr
    intro _
    have hle := total_dropLast_le (credited s.order id dest)
    constructor <;> omega

def counting : List (Event Request) :=
  List.replicate 2 (.access 1) ++ [.unlock 1, .reply 1, .call 2 (.getInstance, .quiet), .lock 2, .access 2, .unlock 2,
    .call 1 (.getInstance, .quiet), .lock 1, .access 1, .unlock 1, .reply 1, .reply 2,
    .call 1 (.update 1 10 .toServer, .quiet), .call 2 (.update 1 5 .toServer, .quiet), .lock 2] ++
    List.replicate 6 (.access 2) ++ [.unlock 2, .lock 1] ++ List.replicate 6 (.access 1) ++ [.unlock 1, .reply 1]

theorem updates_counted_counting : ∃ s, service.machine.run (launched ⟨false, .empty⟩)
    (opening ++ racing ++ counting) = some s ∧ CountedOnce ⟨false, .empty⟩ s ∧
      countOf s.memory.table 1 .toServer = 15 := by
  have hall : ((service.machine.run (launched ⟨false, .empty⟩) (opening ++ racing ++ counting)).map fun s =>
      (s.mutex, countOf s.memory.table 1 .toServer)) = some (none, 15) := by decide
  obtain ⟨s, hs, hfinal⟩ := Option.map_eq_some_iff.mp hall
  rw [Prod.mk.injEq] at hfinal
  exact ⟨s, hs, updates_counted hs hfinal.1, hfinal.2⟩

end SocksProxy.ConcurrentService
