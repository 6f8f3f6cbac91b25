import SocksProxy.DatabaseService

namespace SocksProxy.DatabaseRuns

open StatefulPrograms KeyedTables DatabaseService ByteStrings

theorem toInt_columnInt (v : Int64) : (columnInt v).toInt = v.toInt.bmod (2 ^ 32) := by
  rw [columnInt, Int32.toInt_toInt64, Int64.toInt_toInt32]

theorem columnInt_of_small {v : Int64} (h : 0 ≤ v.toInt) (hlt : v.toInt < 2 ^ 31) : columnInt v = v := by
  rw [← Int64.toInt_inj, toInt_columnInt, Int.bmod_eq_of_le (by omega) (by omega)]

theorem stepInsert_gives {q : Sqlite} {user src_addr src_port dst_addr dst_port : Option Bytes}
    {t t' : SessionTable} {err : ℕ} {id : Int64}
    (h : (stepInsert q user src_addr src_port dst_addr dst_port).run t = (.ok (err, id), t')) (herr : err = 0) :
    t.seq + 1 < 2 ^ 63 ∧ id = t.nextId := by
  subst herr
  simp only [stepInsert] at h
  by_cases hstep : q.steps 0 ≠ 0
  · rw [if_pos hstep] at h
    exact absurd (congrArg Prod.fst (Except.ok.inj (congrArg Prod.fst h))) hstep
  · rw [if_neg hstep] at h
    split at h
    · by_cases hseq : t.seq + 1 < 2 ^ 63
      · rw [dif_pos hseq] at h
        simp only [Prod.mk.injEq, Except.ok.injEq, true_and] at h
        exact ⟨hseq, h.1.symm⟩
      · rw [dif_neg hseq] at h
        cases h
    · cases h

theorem create_ne_zero {q : Sqlite} {session : Session} {t : SessionTable} {id : Int64}
    (h : ((create q session).run t).1 = .ok id) : id ≠ 0 := by
  have hrun : (create q session).run t = (.ok id, ((create q session).run t).2) := Prod.ext h rfl
  rw [create] at hrun
  obtain ⟨-, t₁, -, hrun⟩ := Proc.ok_of_bind hrun
  obtain ⟨-, t₂, -, hrun⟩ := Proc.ok_of_bind hrun
  rw [Proc.run_ite] at hrun
  split_ifs at hrun
  · cases hrun
  · obtain ⟨⟨err, i⟩, t₃, hinsert, hrun⟩ := Proc.ok_of_bind hrun
    simp only [Proc.run_ite] at hrun
    split_ifs at hrun with herr
    · cases hrun
    · obtain ⟨hseq, rfl⟩ := stepInsert_gives hinsert (by simpa using herr)
      obtain rfl : t₂.nextId = id := Except.ok.inj (congrArg Prod.fst hrun)
      intro hzero
      have hnext := SessionTable.toInt_nextId hseq
      rw [hzero, show (0 : Int64).toInt = 0 from rfl] at hnext
      omega

section

variable {q : Sqlite} {t : SessionTable}

theorem openConnection_ok {n : ℕ} (h : q.opens n = 0) : (openConnection q n).run t = (.ok (), t) := by
  rw [openConnection, if_pos h, Proc.run_pure]

theorem prepare_ok {n : ℕ} {operation : String} (h : q.prepares n = 0) :
    (prepare q n operation).run t = (.ok (), t) := by
  rw [prepare, if_pos h, Proc.run_pure]

theorem stepInsert_ok (hstep : q.steps 0 = 0) (hseq : t.seq + 1 < 2 ^ 63) (user : Option Bytes)
    (src_addr src_port dst_addr dst_port : Bytes) :
    (stepInsert q user (some src_addr) (some src_port) (some dst_addr) (some dst_port)).run t =
      (.ok (0, t.nextId), t.insert hseq q.now user src_addr src_port dst_addr dst_port) := by
  simp only [stepInsert, hstep, ne_eq, not_true_eq_false, if_false, dif_pos hseq]

end

variable (errstr : ℕ → String) (now : Bytes)

theorem openConnection_run (n : ℕ) (t : SessionTable) :
    (openConnection (.sound errstr now) n).run t = (.ok (), t) := openConnection_ok rfl

theorem prepare_run (n : ℕ) (operation : String) (t : SessionTable) :
    (prepare (.sound errstr now) n operation).run t = (.ok (), t) := prepare_ok rfl

theorem stepUpdate_run (n : ℕ) (operation : String) (p : Int64 → Bool)
    (c : KeyedTable.Change Row.id) (t : SessionTable) :
    (stepUpdate (.sound errstr now) n operation p c).run t = (.ok (), t.alter p c) := rfl

theorem selectSession_finds {t : SessionTable} {id : Int64} {r : Row} (h : t.get? id = some r) :
    (selectSession (.sound errstr now) id).run t = (.ok (readRow r), t) := by
  rw [selectSession, Proc.bind_ok (openConnection_run errstr now 0 t),
    Proc.bind_ok (prepare_run errstr now 0 _ t), Proc.bind_ok (Proc.run_read _ _), h]
  rfl

def counted (r : Row) (bytes : UInt64) : Dest → KeyedTable.Change Row.id
  | .toClient => update_recv_bytes now (newBytes (columnInt r.bytes_recv) bytes)
  | .toServer => update_sent_bytes now (newBytes (columnInt r.bytes_sent) bytes)

theorem readRow_id {t : SessionTable} {id : Int64} {r : Row} (h : t.get? id = some r) :
    (readRow r).id = columnInt id := by
  rw [readRow, (SessionTable.get?_eq_some.mp h).2]

theorem update_run {t : SessionTable} {id : Int64} {r : Row} (hr : t.get? id = some r)
    (hid : columnInt id ≠ 0) (bytes : UInt64) (dest : Dest) :
    (update (.sound errstr now) id bytes dest).run t =
      (.ok (), t.alter (· == id) (counted now r bytes dest)) := by
  have hz : (readRow r).id ≠ 0 := by rwa [readRow_id hr]
  rw [update, Proc.bind_ok (selectSession_finds errstr now hr), if_neg hz,
    Proc.bind_ok (openConnection_run errstr now 1 t)]
  cases dest with
  | toServer => rw [Proc.bind_ok (prepare_run errstr now 1 _ t), stepUpdate_run]; rfl
  | toClient => rw [Proc.bind_ok (prepare_run errstr now 1 _ t), stepUpdate_run]; rfl

theorem update_throws {t : SessionTable} {id : Int64} {r : Row} (hr : t.get? id = some r)
    (hid : columnInt id = 0) (bytes : UInt64) (dest : Dest) :
    (update (.sound errstr now) id bytes dest).run t =
      (.error ⟨"Update: no session with id: " ++ toString id⟩, t) := by
  have hz : (readRow r).id = 0 := by rwa [readRow_id hr]
  rw [update, Proc.bind_ok (selectSession_finds errstr now hr), if_pos hz, Proc.run_throw]

theorem selectSession_misses {t : SessionTable} {id : Int64} (h : t.get? id = none) :
    (selectSession (.sound errstr now) id).run t =
      (.error ⟨"Select: error during executing stmt: " ++ errstr 0⟩, t) := by
  rw [selectSession, Proc.bind_ok (openConnection_run errstr now 0 t),
    Proc.bind_ok (prepare_run errstr now 0 _ t), Proc.bind_ok (Proc.run_read _ _), h]
  rfl

theorem update_misses {t : SessionTable} {id : Int64} (h : t.get? id = none) (bytes : UInt64) (dest : Dest) :
    (update (.sound errstr now) id bytes dest).run t =
      (.error ⟨"Select: error during executing stmt: " ++ errstr 0⟩, t) := by
  rw [update, Proc.bind_error (selectSession_misses errstr now h)]

theorem close_misses {t : SessionTable} {id : Int64} (h : t.get? id = none) :
    (close (.sound errstr now) id).run t =
      (.error ⟨"Select: error during executing stmt: " ++ errstr 0⟩, t) := by
  rw [close, Proc.bind_error (selectSession_misses errstr now h)]

theorem close_run {t : SessionTable} {id : Int64} {r : Row} (hr : t.get? id = some r)
    (hid : columnInt id ≠ 0) :
    (close (.sound errstr now) id).run t = (.ok (), t.alter (· == columnInt id) (update_inactive now)) := by
  have hz : (readRow r).id ≠ 0 := by rwa [readRow_id hr]
  rw [close, Proc.bind_ok (selectSession_finds errstr now hr), if_neg hz,
    Proc.bind_ok (openConnection_run errstr now 1 t), Proc.bind_ok (prepare_run errstr now 1 _ t),
    stepUpdate_run, readRow_id hr]
  rfl

theorem close_throws {t : SessionTable} {id : Int64} {r : Row} (hr : t.get? id = some r)
    (hid : columnInt id = 0) : (close (.sound errstr now) id).run t =
      (.error ⟨"Close: no session with id: " ++ toString id⟩, t) := by
  have hz : (readRow r).id = 0 := by rwa [readRow_id hr]
  rw [close, Proc.bind_ok (selectSession_finds errstr now hr), if_pos hz, Proc.run_throw]

theorem create_run {t : SessionTable} (h : t.seq + 1 < 2 ^ 63) (session : Session) :
    (create (.sound errstr now) session).run t = (.ok t.nextId,
      t.insert h now (some (cString session.user)) (cString session.src_addr) (cString session.src_port)
        (cString session.dst_addr) (cString session.dst_port)) := by
  rw [create, Proc.bind_ok (openConnection_run errstr now 0 t), Proc.bind_ok (prepare_run errstr now 0 _ t)]
  exact Proc.bind_ok (stepInsert_ok rfl h _ _ _ _ _)

theorem createTable_run (t : SessionTable) :
    (createTable (.sound errstr now)).run t = (.ok (), t.alter (fun _ => true) set_all_inactive) := by
  rw [createTable, Proc.bind_ok (openConnection_run errstr now 0 t)]
  rfl

end SocksProxy.DatabaseRuns
