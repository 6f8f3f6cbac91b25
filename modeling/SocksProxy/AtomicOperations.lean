import SocksProxy.CreatedRecords

namespace SocksProxy.AtomicOperations

open StatefulPrograms KeyedTables DatabaseService DatabaseRuns CreatedRecords SessionTable

structure CountsOnly (t u : SessionTable) (id : Int64) (dest : Dest) : Prop where
  seq : u.seq = t.seq
  ids : u.sessions.rows.map Row.id = t.sessions.rows.map Row.id
  row : ∃ r date count, t.get? id = some r ∧ u.get? id = some (match dest with
    | .toClient => { r with update_date := date, bytes_recv := count }
    | .toServer => { r with update_date := date, bytes_sent := count })
  frame : ∀ i, i ≠ id → u.get? i = t.get? i

def UpdatesOnly (q : Sqlite) (id : Int64) (bytes : UInt64) (dest : Dest) : Prop :=
  ∀ t u, (update q id bytes dest).run t = (.ok (), u) → CountsOnly t u id dest

variable (q : Sqlite) (t : SessionTable)

theorem openConnection_failsOr (n : ℕ) : Proc.FailsOr (openConnection q n) t () t :=
  Proc.failsOr_ite_throw (Proc.run_pure () t)

theorem prepare_failsOr (n : ℕ) (operation : String) : Proc.FailsOr (prepare q n operation) t () t :=
  Proc.failsOr_ite_throw (Proc.run_pure () t)

theorem stepUpdate_failsOr (n : ℕ) (operation : String) (p : Int64 → Bool) (c : KeyedTable.Change Row.id) :
    Proc.FailsOr (stepUpdate q n operation p c) t () (t.alter p c) :=
  Proc.failsOr_ite_throw (Proc.run_modify _ t)

theorem write_failsOr (operation : String) (p : Int64 → Bool) (c : KeyedTable.Change Row.id) :
    Proc.FailsOr (openConnection q 1 >>= fun _ => prepare q 1 operation >>= fun _ =>
      stepUpdate q 1 operation p c) t () (t.alter p c) := by
  apply (openConnection_failsOr q t 1).bind
  apply (prepare_failsOr q t 1 operation).bind
  exact stepUpdate_failsOr q t 1 operation p c

variable {q t}

theorem selectSession_failsOr {id : Int64} {r : Row} (h : t.get? id = some r) :
    Proc.FailsOr (selectSession q id) t (readRow r) t := by
  apply (openConnection_failsOr q t 0).bind
  apply (prepare_failsOr q t 0 _).bind
  apply Proc.FailsOr.bind (.inr (Proc.run_read _ t))
  rw [h]
  exact Proc.failsOr_ite_throw (Proc.run_pure _ t)

theorem selectSession_absent {id : Int64} (h : t.get? id = none) : Proc.Throws (selectSession q id) t := by
  apply (openConnection_failsOr q t 0).bind_throws
  apply (prepare_failsOr q t 0 _).bind_throws
  apply Proc.throws_bind_ok (Proc.run_read _ t)
  rw [h]
  exact Proc.throws_throw _ t

theorem update_failsOr {id : Int64} {r : Row} (h : t.get? id = some r) (bytes : UInt64) (dest : Dest) :
    Proc.FailsOr (update q id bytes dest) t () (t.alter (· == id) (counted q.now r bytes dest)) := by
  apply (selectSession_failsOr h).bind
  split_ifs
  · exact .inl (Proc.throws_throw _ t)
  · cases dest with
    | toClient => exact write_failsOr q t _ _ _
    | toServer => exact write_failsOr q t _ _ _

theorem close_failsOr {id : Int64} {r : Row} (h : t.get? id = some r) :
    Proc.FailsOr (close q id) t () (t.alter (· == (readRow r).id) (update_inactive q.now)) := by
  apply (selectSession_failsOr h).bind
  split_ifs
  · exact .inl (Proc.throws_throw _ t)
  · exact write_failsOr q t _ _ _

theorem create_atomic (session : Session) : Proc.Atomic (create q session) := by
  apply Proc.atomic_of_failsOr
  intro t
  by_cases h : Noticed q t
  · exact .inl (create_throws h)
  · obtain ⟨hseq, hrun⟩ := create_inserts h session
    exact .inr ⟨_, _, .inr hrun⟩

theorem update_atomic (id : Int64) (bytes : UInt64) (dest : Dest) : Proc.Atomic (update q id bytes dest) := by
  apply Proc.atomic_of_failsOr
  intro t
  cases h : t.get? id with
  | none => exact .inl (selectSession_absent h).bind
  | some r => exact .inr ⟨_, _, update_failsOr h bytes dest⟩

theorem close_atomic (id : Int64) : Proc.Atomic (close q id) := by
  apply Proc.atomic_of_failsOr
  intro t
  cases h : t.get? id with
  | none => exact .inl (selectSession_absent h).bind
  | some r => exact .inr ⟨_, _, close_failsOr h⟩

theorem countsOnly_counted {id : Int64} {r : Row} (h : t.get? id = some r) (now : Bytes) (bytes : UInt64)
    (dest : Dest) : CountsOnly t (t.alter (· == id) (counted now r bytes dest)) id dest := by
  refine ⟨rfl, KeyedTable.keys_alter _ _ _, ?_, fun i hi => ?_⟩
  · cases dest with
    | toClient => exact ⟨r, now, newBytes (columnInt r.bytes_recv) bytes, h, by simp [get?_alter, h]; rfl⟩
    | toServer => exact ⟨r, now, newBytes (columnInt r.bytes_sent) bytes, h, by simp [get?_alter, h]; rfl⟩
  · rw [get?_alter]
    simp [hi]

theorem update_updatesOnly (id : Int64) (bytes : UInt64) (dest : Dest) : UpdatesOnly q id bytes dest := by
  intro t u hu
  cases h : t.get? id with
  | none =>
    obtain ⟨err, hthrow⟩ := (selectSession_absent (q := q) h).bind
    cases hthrow.symm.trans hu
  | some r =>
    obtain rfl := (update_failsOr h bytes dest).ok hu
    exact countsOnly_counted h q.now bytes dest

/-- Every failure comes before the only write. -/
theorem store_atomic (q : Sqlite) :
    (∀ session, Proc.Atomic (create q session)) ∧
      (∀ id bytes dest, Proc.Atomic (update q id bytes dest) ∧ UpdatesOnly q id bytes dest) ∧
      ∀ id, Proc.Atomic (close q id) :=
  ⟨create_atomic, fun id bytes dest => ⟨update_atomic id bytes dest, update_updatesOnly id bytes dest⟩,
    close_atomic⟩

end SocksProxy.AtomicOperations
