import SocksProxy.DatabaseRuns

namespace SocksProxy.CreatedRecords

open StatefulPrograms KeyedTables DatabaseService DatabaseRuns ByteStrings

def texts (session : Session) : List Bytes :=
  [session.user, session.src_addr, session.src_port, session.dst_addr, session.dst_port]

structure RecordOf (session : Session) (row : Row) : Prop where
  user : row.user = some session.user
  src_addr : row.src_addr = session.src_addr
  src_port : row.src_port = session.src_port
  dst_addr : row.dst_addr = session.dst_addr
  dst_port : row.dst_port = session.dst_port
  is_active : row.is_active = 1
  bytes_sent : row.bytes_sent = 0
  bytes_recv : row.bytes_recv = 0

structure Adds (t u : SessionTable) (session : Session) (id : Int64) : Prop where
  fresh : t.get? id = none
  rows : ∃ row, u.sessions.rows = t.sessions.rows ++ [row] ∧ row.id = id ∧ RecordOf session row

def RecordsSession (q : Sqlite) (session : Session) (t : SessionTable) : Prop :=
  Proc.Throws (create q session) t ∨
    ∃ id u, (create q session).run t = (.ok id, u) ∧ Adds t u session id

def Noticed (q : Sqlite) (t : SessionTable) : Prop :=
  q.opens 0 ≠ 0 ∨ q.prepares 0 ≠ 0 ∨ (∃ n ∈ [1, 2, 3, 4], q.bindTexts n ≠ 0) ∨ q.steps 0 ≠ 0 ∨
    2 ^ 63 ≤ t.seq + 1

variable {q : Sqlite} {t : SessionTable}

theorem openConnection_throws {n : ℕ} (h : q.opens n ≠ 0) : Proc.Throws (openConnection q n) t := by
  rw [openConnection, if_neg h]
  exact Proc.throws_throw _ t

theorem prepare_throws {n : ℕ} {operation : String} (h : q.prepares n ≠ 0) :
    Proc.Throws (prepare q n operation) t := by
  rw [prepare, if_neg h]
  exact Proc.throws_throw _ t

theorem bindText_ok {n : ℕ} (h : q.bindTexts n = 0) (text : Bytes) : bindText q n text = some (cString text) :=
  if_pos h

theorem bindText_fails {n : ℕ} (h : q.bindTexts n ≠ 0) (text : Bytes) : bindText q n text = none := if_neg h

theorem stepInsert_fails (user : Option Bytes) {src_addr src_port dst_addr dst_port : Option Bytes}
    (h : q.steps 0 ≠ 0 ∨ none ∈ [src_addr, src_port, dst_addr, dst_port] ∨ 2 ^ 63 ≤ t.seq + 1) :
    ∃ err, err ≠ 0 ∧ (stepInsert q user src_addr src_port dst_addr dst_port).run t = (.ok (err, 0), t) := by
  simp only [stepInsert]
  by_cases hstep : q.steps 0 ≠ 0
  · rw [if_pos hstep]
    exact ⟨q.steps 0, hstep, rfl⟩
  rw [if_neg hstep]
  split
  · have hseq : ¬t.seq + 1 < 2 ^ 63 := by
      rcases h with h | h | h
      · exact absurd h hstep
      · simp at h
      · omega
    rw [dif_neg hseq]
    exact ⟨SQLITE_FULL, by decide, rfl⟩
  · exact ⟨SQLITE_CONSTRAINT, by decide, rfl⟩

theorem create_throws {session : Session} (h : Noticed q t) : Proc.Throws (create q session) t := by
  rw [create]
  by_cases hopen : q.opens 0 ≠ 0
  · exact (openConnection_throws hopen).bind
  apply Proc.throws_bind_ok (openConnection_ok (not_not.mp hopen))
  by_cases hprepare : q.prepares 0 ≠ 0
  · exact (prepare_throws hprepare).bind
  apply Proc.throws_bind_ok (prepare_ok (not_not.mp hprepare))
  by_cases hbind : q.bindTexts 4 ≠ 0
  · rw [if_pos hbind]
    exact Proc.throws_throw _ t
  rw [if_neg hbind]
  -- the other bind results are lost, but a NOT NULL column stops the step
  have hstep : q.steps 0 ≠ 0 ∨ none ∈ [bindText q 1 session.src_addr, bindText q 2 session.src_port,
      bindText q 3 session.dst_addr, bindText q 4 session.dst_port] ∨ 2 ^ 63 ≤ t.seq + 1 := by
    rcases h with h | h | ⟨n, hn, h⟩ | h | h
    · exact absurd h hopen
    · exact absurd h hprepare
    · refine .inr (.inl ?_)
      simp only [List.mem_cons, List.not_mem_nil, or_false] at hn ⊢
      rcases hn with rfl | rfl | rfl | rfl
      · exact .inl (bindText_fails h _).symm
      · exact .inr (.inl (bindText_fails h _).symm)
      · exact .inr (.inr (.inl (bindText_fails h _).symm))
      · exact absurd h hbind
    · exact .inl h
    · exact .inr (.inr h)
  obtain ⟨err, herr, hinsert⟩ := stepInsert_fails (bindText q 0 session.user) hstep
  apply Proc.throws_bind_ok hinsert
  simp only [if_pos herr]
  exact Proc.throws_throw _ t

theorem create_inserts (h : ¬Noticed q t) (session : Session) : ∃ hseq : t.seq + 1 < 2 ^ 63,
    (create q session).run t = (.ok t.nextId, t.insert hseq q.now (bindText q 0 session.user)
      (cString session.src_addr) (cString session.src_port) (cString session.dst_addr)
      (cString session.dst_port)) := by
  simp only [Noticed, not_or, not_exists, not_and, not_not, not_le] at h
  obtain ⟨hopen, hprepare, hbind, hstep, hseq⟩ := h
  refine ⟨hseq, ?_⟩
  rw [create, Proc.bind_ok (openConnection_ok hopen), Proc.bind_ok (prepare_ok hprepare),
    if_neg (not_not.mpr (hbind 4 (by simp))), bindText_ok (hbind 1 (by simp)), bindText_ok (hbind 2 (by simp)),
    bindText_ok (hbind 3 (by simp)), bindText_ok (hbind 4 (by simp))]
  exact Proc.bind_ok (stepInsert_ok hstep hseq _ _ _ _ _)

theorem inserted_records (hseq : t.seq + 1 < 2 ^ 63) (now : Bytes) {session : Session}
    {user : Option Bytes} {src_addr src_port dst_addr dst_port : Bytes} :
    Adds t (t.insert hseq now user src_addr src_port dst_addr dst_port) session t.nextId ↔
      user = some session.user ∧ src_addr = session.src_addr ∧ src_port = session.src_port ∧
        dst_addr = session.dst_addr ∧ dst_port = session.dst_port := by
  constructor
  · rintro ⟨-, row, hrows, -, hrow⟩
    obtain rfl := List.singleton_inj.mp (List.append_cancel_left hrows)
    exact ⟨hrow.user, hrow.src_addr, hrow.src_port, hrow.dst_addr, hrow.dst_port⟩
  · rintro ⟨rfl, rfl, rfl, rfl, rfl⟩
    refine ⟨KeyedTable.get?_eq_none.mpr (SessionTable.nextId_fresh hseq), _, rfl, rfl, ?_⟩
    exact ⟨rfl, rfl, rfl, rfl, rfl, rfl, rfl, rfl⟩

theorem bindText_eq_some {n : ℕ} {text : Bytes} :
    bindText q n text = some text ↔ q.bindTexts n = 0 ∧ 0 ∉ text := by
  by_cases h : q.bindTexts n = 0
  · rw [bindText_ok h, Option.some_inj, cString_eq_self]
    simp [h]
  · rw [bindText_fails h]
    simp [h]

theorem recordsSession_unnoticed (h : ¬Noticed q t) {session : Session} :
    RecordsSession q session t ↔ q.bindTexts 0 = 0 ∧ ∀ text ∈ texts session, 0 ∉ text := by
  obtain ⟨hseq, hrun⟩ := create_inserts h session
  have hadds : RecordsSession q session t ↔ bindText q 0 session.user = some session.user ∧
      cString session.src_addr = session.src_addr ∧ cString session.src_port = session.src_port ∧
      cString session.dst_addr = session.dst_addr ∧ cString session.dst_port = session.dst_port := by
    rw [← inserted_records hseq q.now]
    constructor
    · rintro (⟨err, herr⟩ | ⟨id, u, hok, hadds⟩)
      · cases hrun.symm.trans herr
      · obtain ⟨hid, rfl⟩ := Prod.mk.inj (hrun.symm.trans hok)
        rwa [← Except.ok.inj hid] at hadds
    · intro hadds
      exact .inr ⟨_, _, hrun, hadds⟩
  rw [hadds, bindText_eq_some, cString_eq_self, cString_eq_self, cString_eq_self, cString_eq_self]
  simp [texts, and_assoc]

theorem recordsSession_iff (q : Sqlite) (session : Session) (t : SessionTable) : RecordsSession q session t ↔
    Noticed q t ∨ (q.bindTexts 0 = 0 ∧ ∀ text ∈ texts session, 0 ∉ text) := by
  by_cases h : Noticed q t
  · exact iff_of_true (.inl (create_throws h)) (.inl h)
  · rw [recordsSession_unnoticed h, or_iff_right h]

def cutSession : Session :=
  { user := [98, 111, 98], src_addr := [49], src_port := [50], dst_addr := [97, 0, 98], dst_port := [56, 48] }

def lostBind : Sqlite := { Sqlite.quiet with bindTexts := fun n => if n = 0 then 7 else 0 }

theorem cut_address_recorded :
    (¬RecordsSession .quiet cutSession .empty ∧
      (((create .quiet cutSession).run .empty).2.get? 1).map Row.dst_addr = some [97]) ∧
    ¬RecordsSession lostBind { cutSession with dst_addr := [97] } .empty ∧
      (((create lostBind { cutSession with dst_addr := [97] }).run .empty).2.get? 1).map Row.user = some none := by
  refine ⟨⟨?_, by decide⟩, ?_, by decide⟩
  · rw [recordsSession_unnoticed (by unfold Noticed; decide)]
    exact fun h => h.2 [97, 0, 98] (by decide) (by decide)
  · rw [recordsSession_unnoticed (by unfold Noticed; decide)]
    exact fun h => absurd h.1 (by decide)

end SocksProxy.CreatedRecords
