import SocksProxy.ServerFrames

namespace SocksProxy.SequenceGrowth

open StatefulPrograms KeyedTables RelaySession TcpServer DatabaseService ServerFrames

def Grown (s t : SessionTable) : Prop := s.seq ≤ t.seq

theorem Grown.refl (s : SessionTable) : Grown s s := Nat.le_refl _

theorem Grown.trans (s t u : SessionTable) (h : Grown s t) (k : Grown t u) : Grown s u := Nat.le_trans h k

def Growing {α : Type} (x : Database α) : Prop := Proc.Follows Grown x

variable {α β : Type} (q : Sqlite)

theorem Growing.bind {x : Database α} {f : α → Database β} (hx : Growing x) (hf : ∀ a, Growing (f a)) :
    Growing (x >>= f) :=
  Proc.follows_bind Grown.trans hx hf

theorem growing_pure (a : α) : Growing (pure a : Database α) := Proc.follows_pure Grown.refl a

theorem growing_throw (err : DatabaseException) : Growing (Proc.throw err : Database α) :=
  Proc.follows_throw Grown.refl err

theorem growing_openConnection (n : ℕ) : Growing (openConnection q n) :=
  Proc.follows_ite (growing_pure ()) (growing_throw _)

theorem growing_prepare (n : ℕ) (operation : String) : Growing (prepare q n operation) :=
  Proc.follows_ite (growing_pure ()) (growing_throw _)

theorem growing_stepUpdate (n : ℕ) (operation : String) (p : Int64 → Bool)
    (c : KeyedTable.Change Row.id) : Growing (stepUpdate q n operation p c) :=
  Proc.follows_ite (fun t => Grown.refl t) (growing_throw _)

theorem growing_selectSession (id : Int64) : Growing (selectSession q id) := by
  apply (growing_openConnection q 0).bind
  intro _
  apply (growing_prepare q 0 _).bind
  intro _
  apply Growing.bind (Proc.follows_read Grown.refl _)
  intro row
  cases row with
  | none => exact growing_throw _
  | some r => exact Proc.follows_ite (growing_pure _) (growing_throw _)

theorem growing_update (id : Int64) (bytes : UInt64) (dest : Dest) : Growing (update q id bytes dest) := by
  apply (growing_selectSession q id).bind
  intro s
  apply Proc.follows_ite (growing_throw _)
  apply (growing_openConnection q 1).bind
  intro _
  apply (growing_prepare q 1 _).bind
  intro _
  exact growing_stepUpdate q 1 _ _ _

theorem growing_close (id : Int64) : Growing (close q id) := by
  apply (growing_selectSession q id).bind
  intro s
  apply Proc.follows_ite (growing_throw _)
  apply (growing_openConnection q 1).bind
  intro _
  apply (growing_prepare q 1 _).bind
  intro _
  exact growing_stepUpdate q 1 _ _ _

theorem growing_stepInsert (user src_addr src_port dst_addr dst_port : Option Bytes) :
    Growing (stepInsert q user src_addr src_port dst_addr dst_port) := by
  intro t
  simp only [stepInsert]
  by_cases hs : q.steps 0 ≠ 0
  · rw [if_pos hs]
    exact Grown.refl t
  · rw [if_neg hs]
    split
    · by_cases h : t.seq + 1 < 2 ^ 63
      · rw [dif_pos h]
        exact Nat.le_succ t.seq
      · rw [dif_neg h]
        exact Grown.refl t
    · exact Grown.refl t

theorem growing_create (session : Session) : Growing (create q session) := by
  apply (growing_openConnection q 0).bind
  intro _
  apply (growing_prepare q 0 _).bind
  intro _
  apply Proc.follows_ite (growing_throw _)
  apply (growing_stepInsert q _ _ _ _ _).bind
  rintro ⟨err, id⟩
  exact Proc.follows_ite (growing_throw _) (growing_pure _)

theorem seq_performAll (s : TcpServer) (effects : List Effect) :
    s.table.seq ≤ (s.performAll q effects).table.seq := by
  induction effects generalizing s with
  | nil => exact Nat.le_refl _
  | cons e effects ih =>
    apply Nat.le_trans _ (ih (s.perform q e))
    cases e with
    | update id bytes dest => exact growing_update q id bytes dest s.table
    | closeRecord id => exact growing_close q id s.table
    | decrement => exact Nat.le_refl _
    | wrote d bytes b => exact Nat.le_refl _
    | writeStat n b => exact Nat.le_refl _

theorem seq_closeConnection (k : ℕ) (s : TcpServer) :
    s.table.seq ≤ (s.closeConnection q k).table.seq := by
  rw [closeConnection]
  split
  · exact seq_performAll q (s.setConnection k _) _
  · exact Nat.le_refl _

theorem seq_release (k : ℕ) (s : TcpServer) : s.table.seq ≤ (s.release q k).table.seq := by
  rw [release]
  split
  · split_ifs
    · exact Nat.le_refl _
    · exact seq_closeConnection q k s
  · exact Nat.le_refl _

theorem seq_startAccept (k : ℕ) (s : TcpServer) : s.table.seq ≤ (s.startAccept q k).table.seq := by
  rw [startAccept]
  split_ifs
  · exact Nat.le_refl _
  · exact seq_release q k s.awaitClient

theorem seq_initialise (k : ℕ) (record : Session) (s : TcpServer) (c : Connection) :
    s.table.seq ≤ (s.initialise q k record c).table.seq := by
  have h := growing_create q record s.table
  rw [initialise]
  split
  case h_1 id t hr =>
    rw [hr] at h
    exact h
  case h_2 err t hr =>
    rw [hr] at h
    exact h

theorem seq_step {s t : TcpServer} {e : ServerEvent} (ht : s.step q e = some t) :
    s.table.seq ≤ t.table.seq := by
  cases e with
  | accept error =>
    obtain ⟨k, c, -, -, -, rfl⟩ := step_accept ht
    cases error with
    | none => exact seq_startAccept q k (s.post k c)
    | some err => exact seq_startAccept q k { s with accepting := none }
  | spin =>
    obtain ⟨k, -, -, rfl⟩ := step_spin ht
    exact seq_release q k s.awaitClient
  | begin k =>
    obtain ⟨c, -, -, rfl⟩ := upon_eq_some.mp ht
    exact Nat.le_refl _
  | createProxy k =>
    obtain ⟨c, -, -, rfl⟩ := upon_eq_some.mp ht
    exact Nat.le_refl _
  | init k record =>
    obtain ⟨c, -, -, rfl⟩ := upon_eq_some.mp ht
    exact seq_initialise q k record s c
  | clientRead k =>
    obtain ⟨c, -, -, rfl⟩ := upon_eq_some.mp ht
    exact Nat.le_refl _
  | serverRead k =>
    obtain ⟨c, -, -, rfl⟩ := upon_eq_some.mp ht
    exact seq_release q k (s.setConnection k _)
  | stop k =>
    obtain ⟨c, -, -, rfl⟩ := upon_eq_some.mp ht
    exact seq_release q k (s.setConnection k _)
  | socket k e =>
    obtain ⟨c, r, -, -, rfl⟩ := step_socket ht
    exact Nat.le_refl _
  | dispatch k d o =>
    obtain ⟨-, c, -, -, hd⟩ := step_dispatch ht
    cases hd with
    | closed r =>
      exact Nat.le_trans (seq_closeConnection q k (s.setConnection k _)) (seq_release q k _)
    | relayed r n b =>
      exact Nat.le_trans (seq_performAll q (s.setConnection k _) _) (seq_release q k _)

end SocksProxy.SequenceGrowth
