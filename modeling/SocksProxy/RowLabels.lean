import SocksProxy.GatewaySteps
import SocksProxy.ServiceCounters

namespace SocksProxy.RowLabels

open ByteStrings RelaySession TcpServer ServerFrames ServerLifetimes ConcurrentService GatewaySteps

structure Label where
  user : Option Bytes
  src_addr : Bytes
  src_port : Bytes
  dst_addr : Bytes
  dst_port : Bytes

def labelOf (r : Row) : Label := ⟨r.user, r.src_addr, r.src_port, r.dst_addr, r.dst_port⟩

def label (t : SessionTable) (id : Int64) : Option Label := (t.get? id).map labelOf

def labelled (session : Session) : Label :=
  ⟨some (cString session.user), cString session.src_addr, cString session.src_port, cString session.dst_addr,
    cString session.dst_port⟩

def Flagged (t : SessionTable) : Prop := ∀ id r, t.get? id = some r → r.is_active = 0 ∨ r.is_active = 1

structure Keeps (t t' : SessionTable) : Prop where
  label : ∀ id v, label t id = some v → label t' id = some v
  flagged : Flagged t → Flagged t'

theorem Keeps.refl (t : SessionTable) : Keeps t t := ⟨fun _ _ h => h, id⟩

theorem Keeps.trans {t u v : SessionTable} (h : Keeps t u) (k : Keeps u v) : Keeps t v :=
  ⟨fun id x hx => k.label id x (h.label id x hx), fun hf => k.flagged (h.flagged hf)⟩

theorem keeps_alter {t : SessionTable} {p : Int64 → Bool} {c : KeyedTables.KeyedTable.Change Row.id}
    (hlabel : ∀ r, labelOf (c.apply r) = labelOf r)
    (hflag : ∀ r, (c.apply r).is_active = r.is_active ∨ (c.apply r).is_active = 0) : Keeps t (t.alter p c) := by
  constructor
  · intro id v hv
    obtain ⟨r, hr, rfl⟩ := Option.map_eq_some_iff.mp hv
    rw [label, SessionTable.get?_alter, hr]
    by_cases hp : p id
    · simp [hp, hlabel]
    · simp [hp]
  · intro hf id r hr
    rw [SessionTable.get?_alter] at hr
    obtain ⟨r, hold, rfl⟩ := Option.map_eq_some_iff.mp hr
    by_cases hp : p id
    · rw [if_pos hp]
      rcases hflag r with h | h
      · rw [h]
        exact hf id r hold
      · exact .inl h
    · rw [if_neg hp]
      exact hf id r hold

theorem keeps_insert {t : SessionTable} (h : t.seq + 1 < 2 ^ 63) (now : Bytes) (user : Option Bytes)
    (src_addr src_port dst_addr dst_port : Bytes) :
    Keeps t (t.insert h now user src_addr src_port dst_addr dst_port) := by
  constructor
  · intro id v hv
    obtain ⟨r, hr, rfl⟩ := Option.map_eq_some_iff.mp hv
    have hne : id ≠ t.nextId := by
      obtain ⟨hmem, rfl⟩ := SessionTable.get?_eq_some.mp hr
      exact SessionTable.nextId_fresh h r hmem
    rw [label, SessionTable.get?_insert, if_neg hne, hr]
    rfl
  · intro hf id r hr
    rw [SessionTable.get?_insert] at hr
    split_ifs at hr
    · cases hr
      exact .inr rfl
    · exact hf id r hr

theorem keeps_served {t t' : SessionTable} {op : Operation} {out : Except DatabaseException (Option Int64)}
    (h : Served t t' op out) : Keeps t t' := by
  cases h with
  | failed op err => exact .refl t
  | found => exact .refl t
  | started => exact keeps_alter (fun _ => rfl) fun _ => .inr rfl
  | created session hseq => exact keeps_insert hseq _ _ _ _ _ _
  | updated id bytes dest now r hr =>
    apply keeps_alter
    · intro r'
      cases dest <;> rfl
    · intro r'
      exact .inl (by cases dest <;> rfl)
  | closed id i now => exact keeps_alter (fun _ => rfl) fun _ => .inr rfl

section Steps

variable (q : Sqlite)

theorem keeps_update (t : SessionTable) (id : Int64) (bytes : UInt64) (dest : Dest) :
    Keeps t ((DatabaseService.update q id bytes dest).run t).2 := by
  have h := keeps_served (served (.update id bytes dest, q) ⟨true, t⟩)
  rcases hrun : (DatabaseService.update q id bytes dest).run t with ⟨a, u⟩
  rw [serve_update_of hrun] at h
  exact h

theorem keeps_close (t : SessionTable) (id : Int64) : Keeps t ((DatabaseService.close q id).run t).2 := by
  have h := keeps_served (served (.close id, q) ⟨true, t⟩)
  rcases hrun : (DatabaseService.close q id).run t with ⟨a, u⟩
  rw [serve_close_of hrun] at h
  exact h

theorem keeps_create (t : SessionTable) (session : Session) :
    Keeps t ((DatabaseService.create q session).run t).2 := by
  have h := keeps_served (served (.create session, q) ⟨true, t⟩)
  rcases hrun : (DatabaseService.create q session).run t with ⟨a, u⟩
  rw [serve_create_of hrun] at h
  exact h

end Steps

structure Followed (q : Sqlite) (R : SessionTable → SessionTable → Prop) : Prop where
  refl : ∀ t, R t t
  trans : ∀ t u v, R t u → R u v → R t v
  update : ∀ t id bytes dest, R t ((DatabaseService.update q id bytes dest).run t).2
  close : ∀ t id, R t ((DatabaseService.close q id).run t).2
  create : ∀ t session, R t ((DatabaseService.create q session).run t).2

namespace Followed

variable {q : Sqlite} {R : SessionTable → SessionTable → Prop} (h : Followed q R)
include h

theorem performAll (s : TcpServer) (effects : List Effect) : R s.table (s.performAll q effects).table := by
  induction effects generalizing s with
  | nil => exact h.refl s.table
  | cons e effects ih =>
    apply h.trans _ _ _ _ (ih (s.perform q e))
    cases e with
    | update id bytes dest => exact h.update s.table id bytes dest
    | closeRecord id => exact h.close s.table id
    | decrement => exact h.refl s.table
    | wrote d bytes b => exact h.refl s.table
    | writeStat n b => exact h.refl s.table

theorem closeConnection (k : ℕ) (s : TcpServer) : R s.table (s.closeConnection q k).table := by
  rw [TcpServer.closeConnection]
  split
  · exact h.performAll (s.setConnection k _) _
  · exact h.refl s.table

theorem release (k : ℕ) (s : TcpServer) : R s.table (s.release q k).table := by
  rw [TcpServer.release]
  split
  · split_ifs
    · exact h.refl s.table
    · exact h.closeConnection k s
  · exact h.refl s.table

theorem startAccept (k : ℕ) (s : TcpServer) : R s.table (s.startAccept q k).table := by
  rw [TcpServer.startAccept]
  split_ifs
  · exact h.refl s.table
  · exact h.release k s.awaitClient

theorem initialise (k : ℕ) (record : Session) (s : TcpServer) (c : Connection) :
    R s.table (s.initialise q k record c).table := by
  have hcreate := h.create s.table record
  rw [TcpServer.initialise]
  split
  case h_1 id t hr =>
    rw [hr] at hcreate
    exact hcreate
  case h_2 err t hr =>
    rw [hr] at hcreate
    exact hcreate

theorem step {s t : TcpServer} {e : ServerEvent} (ht : s.step q e = some t) : R s.table t.table := by
  cases e with
  | accept error =>
    obtain ⟨k, c, -, -, -, rfl⟩ := step_accept ht
    cases error with
    | none => exact h.startAccept k (s.post k c)
    | some err => exact h.startAccept k { s with accepting := none }
  | spin =>
    obtain ⟨k, -, -, rfl⟩ := step_spin ht
    exact h.release k s.awaitClient
  | begin k =>
    obtain ⟨c, -, -, rfl⟩ := upon_eq_some.mp ht
    exact h.refl s.table
  | createProxy k =>
    obtain ⟨c, -, -, rfl⟩ := upon_eq_some.mp ht
    exact h.refl s.table
  | init k record =>
    obtain ⟨c, -, -, rfl⟩ := upon_eq_some.mp ht
    exact h.initialise k record s c
  | clientRead k =>
    obtain ⟨c, -, -, rfl⟩ := upon_eq_some.mp ht
    exact h.refl s.table
  | serverRead k =>
    obtain ⟨c, -, -, rfl⟩ := upon_eq_some.mp ht
    exact h.release k (s.setConnection k _)
  | stop k =>
    obtain ⟨c, -, -, rfl⟩ := upon_eq_some.mp ht
    exact h.release k (s.setConnection k _)
  | socket k e =>
    obtain ⟨c, r, -, -, rfl⟩ := step_socket ht
    exact h.refl s.table
  | dispatch k d o =>
    obtain ⟨-, c, -, -, hd⟩ := step_dispatch ht
    cases hd with
    | closed r =>
      exact h.trans _ _ _ (h.closeConnection k (s.setConnection k _)) (h.release k _)
    | relayed r n b =>
      exact h.trans _ _ _ (h.performAll (s.setConnection k _) _) (h.release k _)

theorem gateway {s t : TcpServer} {e : GatewayEvent} (ht : gatewayStep q s e = some t) : R s.table t.table := by
  cases e with
  | server e => exact h.step ht
  | readBytes k bytes =>
    obtain ⟨c, -, -, rfl⟩ := upon_eq_some.mp ht
    exact h.refl s.table
  | writeBytes k bytes =>
    obtain ⟨c, -, -, rfl⟩ := upon_eq_some.mp ht
    exact h.refl s.table

end Followed

theorem keeps_followed (q : Sqlite) : Followed q Keeps where
  refl := .refl
  trans _ _ _ h k := h.trans k
  update := keeps_update q
  close := keeps_close q
  create := keeps_create q

def returned (s : TcpServer) (k : ℕ) : Option Int64 := s.connections[k]?.bind Connection.returned

section Returned

variable (q : Sqlite) {s t : TcpServer}

theorem returned_frame (h : t.connections = s.connections) : returned t = returned s := by
  funext k
  rw [returned, returned, h]

theorem returned_set {k : ℕ} {c x : Connection} (hk : s.connections[k]? = some c) (hx : x.returned = c.returned) :
    returned (s.setConnection k x) = returned s := by
  funext j
  rw [returned, returned, getElem?_setConnection hk]
  split_ifs with hjk
  · rw [hjk, hk, Option.bind_some, Option.bind_some, hx]
  · rfl

theorem returned_closeConnection (k : ℕ) (s : TcpServer) : returned (s.closeConnection q k) = returned s := by
  cases hk : s.connections[k]? with
  | none => simp only [TcpServer.closeConnection, hk]
  | some c =>
    simp only [TcpServer.closeConnection, hk]
    rw [returned_frame (undisturbed_performAll q _ _).connections]
    exact returned_set hk rfl

theorem returned_release (k : ℕ) (s : TcpServer) : returned (s.release q k) = returned s := by
  rw [TcpServer.release]
  split
  · split_ifs
    · rfl
    · exact returned_closeConnection q k s
  · rfl

theorem returned_awaitClient (s : TcpServer) : returned s.awaitClient = returned s := by
  funext k
  rw [returned, returned, TcpServer.awaitClient]
  by_cases hk : k < s.connections.length
  · rw [List.getElem?_append_left hk]
  · rw [List.getElem?_append_right (by omega), List.getElem?_eq_none (by omega : s.connections.length ≤ k)]
    cases hj : k - s.connections.length <;> rfl

theorem returned_startAccept (k : ℕ) (s : TcpServer) : returned (s.startAccept q k) = returned s := by
  rw [TcpServer.startAccept]
  split_ifs
  · rfl
  · rw [returned_release, returned_awaitClient]

theorem returned_step {e : ServerEvent} (ht : s.step q e = some t) :
    returned t = returned s ∨ ∃ k record c, e = .init k record ∧ s.connections[k]? = some c ∧
      t = s.initialise q k record c := by
  cases e with
  | init k record =>
    obtain ⟨c, hk, -, rfl⟩ := upon_eq_some.mp ht
    exact .inr ⟨k, record, c, rfl, hk, rfl⟩
  | accept error =>
    obtain ⟨k, c, -, -, hk, rfl⟩ := step_accept ht
    left
    rw [returned_startAccept]
    split_ifs
    · exact returned_set hk rfl
    · rfl
  | spin =>
    obtain ⟨k, -, -, rfl⟩ := step_spin ht
    exact .inl (by rw [returned_release, returned_awaitClient])
  | begin k =>
    obtain ⟨c, hk, -, rfl⟩ := upon_eq_some.mp ht
    exact .inl (returned_set hk rfl)
  | createProxy k =>
    obtain ⟨c, hk, -, rfl⟩ := upon_eq_some.mp ht
    exact .inl (returned_set hk rfl)
  | clientRead k =>
    obtain ⟨c, hk, -, rfl⟩ := upon_eq_some.mp ht
    exact .inl (returned_set hk rfl)
  | serverRead k =>
    obtain ⟨c, hk, -, rfl⟩ := upon_eq_some.mp ht
    exact .inl ((returned_release q k _).trans (returned_set hk rfl))
  | stop k =>
    obtain ⟨c, hk, -, rfl⟩ := upon_eq_some.mp ht
    exact .inl ((returned_release q k _).trans (returned_set hk rfl))
  | socket k e =>
    obtain ⟨c, r, hk, -, rfl⟩ := step_socket ht
    exact .inl (returned_set hk rfl)
  | dispatch k d o =>
    obtain ⟨-, c, hk, -, hd⟩ := step_dispatch ht
    left
    cases hd with
    | closed r =>
      rw [returned_release, returned_closeConnection]
      exact returned_set hk rfl
    | relayed r n b =>
      rw [returned_release, returned_frame (undisturbed_performAll q _ _).connections]
      exact returned_set hk rfl

theorem returned_gateway {e : GatewayEvent} (ht : gatewayStep q s e = some t) :
    returned t = returned s ∨ ∃ k record c, e = .server (.init k record) ∧ s.connections[k]? = some c ∧
      t = s.initialise q k record c := by
  cases e with
  | server e =>
    rcases returned_step q ht with h | ⟨k, record, c, rfl, hk, h⟩
    · exact .inl h
    · exact .inr ⟨k, record, c, rfl, hk, h⟩
  | readBytes k bytes =>
    obtain ⟨c, hk, -, rfl⟩ := upon_eq_some.mp ht
    exact .inl (returned_set hk rfl)
  | writeBytes k bytes =>
    obtain ⟨c, hk, -, rfl⟩ := upon_eq_some.mp ht
    exact .inl (returned_set hk rfl)

end Returned

end SocksProxy.RowLabels
