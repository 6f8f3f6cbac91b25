import SocksProxy.ServerSteps

namespace SocksProxy.ServerFrames

open StatefulPrograms TransitionSystems RelaySession TcpServer

theorem countP_set_add {α : Type} (p : α → Bool) {xs : List α} {k : ℕ} {a : α} (b : α)
    (h : xs[k]? = some a) :
    (xs.set k b).countP p + (if p a then 1 else 0) = xs.countP p + if p b then 1 else 0 := by
  obtain ⟨hk, rfl⟩ := List.getElem?_eq_some_iff.mp h
  rw [List.countP_set hk]
  by_cases hp : p xs[k]
  · have hpos : 0 < xs.countP p := List.countP_pos_iff.mpr ⟨xs[k], List.getElem_mem hk, hp⟩
    simp only [if_pos hp]
    omega
  · simp only [if_neg hp]
    omega

theorem upon_eq_some {s t : TcpServer} {k : ℕ} {p : Connection → Bool} {f : Connection → TcpServer} :
    s.upon k p f = some t ↔ ∃ c, s.connections[k]? = some c ∧ p c = true ∧ f c = t := by
  rw [upon]
  cases h : s.connections[k]? with
  | none => simp
  | some c => simp

theorem getElem?_setConnection {s : TcpServer} {k : ℕ} {c : Connection} (h : s.connections[k]? = some c)
    (x : Connection) (j : ℕ) :
    (s.setConnection k x).connections[j]? = if j = k then some x else s.connections[j]? := by
  have hk := (List.getElem?_eq_some_iff.mp h).1
  rw [setConnection_connections, List.getElem?_set]
  by_cases hj : k = j
  · rw [if_pos hj, if_pos hj.symm, if_pos (by omega)]
  · rw [if_neg hj, if_neg (Ne.symm hj)]

theorem setConnection_setConnection (s : TcpServer) (k : ℕ) (c x : Connection) :
    (s.setConnection k c).setConnection k x = s.setConnection k x := by
  simp [setConnection]

theorem setConnection_same {s : TcpServer} {k : ℕ} {c : Connection} (h : s.connections[k]? = some c)
    (x : Connection) : (s.setConnection k x).connections[k]? = some x := by
  rw [getElem?_setConnection h, if_pos rfl]

theorem setConnection_other {s : TcpServer} {j k : ℕ} {c : Connection} (h : s.connections[k]? = some c)
    (x : Connection) (hjk : j ≠ k) : (s.setConnection k x).connections[j]? = s.connections[j]? := by
  rw [getElem?_setConnection h, if_neg hjk]

theorem setConnection_cases {s : TcpServer} {j k : ℕ} {c d x : Connection} (h : s.connections[k]? = some c)
    (hd : (s.setConnection k x).connections[j]? = some d) :
    (j = k ∧ d = x) ∨ (j ≠ k ∧ s.connections[j]? = some d) := by
  rw [getElem?_setConnection h] at hd
  split_ifs at hd with hjk
  · cases hd
    exact .inl ⟨hjk, rfl⟩
  · exact .inr ⟨hjk, hd⟩

theorem setConnection_self {s : TcpServer} {k : ℕ} {c : Connection} (hk : s.connections[k]? = some c) :
    s.setConnection k c = s := by
  obtain ⟨hlt, rfl⟩ := List.getElem?_eq_some_iff.mp hk
  rw [setConnection, List.set_getElem_self]

theorem running_setConnection {s : TcpServer} {k : ℕ} {c : Connection} (h : s.connections[k]? = some c)
    (x : Connection) : (s.setConnection k x).running + (if c.job.running then 1 else 0) =
      s.running + if x.job.running then 1 else 0 :=
  countP_set_add _ x h

section Closing

variable {s : TcpServer} {k : ℕ} {c : Connection} (q : Sqlite)

theorem closeConnection_closed (h : s.connections[k]? = some c) (hc : c.relay.isClosed = true) :
    s.closeConnection q k = s := by
  obtain ⟨hk, rfl⟩ := List.getElem?_eq_some_iff.mp h
  simp only [closeConnection, h, close_closed hc, performAll, List.foldl_nil]
  change { s with connections := s.connections.set k s.connections[k] } = s
  rw [List.set_getElem_self]

def closedTable (socks : Option Int64) (t : SessionTable) : SessionTable :=
  match socks with
  | none => t
  | some id => if id = 0 then t else ((DatabaseService.close q id).run t).2

theorem closeConnection_open (h : s.connections[k]? = some c) (hc : c.relay.isClosed = false) :
    s.closeConnection q k =
      { s.setConnection k { c with relay := c.relay.shut } with
        sessions := s.sessions - 1
        table := closedTable q c.relay.socks s.table } := by
  simp only [closeConnection, h, close_open hc, performAll, List.foldl_append, List.foldl_cons,
    List.foldl_nil]
  cases hs : c.relay.socks with
  | none => rfl
  | some id =>
    rw [closeSocks, closedTable]
    by_cases hid : id = 0
    · rw [if_pos hid, if_pos hid]
      rfl
    · rw [if_neg hid, if_neg hid]
      rfl

theorem release_of (h : s.connections[k]? = some c) :
    s.release q k = if s.referenced k c then s else s.closeConnection q k := by
  rw [release, h]

theorem performAll_writeStat (r : RelaySession) (n : ℕ) (b : Bool) : ∃ x : Database Unit,
    s.performAll q (r.writeStat n b) = s.onDatabase x ∧
      (x = pure () ∨ ∃ id dest, r.socks = some id ∧ id ≠ 0 ∧
        x = DatabaseService.update q id (.ofNat n) dest) := by
  rw [writeStat]
  cases hs : r.socks with
  | none => exact ⟨pure (), rfl, .inl rfl⟩
  | some id =>
    by_cases hid : id = 0
    · refine ⟨pure (), ?_, .inl rfl⟩
      simp only [if_pos hid]
      rfl
    · refine ⟨_, ?_, .inr ⟨id, if b then .toServer else .toClient, rfl, hid, rfl⟩⟩
      simp only [if_neg hid]
      rfl

end Closing

theorem socketStep_kept {bufferSize : ℕ} {r r' : RelaySession} {e : SocketEvent}
    (h : r.socketStep bufferSize e = some r') :
    Kept r r' ∧ ∀ d, (r'.peer d).read = .idle ↔ (r.peer d).read = .idle := by
  cases e with
  | arrive d bytes =>
    cases h
    exact ⟨kept_setPeer rfl, read_setPeer Iff.rfl⟩
  | transfer d size =>
    rw [socketStep] at h
    obtain ⟨⟨hpending, -⟩, rfl⟩ := transfer_eq_some.mp h
    exact ⟨kept_setPeer rfl, read_setPeer (by simp [hpending])⟩
  | readError d err =>
    rw [socketStep] at h
    obtain ⟨⟨hpending, -⟩, rfl⟩ := readError_eq_some.mp h
    exact ⟨kept_setPeer rfl, read_setPeer (by simp [hpending])⟩

inductive Dispatched (q : Sqlite) (s : TcpServer) (k : ℕ) (d : Side) (c : Connection) : TcpServer → Prop
  | closed (r : RelaySession) (hr : Kept c.relay r) :
    Dispatched q s k d c (((s.setConnection k { c with relay := r }).closeConnection q k).release q k)
  | relayed (r : RelaySession) (n : ℕ) (b : Bool) (hr : Kept c.relay r)
    (hread : d = .server → r.client.read = c.relay.client.read)
    (hclient : d = .client → r.client.isOpen = true → r.client.read = .pending) :
    Dispatched q s k d c (((s.setConnection k { c with relay := r }).performAll q (r.writeStat n b)).release q k)

theorem performAll_wrote (q : Sqlite) (s : TcpServer) (d : Side) (bytes : Bytes) (b : Bool)
    (effects : List Effect) : s.performAll q (.wrote d bytes b :: effects) = s.performAll q effects := rfl

theorem closeConnection_setConnection {s : TcpServer} {k : ℕ} {c : Connection}
    (h : s.connections[k]? = some c) (q : Sqlite) (r : RelaySession) :
    (s.setConnection k { c with relay := r }).closeConnection q k =
      (s.setConnection k { c with relay := r.close.1 }).performAll q r.close.2 := by
  have hk := setConnection_same h { c with relay := r }
  simp only [closeConnection, hk]
  congr 1
  simp [setConnection]

theorem step_dispatch {q : Sqlite} {s t : TcpServer} {k : ℕ} {d : Side} {o : WriteOutcome}
    (h : s.step q (.dispatch k d o) = some t) : s.io = .idle ∧ ∃ c, s.connections[k]? = some c ∧
      (c.relay.peer d).read ≠ .idle ∧ Dispatched q s k d c t := by
  simp only [step] at h
  split at h
  case h_2 => cases h
  case h_1 c hio hc =>
    refine ⟨hio, c, hc, ?_⟩
    obtain ⟨⟨r, effects⟩, hd, rfl⟩ := Option.map_eq_some_iff.mp h
    obtain ⟨comp, hready, hcases⟩ := dispatch_cases hd
    refine ⟨by simp [hready], ?_⟩
    have hpop := kept_popped c.relay d
    cases hcases with
    | ended hend =>
      rw [← closeConnection_setConnection hc]
      exact .closed _ hpop
    | forwarded bytes hcomp hn hopen hb =>
      have hkept := hpop.trans ((kept_delivered _ d.other bytes).trans (kept_startRead _ d))
      have hrelayed : Dispatched q s k d c (((s.setConnection k { c with
          relay := ((c.relay.popped d).delivered d.other bytes).startRead d }).performAll q
          ((((c.relay.popped d).delivered d.other bytes).startRead d).writeStat comp.bytes_transferred
            (d == .client))).release q k) := by
        refine .relayed _ _ _ hkept ?_ ?_
        · rintro rfl
          exact (congrArg Peer.read (startRead_server _)).trans rfl
        · rintro rfl hclient
          apply startRead_client
          exact ((kept_startRead _ .client).isOpen .client).symm.trans hclient
      rw [writeStat_congr (hkept.socks.trans hpop.socks.symm)] at hrelayed
      exact hrelayed
    | lost bytes hcomp hn hb hshut =>
      rw [performAll_wrote, ← closeConnection_setConnection hc]
      exact .closed _ (hpop.trans (kept_delivered _ _ _))

section Steps

variable {q : Sqlite} {s t : TcpServer}

theorem step_accept {error : Option ErrorCode} (h : s.step q (.accept error) = some t) :
    ∃ k c, s.io = .idle ∧ s.accepting = some k ∧ s.connections[k]? = some c ∧
      t = (if error = none then s.post k c else { s with accepting := none }).startAccept q k := by
  simp only [step, handleAccept] at h
  split at h
  case h_2 => cases h
  case h_1 k hio ha =>
    cases hk : s.connections[k]? with
    | none =>
      rw [hk] at h
      cases h
    | some c =>
      rw [hk] at h
      cases error with
      | none =>
        cases h
        exact ⟨k, c, hio, ha, hk, rfl⟩
      | some err =>
        cases h
        exact ⟨k, c, hio, ha, hk, rfl⟩

theorem step_spin (h : s.step q .spin = some t) :
    ∃ k, s.io = .waiting k ∧ s.limitReached = false ∧ t = s.awaitClient.release q k := by
  simp only [step] at h
  split at h
  case h_2 => cases h
  case h_1 k hio =>
    split_ifs at h with hl
    cases h
    exact ⟨k, hio, by simpa using hl, rfl⟩

theorem step_socket {k : ℕ} {e : SocketEvent} (h : s.step q (.socket k e) = some t) :
    ∃ c r, s.connections[k]? = some c ∧ c.relay.socketStep s.settings.bufferSize e = some r ∧
      t = s.setConnection k { c with relay := r } := by
  simp only [step] at h
  split at h
  case h_2 => cases h
  case h_1 c hk =>
    obtain ⟨r, hr, rfl⟩ := Option.map_eq_some_iff.mp h
    exact ⟨c, r, hk, hr, rfl⟩

end Steps

end SocksProxy.ServerFrames
