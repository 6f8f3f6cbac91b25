import SocksProxy.ServerInvariants

namespace SocksProxy.SessionAccounting

open TransitionSystems RelaySession TcpServer ServerFrames ServerInvariants

def openSessions (s : TcpServer) : ℕ := s.connections.countP Connection.live

def Regular (s : TcpServer) (e : ServerEvent × Sqlite) : Prop :=
  match e.1 with
  | .accept error => error = none ∧ openSessions s < 2 ^ 31 - 1
  | _ => True

structure Accounts (s : TcpServer) : Prop where
  counter : s.sessions.toInt = openSessions s
  pending : ∀ (k : ℕ) (c : Connection), s.connections[k]? = some c →
    c.accepted = true ∨ s.accepting = some k
  room : s.accepting.isSome = true → 0 < s.settings.maxSessions →
    openSessions s < s.settings.maxSessions.toNat
  limit : 0 < s.settings.maxSessions → openSessions s ≤ s.settings.maxSessions.toNat

theorem toInt_increment {a : Int32} {n : ℕ} (h : a.toInt = n) (hn : n < 2 ^ 31 - 1) :
    (a + 1).toInt = (n + 1 : ℕ) := by
  rw [Int32.toInt_add, h, show (1 : Int32).toInt = 1 from rfl]
  rw [Int.bmod_eq_of_le (by omega) (by omega)]
  push_cast
  rfl

theorem toInt_decrement {a : Int32} {n : ℕ} (h : a.toInt = (n + 1 : ℕ)) : (a - 1).toInt = n := by
  have hlt := Int32.toInt_lt a
  rw [Int32.toInt_sub, h, show (1 : Int32).toInt = 1 from rfl]
  rw [Int.bmod_eq_of_le (by omega) (by omega)]
  push_cast
  omega

theorem limitReached_iff {s : TcpServer} (h : s.sessions.toInt = openSessions s) :
    s.limitReached = true ↔ 0 < s.settings.maxSessions ∧ openSessions s = s.settings.maxSessions.toNat := by
  have hnat : s.sessions.toInt64.toUInt64.toNat = openSessions s := by
    rw [Int64.toNat_toUInt64_of_le]
    · rw [← Int64.toNat_toInt, Int32.toInt_toInt64, h, Int.toNat_natCast]
    · rw [Int64.le_iff_toInt_le, Int32.toInt_toInt64, h]
      exact Int.natCast_nonneg _
  simp only [limitReached, Bool.and_eq_true, decide_eq_true_eq, beq_iff_eq, ← UInt64.toNat_inj, hnat]

theorem openSessions_setConnection {s : TcpServer} {k : ℕ} {c : Connection}
    (h : s.connections[k]? = some c) (x : Connection) :
    openSessions (s.setConnection k x) + (if c.live then 1 else 0) =
      openSessions s + if x.live then 1 else 0 :=
  countP_set_add _ x h

theorem Accounts.frame {s t : TcpServer} (h : Accounts s) (hc : t.connections = s.connections)
    (hm : t.settings = s.settings) (hs : t.sessions = s.sessions) (ha : t.accepting = s.accepting) :
    Accounts t where
  counter := by
    rw [openSessions, hc, hs]
    exact h.counter
  pending := by
    rw [hc, ha]
    exact h.pending
  room := by
    rw [openSessions, hc, hm, ha]
    exact h.room
  limit := by
    rw [openSessions, hc, hm]
    exact h.limit

theorem pending_setConnection {s : TcpServer} {k : ℕ} {c x : Connection} {a : Option ℕ}
    (h : ∀ (j : ℕ) (d : Connection), s.connections[j]? = some d → d.accepted = true ∨ a = some j)
    (hk : s.connections[k]? = some c) (ha : x.accepted = c.accepted ∨ x.accepted = true) (j : ℕ)
    (d : Connection) (hd : (s.setConnection k x).connections[j]? = some d) :
    d.accepted = true ∨ a = some j := by
  rcases setConnection_cases hk hd with ⟨rfl, rfl⟩ | ⟨-, hd⟩
  · rcases ha with ha | ha
    · rw [ha]
      exact h j c hk
    · exact .inl ha
  · exact h j d hd

theorem Accounts.set {s : TcpServer} {k : ℕ} {c x : Connection} (h : Accounts s)
    (hk : s.connections[k]? = some c) (ha : x.accepted = c.accepted)
    (hclosed : x.relay.isClosed = c.relay.isClosed) : Accounts (s.setConnection k x) := by
  have hopen : openSessions (s.setConnection k x) = openSessions s := by
    have hcount := openSessions_setConnection hk x
    rw [Connection.live, Connection.live, ha, hclosed] at hcount
    omega
  refine ⟨?_, pending_setConnection h.pending hk (.inl ha), ?_, ?_⟩
  · rw [hopen]
    exact h.counter
  · rw [hopen]
    exact h.room
  · rw [hopen]
    exact h.limit

theorem Accounts.close {s : TcpServer} {k : ℕ} {c : Connection} {r : RelaySession} (q : Sqlite)
    (h : Accounts s) (hk : s.connections[k]? = some c) (ha : s.accepting ≠ some k)
    (hr : r.isClosed = c.relay.isClosed) :
    Accounts ((s.setConnection k { c with relay := r }).closeConnection q k) := by
  have hk' := setConnection_same hk { c with relay := r }
  cases hclosed : r.isClosed with
  | true =>
    rw [closeConnection_closed q hk' hclosed]
    exact h.set hk rfl hr
  | false =>
    have haccepted : c.accepted = true := (h.pending k c hk).resolve_right ha
    have hcount := openSessions_setConnection hk { c with relay := r.shut }
    have hlive : c.live = true := by
      rw [Connection.live, haccepted, ← hr, hclosed]
      rfl
    have hdead : Connection.live { c with relay := r.shut } = false := by
      rw [Connection.live, shut]
      simp
    rw [hlive, hdead, if_pos rfl, if_neg (by simp)] at hcount
    rw [closeConnection_open q hk' hclosed, setConnection_setConnection]
    have hcounter := h.counter
    rw [show openSessions s = openSessions (s.setConnection k { c with relay := r.shut }) + 1 by omega]
      at hcounter
    refine ⟨toInt_decrement hcounter, pending_setConnection h.pending hk (.inl rfl), fun hsome hpos => ?_,
      fun hpos => ?_⟩
    · have hroom := h.room hsome hpos
      change openSessions (s.setConnection k { c with relay := r.shut }) < s.settings.maxSessions.toNat
      omega
    · have hlimit := h.limit hpos
      change openSessions (s.setConnection k { c with relay := r.shut }) ≤ s.settings.maxSessions.toNat
      omega

theorem Accounts.release {s : TcpServer} (q : Sqlite) (k : ℕ) (h : Accounts s) :
    Accounts (s.release q k) := by
  cases hk : s.connections[k]? with
  | none =>
    rw [TcpServer.release, hk]
    exact h
  | some c =>
    rw [release_of q hk]
    split_ifs with href
    · exact h
    · simp only [referenced, Bool.or_eq_true, not_or, beq_iff_eq] at href
      have hclose := h.close q hk (r := c.relay) href.1.1 rfl
      rwa [setConnection_self hk] at hclose

theorem Accounts.awaitClient {s : TcpServer} (h : Accounts s) (ha : s.accepting = none)
    (hl : s.limitReached = false) : Accounts s.awaitClient := by
  have hopen : openSessions s.awaitClient = openSessions s := by
    rw [openSessions, TcpServer.awaitClient, List.countP_append]
    rfl
  refine ⟨?_, fun k c hk => ?_, fun _ hpos => ?_, ?_⟩
  · rw [hopen]
    exact h.counter
  · by_cases hlt : k < s.connections.length
    · have hold : s.connections[k]? = some c := by
        rw [← hk, TcpServer.awaitClient, List.getElem?_append_left hlt]
      rcases h.pending k c hold with haccepted | hnone
      · exact .inl haccepted
      · rw [ha] at hnone
        cases hnone
    · have hlen := (List.getElem?_eq_some_iff.mp hk).1
      rw [TcpServer.awaitClient, List.length_append, List.length_singleton] at hlen
      have hkl : s.connections.length = k := by omega
      rw [TcpServer.awaitClient, hkl]
      exact .inr rfl
  · have hlimit := h.limit hpos
    have hne : openSessions s ≠ s.settings.maxSessions.toNat := by
      intro heq
      rw [(limitReached_iff h.counter).mpr ⟨hpos, heq⟩] at hl
      cases hl
    rw [hopen]
    exact Nat.lt_of_le_of_ne hlimit hne
  · rw [hopen]
    exact h.limit

theorem Accounts.startAccept {s : TcpServer} (q : Sqlite) (k : ℕ) (h : Accounts s)
    (ha : s.accepting = none) : Accounts (s.startAccept q k) := by
  rw [TcpServer.startAccept]
  split_ifs with hl
  · exact h.frame rfl rfl rfl rfl
  · exact (h.awaitClient ha (by simpa using hl)).release q k

theorem Accounts.post {s : TcpServer} {k : ℕ} {c : Connection} (h : Accounts s) (hinv : Inv s)
    (ha : s.accepting = some k) (hk : s.connections[k]? = some c) (hroom : openSessions s < 2 ^ 31 - 1) :
    Accounts (s.post k c) := by
  have hfresh := hinv.fresh ha hk
  have hopen : openSessions (s.post k c) = openSessions s + 1 := by
    have hcount := openSessions_setConnection hk
      { c with relay := c.relay.opened .client, job := .posted, accepted := true }
    have hdead : c.live = false := by
      rw [Connection.live, hfresh.accepted]
      rfl
    have hlive : Connection.live { c with relay := c.relay.opened .client, job := .posted, accepted := true } =
        true := by
      rw [Connection.live, opened, setPeer_isClosed, hfresh.isClosed]
      rfl
    rw [hdead, hlive, if_neg (by simp), if_pos rfl] at hcount
    exact hcount
  refine ⟨?_, fun j d hd => ?_, fun hsome => (by cases hsome), fun hpos => ?_⟩
  · rw [hopen]
    exact toInt_increment h.counter hroom
  · left
    have hpending := pending_setConnection h.pending hk
      (x := { c with relay := c.relay.opened .client, job := .posted, accepted := true }) (.inr rfl) j d hd
    rcases hpending with haccepted | hj
    · exact haccepted
    · rw [ha, Option.some.injEq] at hj
      subst hj
      have hd' := getElem?_setConnection hk
        { c with relay := c.relay.opened .client, job := .posted, accepted := true } k
      rw [if_pos rfl] at hd'
      rw [show (s.post k c).connections[k]? = _ from hd', Option.some.injEq] at hd
      rw [← hd]
  · rw [hopen]
    exact h.room (by rw [ha]; rfl) hpos

theorem accounts_launch (settings : Settings) (table : SessionTable) (issued : List Int64) :
    Accounts (launch settings table issued) := by
  refine Accounts.awaitClient ⟨rfl, fun k c hk => ?_, fun hsome => (by cases hsome), fun _ => Nat.zero_le _⟩ rfl ?_
  · simp at hk
  · rw [Bool.eq_false_iff]
    intro hl
    obtain ⟨hpos, heq⟩ := (limitReached_iff rfl).mp hl
    have hlt := UInt64.lt_iff_toNat_lt.mp hpos
    rw [← heq] at hlt
    exact Nat.lt_irrefl 0 hlt

theorem accounts_step {q : Sqlite} {s t : TcpServer} {e : ServerEvent} (h : Accounts s) (hinv : Inv s)
    (hregular : Regular s (e, q)) (ht : s.step q e = some t) : Accounts t := by
  cases e with
  | accept error =>
    obtain ⟨rfl, hroom⟩ := hregular
    obtain ⟨k, c, -, ha, hk, rfl⟩ := step_accept ht
    exact (h.post hinv ha hk hroom).startAccept q k rfl
  | spin =>
    obtain ⟨k, hio, hl, rfl⟩ := step_spin ht
    exact (h.awaitClient (hinv.unaccepting hio) hl).release q k
  | begin k =>
    obtain ⟨c, hk, -, rfl⟩ := upon_eq_some.mp ht
    exact h.set hk rfl rfl
  | createProxy k =>
    obtain ⟨c, hk, -, rfl⟩ := upon_eq_some.mp ht
    exact h.set hk rfl rfl
  | init k record =>
    obtain ⟨c, hk, -, rfl⟩ := upon_eq_some.mp ht
    rw [initialise]
    split
    · refine Accounts.frame (h.set hk (x := _) ?_ ?_) rfl rfl rfl rfl <;> rfl
    · refine Accounts.frame (h.set hk (x := _) ?_ ?_) rfl rfl rfl rfl <;> rfl
  | clientRead k =>
    obtain ⟨c, hk, -, rfl⟩ := upon_eq_some.mp ht
    exact h.set hk rfl (kept_startRead c.relay .client).isClosed
  | serverRead k =>
    obtain ⟨c, hk, -, rfl⟩ := upon_eq_some.mp ht
    apply Accounts.release
    exact h.set hk rfl (kept_startRead c.relay .server).isClosed
  | stop k =>
    obtain ⟨c, hk, -, rfl⟩ := upon_eq_some.mp ht
    apply Accounts.release
    exact h.set hk rfl rfl
  | socket k e =>
    obtain ⟨c, r, hk, hr, rfl⟩ := step_socket ht
    exact h.set hk rfl (socketStep_kept hr).1.isClosed
  | dispatch k d o =>
    obtain ⟨-, c, hk, hread, hd⟩ := step_dispatch ht
    have ha : s.accepting ≠ some k := hinv.not_accepting hk fun hfresh => hread (hfresh.reads d)
    cases hd with
    | closed r hr => exact (h.close q hk ha hr.isClosed).release q k
    | relayed r n b hr =>
      obtain ⟨x, hx, -⟩ := performAll_writeStat (s := s.setConnection k { c with relay := r }) q r n b
      rw [hx]
      apply Accounts.release
      have hset : Accounts (s.setConnection k { c with relay := r }) := h.set hk rfl hr.isClosed
      exact hset.frame rfl rfl rfl rfl

theorem failed_accept_undercounts {q : Sqlite} {s t : TcpServer} {err : ErrorCode} (h : Accounts s)
    (hinv : Inv s) (ht : s.step q (.accept (some err)) = some t) :
    t.sessions.toInt = openSessions t - 1 := by
  obtain ⟨k, c, -, ha, hk, rfl⟩ := step_accept ht
  have hfresh := hinv.fresh ha hk
  rw [if_neg (by simp)]
  have hl : TcpServer.limitReached { s with accepting := none } = false := by
    rw [Bool.eq_false_iff]
    intro hl
    obtain ⟨hpos, heq⟩ := (limitReached_iff h.counter).mp hl
    have hroom := h.room (by rw [ha]; rfl) hpos
    exact absurd heq (Nat.ne_of_lt hroom)
  rw [startAccept, hl, if_neg (by simp)]
  have hlt := (List.getElem?_eq_some_iff.mp hk).1
  have hk' : (TcpServer.awaitClient { s with accepting := none }).connections[k]? = some c := by
    rw [awaitClient, List.getElem?_append_left hlt]
    exact hk
  have href : (TcpServer.awaitClient { s with accepting := none }).referenced k c = false := by
    have hclient : c.relay.client.read = .idle := hfresh.reads .client
    have hserver : c.relay.server.read = .idle := hfresh.reads .server
    have hne : s.connections.length ≠ k := by omega
    simp [referenced, awaitClient, Connection.held, hfresh.job, hclient, hserver, hne, Job.early, Job.running]
  rw [release_of q hk', href, if_neg (by simp), closeConnection_open q hk' hfresh.isClosed]
  have hcount := openSessions_setConnection hk' { c with relay := c.relay.shut }
  have hdead : c.live = false := by
    rw [Connection.live, hfresh.accepted]
    rfl
  have hdead' : Connection.live { c with relay := c.relay.shut } = false := by
    rw [Connection.live, hfresh.accepted]
    rfl
  have hawait : openSessions (TcpServer.awaitClient { s with accepting := none }) = openSessions s := by
    rw [openSessions, awaitClient, List.countP_append]
    rfl
  rw [hdead, hdead', hawait] at hcount
  have hcounter := h.counter
  change (s.sessions - 1).toInt = (openSessions ((TcpServer.awaitClient { s with accepting := none }).setConnection k
    { c with relay := c.relay.shut }) : ℤ) - 1
  rw [Int32.toInt_sub, hcounter, show (1 : Int32).toInt = 1 from rfl]
  have hbound := Int32.toInt_lt s.sessions
  rw [Int.bmod_eq_of_le (by omega) (by omega)]
  simp only [Bool.false_eq_true, if_false, Nat.add_zero] at hcount
  rw [hcount]

theorem counter_counts {settings : Settings} {table : SessionTable} {issued : List Int64}
    {es : List (ServerEvent × Sqlite)} {s : TcpServer}
    (hregular : machine.Along Regular (launch settings table issued) es)
    (hrun : machine.run (launch settings table issued) es = some s) :
    s.sessions.toInt = openSessions s ∧ 0 ≤ s.sessions.toInt ∧
      (0 < s.settings.maxSessions → openSessions s ≤ s.settings.maxSessions.toNat) := by
  have hstep : ∀ s e t, Inv s ∧ Accounts s → Regular s e → machine.step s e = some t → Inv t ∧ Accounts t := by
    rintro s ⟨e, q⟩ t ⟨hinv, hs⟩ he ht
    exact ⟨inv_step hinv ht, accounts_step hs hinv he ht⟩
  have h := (Machine.invariant_along hstep
    ⟨inv_launch settings table issued, accounts_launch settings table issued⟩ hregular hrun).2
  refine ⟨h.counter, ?_, h.limit⟩
  rw [h.counter]
  exact Int.natCast_nonneg _

def visit : List (ServerEvent × Sqlite) :=
  [(.accept none, .quiet), (.begin 0, .quiet), (.stop 0, .quiet), (.accept none, .quiet)]

theorem counter_counts_visit : ∃ s, machine.run (launch ⟨2, 4, 8⟩ .empty []) visit = some s ∧
    s.sessions.toInt = openSessions s ∧ 0 ≤ s.sessions.toInt ∧
    (0 < s.settings.maxSessions → openSessions s ≤ s.settings.maxSessions.toNat) := by
  obtain ⟨s, hrun⟩ : ∃ s, machine.run (launch ⟨2, 4, 8⟩ .empty []) visit = some s := ⟨_, rfl⟩
  refine ⟨s, hrun, counter_counts ?_ hrun⟩
  apply Machine.along_cons_of ⟨rfl, by decide⟩ rfl
  apply Machine.along_cons_of trivial rfl
  apply Machine.along_cons_of trivial rfl
  exact Machine.along_cons_of ⟨rfl, by decide⟩ rfl trivial

theorem failed_accept_negative : ∃ s,
    machine.run (launch ⟨2, 4, 8⟩ .empty []) [(.accept (some .connectionAborted), .quiet)] = some s ∧
      s.sessions.toInt = -1 ∧ openSessions s = 0 := ⟨_, rfl, by decide, by decide⟩

end SocksProxy.SessionAccounting
