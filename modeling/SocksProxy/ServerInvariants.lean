import SocksProxy.ServerFrames

namespace SocksProxy.ServerInvariants

open TransitionSystems RelaySession TcpServer ServerFrames

structure Fresh (c : Connection) : Prop where
  job : c.job = .absent
  accepted : c.accepted = false
  isClosed : c.relay.isClosed = false
  reads : ∀ d, (c.relay.peer d).read = .idle
  socks : c.relay.socks = none
  returned : c.returned = none

structure Consistent (c : Connection) : Prop where
  early : c.job.early = true → c.relay.isClosed = false ∧ ∀ d, (c.relay.peer d).read = .idle
  reading : c.job = .reading → c.relay.isClosed = true ∨ c.relay.client.read ≠ .idle
  socket : c.job ≠ .absent → c.relay.isClosed = false → c.relay.client.isOpen = true

structure Inv (s : TcpServer) : Prop where
  each : ∀ (k : ℕ) (c : Connection), s.connections[k]? = some c → Consistent c
  threads : s.running ≤ s.settings.poolThreads
  accepting : ∀ k, s.accepting = some k → s.io = .idle ∧ ∃ c, s.connections[k]? = some c ∧ Fresh c

theorem Inv.fresh {s : TcpServer} {k : ℕ} {c : Connection} (h : Inv s) (ha : s.accepting = some k)
    (hk : s.connections[k]? = some c) : Fresh c := by
  obtain ⟨-, d, hd, hfresh⟩ := h.accepting k ha
  rw [hk, Option.some.injEq] at hd
  rwa [hd]

theorem Inv.unaccepting {s : TcpServer} {k : ℕ} (h : Inv s) (hio : s.io = .waiting k) : s.accepting = none := by
  cases ha : s.accepting with
  | none => rfl
  | some j =>
    rw [(h.accepting j ha).1] at hio
    cases hio

theorem Fresh.consistent {c : Connection} (h : Fresh c) : Consistent c := by
  refine ⟨fun he => ?_, fun hr => ?_, fun hj => absurd h.job hj⟩
  · rw [h.job] at he
    cases he
  · rw [h.job] at hr
    cases hr

theorem Inv.frame {s t : TcpServer} (h : Inv s) (hc : t.connections = s.connections)
    (hs : t.settings = s.settings) (hio : t.io = s.io) (ha : t.accepting = s.accepting) : Inv t where
  each := by
    rw [hc]
    exact h.each
  threads := by
    rw [running, hc, hs]
    exact h.threads
  accepting := by
    rw [hc, hio, ha]
    exact h.accepting

theorem Inv.set {s : TcpServer} {k : ℕ} {c x : Connection} (h : Inv s) (hk : s.connections[k]? = some c)
    (hc : Consistent x) (ht : x.job.running = true → c.job.running = true ∨ s.running < s.settings.poolThreads)
    (ha : s.accepting = some k → Fresh x) : Inv (s.setConnection k x) where
  each j d hd := by
    rcases setConnection_cases hk hd with ⟨-, rfl⟩ | ⟨-, hd⟩
    · exact hc
    · exact h.each j d hd
  threads := by
    have hthreads := h.threads
    have hrunning := running_setConnection hk x
    rw [setConnection_settings]
    by_cases hr' : x.job.running = true
    · rcases ht hr' with hr | hr
      · rw [if_pos hr', if_pos hr] at hrunning
        omega
      · rw [if_pos hr'] at hrunning
        omega
    · rw [if_neg hr'] at hrunning
      omega
  accepting j hj := by
    obtain ⟨hio, d, hd, hfresh⟩ := h.accepting j hj
    refine ⟨hio, ?_⟩
    by_cases hjk : j = k
    · subst hjk
      exact ⟨x, setConnection_same hk x, ha hj⟩
    · exact ⟨d, (setConnection_other hk x hjk).trans hd, hfresh⟩

theorem Inv.close {s : TcpServer} {k : ℕ} {c : Connection} {r : RelaySession} (q : Sqlite) (h : Inv s)
    (hk : s.connections[k]? = some c) (hearly : c.job.early = false) (ha : s.accepting ≠ some k) :
    Inv ((s.setConnection k { c with relay := r }).closeConnection q k) := by
  have hk' := setConnection_same hk { c with relay := r }
  have hshut : ∀ r' : RelaySession, r'.isClosed = true → Inv (s.setConnection k { c with relay := r' }) := by
    intro r' hr'
    apply h.set hk
    · refine ⟨fun he => ?_, fun _ => .inl hr', fun _ hopen => ?_⟩
      · rw [hearly] at he
        cases he
      · rw [hr'] at hopen
        cases hopen
    · exact .inl
    · intro hacc
      exact absurd hacc ha
  cases hr : r.isClosed with
  | true =>
    rw [closeConnection_closed q hk' hr]
    exact hshut r hr
  | false =>
    rw [closeConnection_open q hk' hr, setConnection_setConnection]
    exact (hshut r.shut rfl).frame rfl rfl rfl rfl

theorem Inv.release {s : TcpServer} (q : Sqlite) (k : ℕ) (h : Inv s) : Inv (s.release q k) := by
  cases hk : s.connections[k]? with
  | none =>
    rw [TcpServer.release, hk]
    exact h
  | some c =>
    rw [release_of q hk]
    split_ifs with href
    · exact h
    · simp only [referenced, Connection.held, Bool.or_eq_true, not_or, beq_iff_eq, Bool.not_eq_true] at href
      have hclose := h.close q hk (r := c.relay) href.2.1.1.1 href.1.1
      rwa [setConnection_self hk] at hclose

theorem Inv.awaitClient {s : TcpServer} (h : Inv s) : Inv s.awaitClient := by
  have hfresh : Fresh { relay := { client := { buffer := List.replicate s.settings.bufferSize 0 },
                                   server := { buffer := List.replicate s.settings.bufferSize 0 } } } :=
    ⟨rfl, rfl, rfl, fun d => by cases d <;> rfl, rfl, rfl⟩
  refine ⟨fun k c hk => ?_, ?_, fun k hk => ⟨rfl, ?_⟩⟩
  · rcases List.mem_append.mp (List.mem_of_getElem? hk) with hmem | hmem
    · obtain ⟨j, hj⟩ := List.getElem?_of_mem hmem
      exact h.each j c hj
    · rw [List.mem_singleton.mp hmem]
      exact hfresh.consistent
  · have hrunning : s.awaitClient.running = s.running := by
      rw [running, TcpServer.awaitClient, List.countP_append]
      rfl
    rw [hrunning]
    exact h.threads
  · cases hk
    exact ⟨_, List.getElem?_concat_length, hfresh⟩

theorem Inv.startAccept {s : TcpServer} (q : Sqlite) (k : ℕ) (h : Inv s) (ha : s.accepting = none) :
    Inv (s.startAccept q k) := by
  rw [TcpServer.startAccept]
  split_ifs
  · refine ⟨h.each, h.threads, fun j hj => ?_⟩
    rw [show s.accepting = some j from hj] at ha
    cases ha
  · exact h.awaitClient.release q k

theorem Inv.post {s : TcpServer} {k : ℕ} {c : Connection} (h : Inv s) (ha : s.accepting = some k)
    (hk : s.connections[k]? = some c) : Inv (s.post k c) := by
  have hfresh := h.fresh ha hk
  have hnone : Inv { s with accepting := none } := ⟨h.each, h.threads, fun j hj => by cases hj⟩
  have hset := hnone.set hk (x := { c with relay := c.relay.opened .client, job := .posted, accepted := true })
    ⟨fun _ => ⟨hfresh.isClosed, fun e => ?_⟩, fun hr => (by cases hr), fun _ _ => rfl⟩
    (fun hr => by cases hr) (fun hacc => by cases hacc)
  · exact hset.frame rfl rfl rfl rfl
  · cases e
    · exact hfresh.reads .client
    · exact hfresh.reads .server

theorem inv_launch (settings : Settings) (table : SessionTable) (issued : List Int64) :
    Inv (launch settings table issued) := by
  apply Inv.awaitClient
  refine ⟨fun k c hk => ?_, Nat.zero_le _, fun k hk => by cases hk⟩
  simp at hk

theorem Consistent.ending {c : Connection} {r : RelaySession} (h : Consistent c) (hj : c.job ≠ .absent)
    (hr : Kept c.relay r) : Consistent { c with relay := r, job := .done } := by
  refine ⟨fun he => ?_, fun hd => ?_, fun _ hopen => ?_⟩
  · cases he
  · cases hd
  · rw [← h.socket hj (hr.isClosed.symm.trans hopen)]
    exact hr.isOpen .client

theorem Consistent.starting {c : Connection} {r : RelaySession} {j : Job} (h : Consistent c)
    (hearly : c.job.early = true) (hjob : j.early = true) (hclosed : r.isClosed = c.relay.isClosed)
    (hclient : r.client = c.relay.client) (hserver : r.server.read = c.relay.server.read) :
    Consistent { c with relay := r, job := j } := by
  have habsent : c.job ≠ .absent := by
    intro hj
    rw [hj] at hearly
    cases hearly
  refine ⟨fun _ => ⟨hclosed.trans (h.early hearly).1, fun d => ?_⟩, fun hr => ?_, fun _ hopen => ?_⟩
  · cases d with
    | client => exact (congrArg Peer.read hclient).trans ((h.early hearly).2 .client)
    | server => exact hserver.trans ((h.early hearly).2 .server)
  · rw [show j = .reading from hr] at hjob
    cases hjob
  · exact (congrArg Peer.isOpen hclient).trans (h.socket habsent (h.early hearly).1)

theorem Fresh.socketStep {bufferSize : ℕ} {c : Connection} {r : RelaySession} {e : SocketEvent}
    (h : Fresh c) (hr : c.relay.socketStep bufferSize e = some r) : Fresh { c with relay := r } := by
  obtain ⟨hkept, hread⟩ := socketStep_kept hr
  exact ⟨h.job, h.accepted, hkept.isClosed.trans h.isClosed, fun d => (hread d).mpr (h.reads d),
    hkept.socks.trans h.socks, h.returned⟩

theorem Consistent.socketStep {bufferSize : ℕ} {c : Connection} {r : RelaySession} {e : SocketEvent}
    (h : Consistent c) (hr : c.relay.socketStep bufferSize e = some r) :
    Consistent { c with relay := r } := by
  obtain ⟨hkept, hread⟩ := socketStep_kept hr
  refine ⟨fun he => ?_, fun hj => ?_, fun hj hopen => ?_⟩
  · exact ⟨hkept.isClosed.trans (h.early he).1, fun d => (hread d).mpr ((h.early he).2 d)⟩
  · rcases h.reading hj with hclosed | hidle
    · exact .inl (hkept.isClosed.trans hclosed)
    · exact .inr fun hr => hidle ((hread .client).mp hr)
  · exact (hkept.isOpen .client).trans (h.socket hj (hkept.isClosed.symm.trans hopen))

theorem Inv.not_accepting {s : TcpServer} {k : ℕ} {c : Connection} (h : Inv s)
    (hk : s.connections[k]? = some c) (hf : ¬Fresh c) : s.accepting ≠ some k := by
  intro ha
  exact hf (h.fresh ha hk)

theorem Inv.advance {s : TcpServer} {k : ℕ} {c x : Connection} (h : Inv s) (hk : s.connections[k]? = some c)
    (hj : c.job ≠ .absent) (hc : Consistent x)
    (ht : x.job.running = true → c.job.running = true ∨ s.running < s.settings.poolThreads) :
    Inv (s.setConnection k x) := by
  apply h.set hk hc ht
  intro ha
  exact absurd ha (h.not_accepting hk fun hfresh => hj hfresh.job)

theorem inv_dispatch {q : Sqlite} {s t : TcpServer} {k : ℕ} {d : Side} {o : WriteOutcome} (h : Inv s)
    (ht : s.step q (.dispatch k d o) = some t) : Inv t := by
  obtain ⟨-, c, hk, hread, hd⟩ := step_dispatch ht
  have hc := h.each k c hk
  have hearly : c.job.early = false := by
    cases he : c.job.early with
    | false => rfl
    | true => exact absurd ((hc.early he).2 d) hread
  have ha : s.accepting ≠ some k := h.not_accepting hk fun hfresh => hread (hfresh.reads d)
  cases hd with
  | closed r hr => exact (h.close q hk hearly ha).release q k
  | relayed r n b hr hserver hclient =>
    obtain ⟨x, hx, -⟩ := performAll_writeStat (s := s.setConnection k { c with relay := r }) q r n b
    rw [hx]
    apply Inv.release
    refine (h.set hk (x := { c with relay := r }) ⟨fun he => ?_, fun hj => ?_, fun hj hopen => ?_⟩
      .inl fun hacc => absurd hacc ha).frame rfl rfl rfl rfl
    · rw [hearly] at he
      cases he
    · have hj' : c.job ≠ .absent := by
        rw [hj]
        decide
      cases hclosed : r.isClosed with
      | true => exact .inl rfl
      | false =>
        have hopen := hc.socket hj' (hr.isClosed.symm.trans hclosed)
        cases d with
        | client =>
          rw [hclient rfl ((hr.isOpen .client).trans hopen)]
          exact .inr (by decide)
        | server =>
          rw [hserver rfl]
          rcases hc.reading hj with hcl | hidle
          · rw [← hr.isClosed, hclosed] at hcl
            cases hcl
          · exact .inr hidle
    · exact (hr.isOpen .client).trans (hc.socket hj (hr.isClosed.symm.trans hopen))

theorem inv_initialise {q : Sqlite} {s : TcpServer} {k : ℕ} {c : Connection} {record : Session}
    (h : Inv s) (hk : s.connections[k]? = some c) (hj : c.job = .negotiating) :
    Inv (s.initialise q k record c) := by
  have hset : ∀ r : RelaySession, ∀ returned, r.isClosed = c.relay.isClosed → r.client = c.relay.client →
      r.server.read = c.relay.server.read →
      Inv (s.setConnection k { c with relay := r, job := .initialised, returned := returned }) := by
    intro r returned hclosed hclient hserver
    have hc := (h.each k c hk).starting (j := .initialised) (by rw [hj]; rfl) rfl hclosed hclient hserver
    apply h.advance hk (by rw [hj]; decide)
    · exact ⟨hc.early, hc.reading, hc.socket⟩
    · intro _
      exact .inl (by rw [hj]; rfl)
  rw [initialise]
  split
  · exact (hset { c.relay.opened .server with socks := some _ } _ rfl rfl rfl).frame rfl rfl rfl rfl
  · exact (hset (c.relay.opened .server) c.returned rfl rfl rfl).frame rfl rfl rfl rfl

theorem inv_step {q : Sqlite} {s t : TcpServer} {e : ServerEvent} (h : Inv s)
    (ht : s.step q e = some t) : Inv t := by
  cases e with
  | accept error =>
    obtain ⟨k, c, -, ha, hk, rfl⟩ := step_accept ht
    cases error with
    | none => exact (h.post ha hk).startAccept q k rfl
    | some err =>
      have hnone : Inv { s with accepting := none } := ⟨h.each, h.threads, fun j hj => by cases hj⟩
      exact hnone.startAccept q k rfl
  | spin =>
    obtain ⟨k, -, -, rfl⟩ := step_spin ht
    exact h.awaitClient.release q k
  | begin k =>
    obtain ⟨c, hk, hp, rfl⟩ := upon_eq_some.mp ht
    simp only [Bool.and_eq_true, beq_iff_eq, decide_eq_true_eq] at hp
    apply h.advance hk (by rw [hp.1]; decide)
    · exact (h.each k c hk).starting (j := .negotiating) (by rw [hp.1]; rfl) rfl rfl rfl rfl
    · intro _
      exact .inr hp.2
  | createProxy k =>
    obtain ⟨c, hk, hp, rfl⟩ := upon_eq_some.mp ht
    simp only [Bool.and_eq_true, beq_iff_eq] at hp
    apply h.advance hk (by rw [hp.1]; decide)
    · exact (h.each k c hk).starting (j := c.job) (r := { c.relay with socks := some 0 })
        (by rw [hp.1]; rfl) (by rw [hp.1]; rfl) rfl rfl rfl
    · exact .inl
  | init k record =>
    obtain ⟨c, hk, hp, rfl⟩ := upon_eq_some.mp ht
    simp only [Bool.and_eq_true, beq_iff_eq] at hp
    exact inv_initialise h hk hp.1
  | clientRead k =>
    obtain ⟨c, hk, hp, rfl⟩ := upon_eq_some.mp ht
    simp only [beq_iff_eq] at hp
    have hc := h.each k c hk
    have hopen := hc.socket (by rw [hp]; decide) (hc.early (by rw [hp]; rfl)).1
    have hkept : Kept c.relay c.relay.clientRead := kept_startRead c.relay .client
    apply h.advance hk (by rw [hp]; decide)
    · refine ⟨fun he => (by cases he), fun _ => .inr ?_, fun _ _ => (hkept.isOpen .client).trans hopen⟩
      rw [show c.relay.clientRead.client.read = .pending from startRead_client hopen]
      decide
    · intro _
      exact .inl (by rw [hp]; rfl)
  | serverRead k =>
    obtain ⟨c, hk, hp, rfl⟩ := upon_eq_some.mp ht
    simp only [beq_iff_eq] at hp
    have hj : c.job ≠ .absent := by
      rw [hp]
      decide
    apply Inv.release
    apply h.advance hk hj ((h.each k c hk).ending hj (kept_startRead c.relay .server))
    intro hr
    cases hr
  | stop k =>
    obtain ⟨c, hk, hp, rfl⟩ := upon_eq_some.mp ht
    have hj : c.job ≠ .absent := by
      intro hj
      rw [hj] at hp
      cases hp
    apply Inv.release
    apply h.advance hk hj ((h.each k c hk).ending hj (.refl c.relay))
    intro hr
    cases hr
  | socket k e =>
    obtain ⟨c, r, hk, hr, rfl⟩ := step_socket ht
    apply h.set hk ((h.each k c hk).socketStep hr)
    · exact .inl
    · intro ha
      exact (h.fresh ha hk).socketStep hr
  | dispatch k d o => exact inv_dispatch h ht

theorem inv_run {s t : TcpServer} {es : List (ServerEvent × Sqlite)} (h : Inv s)
    (hrun : machine.run s es = some t) : Inv t := by
  have hstep : ∀ s e t, Inv s → machine.step s e = some t → Inv t := by
    intro s e t hs ht
    exact inv_step hs ht
  exact Machine.invariant hstep h hrun

end SocksProxy.ServerInvariants
