import SocksProxy.SessionLifetimes
import SocksProxy.ServerInvariants

namespace SocksProxy.ServerLifetimes

open StatefulPrograms TransitionSystems RelaySession TcpServer Lifetime ServerFrames ServerInvariants

def Lived (bufferSize : ℕ) (c : Connection) (destroyed : Bool) : Prop :=
  ∃ es l, (Lifetime.machine bufferSize).run (constructed bufferSize) es = some l ∧ l.connection = c ∧
    l.destroyed = destroyed

def Alive (s : TcpServer) (k : ℕ) : Prop :=
  ∀ c, s.connections[k]? = some c → Lived s.settings.bufferSize c (!s.referenced k c)

structure Lives (s : TcpServer) : Prop where
  each : ∀ k, Alive s k

structure Stepping (s : TcpServer) (k : ℕ) : Prop where
  others : ∀ j, j ≠ k → Alive s j
  stepped : ∀ c, s.connections[k]? = some c → Lived s.settings.bufferSize c false

theorem Lived.step {bufferSize : ℕ} {c c' : Connection} {b b' : Bool} (e : LifetimeEvent)
    (h : Lived bufferSize c b) (hstep : ∀ l : Lifetime, l.connection = c → l.destroyed = b →
      ∃ l', l.step bufferSize e = some l' ∧ l'.connection = c' ∧ l'.destroyed = b') :
    Lived bufferSize c' b' := by
  obtain ⟨es, l, hrun, hc, hb⟩ := h
  obtain ⟨l', hs, hc', hb'⟩ := hstep l hc hb
  exact ⟨es ++ [e], l', Machine.run_concat_of _ hrun hs, hc', hb'⟩

theorem lived_constructed (bufferSize : ℕ) : Lived bufferSize (constructed bufferSize).connection false :=
  ⟨[], _, rfl, rfl, rfl⟩

theorem Lived.upon {bufferSize : ℕ} {c c' : Connection} {b : Bool} (e : LifetimeEvent)
    {p : Connection → Bool} {f : Lifetime → Connection → Lifetime} (h : Lived bufferSize c false)
    (he : ∀ l : Lifetime, l.step bufferSize e = l.upon p (f l)) (hp : p c = true)
    (hf : ∀ l : Lifetime, l.connection = c → l.destroyed = false →
      (f l c).connection = c' ∧ (f l c).destroyed = b) : Lived bufferSize c' b := by
  refine h.step e ?_
  rintro l rfl hd
  exact ⟨_, (he l).trans (SessionLifetimes.upon_eq_some.mpr ⟨hd, hp, rfl⟩), hf l rfl hd⟩

theorem Lived.destroy {bufferSize : ℕ} {c : Connection} (h : Lived bufferSize c false) (hc : c.held = false) :
    Lived bufferSize { c with relay := c.relay.close.1 } true := by
  apply h.upon .destroy (fun _ => by rw [Lifetime.step])
  · rw [hc]
    rfl
  · rintro l rfl hd
    exact ⟨rfl, rfl⟩

theorem Lived.dispatch {bufferSize : ℕ} {c : Connection} {d : Side} {o : WriteOutcome}
    {x : RelaySession × List Effect} (h : Lived bufferSize c false) (hx : c.relay.dispatch d o = some x) :
    Lived bufferSize { c with relay := x.1 } false := by
  refine h.step (.dispatch d o) ?_
  rintro l rfl hd
  refine ⟨l.handled x, ?_, rfl, hd⟩
  simp only [Lifetime.step, hd, hx]
  rfl

theorem Lived.socket {bufferSize : ℕ} {c : Connection} {b : Bool} {e : SocketEvent} {r : RelaySession}
    (h : Lived bufferSize c b) (hr : c.relay.socketStep bufferSize e = some r) :
    Lived bufferSize { c with relay := r } b := by
  refine h.step (.socket e) ?_
  rintro l rfl hd
  refine ⟨l.setConnection { l.connection with relay := r }, ?_, rfl, hd⟩
  simp only [Lifetime.step, hr]
  rfl

structure Undisturbed (s t : TcpServer) : Prop where
  connections : t.connections = s.connections
  settings : t.settings = s.settings
  accepting : t.accepting = s.accepting
  io : t.io = s.io

theorem undisturbed_perform (q : Sqlite) (s : TcpServer) (e : Effect) : Undisturbed s (s.perform q e) := by
  cases e <;> exact ⟨rfl, rfl, rfl, rfl⟩

theorem undisturbed_performAll (q : Sqlite) (s : TcpServer) (effects : List Effect) :
    Undisturbed s (s.performAll q effects) := by
  induction effects generalizing s with
  | nil => exact ⟨rfl, rfl, rfl, rfl⟩
  | cons e effects ih =>
    have hhead := undisturbed_perform q s e
    have htail := ih (s.perform q e)
    exact ⟨htail.connections.trans hhead.connections, htail.settings.trans hhead.settings,
      htail.accepting.trans hhead.accepting, htail.io.trans hhead.io⟩

theorem Undisturbed.referenced {s t : TcpServer} (h : Undisturbed s t) (k : ℕ) (c : Connection) :
    t.referenced k c = s.referenced k c := by
  rw [TcpServer.referenced, h.accepting, h.io]
  rfl

theorem Undisturbed.alive {s t : TcpServer} {k : ℕ} (h : Undisturbed s t) (hs : Alive s k) : Alive t k := by
  intro c hk
  rw [h.connections] at hk
  rw [h.settings, h.referenced]
  exact hs c hk

theorem Stepping.undisturbed {s t : TcpServer} {k : ℕ} (h : Stepping s k) (ht : Undisturbed s t) :
    Stepping t k where
  others j hj := ht.alive (h.others j hj)
  stepped c hk := by
    rw [ht.connections] at hk
    rw [ht.settings]
    exact h.stepped c hk

theorem Lives.undisturbed {s t : TcpServer} (h : Lives s) (ht : Undisturbed s t) : Lives t :=
  ⟨fun k => ht.alive (h.each k)⟩

theorem Alive.set {s : TcpServer} {j k : ℕ} {c : Connection} (h : Alive s j) (hk : s.connections[k]? = some c)
    (x : Connection) (hjk : j ≠ k) : Alive (s.setConnection k x) j := by
  intro d hj
  rw [setConnection_other hk x hjk] at hj
  exact h d hj

theorem Lives.set {s : TcpServer} {k : ℕ} {c x : Connection} (h : Lives s) (hk : s.connections[k]? = some c)
    (hx : Lived s.settings.bufferSize x (!s.referenced k x)) : Lives (s.setConnection k x) := by
  refine ⟨fun j => ?_⟩
  by_cases hjk : j = k
  · subst hjk
    intro d hd
    rw [setConnection_same hk, Option.some.injEq] at hd
    subst hd
    exact hx
  · exact (h.each j).set hk x hjk

theorem Lives.stepping {s : TcpServer} {k : ℕ} {c x : Connection} (h : Lives s) (hk : s.connections[k]? = some c)
    (hx : Lived s.settings.bufferSize x false) : Stepping (s.setConnection k x) k where
  others j hj := (h.each j).set hk x hj
  stepped d hd := by
    rw [setConnection_same hk, Option.some.injEq] at hd
    subst hd
    exact hx

theorem held_close {c : Connection} (h : c.held = false) :
    Connection.held { c with relay := c.relay.close.1 } = false := by
  simp only [Connection.held, Bool.or_eq_false_iff, bne_eq_false_iff_eq] at h ⊢
  have hclient : (c.relay.close.1.peer .client).read = .idle := close_idle h.1.2
  have hserver : (c.relay.close.1.peer .server).read = .idle := close_idle h.2
  exact ⟨⟨h.1.1, hclient⟩, hserver⟩

theorem Stepping.lives {s : TcpServer} {k : ℕ} (h : Stepping s k)
    (href : ∀ c, s.connections[k]? = some c → s.referenced k c = true) : Lives s := by
  refine ⟨fun j => ?_⟩
  by_cases hjk : j = k
  · subst hjk
    intro c hc
    rw [href c hc]
    exact h.stepped c hc
  · exact h.others j hjk

theorem Stepping.close {s : TcpServer} {k : ℕ} {c : Connection} (q : Sqlite) (h : Stepping s k)
    (hk : s.connections[k]? = some c) (href : s.referenced k c = false) : Lives (s.closeConnection q k) := by
  have hheld : c.held = false := (Bool.or_eq_false_iff.mp href).2
  have hgone : (s.setConnection k { c with relay := c.relay.close.1 }).referenced k
      { c with relay := c.relay.close.1 } = false := by
    rw [TcpServer.referenced, setConnection_accepting, setConnection_io, held_close hheld]
    rw [TcpServer.referenced, hheld] at href
    exact href
  simp only [TcpServer.closeConnection, hk]
  refine ⟨fun j => (undisturbed_performAll q _ _).alive ?_⟩
  by_cases hjk : j = k
  · subst hjk
    intro d hd
    rw [setConnection_same hk, Option.some.injEq] at hd
    subst hd
    rw [hgone]
    exact (h.stepped c hk).destroy hheld
  · exact (h.others j hjk).set hk _ hjk

theorem Stepping.release {s : TcpServer} {k : ℕ} (q : Sqlite) (h : Stepping s k) : Lives (s.release q k) := by
  cases hk : s.connections[k]? with
  | none =>
    rw [TcpServer.release, hk]
    apply h.lives
    intro c hc
    rw [hk] at hc
    cases hc
  | some c =>
    rw [release_of q hk]
    split_ifs with href
    · apply h.lives
      intro d hd
      rw [hk, Option.some.injEq] at hd
      rwa [← hd]
    · exact h.close q hk (by simpa using href)

theorem referenced_held {s : TcpServer} {k : ℕ} (ha : s.accepting ≠ some k) (hio : s.io ≠ .waiting k)
    (c : Connection) : s.referenced k c = c.held := by
  simp [TcpServer.referenced, ha, hio]

theorem awaitClient_cases {s : TcpServer} {j : ℕ} {c : Connection} (h : s.awaitClient.connections[j]? = some c) :
    (j < s.connections.length ∧ s.connections[j]? = some c) ∨
      (j = s.connections.length ∧ c = (constructed s.settings.bufferSize).connection) := by
  have hlen := (List.getElem?_eq_some_iff.mp h).1
  rw [TcpServer.awaitClient, List.length_append, List.length_singleton] at hlen
  by_cases hj : j < s.connections.length
  · rw [TcpServer.awaitClient, List.getElem?_append_left hj] at h
    exact .inl ⟨hj, h⟩
  · obtain rfl : j = s.connections.length := by omega
    have hnew : s.awaitClient.connections[s.connections.length]? =
        some (constructed s.settings.bufferSize).connection := List.getElem?_concat_length
    rw [hnew, Option.some.injEq] at h
    exact .inr ⟨rfl, h.symm⟩

theorem Stepping.awaitClient {s : TcpServer} {k : ℕ} (h : Stepping s k) (ha : s.accepting = none)
    (hio : ∀ j, j ≠ k → s.io ≠ .waiting j) : Stepping s.awaitClient k := by
  refine ⟨fun j hjk c hc => ?_, fun c hc => ?_⟩
  · rcases awaitClient_cases hc with ⟨hlt, hc⟩ | ⟨rfl, rfl⟩
    · have hlived := h.others j hjk c hc
      rw [referenced_held (by simp [ha]) (hio j hjk)] at hlived
      rw [referenced_held ?_ (by simp [TcpServer.awaitClient])]
      · exact hlived
      · simp only [TcpServer.awaitClient, ne_eq, Option.some.injEq]
        omega
    · have href : s.awaitClient.referenced s.connections.length (constructed s.settings.bufferSize).connection =
          true := by
        simp [TcpServer.referenced, TcpServer.awaitClient]
      rw [href]
      exact lived_constructed s.settings.bufferSize
  · rcases awaitClient_cases hc with ⟨-, hc⟩ | ⟨-, rfl⟩
    · exact h.stepped c hc
    · exact lived_constructed s.settings.bufferSize

theorem Stepping.startAccept {s : TcpServer} {k : ℕ} (q : Sqlite) (h : Stepping s k) (ha : s.accepting = none)
    (hio : s.io = .idle) : Lives (s.startAccept q k) := by
  have hidle : ∀ j, s.io ≠ .waiting j := by
    intro j
    rw [hio]
    simp
  rw [TcpServer.startAccept]
  split_ifs
  · have hwaiting : Stepping { s with io := .waiting k } k := by
      refine ⟨fun j hjk c hc => ?_, h.stepped⟩
      have hlived := h.others j hjk c hc
      rw [referenced_held (by simp [ha]) (hidle j)] at hlived
      rw [referenced_held (by simp [ha]) (by simp [Ne.symm hjk])]
      exact hlived
    apply hwaiting.lives
    intro c _
    simp [TcpServer.referenced]
  · exact (h.awaitClient ha fun j _ => hidle j).release q

theorem lives_launch (settings : Settings) (table : SessionTable) (issued : List Int64) :
    Lives (launch settings table issued) := by
  refine ⟨fun k c hk => ?_⟩
  have hlt := (List.getElem?_eq_some_iff.mp hk).1
  obtain rfl : k = 0 := by
    rw [launch, TcpServer.awaitClient] at hlt
    simpa using hlt
  obtain rfl : (constructed settings.bufferSize).connection = c := Option.some.inj hk
  exact lived_constructed settings.bufferSize

theorem Lives.of_held {s : TcpServer} {k : ℕ} {c x : Connection} (h : Lives s) (hk : s.connections[k]? = some c)
    (hc : c.held = true) (hx : x.held = true)
    (hstep : Lived s.settings.bufferSize c false → Lived s.settings.bufferSize x false) :
    Lives (s.setConnection k x) := by
  have href : ∀ c : Connection, c.held = true → s.referenced k c = true := by
    intro c hc
    simp [TcpServer.referenced, hc]
  apply h.set hk
  rw [href x hx]
  apply hstep
  have hlived := h.each k c hk
  rwa [href c hc] at hlived

theorem Lives.accepted {s : TcpServer} {k : ℕ} (h : Lives s) (ha : s.accepting = some k) (hio : s.io = .idle) :
    Stepping { s with accepting := none } k := by
  have hidle : ∀ j, s.io ≠ .waiting j := by
    intro j
    rw [hio]
    simp
  refine ⟨fun j hjk c hc => ?_, fun c hc => ?_⟩
  · have hne : s.accepting ≠ some j := by
      rw [ha, ne_eq, Option.some.injEq]
      exact Ne.symm hjk
    have hlived := h.each j c hc
    rw [referenced_held hne (hidle j)] at hlived
    rw [referenced_held (s := { s with accepting := none }) (by simp) (hidle j)]
    exact hlived
  · have href : s.referenced k c = true := by
      simp [TcpServer.referenced, ha]
    have hlived := h.each k c hc
    rwa [href] at hlived

theorem Stepping.post {s : TcpServer} {k : ℕ} {c : Connection} (h : Stepping { s with accepting := none } k)
    (hk : s.connections[k]? = some c) (hj : c.job = .absent) : Stepping (s.post k c) k := by
  have hposted : Lived s.settings.bufferSize
      { c with relay := c.relay.opened .client, job := .posted, accepted := true } false := by
    apply (h.stepped c hk).upon .accept (fun _ => by rw [Lifetime.step])
    · rw [hj]
      rfl
    · rintro l - hd
      exact ⟨rfl, hd⟩
  have hset : Stepping (TcpServer.setConnection { s with accepting := none } k
      { c with relay := c.relay.opened .client, job := .posted, accepted := true }) k := by
    refine ⟨fun j hjk => (h.others j hjk).set hk _ hjk, fun d hd => ?_⟩
    obtain rfl := Option.some.inj ((setConnection_same (s := { s with accepting := none }) hk _).symm.trans hd)
    exact hposted
  exact hset.undisturbed ⟨rfl, rfl, rfl, rfl⟩

theorem lives_accept {q : Sqlite} {s t : TcpServer} {error : Option ErrorCode} (h : Lives s) (hinv : Inv s)
    (ht : s.step q (.accept error) = some t) : Lives t := by
  obtain ⟨k, c, hio, ha, hk, rfl⟩ := step_accept ht
  have hfresh := hinv.fresh ha hk
  have haccepted := h.accepted ha hio
  cases error with
  | none =>
    rw [if_pos rfl]
    exact (haccepted.post hk hfresh.job).startAccept q rfl hio
  | some err =>
    rw [if_neg (by simp)]
    exact haccepted.startAccept q rfl hio

theorem lives_spin {q : Sqlite} {s t : TcpServer} (h : Lives s) (hinv : Inv s)
    (ht : s.step q .spin = some t) : Lives t := by
  obtain ⟨k, hio, -, rfl⟩ := step_spin ht
  have ha := hinv.unaccepting hio
  have hstepping : Stepping s k := by
    refine ⟨fun j _ => h.each j, fun c hc => ?_⟩
    have href : s.referenced k c = true := by
      simp [TcpServer.referenced, hio]
    have hlived := h.each k c hc
    rwa [href] at hlived
  apply Stepping.release
  apply hstepping.awaitClient ha
  intro j hjk
  rw [hio, ne_eq, IoThread.waiting.injEq]
  exact Ne.symm hjk

theorem lives_initialise {q : Sqlite} {s : TcpServer} {k : ℕ} {c : Connection} {record : Session} (h : Lives s)
    (hk : s.connections[k]? = some c) (hj : c.job = .negotiating) (hsocks : c.relay.socks = some 0) :
    Lives (s.initialise q k record c) := by
  have hheld : c.held = true := by
    simp [Connection.held, hj, Job.early]
  have hstep : ∀ x : Connection, (∀ l : Lifetime, (l.initialise q s.table record c).connection = x ∧
      (l.initialise q s.table record c).destroyed = l.destroyed) → x.job = .initialised →
      Lives (s.setConnection k x) := by
    intro x hx hxj
    apply h.of_held hk hheld (by simp [Connection.held, hxj, Job.early])
    intro hlived
    apply hlived.upon (.init record q s.table) (fun _ => by rw [Lifetime.step])
    · simp [hj, hsocks]
    · rintro l - hd
      exact ⟨(hx l).1, (hx l).2.trans hd⟩
  rw [TcpServer.initialise]
  split
  case h_1 id t hcreate =>
    have hlives := hstep { c with
      relay := { c.relay.opened .server with socks := some id }
      job := .initialised
      returned := some id } (fun l => by rw [Lifetime.initialise, hcreate]; exact ⟨rfl, rfl⟩) rfl
    exact hlives.undisturbed ⟨rfl, rfl, rfl, rfl⟩
  case h_2 err t hcreate =>
    have hlives := hstep { c with
      relay := c.relay.opened .server
      job := .initialised } (fun l => by rw [Lifetime.initialise, hcreate]; exact ⟨rfl, rfl⟩) rfl
    exact hlives.undisturbed ⟨rfl, rfl, rfl, rfl⟩

theorem lives_dispatch {q : Sqlite} {s t : TcpServer} {k : ℕ} {d : Side} {o : WriteOutcome} (h : Lives s)
    (ht : s.step q (.dispatch k d o) = some t) : Lives t := by
  simp only [TcpServer.step] at ht
  split at ht
  case h_2 => cases ht
  case h_1 c hio hk =>
    obtain ⟨x, hx, rfl⟩ := Option.map_eq_some_iff.mp ht
    obtain ⟨comp, hready, -⟩ := dispatch_cases hx
    have hheld : c.held = true := by
      cases d with
      | client =>
        have hread : c.relay.client.read = .ready comp := hready
        simp [Connection.held, hread]
      | server =>
        have hread : c.relay.server.read = .ready comp := hready
        simp [Connection.held, hread]
    have href : s.referenced k c = true := by
      simp [TcpServer.referenced, hheld]
    have hlived := h.each k c hk
    rw [href] at hlived
    apply Stepping.release
    exact (h.stepping hk (hlived.dispatch hx)).undisturbed (undisturbed_performAll q _ _)

theorem lives_socket {q : Sqlite} {s t : TcpServer} {k : ℕ} {e : SocketEvent} (h : Lives s)
    (ht : s.step q (.socket k e) = some t) : Lives t := by
  obtain ⟨c, r, hk, hr, rfl⟩ := step_socket ht
  obtain ⟨-, hread⟩ := socketStep_kept hr
  have hclient : (r.client.read == .idle) = (c.relay.client.read == .idle) := by
    rw [Bool.eq_iff_iff, beq_iff_eq, beq_iff_eq]
    exact hread .client
  have hserver : (r.server.read == .idle) = (c.relay.server.read == .idle) := by
    rw [Bool.eq_iff_iff, beq_iff_eq, beq_iff_eq]
    exact hread .server
  have href : s.referenced k { c with relay := r } = s.referenced k c := by
    simp only [TcpServer.referenced, Connection.held, bne, hclient, hserver]
  apply h.set hk
  rw [href]
  exact (h.each k c hk).socket hr

theorem Lives.advance {s : TcpServer} {k : ℕ} {c : Connection} (e : LifetimeEvent)
    {p : Connection → Bool} {f : Connection → Connection} (h : Lives s) (hk : s.connections[k]? = some c)
    (he : ∀ l : Lifetime, l.step s.settings.bufferSize e = l.upon p fun c => l.setConnection (f c))
    (hp : p c = true) (hc : c.held = true) (hx : (f c).held = true) : Lives (s.setConnection k (f c)) := by
  apply h.of_held hk hc hx
  intro hlived
  apply hlived.upon e he hp
  rintro l - hd
  exact ⟨rfl, hd⟩

theorem Lives.finish {s : TcpServer} {k : ℕ} {c : Connection} (q : Sqlite) (e : LifetimeEvent)
    {p : Connection → Bool} {f : Connection → Connection} (h : Lives s) (hk : s.connections[k]? = some c)
    (he : ∀ l : Lifetime, l.step s.settings.bufferSize e = l.upon p fun c => l.setConnection (f c))
    (hp : p c = true) (hc : c.held = true) : Lives ((s.setConnection k (f c)).release q k) := by
  have href : s.referenced k c = true := by
    simp [TcpServer.referenced, hc]
  have hlived := h.each k c hk
  rw [href] at hlived
  apply Stepping.release
  apply h.stepping hk
  apply hlived.upon e he hp
  rintro l - hd
  exact ⟨rfl, hd⟩

theorem lives_step {q : Sqlite} {s t : TcpServer} {e : ServerEvent} (h : Lives s) (hinv : Inv s)
    (ht : s.step q e = some t) : Lives t := by
  cases e with
  | accept error => exact lives_accept h hinv ht
  | spin => exact lives_spin h hinv ht
  | begin k =>
    obtain ⟨c, hk, hp, rfl⟩ := upon_eq_some.mp ht
    simp only [Bool.and_eq_true, beq_iff_eq, decide_eq_true_eq] at hp
    apply h.advance .begin hk (fun _ => by rw [Lifetime.step])
    · simp [hp.1]
    · simp [Connection.held, hp.1, Job.early]
    · simp [Connection.held, Job.early]
  | createProxy k =>
    obtain ⟨c, hk, hp, rfl⟩ := upon_eq_some.mp ht
    simp only [Bool.and_eq_true, beq_iff_eq] at hp
    apply h.advance .createProxy hk (fun _ => by rw [Lifetime.step])
    · simp [hp.1, hp.2]
    · simp [Connection.held, hp.1, Job.early]
    · simp [Connection.held, hp.1, Job.early]
  | init k record =>
    obtain ⟨c, hk, hp, rfl⟩ := upon_eq_some.mp ht
    simp only [Bool.and_eq_true, beq_iff_eq] at hp
    exact lives_initialise h hk hp.1 hp.2
  | clientRead k =>
    obtain ⟨c, hk, hp, rfl⟩ := upon_eq_some.mp ht
    simp only [beq_iff_eq] at hp
    apply h.advance .clientRead hk (fun _ => by rw [Lifetime.step])
    · simp [hp]
    · simp [Connection.held, hp, Job.early]
    · simp [Connection.held, Job.running]
  | serverRead k =>
    obtain ⟨c, hk, hp, rfl⟩ := upon_eq_some.mp ht
    simp only [beq_iff_eq] at hp
    apply h.finish q .serverRead hk (fun _ => by rw [Lifetime.step])
    · simp [hp]
    · simp [Connection.held, hp, Job.running]
  | stop k =>
    obtain ⟨c, hk, hp, rfl⟩ := upon_eq_some.mp ht
    apply h.finish q .stop hk (fun _ => by rw [Lifetime.step]) hp
    simp only [Bool.or_eq_true, beq_iff_eq] at hp
    rcases hp with hp | hp <;> simp [Connection.held, hp, Job.early]
  | socket k e => exact lives_socket h ht
  | dispatch k d o => exact lives_dispatch h ht

theorem sessions_live {settings : Settings} {table : SessionTable} {issued : List Int64}
    {es : List (ServerEvent × Sqlite)} {s : TcpServer} {k : ℕ} {c : Connection}
    (hrun : TcpServer.machine.run (launch settings table issued) es = some s)
    (hk : s.connections[k]? = some c) : Lived s.settings.bufferSize c (!s.referenced k c) := by
  have hstep : ∀ s e t, Inv s ∧ Lives s → TcpServer.machine.step s e = some t → Inv t ∧ Lives t := by
    rintro s ⟨e, q⟩ t ⟨hinv, hs⟩ ht
    exact ⟨inv_step hinv ht, lives_step hs hinv ht⟩
  have h := Machine.invariant hstep ⟨inv_launch settings table issued, lives_launch settings table issued⟩ hrun
  exact h.2.each k c hk

end SocksProxy.ServerLifetimes
