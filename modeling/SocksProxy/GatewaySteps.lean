import SocksProxy.SessionStreams
import SocksProxy.ServerLifetimes

namespace SocksProxy.GatewaySteps

open TransitionSystems RelaySession TcpServer ServerFrames ServerInvariants ServerLifetimes SessionStreams

inductive GatewayEvent
  | server (e : ServerEvent)
  | readBytes (k : ℕ) (bytes : Bytes)
  | writeBytes (k : ℕ) (bytes : Bytes)

def consumed (r : RelaySession) (bytes : Bytes) : RelaySession :=
  r.setPeer .client { r.client with incoming := r.client.incoming.drop bytes.length }

def gatewayStep (q : Sqlite) (s : TcpServer) : GatewayEvent → Option TcpServer
  | .server e => s.step q e
  | .readBytes k bytes =>
    s.upon k (fun c => c.job == .negotiating && bytes.isPrefixOf c.relay.client.incoming) fun c =>
      s.setConnection k { c with relay := consumed c.relay bytes }
  | .writeBytes k bytes => s.upon k (fun c => c.job == .negotiating) fun c =>
    s.setConnection k { c with relay := c.relay.delivered .client bytes }

def gateway : Machine TcpServer (GatewayEvent × Sqlite) := ⟨fun s e => gatewayStep e.2 s e.1⟩

def observe (h : ℕ → Streams) : GatewayEvent → ℕ → Streams
  | .server (.socket k e) => Function.update h k ((h k).socket e)
  | .server (.clientRead k) => Function.update h k (h k).relay
  | .readBytes k bytes => Function.update h k ((h k).take bytes)
  | .writeBytes k bytes => Function.update h k ((h k).reply bytes)
  | _ => h

def streams (es : List (GatewayEvent × Sqlite)) : ℕ → Streams :=
  es.foldl (fun h e => observe h e.1) fun _ => {}

theorem streams_concat (es : List (GatewayEvent × Sqlite)) (e : GatewayEvent × Sqlite) :
    streams (es ++ [e]) = observe (streams es) e.1 := by
  rw [streams, List.foldl_append]
  rfl

structure Persistent (bufferSize : ℕ) (P : Streams → Connection → Prop) : Prop where
  constructed : P {} (Lifetime.constructed bufferSize).connection
  close : ∀ h c, P h c → P h { c with relay := c.relay.close.1 }
  posted : ∀ h c, P h c → Fresh c →
    P h { c with relay := c.relay.opened .client, job := .posted, accepted := true }
  begun : ∀ h c, P h c → c.job = .posted → P h { c with job := .negotiating }
  chosen : ∀ h c, P h c → c.job = .negotiating → P h { c with relay := { c.relay with socks := some 0 } }
  initialised : ∀ h c, P h c → c.job = .negotiating → c.relay.isClosed = false → ∀ socks returned,
    P h { c with relay := { c.relay.opened .server with socks := socks }, job := .initialised,
                 returned := returned }
  clientRead : ∀ h c, P h c → c.job = .initialised →
    P h.relay { c with relay := c.relay.clientRead, job := .reading }
  serverRead : ∀ h c, P h c → c.job = .reading → P h { c with relay := c.relay.serverRead, job := .done }
  stopped : ∀ h c, P h c → c.job.early = true → P h { c with job := .done }
  socket : ∀ h c, P h c → ∀ e r, c.relay.socketStep bufferSize e = some r → P (h.socket e) { c with relay := r }
  dispatch : ∀ h c, P h c → ∀ d o r effects, c.relay.dispatch d o = some (r, effects) → P h { c with relay := r }
  readBytes : ∀ h c, P h c → c.job = .negotiating → c.relay.isClosed = false → ∀ bytes,
    bytes <+: c.relay.client.incoming → P (h.take bytes) { c with relay := consumed c.relay bytes }
  writeBytes : ∀ h c, P h c → c.job = .negotiating → ∀ bytes,
    P (h.reply bytes) { c with relay := c.relay.delivered .client bytes }

structure Persisting (bufferSize : ℕ) (P : Streams → Connection → Prop) (h : ℕ → Streams) (s : TcpServer) :
    Prop where
  sized : s.settings.bufferSize = bufferSize
  each : ∀ k c, s.connections[k]? = some c → P (h k) c
  unborn : ∀ k, s.connections.length ≤ k → h k = {}

section Persisting

variable {bufferSize : ℕ} {P : Streams → Connection → Prop} {h : ℕ → Streams} {s t : TcpServer}

theorem Persisting.set {k : ℕ} {c x : Connection} {g : Streams} (hs : Persisting bufferSize P h s)
    (hk : s.connections[k]? = some c) (hx : P g x) :
    Persisting bufferSize P (Function.update h k g) (s.setConnection k x) where
  sized := hs.sized
  each j d hd := by
    rcases setConnection_cases hk hd with ⟨rfl, rfl⟩ | ⟨hjk, hd⟩
    · rw [Function.update_self]
      exact hx
    · rw [Function.update_of_ne hjk]
      exact hs.each j d hd
  unborn j hj := by
    rw [setConnection_connections, List.length_set] at hj
    have hlt := (List.getElem?_eq_some_iff.mp hk).1
    rw [Function.update_of_ne (by omega)]
    exact hs.unborn j hj

theorem Persisting.replace {k : ℕ} {c x : Connection} (hs : Persisting bufferSize P h s)
    (hk : s.connections[k]? = some c) (hx : P (h k) x) : Persisting bufferSize P h (s.setConnection k x) := by
  have hset := hs.set hk hx
  rwa [Function.update_eq_self] at hset

theorem Persisting.frame (hs : Persisting bufferSize P h s) (hset : t.settings = s.settings)
    (hc : t.connections = s.connections) : Persisting bufferSize P h t where
  sized := by
    rw [hset]
    exact hs.sized
  each := by
    rw [hc]
    exact hs.each
  unborn := by
    rw [hc]
    exact hs.unborn

theorem Persisting.undisturbed (hs : Persisting bufferSize P h s) (ht : Undisturbed s t) :
    Persisting bufferSize P h t := hs.frame ht.settings ht.connections

theorem Persisting.closeConnection (hP : Persistent bufferSize P) (q : Sqlite) (k : ℕ)
    (hs : Persisting bufferSize P h s) : Persisting bufferSize P h (s.closeConnection q k) := by
  cases hk : s.connections[k]? with
  | none =>
    simp only [TcpServer.closeConnection, hk]
    exact hs
  | some c =>
    simp only [TcpServer.closeConnection, hk]
    have hclosed := hs.replace hk (hP.close _ _ (hs.each k c hk))
    exact hclosed.undisturbed (undisturbed_performAll q _ _)

theorem Persisting.release (hP : Persistent bufferSize P) (q : Sqlite) (k : ℕ)
    (hs : Persisting bufferSize P h s) : Persisting bufferSize P h (s.release q k) := by
  cases hk : s.connections[k]? with
  | none =>
    rw [TcpServer.release, hk]
    exact hs
  | some c =>
    rw [release_of q hk]
    split_ifs
    · exact hs
    · exact hs.closeConnection hP q k

theorem Persisting.awaitClient (hP : Persistent bufferSize P) (hs : Persisting bufferSize P h s) :
    Persisting bufferSize P h s.awaitClient where
  sized := hs.sized
  each k c hk := by
    rcases awaitClient_cases hk with ⟨-, hk⟩ | ⟨rfl, rfl⟩
    · exact hs.each k c hk
    · rw [hs.unborn _ le_rfl, hs.sized]
      exact hP.constructed
  unborn k hk := by
    rw [TcpServer.awaitClient, List.length_append, List.length_singleton] at hk
    exact hs.unborn k (by omega)

theorem Persisting.startAccept (hP : Persistent bufferSize P) (q : Sqlite) (k : ℕ)
    (hs : Persisting bufferSize P h s) : Persisting bufferSize P h (s.startAccept q k) := by
  rw [TcpServer.startAccept]
  split_ifs
  · exact hs.frame rfl rfl
  · exact (hs.awaitClient hP).release hP q k

theorem persisting_launch {settings : Settings} (hP : Persistent settings.bufferSize P) (table : SessionTable)
    (issued : List Int64) : Persisting settings.bufferSize P (streams []) (launch settings table issued) := by
  have hnone : Persisting settings.bufferSize P (streams [])
      ({ settings := settings, table := table, issued := issued } : TcpServer) := by
    refine ⟨rfl, fun k c hk => ?_, fun k _ => rfl⟩
    simp at hk
  exact hnone.awaitClient hP

theorem persisting_initialise {q : Sqlite} {k : ℕ} {c : Connection} {record : Session}
    (hP : Persistent bufferSize P) (hs : Persisting bufferSize P h s) (hk : s.connections[k]? = some c)
    (hj : c.job = .negotiating) (hl : c.relay.isClosed = false) :
    Persisting bufferSize P h (s.initialise q k record c) := by
  have hinit := hP.initialised _ _ (hs.each k c hk) hj hl
  rw [initialise]
  split
  case h_1 id t hcreate => exact (hs.replace hk (hinit (some id) (some id))).frame rfl rfl
  case h_2 err t hcreate => exact (hs.replace hk (hinit c.relay.socks c.returned)).frame rfl rfl

theorem persisting_server {q : Sqlite} {e : ServerEvent} (hP : Persistent bufferSize P) (hinv : Inv s)
    (hs : Persisting bufferSize P h s) (ht : s.step q e = some t) :
    Persisting bufferSize P (observe h (.server e)) t := by
  cases e with
  | accept error =>
    obtain ⟨k, c, -, ha, hk, rfl⟩ := step_accept ht
    apply Persisting.startAccept hP
    split_ifs
    · exact (hs.replace hk (hP.posted _ _ (hs.each k c hk) (hinv.fresh ha hk))).frame rfl rfl
    · exact hs.frame rfl rfl
  | spin =>
    obtain ⟨k, -, -, rfl⟩ := step_spin ht
    exact (hs.awaitClient hP).release hP q k
  | begin k =>
    obtain ⟨c, hk, hp, rfl⟩ := upon_eq_some.mp ht
    simp only [Bool.and_eq_true, beq_iff_eq, decide_eq_true_eq] at hp
    exact hs.replace hk (hP.begun _ _ (hs.each k c hk) hp.1)
  | createProxy k =>
    obtain ⟨c, hk, hp, rfl⟩ := upon_eq_some.mp ht
    simp only [Bool.and_eq_true, beq_iff_eq] at hp
    exact hs.replace hk (hP.chosen _ _ (hs.each k c hk) hp.1)
  | init k record =>
    obtain ⟨c, hk, hp, rfl⟩ := upon_eq_some.mp ht
    simp only [Bool.and_eq_true, beq_iff_eq] at hp
    exact persisting_initialise hP hs hk hp.1 ((hinv.each k c hk).early (by rw [hp.1]; rfl)).1
  | clientRead k =>
    obtain ⟨c, hk, hp, rfl⟩ := upon_eq_some.mp ht
    simp only [beq_iff_eq] at hp
    exact hs.set hk (hP.clientRead _ _ (hs.each k c hk) hp)
  | serverRead k =>
    obtain ⟨c, hk, hp, rfl⟩ := upon_eq_some.mp ht
    simp only [beq_iff_eq] at hp
    exact (hs.replace hk (hP.serverRead _ _ (hs.each k c hk) hp)).release hP q k
  | stop k =>
    obtain ⟨c, hk, hp, rfl⟩ := upon_eq_some.mp ht
    have hearly : c.job.early = true := by
      simp only [Bool.or_eq_true, beq_iff_eq] at hp
      rcases hp with hp | hp <;> rw [hp] <;> rfl
    exact (hs.replace hk (hP.stopped _ _ (hs.each k c hk) hearly)).release hP q k
  | socket k e =>
    obtain ⟨c, r, hk, hr, rfl⟩ := step_socket ht
    rw [hs.sized] at hr
    exact hs.set hk (hP.socket _ _ (hs.each k c hk) e r hr)
  | dispatch k d o =>
    simp only [step] at ht
    split at ht
    case h_2 => cases ht
    case h_1 c hio hk =>
      obtain ⟨⟨r, effects⟩, hd, rfl⟩ := Option.map_eq_some_iff.mp ht
      have hset := hs.replace hk (hP.dispatch _ _ (hs.each k c hk) d o r effects hd)
      exact (hset.undisturbed (undisturbed_performAll q _ effects)).release hP q k

theorem inv_negotiating {k : ℕ} {c : Connection} {r : RelaySession} (hinv : Inv s)
    (hk : s.connections[k]? = some c) (hj : c.job = .negotiating) (hr : Kept c.relay r)
    (hread : ∀ d, (r.peer d).read = (c.relay.peer d).read) :
    Inv (s.setConnection k { c with relay := r }) := by
  have hc := hinv.each k c hk
  apply hinv.advance hk (by rw [hj]; decide)
  · refine ⟨fun he => ?_, fun hreading => ?_, fun hjob hopen => ?_⟩
    · exact ⟨hr.isClosed.trans (hc.early he).1, fun d => (hread d).trans ((hc.early he).2 d)⟩
    · rw [hj] at hreading
      cases hreading
    · exact (hr.isOpen .client).trans (hc.socket hjob (hr.isClosed.symm.trans hopen))
  · exact .inl

theorem inv_gateway {q : Sqlite} {e : GatewayEvent} (hinv : Inv s) (ht : gatewayStep q s e = some t) :
    Inv t := by
  cases e with
  | server e => exact inv_step hinv ht
  | readBytes k bytes =>
    obtain ⟨c, hk, hp, rfl⟩ := upon_eq_some.mp ht
    simp only [Bool.and_eq_true, beq_iff_eq] at hp
    refine inv_negotiating hinv hk hp.1 (kept_setPeer rfl) fun d => ?_
    cases d <;> rfl
  | writeBytes k bytes =>
    obtain ⟨c, hk, hp, rfl⟩ := upon_eq_some.mp ht
    simp only [beq_iff_eq] at hp
    refine inv_negotiating hinv hk hp (kept_delivered _ _ _) fun d => ?_
    cases d <;> rfl

theorem persisting_gateway {q : Sqlite} {e : GatewayEvent} (hP : Persistent bufferSize P) (hinv : Inv s)
    (hs : Persisting bufferSize P h s) (ht : gatewayStep q s e = some t) :
    Persisting bufferSize P (observe h e) t := by
  cases e with
  | server e => exact persisting_server hP hinv hs ht
  | readBytes k bytes =>
    obtain ⟨c, hk, hp, rfl⟩ := upon_eq_some.mp ht
    simp only [Bool.and_eq_true, beq_iff_eq, List.isPrefixOf_iff_prefix] at hp
    have hl := ((hinv.each k c hk).early (by rw [hp.1]; rfl)).1
    exact hs.set hk (hP.readBytes _ _ (hs.each k c hk) hp.1 hl bytes hp.2)
  | writeBytes k bytes =>
    obtain ⟨c, hk, hp, rfl⟩ := upon_eq_some.mp ht
    simp only [beq_iff_eq] at hp
    exact hs.set hk (hP.writeBytes _ _ (hs.each k c hk) hp bytes)

end Persisting

theorem persists {settings : Settings} {table : SessionTable} {issued : List Int64}
    {P : Streams → Connection → Prop} {es : List (GatewayEvent × Sqlite)} {s : TcpServer}
    (hP : Persistent settings.bufferSize P) (hrun : gateway.run (launch settings table issued) es = some s) :
    Inv s ∧ Persisting settings.bufferSize P (streams es) s := by
  have hstep : ∀ past s e t, (Inv s ∧ Persisting settings.bufferSize P (streams past) s) →
      gateway.step s e = some t → Inv t ∧ Persisting settings.bufferSize P (streams (past ++ [e])) t := by
    rintro past s e t ⟨hinv, hs⟩ ht
    rw [streams_concat]
    exact ⟨inv_gateway hinv ht, persisting_gateway hP hinv hs ht⟩
  exact Machine.invariant_history hstep
    ⟨inv_launch settings table issued, persisting_launch hP table issued⟩ hrun

end SocksProxy.GatewaySteps
