import SocksProxy.DrainedStreams
import SocksProxy.HandshakeReads
import SocksProxy.StartPhases

namespace SocksProxy.ServedClients

open StatefulPrograms TransitionSystems RelaySession RelayLedgers TcpServer ServerFrames ServerInvariants
open AuthenticationGate AcceptanceGrammar OutwardActions StartPhases SessionStreams GatewaySteps GatewayStreams
open DrainedStreams
open TcpSession (query)

section Handshake

variable {e : Env}

theorem query_answered (hq : ∀ q n, ∃ ep, e.endpoint q n = .ok ep) (q : Query) (s : SessionState) :
    ∃ ep, (query e q).run s = (.ok ep, { s with queries := s.queries + 1 }) := by
  obtain ⟨ep, hep⟩ := hq q s.queries
  refine ⟨ep, ?_⟩
  simp only [query, hep]

theorem launch_reads (hq : ∀ q n, ∃ ep, e.endpoint q n = .ok ep) (s : SessionState) :
    ((AuthenticationGate.launch e).run s).2.trace = s.trace ++ [.clientRead, .serverRead] := by
  rw [AuthenticationGate.launch, Proc.bind_ok (Proc.run_modify _ _)]
  obtain ⟨ep₁, h₁⟩ := query_answered hq .clientRemote { s with id := s.socks.id }
  rw [Proc.bind_ok h₁]
  obtain ⟨ep₂, h₂⟩ := query_answered hq .clientRemote { { s with id := s.socks.id } with queries := s.queries + 1 }
  rw [Proc.bind_ok h₂]
  obtain ⟨ep₃, h₃⟩ := query_answered hq .serverRemote { { s with id := s.socks.id } with queries := s.queries + 1 + 1 }
  rw [Proc.bind_ok h₃]
  obtain ⟨ep₄, h₄⟩ := query_answered hq .serverRemote
    { { s with id := s.socks.id } with queries := s.queries + 1 + 1 + 1 }
  rw [Proc.bind_ok h₄]
  change s.trace ++ [.clientRead] ++ [.serverRead] = _
  rw [List.append_assoc]
  rfl

theorem accepted_steps (hw : ∀ n, e.writeClient n = none) (hq : ∀ q n, ∃ ep, e.endpoint q n = .ok ep)
    {l : Option HandshakeGrammar.Credentials} {r : HandshakeGrammar.Request} {h payload : Bytes} (hcode : HandshakeCode e l r h)
    (hreach : Reaches e (chosen .socks5 (h ++ payload)) r.text (Socks.service r.port)) (k : ℕ) :
    (started e (Ver.socks5.code :: (h ++ payload))).input = payload ∧ ∃ record,
      jobEvents k (started e (Ver.socks5.code :: (h ++ payload))).trace =
        [.init k record, .clientRead k, .serverRead k] := by
  have hparse : handshake e (chosen .socks5 (h ++ payload)).input = some ((l, r), payload) :=
    (exact_handshake e _ (l, r) _).mpr ⟨h, hcode, rfl⟩
  obtain ⟨t, hrun⟩ := handshake_init hw (fun n => hq .clientRemote n) hparse hreach
  have hleft : t.input = payload := by
    obtain ⟨l', r', rest, hparse', -, hdecoded⟩ := init_handshake hrun
    rw [hparse', Option.some.injEq, Prod.mk.injEq] at hparse
    exact hdecoded.input.trans hparse.2
  replace hrun : (protocol e .socks5).run (chosen .socks5 (h ++ payload)) = (.ok true, t) := hrun
  have hstate : started e (Ver.socks5.code :: (h ++ payload)) =
      ((negotiate e .socks5).run (chosen .socks5 (h ++ payload))).2 := by
    rcases started_cases e (Ver.socks5.code :: (h ++ payload)) with ⟨-, -, hno⟩ | ⟨v, rest, hi, -, hstate⟩
    · exact absurd ⟨hq .clientRemote 0, hq .clientRemote 1⟩ (hno .socks5 _ rfl)
    · cases v with
      | socks4 => cases (List.cons.inj hi).1
      | socks5 => rw [hstate, (List.cons.inj hi).2]
  have htrace : (started e (Ver.socks5.code :: (h ++ payload))).trace = t.trace ++ [.clientRead, .serverRead] := by
    rw [hstate, negotiate, Proc.bind_ok hrun, if_pos rfl, launch_reads hq]
  refine ⟨?_, ?_⟩
  · rw [hstate, HandshakeReads.negotiate_input, hrun, hleft]
  · have hmem : .clientRead k ∈ jobEvents k (started e (Ver.socks5.code :: (h ++ payload))).trace := by
      rw [htrace, jobEvents, List.filterMap_append]
      apply List.mem_append_left
      apply List.mem_append_right
      exact List.mem_cons_self
    exact relaying_of_clientRead hmem

end Handshake

inductive Turn
  | reads (bytes : Bytes)
  | writes (bytes : Bytes)

namespace Turn

def event (k : ℕ) : Turn → GatewayEvent
  | reads bytes => .readBytes k bytes
  | writes bytes => .writeBytes k bytes

def read : Turn → Bytes
  | reads bytes => bytes
  | writes _ => []

def written : Turn → Bytes
  | reads _ => []
  | writes bytes => bytes

end Turn

structure At (settings : Settings) (k : ℕ) (s : TcpServer) (c : Connection) : Prop where
  io : s.io = .idle
  settings : s.settings = settings
  connection : s.connections[k]? = some c

def Gets (settings : Settings) (k : ℕ) (s : TcpServer) (es : List GatewayEvent) (c : Connection) : Prop :=
  ∃ t, gateway.run s (es.map fun e => (e, .quiet)) = some t ∧ At settings k t c

section Steps

variable {settings : Settings} {k : ℕ} {s : TcpServer} {c : Connection}

theorem At.set (h : At settings k s c) (x : Connection) : At settings k (s.setConnection k x) x :=
  ⟨h.io, h.settings, setConnection_same h.connection x⟩

theorem released (h : s.connections[k]? = some c) (hc : c.held = true) : s.release .quiet k = s := by
  rw [release_of .quiet h, referenced, hc, Bool.or_true, if_pos rfl]

theorem gets_append {t : TcpServer} {xs ys : List GatewayEvent} {x : Connection}
    (hrun : gateway.run s (xs.map fun e => (e, .quiet)) = some t) (h : Gets settings k t ys x) :
    Gets settings k s (xs ++ ys) x := by
  obtain ⟨u, hrun', hat⟩ := h
  refine ⟨u, ?_, hat⟩
  rw [List.map_append, Machine.run_append_of _ hrun, hrun']

theorem Gets.trans {xs ys : List GatewayEvent} {x y : Connection} (h : Gets settings k s xs x)
    (h' : ∀ t, At settings k t x → Gets settings k t ys y) : Gets settings k s (xs ++ ys) y := by
  obtain ⟨t, hrun, hat⟩ := h
  exact gets_append hrun (h' t hat)

theorem gets_step {t : TcpServer} {e : GatewayEvent} {x : Connection} (hstep : gatewayStep .quiet s e = some t)
    (hat : At settings k t x) : Gets settings k s [e] x :=
  ⟨t, Machine.run_cons_of gateway hstep, hat⟩

theorem gets_read (h : At settings k s c) (hj : c.job = .negotiating) {bytes rest : Bytes}
    (hin : c.relay.client.incoming = bytes ++ rest) : Gets settings k s [.readBytes k bytes]
      { c with relay := { c.relay with client := { c.relay.client with incoming := rest } } } := by
  apply gets_step (t := s.setConnection k { c with relay := consumed c.relay bytes })
  · apply upon_eq_some.mpr
    refine ⟨c, h.connection, ?_, rfl⟩
    simp [hj, hin]
  · have hconsumed : consumed c.relay bytes =
        { c.relay with client := { c.relay.client with incoming := rest } } := by
      rw [consumed, hin, List.drop_left]
      rfl
    rw [hconsumed]
    exact h.set _

theorem gets_write (h : At settings k s c) (hj : c.job = .negotiating) (bytes : Bytes) :
    Gets settings k s [.writeBytes k bytes]
      { c with relay := { c.relay with client := { c.relay.client with outgoing := c.relay.client.outgoing ++ bytes } } } := by
  apply gets_step (t := s.setConnection k { c with relay := c.relay.delivered .client bytes })
  · apply upon_eq_some.mpr
    exact ⟨c, h.connection, by simp [hj], rfl⟩
  · exact h.set _

theorem gets_arrive (h : At settings k s c) (bytes : Bytes) :
    Gets settings k s [.server (.socket k (.arrive .client bytes))] { c with relay := { c.relay with
      client := { c.relay.client with incoming := c.relay.client.incoming ++ bytes } } } := by
  apply gets_step (t := s.setConnection k { c with
    relay := c.relay.setPeer .client { c.relay.client with incoming := c.relay.client.incoming ++ bytes } })
  · change s.step .quiet (.socket k (.arrive .client bytes)) = _
    simp only [step, h.connection]
    rfl
  · exact h.set _

theorem gets_turns (turns : List Turn) (h : At settings k s c) (hj : c.job = .negotiating) {rest : Bytes}
    (hin : c.relay.client.incoming = turns.flatMap Turn.read ++ rest) :
    Gets settings k s (turns.map (Turn.event k)) { c with relay := { c.relay with client := { c.relay.client with
      incoming := rest, outgoing := c.relay.client.outgoing ++ turns.flatMap Turn.written } } } := by
  induction turns generalizing s c with
  | nil =>
    have hrest : c.relay.client.incoming = rest := hin
    rw [← hrest, List.flatMap_nil, List.append_nil]
    exact ⟨s, rfl, h⟩
  | cons turn turns ih =>
    cases turn with
    | reads bytes =>
      rw [List.flatMap_cons, List.append_assoc] at hin
      apply (gets_read h hj hin).trans
      intro t hat
      have hturns := ih hat hj rfl
      exact hturns
    | writes bytes =>
      apply (gets_write h hj bytes).trans
      intro t hat
      have hturns := ih hat hj hin
      rwa [List.append_assoc] at hturns

theorem gets_accepted (hio : s.io = .idle) (ha : s.accepting = some k) (hk : s.connections[k]? = some c)
    (hjob : c.job = .absent) (hlimit : ({ s with sessions := s.sessions + 1 } : TcpServer).limitReached = false)
    (hpool : s.running < s.settings.poolThreads) :
    Gets s.settings k s [.server (.accept none), .server (.begin k)]
      { c with relay := c.relay.opened .client, job := .negotiating, accepted := true } := by
  obtain ⟨x, hx⟩ : ∃ x : Connection, x = { c with relay := c.relay.opened .client, job := .posted, accepted := true } :=
    ⟨_, rfl⟩
  have hlt := (List.getElem?_eq_some_iff.mp hk).1
  have hposted : (s.post k c).awaitClient.connections[k]? = some x := by
    rw [hx, TcpServer.awaitClient, List.getElem?_append_left]
    · exact setConnection_same hk _
    · rw [post, setConnection_connections, List.length_set]
      exact hlt
  have hat : At s.settings k (s.post k c).awaitClient x := ⟨rfl, rfl, hposted⟩
  have hheld : x.held = true := by
    rw [hx]
    rfl
  have haccept : gateway.step s (.server (.accept none), .quiet) = some (s.post k c).awaitClient := by
    change s.handleAccept .quiet none = _
    simp only [handleAccept, hio, ha, hk]
    rw [TcpServer.startAccept, if_neg, released hposted hheld]
    intro hreached
    exact Bool.false_ne_true (hlimit.symm.trans hreached)
  have hrunning : (s.post k c).awaitClient.running = s.running := by
    have hset := running_setConnection hk x
    rw [hjob, hx] at hset
    rw [running, TcpServer.awaitClient, List.countP_append]
    exact hset
  have hbegin : gateway.step (s.post k c).awaitClient (.server (.begin k), .quiet) =
      some ((s.post k c).awaitClient.setConnection k { x with job := .negotiating }) := by
    apply upon_eq_some.mpr
    refine ⟨x, hposted, ?_, rfl⟩
    have hsettings : (s.post k c).awaitClient.settings = s.settings := rfl
    rw [hrunning, hsettings, hx]
    simpa using hpool
  refine ⟨_, (Machine.run_cons_of gateway haccept).trans (Machine.run_cons_of gateway hbegin), ?_⟩
  have hat : At s.settings k (s.post k c).awaitClient x := ⟨rfl, rfl, hposted⟩
  rw [hx] at hat ⊢
  exact hat.set _

theorem gets_createProxy (h : At settings k s c) (hj : c.job = .negotiating) (hsocks : c.relay.socks = none) :
    Gets settings k s [.server (.createProxy k)] { c with relay := { c.relay with socks := some 0 } } := by
  apply gets_step (t := s.setConnection k { c with relay := { c.relay with socks := some 0 } })
  · apply upon_eq_some.mpr
    exact ⟨c, h.connection, by simp [hj, hsocks], rfl⟩
  · exact h.set _

theorem gets_init (h : At settings k s c) (hj : c.job = .negotiating) (hsocks : c.relay.socks = some 0)
    (record : Session) : ∃ socks returned, Gets settings k s [.server (.init k record)]
      { c with relay := { c.relay.opened .server with socks := socks }, job := .initialised, returned := returned } := by
  have hstep : gatewayStep .quiet s (.server (.init k record)) = some (s.initialise .quiet k record c) := by
    apply upon_eq_some.mpr
    exact ⟨c, h.connection, by simp [hj, hsocks], rfl⟩
  rw [TcpServer.initialise] at hstep
  split at hstep
  case h_1 id t hcreate =>
    exact ⟨some id, some id, gets_step hstep ⟨h.io, h.settings, setConnection_same h.connection _⟩⟩
  case h_2 err t hcreate =>
    refine ⟨c.relay.socks, c.returned, gets_step hstep ⟨h.io, h.settings, ?_⟩⟩
    exact setConnection_same h.connection _

theorem gets_clientRead (h : At settings k s c) (hj : c.job = .initialised) :
    Gets settings k s [.server (.clientRead k)] { c with relay := c.relay.clientRead, job := .reading } := by
  apply gets_step (t := s.setConnection k { c with relay := c.relay.clientRead, job := .reading })
  · apply upon_eq_some.mpr
    exact ⟨c, h.connection, by simp [hj], rfl⟩
  · exact h.set _

theorem gets_serverRead (h : At settings k s c) (hj : c.job = .reading) (hread : c.relay.serverRead.client.read ≠ .idle) :
    Gets settings k s [.server (.serverRead k)] { c with relay := c.relay.serverRead, job := .done } := by
  have hat := h.set { c with relay := c.relay.serverRead, job := .done }
  have hheld : Connection.held { c with relay := c.relay.serverRead, job := .done } = true := by
    simp [Connection.held, hread]
  apply gets_step (t := s.setConnection k { c with relay := c.relay.serverRead, job := .done })
  · apply upon_eq_some.mpr
    exact ⟨c, h.connection, by simp [hj], released hat.connection hheld⟩
  · exact hat

def begun (r : RelaySession) (socks : Option Int64) : RelaySession :=
  { r with
    client := { r.client with read := .pending }
    server := { r.server with isOpen := true, read := .pending }
    socks := socks }

theorem gets_relay (h : At settings k s c) (hj : c.job = .negotiating) (hsocks : c.relay.socks = some 0)
    (hopen : c.relay.client.isOpen = true) (record : Session) : ∃ socks returned,
    Gets settings k s ([.init k record, .clientRead k, .serverRead k].map .server)
      { c with relay := begun c.relay socks, job := .done, returned := returned } := by
  obtain ⟨socks, returned, hinit⟩ := gets_init h hj hsocks record
  refine ⟨socks, returned, hinit.trans fun t hat => ?_⟩
  have hclient : clientRead { c.relay.opened .server with socks := socks } = { c.relay with
      client := { c.relay.client with read := .pending }
      server := { c.relay.server with isOpen := true }
      socks := socks } := by
    have hpeer : (RelaySession.peer { c.relay.opened .server with socks := socks } .client).isOpen = true := hopen
    rw [clientRead, startRead, if_pos hpeer]
    rfl
  apply (gets_clientRead hat rfl).trans
  intro u hat'
  rw [hclient] at hat'
  apply gets_serverRead hat' rfl
  simp [serverRead, startRead, peer, setPeer]

end Steps

theorem relaying_begun {r : RelaySession} (hopen : r.isClosed = false) (hclient : r.client.isOpen = true)
    (socks : Option Int64) : Relaying (begun r socks) := by
  refine ⟨hopen, fun d => ?_, fun d => ?_⟩
  · cases d with
    | client => exact hclient
    | server => rfl
  · cases d with
    | client => exact .inl rfl
    | server => exact .inl rfl

def startSteps (k : ℕ) (input : Bytes) (turns : List Turn) (job : List ServerEvent) : List GatewayEvent :=
  [.server (.accept none), .server (.begin k)] ++ [.server (.socket k (.arrive .client input))] ++
    [.readBytes k [Ver.socks5.code]] ++ [.server (.createProxy k)] ++ turns.map (Turn.event k) ++ job.map .server

structure Blank (c : Connection) : Prop extends Fresh c where
  incoming : ∀ d, (c.relay.peer d).incoming = []
  outgoing : ∀ d, (c.relay.peer d).outgoing = []

theorem blank_of_accepting {settings : Settings} {table : SessionTable} {issued : List Int64}
    {es : List (GatewayEvent × Sqlite)} {s : TcpServer} {k : ℕ}
    (hrun : gateway.run (launch settings table issued) es = some s) (ha : s.accepting = some k)
    (hnew : streams es k = {}) : s.io = .idle ∧ ∃ c, s.connections[k]? = some c ∧ Blank c := by
  obtain ⟨hinv, hsized⟩ := persists (carries_persistent _) hrun
  obtain ⟨hio, c, hk, hfresh⟩ := hinv.accepting k ha
  obtain ⟨relayed, hcarried⟩ := hsized.each k c hk
  rw [hnew] at hcarried
  have hquiet := hcarried.quiet (.inl hfresh.job)
  have harrived : ∀ d, arrived (c.relay.peer d) = [] := by
    intro d
    rw [arrived, hfresh.reads d]
  refine ⟨hio, c, hk, hfresh, fun d => ?_, fun d => ?_⟩
  · have hlive := hcarried.flowing.live hfresh.isClosed d
    rw [(hquiet d).1, harrived] at hlive
    cases d <;> exact hlive
  · have hout := hcarried.flowing.outgoing d.other
    rw [(hquiet d.other).1, other_other] at hout
    rw [hout]
    cases d <;> rfl

theorem gets_started {settings : Settings} {k : ℕ} {s : TcpServer} {c : Connection} (hs : s.settings = settings)
    (hio : s.io = .idle) (ha : s.accepting = some k) (hk : s.connections[k]? = some c) (hblank : Blank c)
    (hlimit : ({ s with sessions := s.sessions + 1 } : TcpServer).limitReached = false)
    (hpool : s.running < settings.poolThreads) (turns : List Turn) (payload : Bytes) (record : Session) :
    ∃ x : Connection, Gets settings k s (startSteps k (Ver.socks5.code :: (turns.flatMap Turn.read ++ payload)) turns
        [.init k record, .clientRead k, .serverRead k]) x ∧ Relaying x.relay ∧
      (∀ d, (x.relay.peer d).read = .pending) ∧ x.relay.client.incoming = payload ∧ x.relay.server.incoming = [] ∧
      x.relay.server.outgoing = [] ∧ x.relay.client.outgoing = turns.flatMap Turn.written := by
  subst hs
  have haccepted := gets_accepted hio ha hk hblank.job hlimit hpool
  have harrive := haccepted.trans fun t hat => gets_arrive hat (Ver.socks5.code :: (turns.flatMap Turn.read ++ payload))
  have hinput : (c.relay.opened .client).client.incoming ++ Ver.socks5.code :: (turns.flatMap Turn.read ++ payload) =
      [Ver.socks5.code] ++ (turns.flatMap Turn.read ++ payload) := by
    have hin : (c.relay.opened .client).client.incoming = [] := hblank.incoming .client
    rw [hin]
    rfl
  have hversion := harrive.trans fun t hat => gets_read hat rfl hinput
  have hproxy := hversion.trans fun t hat => gets_createProxy hat rfl hblank.socks
  obtain ⟨t, hrun, hat⟩ := hproxy.trans fun t hat => gets_turns turns hat rfl rfl
  obtain ⟨socks, returned, hrelay⟩ := gets_relay hat rfl rfl rfl record
  refine ⟨_, gets_append hrun hrelay, ?_, fun d => ?_, rfl, hblank.incoming .server, hblank.outgoing .server, ?_⟩
  · apply relaying_begun
    · exact hblank.isClosed
    · rfl
  · cases d <;> rfl
  have hout : (c.relay.opened .client).client.outgoing = [] := hblank.outgoing .client
  change (c.relay.opened .client).client.outgoing ++ turns.flatMap Turn.written = _
  rw [hout, List.nil_append]

theorem arrived_pending {p : Peer} (h : p.read = .pending) : arrived p = [] := by
  rw [arrived, h]

theorem serving_arrive {bufferSize k : ℕ} {s : TcpServer} {c : Connection} (h : Serving bufferSize k s c)
    (reply : Bytes) : ∃ t x, gateway.run s [(.server (.socket k (.arrive .server reply)), .quiet)] = some t ∧
      Serving bufferSize k t x ∧ x.relay = { c.relay with
        server := { c.relay.server with incoming := c.relay.server.incoming ++ reply } } := by
  have hstep : gateway.step s (.server (.socket k (.arrive .server reply)), .quiet) =
      some (s.setConnection k { c with relay := { c.relay with
        server := { c.relay.server with incoming := c.relay.server.incoming ++ reply } } }) := by
    change s.step .quiet (.socket k (.arrive .server reply)) = _
    simp only [step, h.connection]
    rfl
  refine ⟨_, _, Machine.run_cons_of gateway hstep, ⟨h.io, h.size, setConnection_same h.connection _, ?_⟩, rfl⟩
  refine ⟨h.relaying.isOpen, fun d => ?_, fun d => ?_⟩
  · have hopen := h.relaying.sockets d
    cases d <;> exact hopen
  · have hreads := h.relaying.reads d
    cases d <;> exact hreads

theorem exchanged {bufferSize k : ℕ} {s : TcpServer} {c : Connection} (hbuffer : 0 < bufferSize)
    (h : Serving bufferSize k s c) (hpending : ∀ d, (c.relay.peer d).read = .pending)
    (hback : c.relay.server.incoming = []) (reply : Bytes) :
    ∃ forth back t x, (∀ e ∈ forth ++ back, Own k e.1) ∧
      gateway.run s (forth ++ [(.server (.socket k (.arrive .server reply)), .quiet)] ++ back) = some t ∧
      Serving bufferSize k t x ∧ x.relay.server.outgoing = c.relay.server.outgoing ++ c.relay.client.incoming ∧
      x.relay.client.outgoing = c.relay.client.outgoing ++ reply := by
  obtain ⟨forth, u, y, hown, hforth, hserving, hpass⟩ := drain hbuffer .client h
  obtain ⟨v, z, harrive, hserving', hz⟩ := serving_arrive hserving reply
  obtain ⟨back, t, x, hown', hrun, hserving'', hpass'⟩ := drain hbuffer .server hserving'
  have hidle : arrived c.relay.client = [] ∧ arrived c.relay.server = [] :=
    ⟨arrived_pending (hpending .client), arrived_pending (hpending .server)⟩
  have hsent : y.relay.server.outgoing = c.relay.server.outgoing ++ c.relay.client.incoming := by
    have hout : y.relay.server.outgoing = c.relay.server.outgoing ++ (arrived c.relay.client ++ c.relay.client.incoming) :=
      hpass.outgoing
    rw [hout, hidle.1, List.nil_append]
  have hkept : y.relay.client.outgoing = c.relay.client.outgoing := hpass.back
  have hwaiting : arrived y.relay.server = arrived c.relay.server ∧ y.relay.server.incoming = c.relay.server.incoming :=
    hpass.waiting
  refine ⟨forth, back, t, x, fun e he => ?_, ?_, hserving'', ?_, ?_⟩
  · rcases List.mem_append.mp he with he | he
    · exact hown e he
    · exact hown' e he
  · rw [List.append_assoc, Machine.run_append_of _ hforth, Machine.run_append_of _ harrive, hrun]
  · have hout : x.relay.server.outgoing = z.relay.server.outgoing := hpass'.back
    rw [hout, hz, ← hsent]
  · have hout : x.relay.client.outgoing = z.relay.client.outgoing ++ (arrived z.relay.server ++ z.relay.server.incoming) :=
      hpass'.outgoing
    have hincoming : z.relay.server.incoming = reply := by
      rw [hz]
      simp only
      rw [hwaiting.2, hback, List.nil_append]
    have harrived : arrived z.relay.server = [] := by
      have hread : arrived z.relay.server = arrived y.relay.server := by
        rw [hz]
        rfl
      rw [hread, hwaiting.1, hidle.2]
    have hclient : z.relay.client.outgoing = c.relay.client.outgoing := by
      rw [hz, ← hkept]
    rw [hout, hincoming, harrived, hclient, List.nil_append]

theorem client_served {settings : Settings} {table : SessionTable} {issued : List Int64}
    {es : List (GatewayEvent × Sqlite)} {s : TcpServer} {k : ℕ}
    (hrun : gateway.run (launch settings table issued) es = some s) (ha : s.accepting = some k)
    (hnew : streams es k = {}) (hlimit : ({ s with sessions := s.sessions + 1 } : TcpServer).limitReached = false)
    (hpool : s.running < s.settings.poolThreads) (hbuffer : 0 < settings.bufferSize)
    {e : Env} (hw : ∀ n, e.writeClient n = none) (hq : ∀ q n, ∃ ep, e.endpoint q n = .ok ep)
    {l : Option HandshakeGrammar.Credentials} {r : HandshakeGrammar.Request} {h payload : Bytes}
    (hcode : HandshakeCode e l r h)
    (hreach : Reaches e (chosen .socks5 (h ++ payload)) r.text (Socks.service r.port))
    {turns : List Turn} (hturns : turns.flatMap Turn.read = h) (reply : Bytes) :
    ∃ forth back t c, (∀ e ∈ forth ++ back, Own k e.1) ∧
      gateway.run s ((startSteps k (Ver.socks5.code :: (h ++ payload)) turns
        (jobEvents k (started e (Ver.socks5.code :: (h ++ payload))).trace)).map (fun e => (e, .quiet)) ++ forth ++
        [(.server (.socket k (.arrive .server reply)), .quiet)] ++ back) = some t ∧
      t.connections[k]? = some c ∧ c.relay.isClosed = false ∧ c.relay.server.outgoing = payload ∧
      c.relay.client.outgoing = turns.flatMap Turn.written ++ reply := by
  obtain ⟨-, record, hjob⟩ := accepted_steps hw hq hcode hreach k
  obtain ⟨hio, c, hk, hblank⟩ := blank_of_accepting hrun ha hnew
  have hsize : s.settings.bufferSize = settings.bufferSize := (persists (carries_persistent _) hrun).2.sized
  rw [← hturns] at hjob ⊢
  obtain ⟨x, ⟨t, hstart, hat⟩, hrelaying, hpending, hin, hback, hserver, hclient⟩ :=
    gets_started rfl hio ha hk hblank hlimit hpool turns payload record
  have hserving : Serving settings.bufferSize k t x :=
    ⟨hat.io, by rw [hat.settings, hsize], hat.connection, hrelaying⟩
  obtain ⟨forth, back, u, d, hown, hrun', hserving', hsent, hreplied⟩ := exchanged hbuffer hserving hpending hback reply
  refine ⟨forth, back, u, d, hown, ?_, hserving'.connection, hserving'.relaying.isOpen, ?_, ?_⟩
  · rw [hjob, List.append_assoc, List.append_assoc, Machine.run_append_of _ hstart]
    rwa [List.append_assoc] at hrun'
  · rw [hsent, hserver, hin, List.nil_append]
  · rw [hreplied, hclient]

def bobTurns : List Turn :=
  [.reads [1, 2], .writes [5, 2], .reads [1, 3, 98, 111, 98, 2, 112, 119], .writes [1, 0],
    .reads [5, 1, 0, 3, 1, 104, 0, 80], .writes [5, 0, 0, 1, 0, 0, 0, 0, 0, 56]]

theorem client_served_bob : ∃ es t c, gateway.run (launch ⟨2, 1, 8⟩ .empty []) es = some t ∧
    t.connections[0]? = some c ∧ c.relay.server.outgoing = [71, 69] ∧
    c.relay.client.outgoing = [5, 2, 1, 0, 5, 0, 0, 1, 0, 0, 0, 0, 0, 56] ++ [79, 75] := by
  obtain ⟨forth, back, t, c, -, hrun, hk, -, hserver, hclient⟩ := @client_served ⟨2, 1, 8⟩ .empty [] [] _ 0 rfl rfl rfl
    (by decide) (by decide) (by decide) (Env.permissive true [([98, 111, 98], [112, 119])]) (fun _ => rfl)
    (fun _ _ => ⟨_, rfl⟩) (some ⟨[98, 111, 98], [112, 119]⟩) ⟨1, 0, 3, [104], 0, 80⟩
    ([1, 2] ++ [1, 3, 98, 111, 98, 2, 112, 119] ++ [5, 1, 0, 3, 1, 104, 0, 80]) [71, 69]
    ⟨[2], [1, 2], [1, 3, 98, 111, 98, 2, 112, 119], [5, 1, 0, 3, 1, 104, 0, 80],
      ⟨⟨1, rfl, rfl⟩, by decide⟩,
      ⟨_, rfl, ⟨by decide, [3, 98, 111, 98], [2, 112, 119], ⟨3, rfl, rfl⟩, ⟨2, rfl, rfl⟩, rfl⟩, by decide⟩,
      ⟨[1, 104], .inr (.inl ⟨rfl, by decide, 1, rfl, rfl⟩), rfl⟩, rfl, rfl⟩
    ⟨1080, _, rfl⟩ bobTurns rfl [79, 75]
  exact ⟨_, t, c, hrun, hk, hserver, hclient⟩

end SocksProxy.ServedClients
