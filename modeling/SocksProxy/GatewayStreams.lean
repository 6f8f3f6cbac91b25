import SocksProxy.GatewaySteps

namespace SocksProxy.GatewayStreams

open TransitionSystems RelaySession RelayLedgers TcpServer ServerFrames ServerInvariants SessionStreams
open GatewaySteps

structure Carried (h : Streams) (relayed : Side → Bytes) (c : Connection) : Prop where
  flowing : Flowing h relayed c.relay
  quiet : c.job = .absent ∨ c.job.early = true → ∀ d, relayed d = [] ∧ (c.relay.peer d).read = .idle
  reading : c.job = .reading → (c.relay.peer .server).read = .idle

theorem carried_constructed (bufferSize : ℕ) :
    Carried {} (fun _ => []) (Lifetime.constructed bufferSize).connection := by
  have hread : ∀ d, ((Lifetime.constructed bufferSize).connection.relay.peer d).read = .idle := by
    intro d
    cases d <;> rfl
  refine ⟨flowing_fresh ?_ ?_ hread rfl, fun _ d => ⟨rfl, hread d⟩, fun _ => rfl⟩
  · intro d
    cases d <;> rfl
  · intro d
    cases d <;> rfl

section Connections

variable {h : Streams} {relayed : Side → Bytes} {c : Connection}

theorem Carried.close (hc : Carried h relayed c) :
    Carried h relayed { c with relay := c.relay.close.1 } where
  flowing := hc.flowing.close
  quiet hj d := ⟨(hc.quiet hj d).1, close_idle (hc.quiet hj d).2⟩
  reading hj := close_idle (hc.reading hj)

theorem Carried.posted (hc : Carried h relayed c) (hfresh : Fresh c) :
    Carried h relayed { c with relay := c.relay.opened .client, job := .posted, accepted := true } where
  flowing := hc.flowing.opened (d := .client) hfresh.isClosed
  quiet _ d := by
    have hquiet := hc.quiet (.inl hfresh.job) d
    cases d <;> exact hquiet
  reading hj := by cases hj

theorem Carried.ahead {r : RelaySession} {j : Job} (hc : Carried h relayed c) (he : c.job.early = true)
    (hf : Flowing h relayed r) (hread : ∀ d, (r.peer d).read = (c.relay.peer d).read)
    (returned : Option Int64) : Carried h relayed { c with relay := r, job := j, returned := returned } where
  flowing := hf
  quiet _ d := ⟨(hc.quiet (.inr he) d).1, (hread d).trans (hc.quiet (.inr he) d).2⟩
  reading _ := (hread .server).trans (hc.quiet (.inr he) .server).2

theorem Carried.ended {r : RelaySession} (hf : Flowing h relayed r) :
    Carried h relayed { c with relay := r, job := .done } where
  flowing := hf
  quiet hj := by
    rcases hj with hj | hj
    · cases hj
    · cases hj
  reading hj := by cases hj

theorem Carried.initialised (hc : Carried h relayed c) (hj : c.job = .negotiating)
    (hl : c.relay.isClosed = false) (socks returned : Option Int64) : Carried h relayed { c with
      relay := { c.relay.opened .server with socks := socks }, job := .initialised, returned := returned } := by
  apply hc.ahead (by rw [hj]; rfl)
  · apply (hc.flowing.opened hl (d := .server)).congr
    · intro d
      cases d <;> rfl
    · rfl
  · intro d
    cases d <;> rfl

theorem Carried.socket {bufferSize : ℕ} {e : SocketEvent} {r : RelaySession} (hc : Carried h relayed c)
    (hr : c.relay.socketStep bufferSize e = some r) : Carried (h.socket e) relayed { c with relay := r } := by
  have hread := (socketStep_kept hr).2
  refine ⟨?_, fun hj d => ⟨(hc.quiet hj d).1, (hread d).mpr (hc.quiet hj d).2⟩,
    fun hj => (hread .server).mpr (hc.reading hj)⟩
  cases e with
  | arrive d bytes =>
    obtain rfl := Option.some.inj hr
    exact hc.flowing.arrive d bytes
  | transfer d size => exact hc.flowing.transfer hr
  | readError d err => exact hc.flowing.readError hr

theorem server_idle {d : Side} {o : WriteOutcome} {r r' : RelaySession} {effects : List Effect}
    (hidle : (r.peer .server).read = .idle) (hd : r.dispatch d o = some (r', effects)) :
    (r'.peer .server).read = .idle := by
  obtain ⟨comp, hready, hcases⟩ := dispatch_cases hd
  obtain rfl : d = .client := by
    cases d with
    | client => rfl
    | server =>
      rw [hidle] at hready
      cases hready
  have hdelivered : ∀ bytes, (((r.popped .client).delivered .server bytes).peer .server).read = .idle := by
    intro bytes
    rw [delivered, peer_setPeer]
    exact hidle
  cases hcases with
  | ended hend => exact close_idle (s := r.popped .client) (d := .server) hidle
  | forwarded bytes hc hn hopen hb =>
    rw [startRead]
    split_ifs
    · exact hdelivered bytes
    · exact hdelivered bytes
  | lost bytes hc hn hb hshut => exact close_idle (hdelivered bytes)

theorem Carried.dispatch {d : Side} {o : WriteOutcome} {r : RelaySession} {effects : List Effect}
    (hc : Carried h relayed c) (hd : c.relay.dispatch d o = some (r, effects)) :
    ∃ bytes, Carried h (advanced relayed d bytes) { c with relay := r } := by
  obtain ⟨comp, hready, -⟩ := dispatch_cases hd
  obtain ⟨bytes, hf⟩ := hc.flowing.dispatch hd
  refine ⟨bytes, hf, fun hj => ?_, fun hj => server_idle (hc.reading hj) hd⟩
  rw [(hc.quiet hj d).2] at hready
  cases hready

theorem Carried.readBytes {bytes : Bytes} (hc : Carried h relayed c) (hj : c.job = .negotiating)
    (hb : bytes <+: c.relay.client.incoming) (hl : c.relay.isClosed = false) :
    Carried (h.take bytes) relayed { c with relay := consumed c.relay bytes } := by
  have hquiet := hc.quiet (.inr (by rw [hj]; rfl))
  refine ⟨hc.flowing.read (hquiet .client).1 (hquiet .client).2 hb hl, fun _ d => ⟨(hquiet d).1, ?_⟩,
    fun _ => (hquiet .server).2⟩
  cases d
  · exact (hquiet .client).2
  · exact (hquiet .server).2

theorem Carried.writeBytes {bytes : Bytes} (hc : Carried h relayed c) (hj : c.job = .negotiating) :
    Carried (h.reply bytes) relayed { c with relay := c.relay.delivered .client bytes } := by
  have hquiet := hc.quiet (.inr (by rw [hj]; rfl))
  refine ⟨hc.flowing.reply (hquiet .server).1 bytes, fun _ d => ⟨(hquiet d).1, ?_⟩,
    fun _ => (hquiet .server).2⟩
  cases d
  · exact (hquiet .client).2
  · exact (hquiet .server).2

end Connections

def Carries (h : Streams) (c : Connection) : Prop := ∃ relayed, Carried h relayed c

theorem carries_persistent (bufferSize : ℕ) : Persistent bufferSize Carries where
  constructed := ⟨_, carried_constructed bufferSize⟩
  close := fun h c ⟨relayed, hc⟩ => ⟨relayed, hc.close⟩
  posted := fun h c ⟨relayed, hc⟩ hfresh => ⟨relayed, hc.posted hfresh⟩
  begun := fun h c ⟨relayed, hc⟩ hj =>
    ⟨relayed, hc.ahead (by rw [hj]; rfl) hc.flowing (fun _ => rfl) c.returned⟩
  chosen := fun h c ⟨relayed, hc⟩ hj => by
    have hpeer : ∀ d, RelaySession.peer { c.relay with socks := some 0 } d = c.relay.peer d := by
      intro d
      cases d <;> rfl
    refine ⟨relayed, hc.ahead (j := c.job) (by rw [hj]; rfl) (hc.flowing.congr hpeer rfl) ?_ c.returned⟩
    intro d
    rw [hpeer]
  initialised := fun h c ⟨relayed, hc⟩ hj hl socks returned => ⟨relayed, hc.initialised hj hl socks returned⟩
  clientRead := fun h c ⟨relayed, hc⟩ hj => by
    have hquiet := hc.quiet (.inr (by rw [hj]; rfl))
    refine ⟨relayed, (hc.flowing.startRead (hquiet .client).2).relay, fun hj => ?_, fun _ => ?_⟩
    · rcases hj with hj | hj
      · cases hj
      · cases hj
    · change (c.relay.startRead .client).server.read = .idle
      rw [startRead]
      split_ifs
      · exact (hquiet .server).2
      · exact (hquiet .server).2
  serverRead := fun h c ⟨relayed, hc⟩ hj => ⟨relayed, Carried.ended (hc.flowing.startRead (hc.reading hj))⟩
  stopped := fun h c ⟨relayed, hc⟩ _ => ⟨relayed, Carried.ended hc.flowing⟩
  socket := fun h c ⟨relayed, hc⟩ e r hr => ⟨relayed, hc.socket hr⟩
  dispatch := fun h c ⟨relayed, hc⟩ d o r effects hd => by
    obtain ⟨bytes, hx⟩ := hc.dispatch hd
    exact ⟨_, hx⟩
  readBytes := fun h c ⟨relayed, hc⟩ hj hl bytes hb => ⟨relayed, hc.readBytes hj hb hl⟩
  writeBytes := fun h c ⟨relayed, hc⟩ hj bytes => ⟨relayed, hc.writeBytes hj⟩

/-- Over every run of the server, whatever its other sessions do, a session forwards the bytes of its
own sockets only: behind those of its handshake, in order, none twice and none left out. -/
theorem sessions_separate {settings : Settings} {table : SessionTable} {issued : List Int64}
    {es : List (GatewayEvent × Sqlite)} {s : TcpServer} {k : ℕ} {c : Connection}
    (hrun : gateway.run (launch settings table issued) es = some s) (hk : s.connections[k]? = some c) :
    ∃ relayed : Side → Bytes,
      c.relay.client.outgoing = (streams es k).replied ++ relayed .server ∧
      c.relay.server.outgoing = relayed .client ∧
      (streams es k).taken ++ relayed .client <+: (streams es k).arrivals .client ∧
      relayed .server <+: (streams es k).arrivals .server ∧
      (c.relay.isClosed = false →
        (streams es k).taken ++ relayed .client ++ arrived c.relay.client ++ c.relay.client.incoming =
          (streams es k).arrivals .client ∧
        relayed .server ++ arrived c.relay.server ++ c.relay.server.incoming =
          (streams es k).arrivals .server) := by
  obtain ⟨relayed, hc⟩ := (persists (carries_persistent _) hrun).2.each k c hk
  have hf := hc.flowing
  refine ⟨relayed, hf.outgoing .server, hf.outgoing .client, hf.within .client, hf.within .server, fun hl => ?_⟩
  exact ⟨hf.live hl .client, hf.live hl .server⟩

def pair : List (GatewayEvent × Sqlite) :=
  [.server (.accept none), .server (.accept none), .server (.socket 0 (.arrive .client [5, 1, 0, 99])),
    .server (.socket 1 (.arrive .client [4, 7])), .server (.begin 0), .server (.begin 1),
    .server (.createProxy 1), .server (.createProxy 0), .readBytes 0 [5, 1, 0], .readBytes 1 [4],
    .writeBytes 0 [5, 0], .server (.init 1 {}), .server (.init 0 {}), .server (.clientRead 0),
    .server (.clientRead 1), .server (.serverRead 1), .server (.socket 1 (.transfer .client 1)),
    .server (.socket 0 (.transfer .client 1)), .server (.dispatch 0 .client .whole),
    .server (.dispatch 1 .client .whole)].map fun e => (e, .quiet)

theorem sessions_separate_pair : ∃ s c, gateway.run (launch ⟨0, 2, 8⟩ .empty []) pair = some s ∧
    s.connections[0]? = some c ∧ c.relay.client.outgoing = [5, 0] ∧ c.relay.server.outgoing = [99] ∧
    (streams pair 0).arrivals .client = [5, 1, 0, 99] ∧ ∃ relayed : Side → Bytes,
      c.relay.server.outgoing = relayed .client ∧
      (streams pair 0).taken ++ relayed .client <+: (streams pair 0).arrivals .client := by
  obtain ⟨s, c, hrun, hk, hout⟩ : ∃ s c, gateway.run (launch ⟨0, 2, 8⟩ .empty []) pair = some s ∧
      s.connections[0]? = some c ∧ c.relay.client.outgoing = [5, 0] ∧ c.relay.server.outgoing = [99] :=
    ⟨_, _, rfl, rfl, rfl, rfl⟩
  obtain ⟨relayed, -, hserver, hwithin, -⟩ := sessions_separate hrun hk
  exact ⟨s, c, hrun, hk, hout.1, hout.2, rfl, relayed, hserver, hwithin⟩

end SocksProxy.GatewayStreams
