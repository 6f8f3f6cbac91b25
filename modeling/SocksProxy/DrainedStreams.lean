import SocksProxy.SessionBuffers
import SocksProxy.RecordedBytes

namespace SocksProxy.DrainedStreams

open TransitionSystems RelaySession RelayLedgers RelayFidelity TcpServer ServerFrames ServerLifetimes
open SessionStreams GatewaySteps SessionBuffers RecordedBytes

structure Relaying (r : RelaySession) : Prop where
  isOpen : r.isClosed = false
  sockets : ∀ d, (r.peer d).isOpen = true
  reads : ∀ d, (r.peer d).read = .pending ∨ ∃ n, 0 < n ∧ (r.peer d).read = .ready ⟨none, n⟩

def Own (k : ℕ) : GatewayEvent → Prop
  | .server (.socket j (.transfer _ _)) => j = k
  | .server (.dispatch j _ .whole) => j = k
  | _ => False

def forwarded (r : RelaySession) (d : Side) (n : ℕ) : RelaySession :=
  ((r.popped d).delivered d.other ((r.peer d).buffer.take n)).startRead d

structure Serving (bufferSize k : ℕ) (s : TcpServer) (c : Connection) : Prop where
  io : s.io = .idle
  size : s.settings.bufferSize = bufferSize
  connection : s.connections[k]? = some c
  relaying : Relaying c.relay

structure Passing (d : Side) (bytes rest : Bytes) (r r' : RelaySession) : Prop where
  outgoing : (r'.peer d.other).outgoing = (r.peer d.other).outgoing ++ bytes
  left : (r'.peer d).incoming = rest
  pending : (r'.peer d).read = .pending
  back : (r'.peer d).outgoing = (r.peer d).outgoing
  waiting : arrived (r'.peer d.other) = arrived (r.peer d.other) ∧
    (r'.peer d.other).incoming = (r.peer d.other).incoming

def Passes (bufferSize k : ℕ) (d : Side) (bytes rest : Bytes) (s : TcpServer) (c : Connection) : Prop :=
  ∃ es t c', (∀ e ∈ es, Own k e.1) ∧ gateway.run s es = some t ∧ Serving bufferSize k t c' ∧
    Passing d bytes rest c.relay c'.relay

section Relay

variable {r : RelaySession} {d : Side} {n : ℕ}

theorem popped_peer (r : RelaySession) (d : Side) : (r.popped d).peer d = { r.peer d with read := .idle } := by
  rw [popped, peer_setPeer]

theorem popped_peer_other (r : RelaySession) (d : Side) : (r.popped d).peer d.other = r.peer d.other := by
  rw [popped, peer_setPeer_other]

theorem forwarded_eq (hopen : (r.peer d).isOpen = true) : forwarded r d n =
    ((r.popped d).delivered d.other ((r.peer d).buffer.take n)).setPeer d { r.peer d with read := .pending } := by
  have hpeer : ((r.popped d).delivered d.other ((r.peer d).buffer.take n)).peer d =
      { r.peer d with read := .idle } := by
    rw [delivered_peer_other, popped_peer]
  rw [forwarded, startRead, hpeer, if_pos hopen]

theorem forwarded_peer (hopen : (r.peer d).isOpen = true) :
    (forwarded r d n).peer d = { r.peer d with read := .pending } := by
  rw [forwarded_eq hopen, peer_setPeer]

theorem forwarded_peer_other (hopen : (r.peer d).isOpen = true) : (forwarded r d n).peer d.other =
    { r.peer d.other with outgoing := (r.peer d.other).outgoing ++ (r.peer d).buffer.take n } := by
  rw [forwarded_eq hopen, peer_setPeer_other, delivered_peer, popped_peer_other]

theorem Relaying.forwarded (hr : Relaying r) (d : Side) (n : ℕ) : Relaying (forwarded r d n) := by
  have hpeer := forwarded_peer (n := n) (hr.sockets d)
  have hother := forwarded_peer_other (n := n) (hr.sockets d)
  refine ⟨?_, fun e => ?_, fun e => ?_⟩
  · rw [forwarded_eq (hr.sockets d), setPeer_isClosed, (kept_delivered _ _ _).isClosed,
      (kept_popped r d).isClosed]
    exact hr.isOpen
  · rcases eq_or_eq_other d e with rfl | rfl
    · rw [hpeer]
      exact hr.sockets e
    · rw [hother]
      exact hr.sockets d.other
  · rcases eq_or_eq_other d e with rfl | rfl
    · rw [hpeer]
      exact .inl rfl
    · rw [hother]
      exact hr.reads d.other

theorem passing_forwarded (hr : Relaying r) (hread : (r.peer d).read = .ready ⟨none, n⟩) :
    Passing d (arrived (r.peer d)) (r.peer d).incoming r (forwarded r d n) := by
  have hpeer := forwarded_peer (n := n) (hr.sockets d)
  have hother := forwarded_peer_other (n := n) (hr.sockets d)
  refine ⟨?_, ?_, ?_, ?_, ?_, ?_⟩
  · rw [hother, arrived_ready hread rfl]
  · rw [hpeer]
  · rw [hpeer]
  · rw [hpeer]
  · rw [hother]
    rfl
  · rw [hother]

theorem dispatch_whole (hr : Relaying r) (hn : 0 < n) (hread : (r.peer d).read = .ready ⟨none, n⟩) :
    ∃ effects, r.dispatch d .whole = some (forwarded r d n, effects) := by
  have hopen : ((r.popped d).peer d.other).isOpen = true := by
    rw [popped_peer_other]
    exact hr.sockets d.other
  have hhandle : ((r.popped d).handle d ⟨none, n⟩ .whole).1 = forwarded r d n := by
    rw [handle, if_neg (by simp), if_pos hn, writeToSocket, sent, if_pos hopen, popped_peer]
    rfl
  refine ⟨((r.popped d).handle d ⟨none, n⟩ .whole).2, ?_⟩
  rw [← hhandle, dispatch, hread]
  simp only [handler_eq]
  rfl

theorem Passing.trans {r' r'' : RelaySession} {xs ys rest rest' : Bytes} (h : Passing d xs rest r r')
    (h' : Passing d ys rest' r' r'') : Passing d (xs ++ ys) rest' r r'' where
  outgoing := by rw [h'.outgoing, h.outgoing, List.append_assoc]
  left := h'.left
  pending := h'.pending
  back := h'.back.trans h.back
  waiting := ⟨h'.waiting.1.trans h.waiting.1, h'.waiting.2.trans h.waiting.2⟩

def pulled (r : RelaySession) (d : Side) (n : ℕ) : RelaySession :=
  r.setPeer d { r.peer d with
    incoming := (r.peer d).incoming.drop n
    buffer := (r.peer d).incoming.take n ++ (r.peer d).buffer.drop n
    read := .ready ⟨none, n⟩ }

theorem Relaying.pulled (hr : Relaying r) (hn : 0 < n) (d : Side) : Relaying (pulled r d n) := by
  refine ⟨?_, fun e => ?_, fun e => ?_⟩
  · rw [DrainedStreams.pulled, setPeer_isClosed]
    exact hr.isOpen
  · rcases eq_or_eq_other d e with rfl | rfl
    · rw [DrainedStreams.pulled, peer_setPeer]
      exact hr.sockets e
    · rw [DrainedStreams.pulled, peer_setPeer_other]
      exact hr.sockets d.other
  · rcases eq_or_eq_other d e with rfl | rfl
    · rw [DrainedStreams.pulled, peer_setPeer]
      exact .inr ⟨n, hn, rfl⟩
    · rw [DrainedStreams.pulled, peer_setPeer_other]
      exact hr.reads d.other

end Relay

section Server

variable {bufferSize k : ℕ} {s : TcpServer} {c : Connection} {d : Side}

theorem Passes.trans {xs ys rest rest' : Bytes} (h : Passes bufferSize k d xs rest s c)
    (h' : ∀ t c', Serving bufferSize k t c' → Passing d xs rest c.relay c'.relay →
      Passes bufferSize k d ys rest' t c') : Passes bufferSize k d (xs ++ ys) rest' s c := by
  obtain ⟨es, t, c', hown, hrun, hserving, hpass⟩ := h
  obtain ⟨es', t', c'', hown', hrun', hserving', hpass'⟩ := h' t c' hserving hpass
  refine ⟨es ++ es', t', c'', fun e he => ?_, ?_, hserving', hpass.trans hpass'⟩
  · rcases List.mem_append.mp he with he | he
    · exact hown e he
    · exact hown' e he
  · rw [Machine.run_append_of _ hrun, hrun']

theorem flush {n : ℕ} (h : Serving bufferSize k s c) (hn : 0 < n)
    (hread : (c.relay.peer d).read = .ready ⟨none, n⟩) :
    Passes bufferSize k d (arrived (c.relay.peer d)) (c.relay.peer d).incoming s c := by
  obtain ⟨effects, hdispatch⟩ := dispatch_whole h.relaying hn hread
  have hset := setConnection_same h.connection { c with relay := forwarded c.relay d n }
  have hundisturbed := undisturbed_performAll .quiet (s.setConnection k { c with relay := forwarded c.relay d n }) effects
  have hk : ((s.setConnection k { c with relay := forwarded c.relay d n }).performAll .quiet effects).connections[k]? =
      some { c with relay := forwarded c.relay d n } := by
    rw [hundisturbed.connections]
    exact hset
  have hheld : Connection.held { c with relay := forwarded c.relay d n } = true := by
    have hpending := (passing_forwarded h.relaying hread).pending
    cases d with
    | client =>
      have hclient : (forwarded c.relay .client n).client.read = .pending := hpending
      simp [Connection.held, hclient]
    | server =>
      have hserver : (forwarded c.relay .server n).server.read = .pending := hpending
      simp [Connection.held, hserver]
  have hstep : gateway.step s (.server (.dispatch k d .whole), .quiet) =
      some ((s.setConnection k { c with relay := forwarded c.relay d n }).performAll .quiet effects) := by
    have hrelease := release_of .quiet hk
    rw [referenced, hheld, Bool.or_true, if_pos rfl] at hrelease
    change s.step .quiet (.dispatch k d .whole) = _
    simp only [step, h.io, h.connection, hdispatch, Option.map_some, hrelease]
  refine ⟨[(.server (.dispatch k d .whole), .quiet)], _, _, ?_, ?_, ⟨?_, ?_, hk, h.relaying.forwarded d n⟩,
    passing_forwarded h.relaying hread⟩
  · intro e he
    rw [List.mem_singleton.mp he]
    rfl
  · exact Machine.run_cons_of gateway hstep
  · rw [hundisturbed.io]
    exact h.io
  · rw [hundisturbed.settings]
    exact h.size

theorem pull (h : Serving bufferSize k s c) (hpos : 0 < bufferSize) (hread : (c.relay.peer d).read = .pending)
    (hne : (c.relay.peer d).incoming ≠ []) : Passes bufferSize k d
      ((c.relay.peer d).incoming.take bufferSize) ((c.relay.peer d).incoming.drop bufferSize) s c := by
  have hlength := List.length_pos_of_ne_nil hne
  obtain ⟨n, hn⟩ : ∃ n, n = min bufferSize (c.relay.peer d).incoming.length := ⟨_, rfl⟩
  have htransfer : c.relay.transfer bufferSize d n = some (pulled c.relay d n) := by
    apply transfer_eq_some.mpr
    refine ⟨⟨hread, by omega, by omega, by omega⟩, rfl⟩
  have hstep : gateway.step s (.server (.socket k (.transfer d n)), .quiet) =
      some (s.setConnection k { c with relay := pulled c.relay d n }) := by
    change s.step .quiet (.socket k (.transfer d n)) = _
    simp only [step, h.connection, socketStep, h.size, htransfer, Option.map_some]
  have hserving : Serving bufferSize k (s.setConnection k { c with relay := pulled c.relay d n })
      { c with relay := pulled c.relay d n } :=
    ⟨h.io, h.size, setConnection_same h.connection _, h.relaying.pulled (by omega) d⟩
  have hready : ((pulled c.relay d n).peer d).read = .ready ⟨none, n⟩ := by
    rw [pulled, peer_setPeer]
  obtain ⟨es, t, c', hown, hrun, hserving', hpass⟩ := flush hserving (by omega) hready
  refine ⟨(.server (.socket k (.transfer d n)), .quiet) :: es, t, c', ?_, ?_, hserving', ?_⟩
  · intro e he
    rcases List.mem_cons.mp he with rfl | he
    · rfl
    · exact hown e he
  · rw [Machine.run_cons_of gateway hstep, hrun]
  · have hself : (pulled c.relay d n).peer d = { c.relay.peer d with
        incoming := (c.relay.peer d).incoming.drop n
        buffer := (c.relay.peer d).incoming.take n ++ (c.relay.peer d).buffer.drop n
        read := .ready ⟨none, n⟩ } := by
      rw [pulled, peer_setPeer]
    have hother : (pulled c.relay d n).peer d.other = c.relay.peer d.other := by
      rw [pulled, peer_setPeer_other]
    have htake : (c.relay.peer d).incoming.take n = (c.relay.peer d).incoming.take bufferSize := by
      rcases Nat.le_total bufferSize (c.relay.peer d).incoming.length with hle | hle
      · rw [hn, min_eq_left hle]
      · rw [hn, min_eq_right hle, List.take_length, List.take_of_length_le hle]
    have hdrop : (c.relay.peer d).incoming.drop n = (c.relay.peer d).incoming.drop bufferSize := by
      rcases Nat.le_total bufferSize (c.relay.peer d).incoming.length with hle | hle
      · rw [hn, min_eq_left hle]
      · rw [hn, min_eq_right hle, List.drop_length, List.drop_of_length_le hle]
    have hchunk : arrived ((pulled c.relay d n).peer d) = (c.relay.peer d).incoming.take bufferSize := by
      rw [arrived_ready hready rfl, hself, ← htake]
      apply List.take_left'
      exact List.length_take_of_le (by omega)
    rw [hchunk] at hpass
    refine ⟨?_, ?_, hpass.pending, ?_, ?_⟩
    · rw [hpass.outgoing, hother]
    · rw [hpass.left, hself, hdrop]
    · rw [hpass.back, hself]
    · rw [hpass.waiting.1, hpass.waiting.2, hother]
      exact ⟨rfl, rfl⟩

theorem pullAll (hpos : 0 < bufferSize) (m : ℕ) : ∀ s c, Serving bufferSize k s c →
    (c.relay.peer d).read = .pending → (c.relay.peer d).incoming.length ≤ m →
    Passes bufferSize k d (c.relay.peer d).incoming [] s c := by
  induction m with
  | zero =>
    intro s c h hread hm
    have hnil : (c.relay.peer d).incoming = [] := List.length_eq_zero_iff.mp (Nat.le_zero.mp hm)
    rw [hnil]
    exact ⟨[], s, c, by simp, rfl, h, ⟨(List.append_nil _).symm, hnil, hread, rfl, rfl, rfl⟩⟩
  | succ m ih =>
    intro s c h hread hm
    by_cases hne : (c.relay.peer d).incoming = []
    · rw [hne]
      exact ⟨[], s, c, by simp, rfl, h, ⟨(List.append_nil _).symm, hne, hread, rfl, rfl, rfl⟩⟩
    · have hlength := List.length_pos_of_ne_nil hne
      have htrans : Passes bufferSize k d ((c.relay.peer d).incoming.take bufferSize ++
          (c.relay.peer d).incoming.drop bufferSize) [] s c := by
        apply (pull h hpos hread hne).trans
        intro t c' hserving hpass
        rw [← hpass.left]
        apply ih t c' hserving hpass.pending
        rw [hpass.left, List.length_drop]
        omega
      rwa [List.take_append_drop] at htrans

theorem drain (hpos : 0 < bufferSize) (d : Side) (h : Serving bufferSize k s c) :
    Passes bufferSize k d (arrived (c.relay.peer d) ++ (c.relay.peer d).incoming) [] s c := by
  rcases h.relaying.reads d with hpending | ⟨n, hn, hready⟩
  · have hnil : arrived (c.relay.peer d) = [] := by rw [arrived, hpending]
    rw [hnil]
    exact pullAll hpos _ s c h hpending le_rfl
  · apply (flush h hn hready).trans
    intro t c' hserving hpass
    rw [← hpass.left]
    exact pullAll hpos _ t c' hserving hpass.pending le_rfl

end Server

theorem unforwarded {r r' : RelaySession} {d : Side} {o : WriteOutcome} {effects : List Effect}
    (hr : Buffered 0 r) (hd : r.dispatch d o = some (r', effects)) (e : Side) :
    (r'.peer e).outgoing = (r.peer e).outgoing := by
  obtain ⟨comp, hready, hcases⟩ := dispatch_cases hd
  have hzero := (hr d).claimed comp hready
  cases hcases with
  | ended hend =>
    rw [outgoing_close, popped]
    apply outgoing_set
    rfl
  | forwarded bytes hc hn hopen hb => omega
  | lost bytes hc hn hb hshut => omega

structure Mute (h : Streams) (c : Connection) : Prop where
  buffered : Buffered 0 c.relay
  outgoing : ∀ e, (c.relay.peer e).outgoing = h.greeting e

theorem Mute.set {h g : Streams} {c : Connection} {r : RelaySession} (hc : Mute h c) (hr : Buffered 0 r)
    (hg : g.greeting = h.greeting) (hout : ∀ e, (r.peer e).outgoing = (c.relay.peer e).outgoing) (j : Job)
    (accepted : Bool) (returned : Option Int64) : Mute g ⟨r, j, accepted, returned⟩ := by
  refine ⟨hr, fun e => ?_⟩
  rw [hg, ← hc.outgoing e]
  exact hout e

theorem outgoing_startRead (r : RelaySession) (d e : Side) :
    ((r.startRead d).peer e).outgoing = (r.peer e).outgoing := by
  rw [startRead]
  split_ifs
  · apply outgoing_set
    rfl
  · rfl

theorem outgoing_socket {n : ℕ} {r r' : RelaySession} {e : SocketEvent} (h : r.socketStep n e = some r')
    (d : Side) : (r'.peer d).outgoing = (r.peer d).outgoing := by
  cases e with
  | arrive d bytes =>
    obtain rfl := Option.some.inj h
    apply outgoing_set
    rfl
  | transfer d size =>
    obtain ⟨-, rfl⟩ := transfer_eq_some.mp (h : r.transfer n d size = some r')
    apply outgoing_set
    rfl
  | readError d err =>
    obtain ⟨-, rfl⟩ := readError_eq_some.mp (h : r.readError d err = some r')
    apply outgoing_set
    rfl

theorem mute_persistent : Persistent 0 Mute := by
  have hb := buffered_persistent 0
  have hopened : ∀ r : RelaySession, ∀ d e, ((r.opened d).peer e).outgoing = (r.peer e).outgoing := by
    intro r d
    apply outgoing_set
    rfl
  constructor
  case constructed =>
    refine ⟨hb.constructed, fun e => ?_⟩
    cases e <;> rfl
  case close => exact fun h c hc => hc.set (hb.close h c hc.buffered) rfl (outgoing_close _) _ _ _
  case posted => exact fun h c hc hf => hc.set (hb.posted h c hc.buffered hf) rfl (hopened _ _) _ _ _
  case begun => exact fun h c hc _ => hc.set hc.buffered rfl (fun _ => rfl) _ _ _
  case chosen =>
    intro h c hc hj
    apply hc.set (hb.chosen h c hc.buffered hj) rfl
    intro e
    cases e <;> rfl
  case initialised =>
    intro h c hc hj hl socks returned
    apply hc.set (hb.initialised h c hc.buffered hj hl socks returned) rfl
    intro e
    cases e <;> rfl
  case clientRead =>
    intro h c hc hj
    exact hc.set (hb.clientRead h c hc.buffered hj) (Streams.greeting_relay h) (outgoing_startRead _ .client) _ _ _
  case serverRead =>
    exact fun h c hc hj => hc.set (hb.serverRead h c hc.buffered hj) rfl (outgoing_startRead _ .server) _ _ _
  case stopped => exact fun h c hc _ => hc.set hc.buffered rfl (fun _ => rfl) _ _ _
  case socket =>
    intro h c hc e r hr
    exact hc.set (hb.socket h c hc.buffered e r hr) (Streams.greeting_socket h e) (outgoing_socket hr) _ _ _
  case dispatch =>
    intro h c hc d o r effects hd
    exact hc.set (hb.dispatch h c hc.buffered d o r effects hd) rfl (unforwarded hc.buffered hd) _ _ _
  case readBytes =>
    intro h c hc hj hl bytes hbytes
    apply hc.set (hb.readBytes h c hc.buffered hj hl bytes hbytes) (Streams.greeting_take h bytes)
    apply outgoing_set
    rfl
  case writeBytes =>
    intro h c hc hj bytes
    refine ⟨hb.writeBytes h c hc.buffered hj bytes, fun e => ?_⟩
    have hout := hc.outgoing e
    cases e with
    | client =>
      change c.relay.client.outgoing ++ bytes = h.replied ++ bytes
      exact congrArg (· ++ bytes) hout
    | server => exact hout

theorem greeting_own {k : ℕ} (es es' : List (GatewayEvent × Sqlite)) (hown : ∀ e ∈ es', Own k e.1) (j : ℕ) :
    (streams (es ++ es') j).greeting = (streams es j).greeting := by
  induction es' using List.reverseRecOn with
  | nil => rw [List.append_nil]
  | append_singleton es' e ih =>
    have ih := ih fun e' he' => hown e' (List.mem_append_left _ he')
    have he := hown e (by simp)
    rw [← List.append_assoc, streams_concat, ← ih]
    obtain ⟨e, q⟩ := e
    match e, he with
    | .server (.socket i (.transfer d size)), _ =>
      simp only [observe]
      by_cases hj : j = i
      · rw [hj, Function.update_self]
        rfl
      · rw [Function.update_of_ne hj]
    | .server (.dispatch i d .whole), _ => rfl

section Run

variable {settings : Settings} {table : SessionTable} {issued : List Int64} {es : List (GatewayEvent × Sqlite)}
  {s : TcpServer} {k : ℕ} {c : Connection}

theorem silent_run (hzero : settings.bufferSize = 0)
    (hrun : gateway.run (launch settings table issued) es = some s) (hk : s.connections[k]? = some c) (d : Side) :
    (c.relay.peer d).outgoing = (streams es k).greeting d := by
  have hmute := mute_persistent
  rw [← hzero] at hmute
  exact ((persists hmute hrun).2.each k c hk).outgoing d

theorem unread_empty (hzero : settings.bufferSize = 0)
    (hrun : gateway.run (launch settings table issued) es = some s) (hk : s.connections[k]? = some c)
    {es' : List (GatewayEvent × Sqlite)} {t : TcpServer} {c' : Connection} (hown : ∀ e ∈ es', Own k e.1)
    (hrun' : gateway.run s es' = some t) (hk' : t.connections[k]? = some c') {d : Side} {bytes : Bytes}
    (hout : (c'.relay.peer d).outgoing = (c.relay.peer d).outgoing ++ bytes) : bytes = [] := by
  have hboth : gateway.run (launch settings table issued) (es ++ es') = some t := by
    rw [Machine.run_append_of _ hrun, hrun']
  have hbefore := silent_run hzero hrun hk d
  have hafter := silent_run hzero hboth hk' d
  rw [greeting_own es es' hown, ← hbefore, hout, List.append_right_eq_self] at hafter
  exact hafter

theorem drainable (hrun : gateway.run (launch settings table issued) es = some s) (hio : s.io = .idle)
    (hk : s.connections[k]? = some c) (hr : Relaying c.relay)
    (h : 0 < settings.bufferSize ∨ ∀ d, (c.relay.peer d).incoming = []) :
    ∃ es' t c', (∀ e ∈ es', Own k e.1) ∧ gateway.run s es' = some t ∧ t.connections[k]? = some c' ∧
      ∀ d, (c'.relay.peer d.other).outgoing =
        (c.relay.peer d.other).outgoing ++ (arrived (c.relay.peer d) ++ (c.relay.peer d).incoming) := by
  have hbuffers := (persists (buffered_persistent _) hrun).2
  have hserving : Serving settings.bufferSize k s c := ⟨hio, hbuffers.sized, hk, hr⟩
  rcases Nat.eq_zero_or_pos settings.bufferSize with hzero | hpos
  · have hnil : ∀ d, (c.relay.peer d).incoming = [] := by
      rcases h with hpos | hnil
      · omega
      · exact hnil
    refine ⟨[], s, c, by simp, rfl, hk, fun d => ?_⟩
    have harrived : arrived (c.relay.peer d) = [] := by
      rcases hr.reads d with hpending | ⟨n, hn, hready⟩
      · rw [arrived, hpending]
      · have hle := (hbuffers.each k c hk d).claimed _ hready
        rw [hzero] at hle
        exact absurd hn (Nat.not_lt.mpr hle)
    rw [hnil d, harrived, List.append_nil, List.append_nil]
  · obtain ⟨es₁, t, c', hown, hrun₁, hserving', hpass⟩ := drain hpos .client hserving
    obtain ⟨es₂, u, c'', hown', hrun₂, hserving'', hpass'⟩ := drain hpos .server hserving'
    refine ⟨es₁ ++ es₂, u, c'', fun e he => ?_, ?_, hserving''.connection, fun d => ?_⟩
    · rcases List.mem_append.mp he with he | he
      · exact hown e he
      · exact hown' e he
    · rw [Machine.run_append_of _ hrun₁, hrun₂]
    · cases d with
      | client => exact hpass'.back.trans hpass.outgoing
      | server =>
        have hserver := hpass'.outgoing
        have hwaiting := hpass.waiting
        rw [show Side.client.other = .server from rfl] at hwaiting
        rw [hwaiting.1, hwaiting.2, show (c'.relay.peer Side.server.other).outgoing =
          (c.relay.peer Side.server.other).outgoing from hpass.back] at hserver
        exact hserver

theorem drains_iff (hrun : gateway.run (launch settings table issued) es = some s) :
    (∀ k c, s.io = .idle → s.connections[k]? = some c → Relaying c.relay →
      ((∃ es' t c', (∀ e ∈ es', Own k e.1) ∧ gateway.run s es' = some t ∧ t.connections[k]? = some c' ∧
        ∀ d, (c'.relay.peer d.other).outgoing =
          (c.relay.peer d.other).outgoing ++ (arrived (c.relay.peer d) ++ (c.relay.peer d).incoming)) ↔
      0 < settings.bufferSize ∨ ∀ d, (c.relay.peer d).incoming = [])) ∧
    (settings.bufferSize = 0 → ∀ k c, s.connections[k]? = some c →
      c.relay.server.outgoing = [] ∧ c.relay.client.outgoing = (streams es k).replied) := by
  constructor
  · intro k c hio hk hr
    constructor
    · rintro ⟨es', t, c', hown, hrun', hk', hout⟩
      rcases Nat.eq_zero_or_pos settings.bufferSize with hzero | hpos
      · refine .inr fun d => ?_
        have hnil := unread_empty hzero hrun hk hown hrun' hk' (hout d)
        exact (List.append_eq_nil_iff.mp hnil).2
      · exact .inl hpos
    · exact drainable hrun hio hk hr
  · exact fun hzero k c hk => ⟨silent_run hzero hrun hk .server, silent_run hzero hrun hk .client⟩

end Run

def visit : List (GatewayEvent × Sqlite) :=
  [.server (.accept none), .server (.begin 0), .server (.createProxy 0), .server (.init 0 {}),
    .server (.clientRead 0), .server (.serverRead 0), .server (.socket 0 (.arrive .client [1, 2, 3])),
    .server (.socket 0 (.arrive .server [7])), .server (.socket 0 (.transfer .client 2))].map fun e => (e, .quiet)

theorem drains_iff_visit : ∃ s c es' t c', gateway.run (launch ⟨0, 1, 2⟩ .empty []) visit = some s ∧
    s.connections[0]? = some c ∧ gateway.run s es' = some t ∧ t.connections[0]? = some c' ∧
    c'.relay.server.outgoing = [1, 2, 3] ∧ c'.relay.client.outgoing = [7] := by
  obtain ⟨s, c, hrun, hio, hk, hclient, hserver, hempty, hr⟩ : ∃ s c,
      gateway.run (launch ⟨0, 1, 2⟩ .empty []) visit = some s ∧ s.io = .idle ∧ s.connections[0]? = some c ∧
      arrived c.relay.client ++ c.relay.client.incoming = [1, 2, 3] ∧
      arrived c.relay.server ++ c.relay.server.incoming = [7] ∧
      (c.relay.server.outgoing = [] ∧ c.relay.client.outgoing = []) ∧ Relaying c.relay := by
    refine ⟨_, _, rfl, rfl, rfl, rfl, rfl, ⟨rfl, rfl⟩, rfl, fun d => ?_, fun d => ?_⟩
    · cases d <;> rfl
    · cases d with
      | client => exact .inr ⟨2, by decide, rfl⟩
      | server => exact .inl rfl
  obtain ⟨es', t, c', -, hrun', hk', hout⟩ := ((drains_iff hrun).1 0 c hio hk hr).mpr (.inl (by decide))
  refine ⟨s, c, es', t, c', hrun, hk, hrun', hk', ?_, ?_⟩
  · have hsent := hout .client
    rw [show c.relay.peer .client = c.relay.client from rfl, hclient] at hsent
    exact hsent.trans (congrArg (· ++ _) hempty.1)
  · have hreceived := hout .server
    rw [show c.relay.peer .server = c.relay.server from rfl, hserver] at hreceived
    exact hreceived.trans (congrArg (· ++ _) hempty.2)

end SocksProxy.DrainedStreams
