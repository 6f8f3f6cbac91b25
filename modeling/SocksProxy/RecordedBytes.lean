import SocksProxy.SessionBuffers
import SocksProxy.GatewayStreams
import SocksProxy.ActiveRecords
import SocksProxy.ByteCounters

namespace SocksProxy.RecordedBytes

open TransitionSystems RelaySession RelayLedgers TcpServer DatabaseService DatabaseRuns ServerFrames
open ServerInvariants ServerLifetimes SessionBooks SequenceGrowth ByteCounters SessionStreams GatewaySteps
open SessionBuffers GatewayStreams

structure Counts (v : Int64) (n : ℕ) : Prop where
  congruent : v.toInt.bmod (2 ^ 32) = (n : ℤ).bmod (2 ^ 32)
  exact : n < 2 ^ 31 → v.toInt = n

theorem counts_zero : Counts 0 0 := ⟨rfl, fun _ => rfl⟩

theorem Counts.grow {v : Int64} {n : ℕ} (h : Counts v n) (b : ℕ) : Counts (grow v (.ofNat b)) (n + b) where
  congruent := by
    have hb : (UInt64.ofNat b).toNat = b % 2 ^ 64 := UInt64.toNat_ofNat'
    rw [grow_bmod h.congruent, hb]
    have hmod : ((b % 2 ^ 64 : ℕ) : ℤ).bmod (2 ^ 32) = (b : ℤ).bmod (2 ^ 32) := by
      rw [Int.bmod_def, Int.bmod_def]
      omega
    rw [← Int.add_bmod_bmod, hmod, Int.add_bmod_bmod]
    push_cast
    rfl
  exact hlt := by
    have hb : (UInt64.ofNat b).toNat = b := by
      rw [UInt64.toNat_ofNat']
      omega
    have hgrow : (ByteCounters.grow v (.ofNat b)).toInt = n + (UInt64.ofNat b).toNat := by
      apply (grow_eq_iff h.congruent (by omega) (by omega)).mpr
      exact ⟨by omega, by omega⟩
    rw [hgrow, hb]
    push_cast
    rfl

def tally (t : SessionTable) (id : Int64) (dest : Dest) : Option Int64 :=
  (t.get? id).map fun r => counter r dest

theorem tally_alter {t : SessionTable} {p : Int64 → Bool} {c : KeyedTables.KeyedTable.Change Row.id}
    {dest : Dest} (hc : ∀ r, counter (c.apply r) dest = counter r dest) (id : Int64) :
    tally (t.alter p c) id dest = tally t id dest := by
  rw [tally, tally, SessionTable.get?_alter]
  cases t.get? id with
  | none => rfl
  | some r =>
    by_cases hp : p id
    · simp [hp, hc]
    · simp [hp]

section Statements

variable (errstr : ℕ → String) (now : Bytes)

theorem tally_update (t : SessionTable) {id : Int64} (hid : columnInt id ≠ 0) (bytes : UInt64) (dest : Dest)
    (i : Int64) (e : Dest) : tally ((update (.sound errstr now) id bytes dest).run t).2 i e =
      if i = id ∧ e = dest then (tally t i e).map fun v => grow v bytes else tally t i e := by
  cases hr : t.get? id with
  | none =>
    rw [update_misses errstr now hr]
    split_ifs with h
    · rw [h.1, tally, hr]
      rfl
    · rfl
  | some r =>
    rw [update_run errstr now hr hid, tally, tally, SessionTable.get?_alter]
    by_cases hi : i = id
    · rw [hi, hr]
      simp only [beq_self_eq_true, if_true, Option.map_some, counter_counted, true_and]
      by_cases he : e = dest
      · rw [if_pos he.symm, if_pos he]
      · rw [if_neg (Ne.symm he), if_neg he]
    · rw [if_neg fun h => hi h.1]
      cases t.get? i with
      | none => rfl
      | some r' => simp [hi]

theorem tally_close (t : SessionTable) (id i : Int64) (e : Dest) :
    tally ((close (.sound errstr now) id).run t).2 i e = tally t i e := by
  cases hr : t.get? id with
  | none => rw [close_misses errstr now hr]
  | some r =>
    by_cases hid : columnInt id = 0
    · rw [close_throws errstr now hr hid]
    · rw [close_run errstr now hr hid]
      apply tally_alter
      intro r'
      cases e <;> rfl

theorem tally_create {t : SessionTable} (h : t.seq + 1 < 2 ^ 63) (session : Session) (i : Int64) (e : Dest) :
    tally ((create (.sound errstr now) session).run t).2 i e =
      if i = t.nextId then some 0 else tally t i e := by
  rw [create_run errstr now h session, tally, SessionTable.get?_insert]
  split_ifs
  · cases e <;> rfl
  · rfl

end Statements

def destTo : Side → Dest
  | .server => .toServer
  | .client => .toClient

theorem destTo_inj {d e : Side} (h : destTo d = destTo e) : d = e := by
  cases d <;> cases e <;> first | rfl | cases h

def Excused (failed : ℕ → Prop) (r : RelaySession) (lost : ℕ) : Prop :=
  lost = 0 ∨ r.isClosed = true ∧ ∃ n, failed n ∧ lost ≤ n

theorem Excused.mono {failed failed' : ℕ → Prop} {r r' : RelaySession} {lost : ℕ} (h : Excused failed r lost)
    (hfailed : ∀ n, failed n → failed' n) (hclosed : r.isClosed = true → r'.isClosed = true) :
    Excused failed' r' lost := by
  rcases h with h | ⟨hc, n, hn, hle⟩
  · exact .inl h
  · exact .inr ⟨hclosed hc, n, hfailed n hn, hle⟩

theorem Excused.lost_open {failed : ℕ → Prop} {r : RelaySession} {lost : ℕ} (h : Excused failed r lost)
    (hopen : r.isClosed = false) : lost = 0 := by
  rcases h with h | ⟨hc, -⟩
  · exact h
  · rw [hopen] at hc
    cases hc

structure Metered (h : Streams) (failed : Side → ℕ → Prop) (t : SessionTable) (c : Connection) : Prop where
  tallied : ∀ id, c.returned = some id → ∀ e, ∃ m v lost,
    (h.greeting e).length + m + lost = (c.relay.peer e).outgoing.length ∧ Excused (failed e) c.relay lost ∧
    tally t id (destTo e) = some v ∧ Counts v m

structure Metering (h : ℕ → Streams) (failed : ℕ → Side → ℕ → Prop) (s : TcpServer) : Prop where
  each : ∀ k c, s.connections[k]? = some c → Metered (h k) (failed k) s.table c

section Connections

variable {h : Streams} {failed : Side → ℕ → Prop} {t : SessionTable} {c : Connection}

theorem Metered.tables {t' : SessionTable} (hm : Metered h failed t c)
    (ht : ∀ id, c.returned = some id → ∀ e, tally t' id e = tally t id e) : Metered h failed t' c := by
  refine ⟨fun id hid e => ?_⟩
  rw [ht id hid]
  exact hm.tallied id hid e

theorem Metered.relay {g : Streams} {r : RelaySession} {j : Job} {b : Bool} (hm : Metered h failed t c)
    (hg : g.greeting = h.greeting) (hout : ∀ e, (r.peer e).outgoing = (c.relay.peer e).outgoing)
    (hclosed : c.relay.isClosed = true → r.isClosed = true) :
    Metered g failed t { c with relay := r, job := j, accepted := b } := by
  refine ⟨fun id hid e => ?_⟩
  obtain ⟨m, v, lost, heq, hlost, htally, hcounts⟩ := hm.tallied id hid e
  rw [hg, hout]
  exact ⟨m, v, lost, heq, hlost.mono (fun _ hn => hn) hclosed, htally, hcounts⟩

theorem Metered.failures {failed' : Side → ℕ → Prop} (hm : Metered h failed t c)
    (hfailed : ∀ e n, failed e n → failed' e n) : Metered h failed' t c := by
  refine ⟨fun id hid e => ?_⟩
  obtain ⟨m, v, lost, heq, hlost, htally, hcounts⟩ := hm.tallied id hid e
  exact ⟨m, v, lost, heq, hlost.mono (hfailed e) fun hc => hc, htally, hcounts⟩

theorem outgoing_set {r : RelaySession} {d : Side} {p : Peer} (hp : p.outgoing = (r.peer d).outgoing)
    (e : Side) : ((r.setPeer d p).peer e).outgoing = (r.peer e).outgoing := by
  rcases eq_or_eq_other d e with rfl | rfl
  · rw [peer_setPeer, hp]
  · rw [peer_setPeer_other]

theorem Metered.setPeer {g : Streams} {d : Side} {p : Peer} {j : Job} {b : Bool} (hm : Metered h failed t c)
    (hg : g.greeting = h.greeting) (hout : p.outgoing = (c.relay.peer d).outgoing) :
    Metered g failed t { c with relay := c.relay.setPeer d p, job := j, accepted := b } := by
  apply hm.relay hg (outgoing_set hout)
  rw [setPeer_isClosed]
  exact id

theorem Metered.opened (hm : Metered h failed t c) (d : Side) (j : Job) (b : Bool) :
    Metered h failed t { c with relay := c.relay.opened d, job := j, accepted := b } := by
  refine Metered.setPeer hm rfl ?_
  rfl

theorem Metered.staying (hm : Metered h failed t c) (j : Job) : Metered h failed t { c with job := j } :=
  hm.relay (b := c.accepted) rfl (fun _ => rfl) id

theorem Metered.chosen (hm : Metered h failed t c) (socks : Option Int64) :
    Metered h failed t { c with relay := { c.relay with socks := socks } } := by
  apply hm.relay (b := c.accepted) rfl
  · intro e
    cases e <;> rfl
  · exact id

theorem Metered.observed {g : Streams} (hm : Metered h failed t c) (hg : g.greeting = h.greeting) : Metered g failed t c :=
  hm.relay (b := c.accepted) hg (fun _ => rfl) id

theorem Metered.startRead {d : Side} {j : Job} (hm : Metered h failed t c) :
    Metered h failed t { c with relay := c.relay.startRead d, job := j } := by
  rw [RelaySession.startRead]
  split_ifs
  · refine Metered.setPeer (b := c.accepted) hm rfl ?_
    rfl
  · exact hm.staying j

theorem outgoing_close (r : RelaySession) (e : Side) : (r.close.1.peer e).outgoing = (r.peer e).outgoing := by
  rcases close_peer r e with hp | hp
  · rw [hp]
  · rw [hp]
    rfl

theorem Metered.close (hm : Metered h failed t c) : Metered h failed t { c with relay := c.relay.close.1 } := by
  apply hm.relay (b := c.accepted) rfl (outgoing_close c.relay)
  intro _
  exact close_isClosed c.relay

theorem Metered.socket {bufferSize : ℕ} {e : SocketEvent} {r : RelaySession} (hm : Metered h failed t c)
    (hr : c.relay.socketStep bufferSize e = some r) : Metered (h.socket e) failed t { c with relay := r } := by
  have hg := Streams.greeting_socket h e
  cases e with
  | arrive d bytes =>
    obtain rfl := Option.some.inj hr
    exact hm.setPeer (b := c.accepted) hg rfl
  | transfer d size =>
    rw [socketStep] at hr
    obtain ⟨-, rfl⟩ := transfer_eq_some.mp hr
    refine Metered.setPeer (b := c.accepted) hm hg ?_
    rfl
  | readError d err =>
    rw [socketStep] at hr
    obtain ⟨-, rfl⟩ := readError_eq_some.mp hr
    refine Metered.setPeer (b := c.accepted) hm hg ?_
    rfl

end Connections

section Effects

variable (errstr : ℕ → String) (now : Bytes) (s : TcpServer)

theorem tally_close_effects (r : RelaySession) (i : Int64) (e : Dest) :
    tally (s.performAll (.sound errstr now) r.close.2).table i e = tally s.table i e := by
  cases hc : r.isClosed with
  | true =>
    rw [close_closed hc]
    rfl
  | false =>
    rw [close_open hc]
    cases hs : r.socks with
    | none => rfl
    | some id =>
      by_cases hid : id = 0
      · rw [closeSocks, if_pos hid]
        rfl
      · rw [closeSocks, if_neg hid]
        exact tally_close errstr now s.table id i e

theorem tally_writeStat {r : RelaySession} (hid : ∀ id, r.socks = some id → id ≠ 0 → columnInt id ≠ 0)
    (n : ℕ) (b : Bool) (i : Int64) (e : Dest) :
    tally (s.performAll (.sound errstr now) (r.writeStat n b)).table i e =
      if r.socks = some i ∧ i ≠ 0 ∧ e = (if b then .toServer else .toClient) then
        (tally s.table i e).map fun v => grow v (.ofNat n)
      else tally s.table i e := by
  rw [RelaySession.writeStat]
  cases hs : r.socks with
  | none =>
    refine (if_neg ?_).symm
    rintro ⟨hi, -⟩
    cases hi
  | some id =>
    by_cases hz : id = 0
    · have hno : ¬(some id = some i ∧ i ≠ 0 ∧ e = (if b then .toServer else .toClient)) := by
        rintro ⟨hi, hne, -⟩
        exact hne ((Option.some.inj hi).symm.trans hz)
      simp only [if_pos hz]
      rw [if_neg hno]
      rfl
    · simp only [if_neg hz]
      refine (tally_update errstr now s.table (hid id hs hz) _ _ i e).trans ?_
      by_cases hi : i = id
      · subst hi
        simp [hz]
      · rw [if_neg fun h => hi h.1, if_neg fun h => hi (Option.some.inj h.1).symm]

end Effects

section Dispatch

variable {h : Streams} {failed : Side → ℕ → Prop} {s : TcpServer} {c : Connection} {r : RelaySession} {d : Side}
variable (errstr : ℕ → String) (now : Bytes)

theorem Metered.popped (hm : Metered h failed s.table c) (d : Side) :
    Metered h failed s.table { c with relay := c.relay.popped d } := by
  refine Metered.setPeer (b := c.accepted) hm rfl ?_
  rfl

theorem length_delivered (r : RelaySession) (d : Side) (bytes : Bytes) (e : Side) :
    ((r.delivered d bytes).peer e).outgoing.length =
      (r.peer e).outgoing.length + if e = d then bytes.length else 0 := by
  rcases eq_or_eq_other d e with rfl | rfl
  · rw [delivered, peer_setPeer, List.length_append, if_pos rfl]
  · rw [delivered, peer_setPeer_other, if_neg (other_ne d), Nat.add_zero]

theorem handle_wrote {comp : Completion} (x : RelaySession) (o : WriteOutcome) (hc : comp.error = none)
    (hn : 0 < comp.bytes_transferred) : ∃ effects, (handle d comp o x).2 =
      .wrote d.other (sent (x.peer d.other) ((x.peer d).buffer.take comp.bytes_transferred) o).1
        (sent (x.peer d.other) ((x.peer d).buffer.take comp.bytes_transferred) o).2 :: effects := by
  rw [handle, if_neg (by simp [hc]), if_pos hn, writeToSocket]
  generalize sent (x.peer d.other) ((x.peer d).buffer.take comp.bytes_transferred) o = w
  obtain ⟨bytes, _ | _⟩ := w
  · exact ⟨_, rfl⟩
  · exact ⟨_, rfl⟩

theorem wrote_failed {o : WriteOutcome} {comp : Completion} {bytes : Bytes} {effects : List Effect}
    (hready : (c.relay.peer d).read = .ready comp) (hc : comp.error = none) (hn : 0 < comp.bytes_transferred)
    (hd : c.relay.dispatch d o = some (r, .wrote d.other bytes false :: effects)) :
    bytes = [] ∨ ∃ n, o = .failed n ∧ bytes.length ≤ n := by
  rw [RelaySession.dispatch, hready] at hd
  have hd : handler d comp o (c.relay.popped d) = (r, .wrote d.other bytes false :: effects) := Option.some.inj hd
  obtain ⟨rest, hwrote⟩ := handle_wrote (d := d) (c.relay.popped d) o hc hn
  rw [← handler_eq, hd, List.cons.injEq, Effect.wrote.injEq] at hwrote
  obtain ⟨⟨-, hbytes, hfalse⟩, -⟩ := hwrote
  cases o with
  | whole =>
    rw [sent] at hbytes hfalse
    split_ifs at hbytes hfalse
    exact .inl hbytes
  | failed n =>
    rw [sent] at hbytes
    split_ifs at hbytes
    · refine .inr ⟨n, rfl, ?_⟩
      rw [hbytes]
      exact (List.length_take_le _ _)
    · exact .inl hbytes

theorem Metered.lost {bytes : Bytes} (hm : Metered h failed s.table { c with relay := r }) (d : Side)
    (hfailed : bytes = [] ∨ r.isClosed = false ∧ ∃ n, failed d n ∧ bytes.length ≤ n) :
    Metered h failed s.table { c with relay := (r.delivered d bytes).close.1 } := by
  refine ⟨fun id hid e => ?_⟩
  obtain ⟨m, v, lost, heq, hlost, htally, hcounts⟩ := hm.tallied id hid e
  have heq : (h.greeting e).length + m + lost = (r.peer e).outgoing.length := heq
  have hkept : Excused (failed e) (r.delivered d bytes).close.1 lost :=
    hlost.mono (fun _ hn => hn) fun _ => close_isClosed _
  by_cases he : e = d ∧ bytes ≠ []
  · obtain ⟨rfl, hne⟩ := he
    obtain ⟨hopen, hmay⟩ := hfailed.resolve_left hne
    have hzero : lost = 0 := hlost.lost_open hopen
    refine ⟨m, v, bytes.length, ?_, .inr ⟨close_isClosed _, hmay⟩, htally, hcounts⟩
    rw [outgoing_close, length_delivered, if_pos rfl, ← heq, hzero]
    rfl
  · refine ⟨m, v, lost, ?_, hkept, htally, hcounts⟩
    have hnone : (if e = d then bytes.length else 0) = 0 := by
      split_ifs with hed
      · have hb : bytes = [] := by_contra fun hne => he ⟨hed, hne⟩
        rw [hb, List.length_nil]
      · rfl
    rw [outgoing_close, length_delivered, hnone, Nat.add_zero, heq]

theorem Metered.forwarded {bytes : Bytes} {t : SessionTable} (hm : Metered h failed s.table { c with relay := r })
    (ht : ∀ id, c.returned = some id → ∀ e, tally t id (destTo e) = if e = d then
      (tally s.table id (destTo e)).map fun v => grow v (.ofNat bytes.length)
      else tally s.table id (destTo e)) :
    Metered h failed t { c with relay := r.delivered d bytes } := by
  refine ⟨fun id hid e => ?_⟩
  obtain ⟨m, v, lost, heq, hlost, htally, hcounts⟩ := hm.tallied id hid e
  have heq : (h.greeting e).length + m + lost = (r.peer e).outgoing.length := heq
  have hclosed : (r.delivered d bytes).isClosed = r.isClosed := (kept_delivered r d bytes).isClosed
  have hkept : Excused (failed e) (r.delivered d bytes) lost :=
    hlost.mono (fun _ hn => hn) fun hc => hclosed.trans hc
  rw [ht id hid, length_delivered, htally]
  split_ifs with he
  · exact ⟨m + bytes.length, _, lost, by omega, hkept, rfl, hcounts.grow bytes.length⟩
  · exact ⟨m, v, lost, heq, hkept, rfl, hcounts⟩

theorem Metered.dispatch {n : ℕ} {o : WriteOutcome} {effects : List Effect} (hm : Metered h failed s.table c)
    (hfailed : ∀ n, o = .failed n → failed d.other n)
    (hbuffer : Buffered n c.relay) (hb : Booked c) (hid : ∀ id, c.returned = some id → columnInt id ≠ 0)
    (hshut : c.relay.isClosed = true → ∀ e, (c.relay.peer e).isOpen = false)
    (hd : c.relay.dispatch d o = some (r, effects)) :
    Metered h failed (s.performAll (.sound errstr now) effects).table { c with relay := r } ∧
      ∀ i, c.returned ≠ some i → ∀ e,
        tally (s.performAll (.sound errstr now) effects).table i e = tally s.table i e := by
  obtain ⟨comp, hready, hcases⟩ := dispatch_cases hd
  have hsocks : (c.relay.popped d).socks = c.relay.socks := (kept_popped c.relay d).socks
  cases hcases with
  | ended hend =>
    refine ⟨(hm.popped d).close.tables fun id _ e => ?_, fun i _ e => ?_⟩
    · exact tally_close_effects errstr now s _ id e
    · exact tally_close_effects errstr now s _ i e
  | lost bytes hc hn hbytes hnone =>
    have hmay : bytes = [] ∨ (c.relay.popped d).isClosed = false ∧ ∃ n, failed d.other n ∧ bytes.length ≤ n := by
      rcases wrote_failed hready hc hn hd with hempty | ⟨n, ho, hle⟩
      · exact .inl hempty
      · cases hclosed : (c.relay.popped d).isClosed with
        | false => exact .inr ⟨rfl, n, hfailed n ho, hle⟩
        | true =>
          left
          apply hnone
          rw [(kept_popped c.relay d).isOpen]
          exact hshut ((kept_popped c.relay d).isClosed.symm.trans hclosed) _
    refine ⟨((hm.popped d).lost d.other hmay).tables fun id _ e => ?_, fun i _ e => ?_⟩
    · exact tally_close_effects errstr now s _ id e
    · exact tally_close_effects errstr now s _ i e
  | forwarded bytes hc hn hopen hbytes =>
    have hl : c.relay.isClosed = false := by
      cases hclosed : c.relay.isClosed with
      | false => rfl
      | true =>
        rw [(kept_popped c.relay d).isOpen, hshut hclosed] at hopen
        cases hopen
    have hlength : bytes.length = comp.bytes_transferred := by
      rw [hbytes, List.length_take, RelaySession.popped, peer_setPeer]
      apply min_eq_left
      exact ((hbuffer d).claimed comp hready).trans_eq (hbuffer d).length.symm
    have howned : ∀ id, (c.relay.popped d).socks = some id → id ≠ 0 → columnInt id ≠ 0 := by
      intro id hs hz
      apply hid
      exact (hb.holds hl id).mpr ⟨hsocks.symm.trans hs, hz⟩
    have htally := tally_writeStat errstr now s howned comp.bytes_transferred (d == .client)
    have hdest : (if (d == .client) = true then Dest.toServer else .toClient) = destTo d.other := by
      cases d <;> rfl
    rw [hdest] at htally
    refine ⟨Metered.startRead (Metered.forwarded (hm.popped d) fun id hret e => ?_), fun i hne e => ?_⟩
    · obtain ⟨hs, hz⟩ := (hb.holds hl id).mp hret
      refine (htally id (destTo e)).trans ?_
      rw [hsocks, hlength]
      by_cases he : e = d.other
      · rw [if_pos ⟨hs, hz, by rw [he]⟩, if_pos he]
      · rw [if_neg fun hall => he (destTo_inj hall.2.2), if_neg he]
    · refine (htally i e).trans (if_neg fun hall => hne ?_)
      exact (hb.holds hl i).mpr ⟨hsocks.symm.trans hall.1, hall.2.1⟩

end Dispatch

section Servers

variable {h : ℕ → Streams} {failed : ℕ → Side → ℕ → Prop} {s t : TcpServer} {k : ℕ} {c x : Connection}

theorem Metering.set {g : Streams} (hs : Metering h failed s) (hk : s.connections[k]? = some c)
    (hx : Metered g (failed k) s.table x) : Metering (Function.update h k g) failed (s.setConnection k x) := by
  refine ⟨fun j d hd => ?_⟩
  rcases setConnection_cases hk hd with ⟨rfl, rfl⟩ | ⟨hjk, hd⟩
  · rw [Function.update_self]
    exact hx
  · rw [Function.update_of_ne hjk]
    exact hs.each j d hd

theorem Metering.replace (hs : Metering h failed s) (hk : s.connections[k]? = some c)
    (hx : Metered (h k) (failed k) s.table x) : Metering h failed (s.setConnection k x) := by
  have hset := hs.set hk hx
  rwa [Function.update_eq_self] at hset

theorem Metering.frame (hs : Metering h failed s) (hc : t.connections = s.connections)
    (ht : ∀ (j : ℕ) (d : Connection) (id : Int64), s.connections[j]? = some d → d.returned = some id → ∀ e,
      tally t.table id e = tally s.table id e) : Metering h failed t := by
  refine ⟨fun j d hd => ?_⟩
  rw [hc] at hd
  exact (hs.each j d hd).tables (ht j d · hd)

theorem Metering.closeConnection (errstr : ℕ → String) (now : Bytes) (hs : Metering h failed s) (k : ℕ) :
    Metering h failed (s.closeConnection (.sound errstr now) k) := by
  cases hk : s.connections[k]? with
  | none =>
    simp only [TcpServer.closeConnection, hk]
    exact hs
  | some c =>
    simp only [TcpServer.closeConnection, hk]
    apply (hs.replace hk (hs.each k c hk).close).frame (undisturbed_performAll _ _ _).connections
    intro j d id _ _ e
    exact tally_close_effects errstr now (s.setConnection k _) c.relay id e

theorem Metering.release (errstr : ℕ → String) (now : Bytes) (hs : Metering h failed s) (k : ℕ) :
    Metering h failed (s.release (.sound errstr now) k) := by
  cases hk : s.connections[k]? with
  | none =>
    rw [TcpServer.release, hk]
    exact hs
  | some c =>
    rw [release_of _ hk]
    split_ifs
    · exact hs
    · exact hs.closeConnection errstr now k

theorem metered_constructed (g : Streams) (f : Side → ℕ → Prop) (t : SessionTable) (bufferSize : ℕ) :
    Metered g f t (Lifetime.constructed bufferSize).connection := by
  refine ⟨fun id hid => ?_⟩
  cases hid

theorem Metering.awaitClient (hs : Metering h failed s) : Metering h failed s.awaitClient := by
  refine ⟨fun k c hk => ?_⟩
  rcases awaitClient_cases hk with ⟨-, hk⟩ | ⟨-, rfl⟩
  · exact hs.each k c hk
  · exact metered_constructed _ _ _ s.settings.bufferSize

theorem Metering.startAccept (errstr : ℕ → String) (now : Bytes) (hs : Metering h failed s) (k : ℕ) :
    Metering h failed (s.startAccept (.sound errstr now) k) := by
  rw [TcpServer.startAccept]
  split_ifs
  · exact hs.frame rfl fun _ _ _ _ _ _ => rfl
  · exact hs.awaitClient.release errstr now k

theorem columnInt_issued {id : Int64} (hb : Books s) (hsmall : s.table.seq < 2 ^ 31) (hid : id ∈ s.issued) :
    columnInt id ≠ 0 := by
  obtain ⟨hpos, hle⟩ := hb.issued id hid
  rw [columnInt_of_small (by omega) (by omega)]
  rintro rfl
  exact absurd hpos (by decide)

theorem Metering.initialise (errstr : ℕ → String) (now : Bytes) (record : Session) (hs : Metering h failed s)
    (hcarry : Carries (h k) c) (hb : Books s) (hsmall : s.table.seq < 2 ^ 31)
    (hk : s.connections[k]? = some c) (hj : c.job = .negotiating) : Metering h failed (s.initialise (.sound errstr now) k record c) := by
  have hseq : s.table.seq + 1 < 2 ^ 63 := by omega
  have hnext : s.table.nextId.toInt = s.table.seq + 1 := SessionTable.toInt_nextId hseq
  have hrun := create_run errstr now hseq record
  have htally := tally_create errstr now hseq record
  rw [hrun] at htally
  rw [TcpServer.initialise, hrun]
  obtain ⟨relayed, hc⟩ := hcarry
  have hquiet := hc.quiet (.inr (by rw [hj]; rfl))
  -- no byte is relayed yet, and the new row counts none
  have hnew : Metered (h k) (failed k) (s.table.insert hseq now (some (ByteStrings.cString record.user))
      (ByteStrings.cString record.src_addr) (ByteStrings.cString record.src_port)
      (ByteStrings.cString record.dst_addr) (ByteStrings.cString record.dst_port)) { c with
      relay := { c.relay.opened .server with socks := some s.table.nextId }, job := .initialised,
      returned := some s.table.nextId } := by
    refine ⟨fun id hid e => ?_⟩
    obtain rfl : s.table.nextId = id := Option.some.inj hid
    have hout := hc.flowing.outgoing e.other
    rw [(hquiet e.other).1, other_other, List.append_nil] at hout
    have hlength : (h k |>.greeting e).length + 0 = (c.relay.peer e).outgoing.length := by
      rw [hout, Nat.add_zero]
    refine ⟨0, 0, 0, ?_, .inl rfl, ?_, counts_zero⟩
    · cases e <;> exact hlength
    · exact (htally _ _).trans (if_pos rfl)
  refine ⟨fun j d hd => ?_⟩
  rcases setConnection_cases hk hd with ⟨rfl, rfl⟩ | ⟨-, hd⟩
  · exact hnew
  · apply (hs.each j d hd).tables
    intro id hid e
    refine (htally id e).trans (if_neg ?_)
    rintro rfl
    have hle := (hb.issued _ (hb.known j d _ hd hid)).2
    omega

theorem Metering.dispatched {n : ℕ} {d : Side} {o : WriteOutcome} {r : RelaySession} {effects : List Effect}
    (errstr : ℕ → String) (now : Bytes) (hs : Metering h failed s) (hcarry : Carries (h k) c)
    (hfailed : ∀ n, o = .failed n → failed k d.other n) (hbuffer : Buffered n c.relay) (hb : Books s)
    (hsmall : s.table.seq < 2 ^ 31) (hk : s.connections[k]? = some c) (hd : c.relay.dispatch d o = some (r, effects)) :
    Metered (h k) (failed k) ((s.setConnection k { c with relay := r }).performAll (.sound errstr now) effects).table
        { c with relay := r } ∧
      ∀ i, c.returned ≠ some i → ∀ e, tally ((s.setConnection k { c with relay := r }).performAll
        (.sound errstr now) effects).table i e = tally s.table i e := by
  obtain ⟨relayed, hc⟩ := hcarry
  exact (hs.each k c hk).dispatch (s := s.setConnection k { c with relay := r }) errstr now hfailed hbuffer
    (hb.each k c hk) (fun id hid => columnInt_issued hb hsmall (hb.known k c id hk hid)) hc.flowing.shut hd

theorem Metering.dispatch {n : ℕ} {d : Side} {o : WriteOutcome} {r : RelaySession} {effects : List Effect}
    (errstr : ℕ → String) (now : Bytes) (hs : Metering h failed s) (hcarry : Carries (h k) c)
    (hfailed : ∀ n, o = .failed n → failed k d.other n) (hbuffer : Buffered n c.relay) (hb : Books s)
    (hsmall : s.table.seq < 2 ^ 31) (hk : s.connections[k]? = some c) (hd : c.relay.dispatch d o = some (r, effects)) :
    Metering h failed ((s.setConnection k { c with relay := r }).performAll (.sound errstr now) effects) := by
  obtain ⟨hself, hothers⟩ := hs.dispatched errstr now hcarry hfailed hbuffer hb hsmall hk hd
  refine ⟨fun j e he => ?_⟩
  rw [(undisturbed_performAll _ _ _).connections] at he
  rcases setConnection_cases hk he with ⟨rfl, rfl⟩ | ⟨hjk, he⟩
  · exact hself
  · apply (hs.each j e he).tables
    intro id hid
    apply hothers id
    intro hret
    exact hjk (hb.distinct j k e c id he hk hid hret)

theorem Metered.reply {g : Streams} {f : Side → ℕ → Prop} {t : SessionTable} (hm : Metered g f t c) (bytes : Bytes) :
    Metered (g.reply bytes) f t { c with relay := c.relay.delivered .client bytes } := by
  refine ⟨fun id hid e => ?_⟩
  obtain ⟨m, v, lost, heq, hlost, htally, hcounts⟩ := hm.tallied id hid e
  have hgreeting : ((g.reply bytes).greeting e).length =
      (g.greeting e).length + if e = .client then bytes.length else 0 := by
    cases e with
    | client => exact List.length_append
    | server => rfl
  have hclosed : (c.relay.delivered .client bytes).isClosed = c.relay.isClosed :=
    (kept_delivered c.relay .client bytes).isClosed
  rw [length_delivered, hgreeting]
  exact ⟨m, v, lost, by omega, hlost.mono (fun _ hn => hn) fun hc => hclosed.trans hc, htally, hcounts⟩

end Servers

theorem metering_server {n : ℕ} {h : ℕ → Streams} {failed : ℕ → Side → ℕ → Prop} {s t : TcpServer} {e : ServerEvent}
    {errstr : ℕ → String} {now : Bytes} (hs : Metering h failed s)
    (hfailed : ∀ k d n, e = .dispatch k d (.failed n) → failed k d.other n)
    (hcarry : ∀ k c, s.connections[k]? = some c → Carries (h k) c)
    (hbuffer : ∀ (k : ℕ) (c : Connection), s.connections[k]? = some c → Buffered n c.relay) (hb : Books s)
    (hsmall : s.table.seq < 2 ^ 31) (ht : s.step (.sound errstr now) e = some t) :
    Metering (observe h (.server e)) failed t := by
  cases e with
  | accept error =>
    obtain ⟨k, c, -, -, hk, rfl⟩ := step_accept ht
    apply Metering.startAccept
    split_ifs
    · exact (hs.replace hk ((hs.each k c hk).opened .client .posted true)).frame rfl fun _ _ _ _ _ _ => rfl
    · exact hs.frame rfl fun _ _ _ _ _ _ => rfl
  | spin =>
    obtain ⟨k, -, -, rfl⟩ := step_spin ht
    exact hs.awaitClient.release errstr now k
  | begin k =>
    obtain ⟨c, hk, -, rfl⟩ := upon_eq_some.mp ht
    exact hs.replace hk ((hs.each k c hk).staying .negotiating)
  | createProxy k =>
    obtain ⟨c, hk, -, rfl⟩ := upon_eq_some.mp ht
    exact hs.replace hk ((hs.each k c hk).chosen (some 0))
  | init k record =>
    obtain ⟨c, hk, hp, rfl⟩ := upon_eq_some.mp ht
    simp only [Bool.and_eq_true, beq_iff_eq] at hp
    exact hs.initialise errstr now record (hcarry k c hk) hb hsmall hk hp.1
  | clientRead k =>
    obtain ⟨c, hk, -, rfl⟩ := upon_eq_some.mp ht
    exact hs.set hk ((hs.each k c hk).startRead.observed (Streams.greeting_relay _))
  | serverRead k =>
    obtain ⟨c, hk, -, rfl⟩ := upon_eq_some.mp ht
    exact (hs.replace hk (hs.each k c hk).startRead).release errstr now k
  | stop k =>
    obtain ⟨c, hk, -, rfl⟩ := upon_eq_some.mp ht
    exact (hs.replace hk ((hs.each k c hk).staying .done)).release errstr now k
  | socket k e =>
    obtain ⟨c, r, hk, hr, rfl⟩ := step_socket ht
    exact hs.set hk ((hs.each k c hk).socket hr)
  | dispatch k d o =>
    simp only [step] at ht
    split at ht
    case h_2 => cases ht
    case h_1 c hio hk =>
      obtain ⟨⟨r, effects⟩, hd, rfl⟩ := Option.map_eq_some_iff.mp ht
      have hwrites : ∀ n, o = .failed n → failed k d.other n := fun n ho => hfailed k d n (by rw [ho])
      exact (hs.dispatch errstr now (hcarry k c hk) hwrites (hbuffer k c hk) hb hsmall hk hd).release errstr now k

structure Recording (bufferSize : ℕ) (h : ℕ → Streams) (failed : ℕ → Side → ℕ → Prop) (s : TcpServer) : Prop where
  inv : Inv s
  carrying : Persisting bufferSize Carries h s
  buffers : Persisting bufferSize (fun _ c => Buffered bufferSize c.relay) h s
  books : s.table.seq < 2 ^ 31 → Books s
  metering : s.table.seq < 2 ^ 31 → Metering h failed s

theorem Recording.failures {bufferSize : ℕ} {h : ℕ → Streams} {failed failed' : ℕ → Side → ℕ → Prop} {s : TcpServer}
    (hs : Recording bufferSize h failed s) (hfailed : ∀ k e n, failed k e n → failed' k e n) :
    Recording bufferSize h failed' s := by
  refine ⟨hs.inv, hs.carrying, hs.buffers, hs.books, fun hsmall => ⟨fun k c hk => ?_⟩⟩
  exact ((hs.metering hsmall).each k c hk).failures (hfailed k)

theorem recording_step {bufferSize : ℕ} {h : ℕ → Streams} {failed : ℕ → Side → ℕ → Prop} {s t : TcpServer}
    {e : GatewayEvent} {errstr : ℕ → String} {now : Bytes} (hs : Recording bufferSize h failed s)
    (hfailed : ∀ k d n, e = .server (.dispatch k d (.failed n)) → failed k d.other n)
    (ht : gatewayStep (.sound errstr now) s e = some t) : Recording bufferSize (observe h e) failed t := by
  refine ⟨inv_gateway hs.inv ht, persisting_gateway (carries_persistent _) hs.inv hs.carrying ht,
    persisting_gateway (buffered_persistent _) hs.inv hs.buffers ht, fun hsmall => ?_, fun hsmall => ?_⟩
  · cases e with
    | server e =>
      have hsmall' : s.table.seq < 2 ^ 31 := Nat.lt_of_le_of_lt (seq_step _ ht) hsmall
      exact books_step (hs.books hsmall') hs.inv hsmall' ht
    | readBytes k bytes =>
      obtain ⟨c, hk, -, rfl⟩ := upon_eq_some.mp ht
      have hb := hs.books hsmall
      have hbooked : Booked { c with relay := consumed c.relay bytes } := (hb.each k c hk).kept (kept_setPeer rfl)
      exact hb.set hk hbooked rfl (setPeer_isClosed _ _ _)
    | writeBytes k bytes =>
      obtain ⟨c, hk, -, rfl⟩ := upon_eq_some.mp ht
      have hb := hs.books hsmall
      have hbooked : Booked { c with relay := c.relay.delivered .client bytes } :=
        (hb.each k c hk).kept (kept_delivered _ _ _)
      exact hb.set hk hbooked rfl (setPeer_isClosed _ _ _)
  · cases e with
    | server e =>
      have hsmall' : s.table.seq < 2 ^ 31 := Nat.lt_of_le_of_lt (seq_step _ ht) hsmall
      exact metering_server (hs.metering hsmall') (fun k d n he => hfailed k d n (by rw [he])) hs.carrying.each
        hs.buffers.each (hs.books hsmall') hsmall' ht
    | readBytes k bytes =>
      obtain ⟨c, hk, -, rfl⟩ := upon_eq_some.mp ht
      apply (hs.metering hsmall).set hk
      refine Metered.setPeer (b := c.accepted) ((hs.metering hsmall).each k c hk) (Streams.greeting_take _ _) ?_
      rfl
    | writeBytes k bytes =>
      obtain ⟨c, hk, -, rfl⟩ := upon_eq_some.mp ht
      exact (hs.metering hsmall).set hk (((hs.metering hsmall).each k c hk).reply bytes)

def prepared (errstr : ℕ → String) (now : Bytes) (table : SessionTable) : SessionTable :=
  ((createTable (.sound errstr now)).run table).2

def FailedWrite (es : List (GatewayEvent × Sqlite)) (k : ℕ) (e : Side) (n : ℕ) : Prop :=
  ∃ x ∈ es, x.1 = .server (.dispatch k e.other (.failed n))

theorem recording_launch (settings : Settings) (errstr : ℕ → String) (now : Bytes) (table : SessionTable) :
    Recording settings.bufferSize (streams []) (FailedWrite []) (launch settings (prepared errstr now table) []) where
  inv := inv_launch _ _ _
  carrying := persisting_launch (carries_persistent _) _ _
  buffers := persisting_launch (buffered_persistent _) _ _
  books _ := by
    obtain ⟨t, hrun, -, hactive⟩ := ActiveRows.createTable_active errstr now table
    rw [prepared, hrun]
    exact ActiveRecords.books_launch ⟨fun id hid => (by cases hid), List.nodup_nil⟩ hactive
  metering _ := by
    have hnone : Metering (streams []) (FailedWrite [])
        ({ settings := settings, table := prepared errstr now table, issued := [] } : TcpServer) := by
      refine ⟨fun k c hk => ?_⟩
      simp at hk
    exact hnone.awaitClient

def Sound (e : GatewayEvent × Sqlite) : Prop := ∃ errstr now, e.2 = .sound errstr now

theorem recording_run {settings : Settings} {errstr : ℕ → String} {now : Bytes} {table : SessionTable}
    {es : List (GatewayEvent × Sqlite)} {s : TcpServer} (hsound : ∀ e ∈ es, Sound e)
    (hrun : gateway.run (launch settings (prepared errstr now table) []) es = some s) :
    Recording settings.bufferSize (streams es) (FailedWrite es) s := by
  have hstep : ∀ past s e t, ((∀ e ∈ past, Sound e) →
        Recording settings.bufferSize (streams past) (FailedWrite past) s) → gateway.step s e = some t →
      (∀ e' ∈ past ++ [e], Sound e') →
        Recording settings.bufferSize (streams (past ++ [e])) (FailedWrite (past ++ [e])) t := by
    intro past s e t hs ht hpast
    obtain ⟨errstr, now, hq⟩ := hpast e (by simp)
    have hs := hs fun e' he' => hpast e' (List.mem_append_left _ he')
    have ht : gatewayStep e.2 s e.1 = some t := ht
    rw [hq] at ht
    rw [streams_concat]
    apply recording_step (hs.failures ?_) ?_ ht
    · rintro k f n ⟨x, hx, he⟩
      exact ⟨x, List.mem_append_left _ hx, he⟩
    · intro k d n he
      exact ⟨e, by simp, by rw [he, other_other]⟩
  exact Machine.invariant_history hstep (fun _ => recording_launch settings errstr now table) hrun hsound

end SocksProxy.RecordedBytes
