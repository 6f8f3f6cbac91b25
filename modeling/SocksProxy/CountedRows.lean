import SocksProxy.RecordedBytes
import SocksProxy.RowLabels

namespace SocksProxy.CountedRows

open TransitionSystems RelaySession TcpServer DatabaseRuns ServerFrames ServerLifetimes SessionBooks SequenceGrowth
open SessionStreams GatewaySteps SessionBuffers GatewayStreams RecordedBytes RowLabels

structure Owned (k : ℕ) (id : Int64) (s : TcpServer) : Prop where
  used : id.toInt ≤ s.table.seq
  owner : ∀ j, returned s j = some id → j = k

section Steps

variable (errstr : ℕ → String) (now : Bytes) {s t : TcpServer} {k : ℕ} {id : Int64}

theorem tally_closeConnection (k : ℕ) (s : TcpServer) (i : Int64) (f : Dest) :
    tally (s.closeConnection (.sound errstr now) k).table i f = tally s.table i f := by
  cases hk : s.connections[k]? with
  | none => simp only [TcpServer.closeConnection, hk]
  | some c =>
    simp only [TcpServer.closeConnection, hk]
    exact tally_close_effects errstr now (s.setConnection k _) c.relay i f

theorem tally_release (k : ℕ) (s : TcpServer) (i : Int64) (f : Dest) :
    tally (s.release (.sound errstr now) k).table i f = tally s.table i f := by
  rw [TcpServer.release]
  split
  · split_ifs
    · rfl
    · exact tally_closeConnection errstr now k s i f
  · rfl

theorem tally_startAccept (k : ℕ) (s : TcpServer) (i : Int64) (f : Dest) :
    tally (s.startAccept (.sound errstr now) k).table i f = tally s.table i f := by
  rw [TcpServer.startAccept]
  split_ifs
  · rfl
  · exact tally_release errstr now k s.awaitClient i f

theorem tally_initialise (record : Session) (c : Connection) (hsmall : s.table.seq < 2 ^ 31) (ho : Owned k id s)
    (j : ℕ) (f : Dest) : tally (s.initialise (.sound errstr now) j record c).table id f = tally s.table id f := by
  have hseq : s.table.seq + 1 < 2 ^ 63 := by omega
  have htally := tally_create errstr now hseq record id f
  have hne : id ≠ s.table.nextId := by
    rintro rfl
    have hnext := SessionTable.toInt_nextId hseq
    have hused := ho.used
    omega
  rw [create_run errstr now hseq record, if_neg hne] at htally
  rw [TcpServer.initialise, create_run errstr now hseq record]
  exact htally

theorem owned_step {x : GatewayEvent × Sqlite} (hsmall : s.table.seq < 2 ^ 31) (ho : Owned k id s)
    (hx : x.2 = .sound errstr now) (hseq : s.table.seq ≤ t.table.seq) (ht : gateway.step s x = some t) : Owned k id t := by
  refine ⟨Int.le_trans ho.used (by omega), fun j hj => ?_⟩
  rcases returned_gateway x.2 ht with hsame | ⟨i, record, c, -, hi, rfl⟩
  · rw [hsame] at hj
    exact ho.owner j hj
  · have hroom : s.table.seq + 1 < 2 ^ 63 := by omega
    rw [hx, TcpServer.initialise, create_run errstr now hroom record, returned, getElem?_setConnection hi] at hj
    split_ifs at hj with hji
    · obtain rfl : s.table.nextId = id := Option.some.inj hj
      have hnext := SessionTable.toInt_nextId hroom
      have hused := ho.used
      omega
    · exact ho.owner j hj

theorem tally_server {n : ℕ} {h : ℕ → Streams} {e : ServerEvent}
    (hs : Recording n h (fun _ _ _ => True) s) (hsmall : s.table.seq < 2 ^ 31) (ho : Owned k id s)
    (hquiet : ∀ d o, e ≠ .dispatch k d o) (ht : s.step (.sound errstr now) e = some t) (f : Dest) :
    tally t.table id f = tally s.table id f := by
  cases e with
  | accept error =>
    obtain ⟨j, c, -, -, -, rfl⟩ := step_accept ht
    cases error with
    | none => exact tally_startAccept errstr now j (s.post j c) id f
    | some err => exact tally_startAccept errstr now j { s with accepting := none } id f
  | spin =>
    obtain ⟨j, -, -, rfl⟩ := step_spin ht
    exact tally_release errstr now j s.awaitClient id f
  | begin j =>
    obtain ⟨c, -, -, rfl⟩ := upon_eq_some.mp ht
    rfl
  | createProxy j =>
    obtain ⟨c, -, -, rfl⟩ := upon_eq_some.mp ht
    rfl
  | init j record =>
    obtain ⟨c, -, -, rfl⟩ := upon_eq_some.mp ht
    exact tally_initialise errstr now record c hsmall ho j f
  | clientRead j =>
    obtain ⟨c, -, -, rfl⟩ := upon_eq_some.mp ht
    rfl
  | serverRead j =>
    obtain ⟨c, -, -, rfl⟩ := upon_eq_some.mp ht
    exact tally_release errstr now j (s.setConnection j _) id f
  | stop j =>
    obtain ⟨c, -, -, rfl⟩ := upon_eq_some.mp ht
    exact tally_release errstr now j (s.setConnection j _) id f
  | socket j e =>
    obtain ⟨c, r, -, -, rfl⟩ := step_socket ht
    rfl
  | dispatch j d o =>
    simp only [step] at ht
    split at ht
    case h_2 => cases ht
    case h_1 c hio hj =>
      obtain ⟨⟨r, effects⟩, hd, rfl⟩ := Option.map_eq_some_iff.mp ht
      have hjk : j ≠ k := by
        rintro rfl
        exact hquiet d o rfl
      have hret : c.returned ≠ some id := by
        intro hid
        apply hjk
        apply ho.owner j
        rw [returned, hj]
        exact hid
      have hdispatch := (hs.metering hsmall).dispatched errstr now (hs.carrying.each j c hj) (fun _ _ => trivial)
        (hs.buffers.each j c hj) (hs.books hsmall) hsmall hj hd
      rw [tally_release]
      exact hdispatch.2 id hret f

end Steps

theorem seq_followed (q : Sqlite) : Followed q fun t u => t.seq ≤ u.seq where
  refl _ := Nat.le_refl _
  trans _ _ _ := Nat.le_trans
  update t id bytes dest := growing_update q id bytes dest t
  close t id := growing_close q id t
  create t session := growing_create q session t

theorem seq_run {s t : TcpServer} {es : List (GatewayEvent × Sqlite)} (hrun : gateway.run s es = some t) :
    s.table.seq ≤ t.table.seq := by
  apply Machine.invariant (M := gateway) (I := fun u => s.table.seq ≤ u.table.seq) ?_ (Nat.le_refl _) hrun
  intro u x v hu hv
  exact Nat.le_trans hu ((seq_followed x.2).gateway hv)

theorem tally_run {n : ℕ} {h : ℕ → Streams} {s t : TcpServer} {k : ℕ} {id : Int64} {es : List (GatewayEvent × Sqlite)}
    (hs : Recording n h (fun _ _ _ => True) s) (hsound : ∀ x ∈ es, Sound x)
    (hquiet : ∀ x ∈ es, ∀ d o, x.1 ≠ .server (.dispatch k d o)) (ho : Owned k id s)
    (hrun : gateway.run s es = some t) (hsmall : t.table.seq < 2 ^ 31) (f : Dest) :
    tally t.table id f = tally s.table id f := by
  induction es generalizing s h with
  | nil =>
    cases hrun
    rfl
  | cons x es ih =>
    rw [Machine.run_cons] at hrun
    obtain ⟨u, hu, hrun⟩ := Option.bind_eq_some_iff.mp hrun
    obtain ⟨errstr, now, hx⟩ := hsound x List.mem_cons_self
    have hstep : gatewayStep x.2 s x.1 = some u := hu
    have hgrow : s.table.seq ≤ u.table.seq := (seq_followed x.2).gateway hstep
    have hsmall' : s.table.seq < 2 ^ 31 := Nat.lt_of_le_of_lt (Nat.le_trans hgrow (seq_run hrun)) hsmall
    have hu' : Owned k id u := owned_step errstr now hsmall' ho hx hgrow hu
    rw [hx] at hstep
    have hrest := ih (recording_step hs (fun _ _ _ _ => trivial) hstep)
      (fun y hy => hsound y (List.mem_cons_of_mem x hy)) (fun y hy => hquiet y (List.mem_cons_of_mem x hy)) hu' hrun
    rw [hrest]
    have hown := hquiet x List.mem_cons_self
    obtain ⟨e, q⟩ := x
    cases e with
    | server e => exact tally_server errstr now hs hsmall' ho (fun d o he => hown d o (by rw [he])) hstep f
    | readBytes j bytes =>
      obtain ⟨c, -, -, rfl⟩ := upon_eq_some.mp hstep
      rfl
    | writeBytes j bytes =>
      obtain ⟨c, -, -, rfl⟩ := upon_eq_some.mp hstep
      rfl

theorem rows_count_bytes {settings : Settings} {errstr : ℕ → String} {now : Bytes} {table : SessionTable}
    {es : List (GatewayEvent × Sqlite)} {s : TcpServer} {k : ℕ} {c : Connection} {id : Int64}
    (hsound : ∀ e ∈ es, Sound e)
    (hrun : gateway.run (launch settings (prepared errstr now table) []) es = some s)
    (hsmall : s.table.seq < 2 ^ 31) (hk : s.connections[k]? = some c) (hid : c.returned = some id) :
    ∃ r sent recv lostSent lostRecv, s.table.get? id = some r ∧ Counts r.bytes_sent sent ∧ Counts r.bytes_recv recv ∧
      sent + lostSent = c.relay.server.outgoing.length ∧ Excused (FailedWrite es k .server) c.relay lostSent ∧
      (streams es k).replied.length + recv + lostRecv = c.relay.client.outgoing.length ∧
      Excused (FailedWrite es k .client) c.relay lostRecv ∧
      ∀ es' t, (∀ x ∈ es', Sound x) → (∀ x ∈ es', ∀ d o, x.1 ≠ .server (.dispatch k d o)) →
        gateway.run s es' = some t → t.table.seq < 2 ^ 31 →
        ∃ r', t.table.get? id = some r' ∧ r'.bytes_sent = r.bytes_sent ∧ r'.bytes_recv = r.bytes_recv := by
  have hrecording := recording_run hsound hrun
  have hbooks := hrecording.books hsmall
  have hm := (hrecording.metering hsmall).each k c hk
  obtain ⟨sent, v, lostSent, heq, hexcused, htally, hcounts⟩ := hm.tallied id hid .server
  obtain ⟨recv, w, lostRecv, heq', hexcused', htally', hcounts'⟩ := hm.tallied id hid .client
  obtain ⟨r, hr, rfl⟩ := Option.map_eq_some_iff.mp htally
  obtain ⟨r', hr', rfl⟩ := Option.map_eq_some_iff.mp htally'
  obtain rfl : r = r' := Option.some.inj (hr.symm.trans hr')
  have heq : 0 + sent + lostSent = c.relay.server.outgoing.length := heq
  have howned : Owned k id s := by
    refine ⟨(hbooks.issued id (hbooks.known k c id hk hid)).2, fun j hj => ?_⟩
    obtain ⟨d, hd, hdid⟩ := Option.bind_eq_some_iff.mp hj
    exact hbooks.distinct j k d c id hd hk hdid hid
  refine ⟨r, sent, recv, lostSent, lostRecv, hr, hcounts, hcounts', by omega, hexcused, heq', hexcused', ?_⟩
  intro es' t hsound' hquiet hrun' hsmall'
  have hkept := tally_run (hrecording.failures fun _ _ _ _ => trivial) hsound' hquiet howned hrun' hsmall'
  have hsent := (hkept .toServer).trans htally
  have hrecv := (hkept .toClient).trans htally'
  obtain ⟨x, hx, hxsent⟩ := Option.map_eq_some_iff.mp hsent
  rw [tally, hx] at hrecv
  exact ⟨x, hx, hxsent, Option.some.inj hrecv⟩

theorem rows_count_bytes_pair : ∃ s c r,
    gateway.run (launch ⟨0, 2, 8⟩ (prepared (fun _ => "") [] .empty) []) pair = some s ∧
    s.connections[0]? = some c ∧ c.returned = some 2 ∧ s.table.get? 2 = some r ∧
    r.bytes_sent.toInt = c.relay.server.outgoing.length ∧ c.relay.server.outgoing = [99] := by
  obtain ⟨s, c, hrun, hk, hid, hsmall, hout, hopen⟩ : ∃ s c,
      gateway.run (launch ⟨0, 2, 8⟩ (prepared (fun _ => "") [] .empty) []) pair = some s ∧
      s.connections[0]? = some c ∧ c.returned = some 2 ∧ s.table.seq < 2 ^ 31 ∧
      c.relay.server.outgoing = [99] ∧ c.relay.isClosed = false :=
    ⟨_, _, rfl, rfl, rfl, by decide, rfl, rfl⟩
  have hsound : ∀ e ∈ pair, Sound e := by
    intro e he
    obtain ⟨_, -, rfl⟩ := List.mem_map.mp he
    exact ⟨fun _ => "", [], rfl⟩
  obtain ⟨r, sent, recv, lostSent, lostRecv, hr, hsent, -, heq, hexcused, -⟩ :=
    rows_count_bytes hsound hrun hsmall hk hid
  have hlength : sent = c.relay.server.outgoing.length := by
    rw [← heq, hexcused.lost_open hopen, Nat.add_zero]
  refine ⟨s, c, r, hrun, hk, hid, hr, ?_, hout⟩
  rw [hsent.exact (by rw [hlength, hout]; decide), hlength]

end SocksProxy.CountedRows
