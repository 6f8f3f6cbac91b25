import SocksProxy.RowLabels
import SocksProxy.RecordedBytes
import SocksProxy.ViewedSessions

namespace SocksProxy.MonitoredSessions

open TransitionSystems ByteStrings RelaySession TcpServer DatabaseService DatabaseRuns ServerFrames SessionBooks
open SessionStreams GatewaySteps RecordedBytes RowLabels ViewedSessions

def Initialised (past : List (GatewayEvent × Sqlite)) (k : ℕ) (record : Session) : Prop :=
  ∃ e ∈ past, e.1 = .server (.init k record)

theorem Initialised.concat {past : List (GatewayEvent × Sqlite)} {k : ℕ} {record : Session}
    (h : Initialised past k record) (e : GatewayEvent × Sqlite) : Initialised (past ++ [e]) k record := by
  obtain ⟨e', he', h⟩ := h
  exact ⟨e', List.mem_append_left _ he', h⟩

def Named (past : List (GatewayEvent × Sqlite)) (s : TcpServer) : Prop :=
  ∀ k id, returned s k = some id → ∃ record, Initialised past k record ∧ label s.table id = some (labelled record)

section Steps

variable (errstr : ℕ → String) (now : Bytes) {past : List (GatewayEvent × Sqlite)} {s : TcpServer} {k : ℕ}
  {record : Session} {c : Connection}

theorem returned_initialise (hk : s.connections[k]? = some c) (j : ℕ) (id : Int64)
    (hid : returned (s.initialise (.sound errstr now) k record c) j = some id) :
    returned s j = some id ∨ j = k ∧ label (s.initialise (.sound errstr now) k record c).table id = some (labelled record) := by
  by_cases hseq : s.table.seq + 1 < 2 ^ 63
  · rw [TcpServer.initialise, create_run errstr now hseq record] at hid ⊢
    rw [returned, getElem?_setConnection hk] at hid
    split_ifs at hid with hjk
    · right
      obtain rfl : s.table.nextId = id := Option.some.inj hid
      refine ⟨hjk, ?_⟩
      rw [label, SessionTable.get?_insert, if_pos rfl]
      rfl
    · exact .inl hid
  · have hfull : CreatedRecords.Noticed (.sound errstr now) s.table := .inr (.inr (.inr (.inr (by omega))))
    obtain ⟨err, hthrow⟩ : StatefulPrograms.Proc.Throws (create (.sound errstr now) record) s.table :=
      CreatedRecords.create_throws hfull
    rw [TcpServer.initialise, hthrow] at hid
    rw [returned, getElem?_setConnection hk] at hid
    left
    split_ifs at hid with hjk
    · rw [hjk, returned, hk]
      exact hid
    · exact hid

theorem named_step {t : TcpServer} {e : GatewayEvent × Sqlite} (hs : Named past s) (he : e.2 = .sound errstr now)
    (ht : gateway.step s e = some t) : Named (past ++ [e]) t := by
  have hkeeps : Keeps s.table t.table := (keeps_followed e.2).gateway ht
  intro j id hid
  have hold : returned s j = some id → ∃ record, Initialised (past ++ [e]) j record ∧
      label t.table id = some (labelled record) := by
    intro hid
    obtain ⟨record, hinit, hlabel⟩ := hs j id hid
    exact ⟨record, hinit.concat e, hkeeps.label id _ hlabel⟩
  rcases returned_gateway e.2 ht with h | ⟨k, record, c, hevent, hk, rfl⟩
  · rw [h] at hid
    exact hold hid
  · rw [he] at hid ⊢
    rcases returned_initialise errstr now hk j id hid with hid | ⟨rfl, hlabel⟩
    · rw [← he]
      exact hold hid
    · exact ⟨record, ⟨e, by simp, hevent⟩, hlabel⟩

theorem flagged_prepared (table : SessionTable) : Flagged (prepared errstr now table) := by
  intro id r hr
  rw [prepared, createTable_run, SessionTable.get?_alter] at hr
  obtain ⟨r, -, rfl⟩ := Option.map_eq_some_iff.mp hr
  exact .inl rfl

theorem named_launch (settings : Settings) (table : SessionTable) (issued : List Int64) :
    Named [] (launch settings table issued) := by
  intro k id hid
  have hnone : returned (launch settings table issued) k = none := by
    rw [launch, returned_awaitClient]
    rfl
  rw [hnone] at hid
  cases hid

end Steps

section Runs

variable {settings : Settings} {table : SessionTable} {issued : List Int64} {es : List (GatewayEvent × Sqlite)}
  {s : TcpServer}

theorem keeps_run (hrun : gateway.run (launch settings table issued) es = some s) : Keeps table s.table := by
  have hstep : ∀ u e t, Keeps table u.table → gateway.step u e = some t → Keeps table t.table := by
    intro u e t hu ht
    exact hu.trans ((keeps_followed e.2).gateway ht)
  exact Machine.invariant hstep (.refl table) hrun

theorem named_run (hsound : ∀ e ∈ es, Sound e) (hrun : gateway.run (launch settings table issued) es = some s) :
    Named es s := by
  have hstep : ∀ past s e t, ((∀ e ∈ past, Sound e) → Named past s) → gateway.step s e = some t →
      (∀ e' ∈ past ++ [e], Sound e') → Named (past ++ [e]) t := by
    intro past s e t hs ht hpast
    obtain ⟨errstr, now, hq⟩ := hpast e (by simp)
    exact named_step errstr now (hs fun e' he' => hpast e' (List.mem_append_left _ he')) hq ht
  exact Machine.invariant_history hstep (fun _ => named_launch settings table issued) hrun hsound

end Runs

def cell (qt : Qt) (t : SessionTable) (i column : ℕ) : QVariant :=
  SessionModel.data qt (SessionDao.update qt t.sessions.rows) i column .display

structure Tells (qt : Qt) (t : SessionTable) (i : ℕ) (record : Session) (isClosed : Bool) (sent recv : ℕ) : Prop where
  user : cell qt t i 0 = .string (qt.text (cString record.user))
  is_active : cell qt t i 3 = .string (QString.number (if isClosed then 0 else 1))
  src : cell qt t i 4 =
    .string (qt.text (cString record.src_addr) ++ SessionDao.colon ++ qt.text (cString record.src_port))
  dst : cell qt t i 5 =
    .string (qt.text (cString record.dst_addr) ++ SessionDao.colon ++ qt.text (cString record.dst_port))
  bytes_sent : sent < 2 ^ 31 → ∃ n, cell qt t i 6 = .int n ∧ n.toInt = sent
  bytes_recv : recv < 2 ^ 31 → ∃ n, cell qt t i 7 = .int n ∧ n.toInt = recv

section Cells

variable {qt : Qt} {t : SessionTable} {i : ℕ} {r : Row}

theorem cell_row (h : t.sessions.rows[i]? = some r) {column : ℕ} {field : Fields}
    (hfield : Fields.ofColumn column = some field) :
    cell qt t i column =
      if field = .bytesSent ∨ field = .bytesRecv then .int (qt.toInt ((SessionDao.readRow qt r).getD column []))
      else .string ((SessionDao.readRow qt r).getD column []) := by
  have hrow : (t.sessions.rows.map (SessionDao.readRow qt)).getD i [] = SessionDao.readRow qt r := by
    rw [List.getD_eq_getElem?_getD, List.getElem?_map, h]
    rfl
  have hget : SessionDao.get (SessionDao.update qt t.sessions.rows) i column =
      (SessionDao.readRow qt r).getD column [] := by rw [SessionDao.get, SessionDao.update, hrow]
  rw [cell, SessionModel.data, if_pos rfl, hget, hfield]
  cases field <;> rfl

theorem cell_user (h : t.sessions.rows[i]? = some r) {record : Session} (hr : labelOf r = labelled record) :
    cell qt t i 0 = .string (qt.text (cString record.user)) := by
  have huser : r.user = some (cString record.user) := congrArg Label.user hr
  rw [cell_row h rfl]
  simp [SessionDao.readRow, Row.value, huser, QVariant.toString]

theorem cell_counter (hInt : ReadsInts qt) {v : Int64} {n : ℕ} (hv : Counts v n) (hn : n < 2 ^ 31) :
    (qt.toInt (QString.number v.toInt)).toInt = n := by
  have hexact := hv.exact hn
  rw [toInt_number hInt (by omega) (by omega), hexact]

end Cells

theorem active_flag {s : TcpServer} {k : ℕ} {c : Connection} {id : Int64} {r : Row} (hbooks : Books s)
    (hflag : Flagged s.table) (hk : s.connections[k]? = some c) (hid : c.returned = some id)
    (hr : s.table.get? id = some r) : r.is_active.toInt = if c.relay.isClosed then 0 else 1 := by
  have hactive := hbooks.active id
  split_ifs with hclosed
  · by_contra hne
    obtain ⟨j, d, hd, hdid, hopen⟩ := hactive.mp ⟨r, hr, fun h0 => hne (by rw [h0]; rfl)⟩
    obtain rfl := hbooks.distinct j k d c id hd hk hdid hid
    obtain rfl : d = c := Option.some.inj (hd.symm.trans hk)
    rw [hclosed] at hopen
    cases hopen
  · obtain ⟨r', hr', hne⟩ := hactive.mpr ⟨k, c, hk, hid, by simpa using hclosed⟩
    obtain rfl : r' = r := Option.some.inj (hr'.symm.trans hr)
    rcases hflag id r' hr with h | h
    · exact absurd h hne
    · rw [h]
      rfl

theorem view_shows_sessions {qt : Qt} (hInt : ReadsInts qt) {settings : Settings} {errstr : ℕ → String} {now : Bytes}
    {table : SessionTable} {es : List (GatewayEvent × Sqlite)} {s : TcpServer} {k : ℕ} {c : Connection} {id : Int64}
    (hsound : ∀ e ∈ es, Sound e)
    (hrun : gateway.run (launch settings (prepared errstr now table) []) es = some s)
    (hsmall : s.table.seq < 2 ^ 31) (hk : s.connections[k]? = some c) (hid : c.returned = some id) :
    ∃ (record : Session) (i : ℕ) (r : Row) (sent recv : ℕ), Initialised es k record ∧
      s.table.sessions.rows[i]? = some r ∧ r.id = id ∧
      Tells qt s.table i record c.relay.isClosed sent recv ∧
      sent ≤ c.relay.server.outgoing.length ∧
      (streams es k).replied.length + recv ≤ c.relay.client.outgoing.length ∧
      (c.relay.isClosed = false → sent = c.relay.server.outgoing.length ∧
        (streams es k).replied.length + recv = c.relay.client.outgoing.length) := by
  have hnamed := named_run hsound hrun
  have hrecording := recording_run hsound hrun
  have hflagged : Flagged s.table := (keeps_run hrun).flagged (flagged_prepared errstr now table)
  obtain ⟨record, hinit, hlabel⟩ := hnamed k id (by rw [returned, hk]; exact hid)
  obtain ⟨r, hr, hlabelled⟩ := Option.map_eq_some_iff.mp hlabel
  have hm := (hrecording.metering hsmall).each k c hk
  obtain ⟨sent, v, lostSent, heq, hexcused, htally, hcounts⟩ := hm.tallied id hid .server
  obtain ⟨recv, w, lostRecv, heq', hexcused', htally', hcounts'⟩ := hm.tallied id hid .client
  rw [tally, hr] at htally htally'
  obtain rfl : r.bytes_sent = v := Option.some.inj htally
  obtain rfl : r.bytes_recv = w := Option.some.inj htally'
  obtain ⟨hmem, hrid⟩ := SessionTable.get?_eq_some.mp hr
  obtain ⟨i, hi⟩ := List.getElem?_of_mem hmem
  obtain ⟨-, hsrc, hsport, hdst, hdport⟩ := Label.mk.inj hlabelled
  have heq : 0 + sent + lostSent = c.relay.server.outgoing.length := heq
  have heq' : (streams es k).replied.length + recv + lostRecv = c.relay.client.outgoing.length := heq'
  have htells : Tells qt s.table i record c.relay.isClosed sent recv := by
    refine ⟨?_, ?_, ?_, ?_, fun hn => ?_, fun hn => ?_⟩
    · exact cell_user hi hlabelled
    · rw [cell_row hi rfl, ← active_flag (hrecording.books hsmall) hflagged hk hid hr]
      rfl
    · rw [cell_row hi rfl, ← hsrc, ← hsport]
      rfl
    · rw [cell_row hi rfl, ← hdst, ← hdport]
      rfl
    · have hfield : Fields.ofColumn 6 = some .bytesSent := rfl
      exact ⟨_, cell_row hi hfield, cell_counter hInt hcounts hn⟩
    · have hfield : Fields.ofColumn 7 = some .bytesRecv := rfl
      exact ⟨_, cell_row hi hfield, cell_counter hInt hcounts' hn⟩
  refine ⟨record, i, r, sent, recv, hinit, hi, hrid, htells, by omega, by omega, fun ho => ?_⟩
  have hsent := hexcused.lost_open ho
  have hrecv := hexcused'.lost_open ho
  exact ⟨by omega, by omega⟩

def bob : Session := { user := [98, 111, 98], src_addr := [49], src_port := [50], dst_addr := [51], dst_port := [52] }

def watched : List (GatewayEvent × Sqlite) :=
  [.server (.accept none), .server (.socket 0 (.arrive .client [5, 99, 98])), .server (.begin 0),
    .server (.createProxy 0), .readBytes 0 [5], .writeBytes 0 [5, 0], .server (.init 0 bob),
    .server (.clientRead 0), .server (.serverRead 0), .server (.socket 0 (.transfer .client 2)),
    .server (.dispatch 0 .client .whole)].map fun e => (e, .quiet)

theorem view_shows_bob : ∃ s, gateway.run (launch ⟨0, 2, 8⟩ (prepared (fun _ => "") [] .empty) []) watched = some s ∧
    ∃ i n, cell (plainQt fun _ => 0) s.table i 0 = .string [98, 111, 98] ∧
      cell (plainQt fun _ => 0) s.table i 3 = .string [49] ∧
      cell (plainQt fun _ => 0) s.table i 6 = .int n ∧ n.toInt = 2 := by
  obtain ⟨s, c, hrun, hk, hid, hsmall, hout, hopen⟩ : ∃ s c,
      gateway.run (launch ⟨0, 2, 8⟩ (prepared (fun _ => "") [] .empty) []) watched = some s ∧
      s.connections[0]? = some c ∧ c.returned = some 1 ∧ s.table.seq < 2 ^ 31 ∧
      c.relay.server.outgoing = [99, 98] ∧ c.relay.isClosed = false :=
    ⟨_, _, rfl, rfl, rfl, by decide, rfl, rfl⟩
  have hsound : ∀ e ∈ watched, Sound e := by
    intro e he
    obtain ⟨_, -, rfl⟩ := List.mem_map.mp he
    exact ⟨fun _ => "", [], rfl⟩
  obtain ⟨record, i, r, sent, recv, hinit, -, -, htells, -, -, heq⟩ :=
    view_shows_sessions (plainQt_readsInts fun _ => 0) hsound hrun hsmall hk hid
  have hrecord : record = bob := by
    obtain ⟨e, he, hevent⟩ := hinit
    simp [watched] at he
    rcases he with rfl | rfl | rfl | rfl | rfl | rfl | rfl | rfl | rfl | rfl | rfl
    all_goals cases hevent
    rfl
  have hsent : sent = 2 := by
    rw [(heq hopen).1, hout]
    rfl
  obtain ⟨n, hcell, hn⟩ := htells.bytes_sent (by omega)
  rw [hrecord] at htells
  rw [hsent] at hn
  refine ⟨s, hrun, i, n, htells.user, ?_, hcell, hn⟩
  rw [htells.is_active, hopen]
  rfl

end SocksProxy.MonitoredSessions
