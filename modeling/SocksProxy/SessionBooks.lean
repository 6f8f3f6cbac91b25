import SocksProxy.ActiveRows
import SocksProxy.ServerInvariants

namespace SocksProxy.SessionBooks

open RelaySession TcpServer DatabaseService ActiveRows ServerFrames ServerInvariants

def Held (s : TcpServer) (id : Int64) : Prop :=
  ∃ (k : ℕ) (c : Connection), s.connections[k]? = some c ∧ c.returned = some id ∧ c.relay.isClosed = false

structure Booked (c : Connection) : Prop where
  closed : c.relay.isClosed = true → ∀ id, c.relay.socks = some id → id = 0
  holds : c.relay.isClosed = false → ∀ id, c.returned = some id ↔ c.relay.socks = some id ∧ id ≠ 0

structure Books (s : TcpServer) : Prop where
  each : ∀ (k : ℕ) (c : Connection), s.connections[k]? = some c → Booked c
  issued : ∀ id ∈ s.issued, 0 < id.toInt ∧ id.toInt ≤ s.table.seq
  nodup : s.issued.Nodup
  known : ∀ (k : ℕ) (c : Connection) (id : Int64), s.connections[k]? = some c → c.returned = some id →
    id ∈ s.issued
  distinct : ∀ (j k : ℕ) (c d : Connection) (id : Int64), s.connections[j]? = some c →
    s.connections[k]? = some d → c.returned = some id → d.returned = some id → j = k
  active : ∀ id, Active s.table id ↔ Held s id

theorem Books.frame {s t : TcpServer} (h : Books s) (hc : t.connections = s.connections)
    (hi : t.issued = s.issued) (hseq : t.table.seq = s.table.seq)
    (ha : ∀ id, Active t.table id ↔ Active s.table id) : Books t where
  each := by
    rw [hc]
    exact h.each
  issued := by
    rw [hi, hseq]
    exact h.issued
  nodup := by
    rw [hi]
    exact h.nodup
  known := by
    rw [hc, hi]
    exact h.known
  distinct := by
    rw [hc]
    exact h.distinct
  active id := by
    rw [ha, h.active, Held, Held, hc]

theorem returned_setConnection {s : TcpServer} {k : ℕ} {c x : Connection}
    (hk : s.connections[k]? = some c) (hr : x.returned = c.returned) {j : ℕ} {d : Connection}
    (hd : (s.setConnection k x).connections[j]? = some d) :
    ∃ d', s.connections[j]? = some d' ∧ d'.returned = d.returned := by
  rcases setConnection_cases hk hd with ⟨rfl, rfl⟩ | ⟨-, hd⟩
  · exact ⟨c, hk, hr.symm⟩
  · exact ⟨d, hd, rfl⟩

theorem Books.change {s t : TcpServer} {k : ℕ} {c x : Connection} (h : Books s)
    (hk : s.connections[k]? = some c) (hb : Booked x) (hr : x.returned = c.returned)
    (hc : t.connections = (s.setConnection k x).connections) (hi : t.issued = s.issued)
    (hseq : t.table.seq = s.table.seq) (ha : ∀ id, Active t.table id ↔ Held t id) : Books t where
  each j d hd := by
    rw [hc] at hd
    rcases setConnection_cases hk hd with ⟨-, rfl⟩ | ⟨-, hd⟩
    · exact hb
    · exact h.each j d hd
  issued := by
    rw [hi, hseq]
    exact h.issued
  nodup := by
    rw [hi]
    exact h.nodup
  known j d id hd hid := by
    rw [hc] at hd
    obtain ⟨d', hd', hreturned⟩ := returned_setConnection hk hr hd
    rw [hi]
    exact h.known j d' id hd' (hreturned.trans hid)
  distinct i j d e id hd he hdid heid := by
    rw [hc] at hd he
    obtain ⟨d', hd', hdr⟩ := returned_setConnection hk hr hd
    obtain ⟨e', he', her⟩ := returned_setConnection hk hr he
    exact h.distinct i j d' e' id hd' he' (hdr.trans hdid) (her.trans heid)
  active := ha

theorem held_setConnection {s : TcpServer} {k : ℕ} {c x : Connection} (hk : s.connections[k]? = some c)
    (hr : x.returned = c.returned) (hclosed : x.relay.isClosed = c.relay.isClosed) (id : Int64) :
    Held (s.setConnection k x) id ↔ Held s id := by
  constructor
  · rintro ⟨j, d, hd, hid, hopen⟩
    rcases setConnection_cases hk hd with ⟨-, rfl⟩ | ⟨-, hd⟩
    · exact ⟨k, c, hk, hr ▸ hid, hclosed ▸ hopen⟩
    · exact ⟨j, d, hd, hid, hopen⟩
  · rintro ⟨j, d, hd, hid, hopen⟩
    by_cases hjk : j = k
    · subst hjk
      rw [hk, Option.some.injEq] at hd
      subst hd
      exact ⟨j, x, setConnection_same hk x, hr.trans hid, hclosed.trans hopen⟩
    · exact ⟨j, d, (setConnection_other hk x hjk).trans hd, hid, hopen⟩

theorem Books.set {s : TcpServer} {k : ℕ} {c x : Connection} (h : Books s)
    (hk : s.connections[k]? = some c) (hb : Booked x) (hr : x.returned = c.returned)
    (hclosed : x.relay.isClosed = c.relay.isClosed) : Books (s.setConnection k x) := by
  apply h.change hk hb hr rfl rfl rfl
  intro id
  rw [held_setConnection hk hr hclosed]
  exact h.active id

theorem held_shut {s : TcpServer} {k : ℕ} {c x : Connection} (h : Books s)
    (hk : s.connections[k]? = some c) (hclosed : x.relay.isClosed = true) (id : Int64) :
    Held (s.setConnection k x) id ↔ Held s id ∧ c.returned ≠ some id := by
  constructor
  · rintro ⟨j, d, hd, hid, hopen⟩
    rcases setConnection_cases hk hd with ⟨-, rfl⟩ | ⟨hjk, hd⟩
    · rw [hclosed] at hopen
      cases hopen
    · refine ⟨⟨j, d, hd, hid, hopen⟩, fun hc => ?_⟩
      exact hjk (h.distinct j k d c id hd hk hid hc)
  · rintro ⟨⟨j, d, hd, hid, hopen⟩, hne⟩
    have hjk : j ≠ k := by
      rintro rfl
      rw [hk, Option.some.injEq] at hd
      subst hd
      exact hne hid
    exact ⟨j, d, (setConnection_other hk x hjk).trans hd, hid, hopen⟩

theorem booked_shut {c : Connection} {r : RelaySession} : Booked { c with relay := r.shut } := by
  refine ⟨fun _ id hid => ?_, fun hopen => by cases hopen⟩
  obtain ⟨i, -, rfl⟩ := Option.map_eq_some_iff.mp hid
  rfl

theorem Booked.kept {c : Connection} {r : RelaySession} {job : Job} (h : Booked c) (hr : Kept c.relay r) :
    Booked { c with relay := r, job := job } := by
  refine ⟨fun hclosed => ?_, fun hopen => ?_⟩
  · rw [hr.socks]
    exact h.closed (hr.isClosed.symm.trans hclosed)
  · rw [hr.socks]
    exact h.holds (hr.isClosed.symm.trans hopen)

section Sound

variable (errstr : ℕ → String) (now : Bytes)

theorem closedTable_active {s : TcpServer} {k : ℕ} {c : Connection} (h : Books s)
    (hsmall : s.table.seq < 2 ^ 31) (hk : s.connections[k]? = some c) (hopen : c.relay.isClosed = false) :
    (∀ id, Active (closedTable (.sound errstr now) c.relay.socks s.table) id ↔
      Active s.table id ∧ c.returned ≠ some id) ∧
    (closedTable (.sound errstr now) c.relay.socks s.table).seq = s.table.seq := by
  have hholds := (h.each k c hk).holds hopen
  have hnone : (∀ id, ¬(c.relay.socks = some id ∧ id ≠ 0)) → c.returned = none := by
    intro hn
    cases hr : c.returned with
    | none => rfl
    | some id => exact absurd ((hholds id).mp hr) (hn id)
  cases hs : c.relay.socks with
  | none =>
    have hr := hnone fun id hid => by
      rw [hs] at hid
      cases hid.1
    simp [closedTable, hr]
  | some i =>
    by_cases hi : i = 0
    · have hr := hnone fun id hid => by
        rw [hs, Option.some.injEq] at hid
        exact hid.2 (hid.1.symm.trans hi)
      simp [closedTable, hr, hi]
    · have hr : c.returned = some i := (hholds i).mpr ⟨hs, hi⟩
      obtain ⟨hpos, hle⟩ := h.issued i (h.known k c i hk hr)
      have hlt : i.toInt < 2 ^ 31 := by omega
      obtain ⟨hactive, hseq⟩ := close_active errstr now (t := s.table) hpos hlt
      rw [closedTable]
      simp only [if_neg hi]
      refine ⟨fun id => ?_, hseq⟩
      rw [hactive, hr]
      simp [eq_comm]

theorem Books.close {s : TcpServer} {k : ℕ} {c : Connection} {r : RelaySession} (h : Books s)
    (hsmall : s.table.seq < 2 ^ 31) (hk : s.connections[k]? = some c) (hr : Kept c.relay r) :
    Books ((s.setConnection k { c with relay := r }).closeConnection (.sound errstr now) k) ∧
      ((s.setConnection k { c with relay := r }).closeConnection (.sound errstr now) k).table.seq = s.table.seq := by
  have hk' := setConnection_same hk { c with relay := r }
  have hset : Books (s.setConnection k { c with relay := r }) :=
    h.set hk ((h.each k c hk).kept hr) rfl hr.isClosed
  cases hclosed : r.isClosed with
  | true =>
    rw [closeConnection_closed _ hk' hclosed]
    exact ⟨hset, rfl⟩
  | false =>
    rw [closeConnection_open _ hk' hclosed]
    obtain ⟨hactive, hseq⟩ := closedTable_active errstr now hset hsmall hk' hclosed
    refine ⟨hset.change hk' (x := { c with relay := r.shut }) booked_shut rfl rfl rfl hseq fun id => ?_, hseq⟩
    have hheld := held_shut (x := { c with relay := r.shut }) hset hk' rfl id
    refine (hactive id).trans (Iff.trans ?_ hheld.symm)
    rw [hset.active]

theorem Books.release {s : TcpServer} (k : ℕ) (h : Books s) (hsmall : s.table.seq < 2 ^ 31) :
    Books (s.release (.sound errstr now) k) := by
  cases hk : s.connections[k]? with
  | none =>
    rw [TcpServer.release, hk]
    exact h
  | some c =>
    rw [release_of _ hk]
    split_ifs
    · exact h
    · have hclose := (h.close errstr now hsmall hk (.refl c.relay)).1
      rwa [setConnection_self hk] at hclose

end Sound

theorem Books.awaitClient {s : TcpServer} (h : Books s) : Books s.awaitClient := by
  have hlast : ∀ (k : ℕ) (c : Connection), s.awaitClient.connections[k]? = some c →
      s.connections[k]? = some c ∨ (c.returned = none ∧ Booked c) := by
    intro k c hk
    rw [TcpServer.awaitClient, List.getElem?_append] at hk
    split_ifs at hk with hlt
    · exact .inl hk
    · right
      have hmem := List.mem_of_getElem? hk
      rw [List.mem_singleton] at hmem
      rw [hmem]
      exact ⟨rfl, fun hclosed => (by cases hclosed), fun _ id => ⟨fun hid => (by cases hid), fun hid => (by cases hid.1)⟩⟩
  have hold : ∀ {k : ℕ} {c : Connection} {id : Int64}, s.awaitClient.connections[k]? = some c →
      c.returned = some id → s.connections[k]? = some c := by
    intro k c id hk hid
    rcases hlast k c hk with hk | ⟨hnone, -⟩
    · exact hk
    · rw [hnone] at hid
      cases hid
  refine ⟨fun k c hk => ?_, h.issued, h.nodup, fun k c id hk hid => ?_, fun j k c d id hj hk hc hd => ?_,
    fun id => ?_⟩
  · rcases hlast k c hk with hk | ⟨-, hb⟩
    · exact h.each k c hk
    · exact hb
  · exact h.known k c id (hold hk hid) hid
  · exact h.distinct j k c d id (hold hj hc) (hold hk hd) hc hd
  · refine (h.active id).trans ⟨?_, ?_⟩
    · rintro ⟨k, c, hk, hid, hopen⟩
      have hlt := (List.getElem?_eq_some_iff.mp hk).1
      exact ⟨k, c, by rw [TcpServer.awaitClient, List.getElem?_append_left hlt, hk], hid, hopen⟩
    · rintro ⟨k, c, hk, hid, hopen⟩
      exact ⟨k, c, hold hk hid, hid, hopen⟩

theorem Books.startAccept {s : TcpServer} (errstr : ℕ → String) (now : Bytes) (k : ℕ) (h : Books s)
    (hsmall : s.table.seq < 2 ^ 31) : Books (s.startAccept (.sound errstr now) k) := by
  rw [TcpServer.startAccept]
  split_ifs
  · exact h.frame rfl rfl rfl fun _ => Iff.rfl
  · exact h.awaitClient.release errstr now k hsmall

theorem Books.post {s : TcpServer} {k : ℕ} {c : Connection} (h : Books s) (hk : s.connections[k]? = some c) :
    Books (s.post k c) := by
  have hb := h.each k c hk
  have hset : Books (s.setConnection k
      { c with relay := c.relay.opened .client, job := .posted, accepted := true }) :=
    h.set hk ⟨hb.closed, hb.holds⟩ rfl rfl
  exact hset.frame rfl rfl rfl fun _ => Iff.rfl

theorem booked_given {x : Connection} {id : Int64} (hid : x.returned = some id)
    (hsocks : x.relay.socks = some id) (hopen : x.relay.isClosed = false) (hne : id ≠ 0) : Booked x where
  closed hclosed := by
    rw [hopen] at hclosed
    cases hclosed
  holds _ i := by
    rw [hid, hsocks]
    refine ⟨fun hi => ⟨hi, ?_⟩, And.left⟩
    cases hi
    exact hne

theorem held_given {s : TcpServer} {k : ℕ} {c x : Connection} {id : Int64} (hk : s.connections[k]? = some c)
    (hnone : c.returned = none) (hid : x.returned = some id) (hopen : x.relay.isClosed = false) (i : Int64) :
    Held (s.setConnection k x) i ↔ i = id ∨ Held s i := by
  constructor
  · rintro ⟨j, d, hd, hdi, hdopen⟩
    rcases setConnection_cases hk hd with ⟨-, rfl⟩ | ⟨-, hd⟩
    · rw [hid, Option.some.injEq] at hdi
      exact .inl hdi.symm
    · exact .inr ⟨j, d, hd, hdi, hdopen⟩
  · rintro (rfl | ⟨j, d, hd, hdi, hdopen⟩)
    · exact ⟨k, x, setConnection_same hk x, hid, hopen⟩
    · have hjk : j ≠ k := by
        rintro rfl
        rw [hk, Option.some.injEq] at hd
        rw [← hd, hnone] at hdi
        cases hdi
      exact ⟨j, d, (setConnection_other hk x hjk).trans hd, hdi, hdopen⟩

theorem Books.given {s u : TcpServer} {k : ℕ} {c x : Connection} {id : Int64} (h : Books s)
    (hk : s.connections[k]? = some c) (hnone : c.returned = none) (hid : x.returned = some id)
    (hsocks : x.relay.socks = some id) (hopen : x.relay.isClosed = false) (hfresh : id ∉ s.issued)
    (hpos : 0 < id.toInt) (hle : id.toInt ≤ u.table.seq) (hseq : s.table.seq ≤ u.table.seq)
    (hc : u.connections = (s.setConnection k x).connections) (hi : u.issued = s.issued ++ [id])
    (hactive : ∀ i, Active u.table i ↔ i = id ∨ Active s.table i) : Books u := by
  have hother : ∀ (j : ℕ) (d : Connection), s.connections[j]? = some d → d.returned ≠ some id := by
    intro j d hd hdid
    exact hfresh (h.known j d id hd hdid)
  have hne : id ≠ 0 := by
    rintro rfl
    exact absurd hpos (by decide)
  refine ⟨fun j d hd => ?_, fun i hmem => ?_, ?_, fun j d i hd hdi => ?_, fun i j d e n hd he hdn hen => ?_,
    fun i => ?_⟩
  · rw [hc] at hd
    rcases setConnection_cases hk hd with ⟨-, rfl⟩ | ⟨-, hd⟩
    · exact booked_given hid hsocks hopen hne
    · exact h.each j d hd
  · rw [hi, List.mem_append, List.mem_singleton] at hmem
    rcases hmem with hmem | rfl
    · obtain ⟨hipos, hile⟩ := h.issued i hmem
      exact ⟨hipos, by omega⟩
    · exact ⟨hpos, hle⟩
  · rw [hi]
    exact h.nodup.append (List.nodup_singleton id) (List.disjoint_singleton.mpr hfresh)
  · rw [hc] at hd
    rw [hi, List.mem_append, List.mem_singleton]
    rcases setConnection_cases hk hd with ⟨-, rfl⟩ | ⟨-, hd⟩
    · rw [hid, Option.some.injEq] at hdi
      exact .inr hdi.symm
    · exact .inl (h.known j d i hd hdi)
  · rw [hc] at hd he
    rcases setConnection_cases hk hd with ⟨rfl, rfl⟩ | ⟨-, hd'⟩
    · rw [hid, Option.some.injEq] at hdn
      subst hdn
      rcases setConnection_cases hk he with ⟨rfl, -⟩ | ⟨-, he'⟩
      · rfl
      · exact absurd hen (hother j e he')
    · rcases setConnection_cases hk he with ⟨rfl, rfl⟩ | ⟨-, he'⟩
      · rw [hid, Option.some.injEq] at hen
        subst hen
        exact absurd hdn (hother i d hd')
      · exact h.distinct i j d e n hd' he' hdn hen
  · have hheld : Held u i ↔ Held (s.setConnection k x) i := by rw [Held, Held, hc]
    rw [hactive, h.active, hheld]
    exact (held_given hk hnone hid hopen i).symm

theorem Books.initialise {s : TcpServer} {k : ℕ} {c : Connection} (errstr : ℕ → String) (now : Bytes)
    (record : Session) (h : Books s) (hsmall : s.table.seq < 2 ^ 31) (hk : s.connections[k]? = some c)
    (hsocks : c.relay.socks = some 0) (hopen : c.relay.isClosed = false) :
    Books (s.initialise (.sound errstr now) k record c) := by
  have hnone : c.returned = none := by
    cases hr : c.returned with
    | none => rfl
    | some id =>
      obtain ⟨hid, hne⟩ := ((h.each k c hk).holds hopen id).mp hr
      rw [hsocks, Option.some.injEq] at hid
      exact absurd hid.symm hne
  obtain ⟨t, hcreate, hseq, hactive⟩ := create_active errstr now (t := s.table) (by omega) record
  have hnext : s.table.nextId.toInt = s.table.seq + 1 := SessionTable.toInt_nextId (by omega)
  rw [TcpServer.initialise, hcreate]
  apply h.given hk hnone (x := { c with
    relay := { c.relay.opened .server with socks := some s.table.nextId }, job := .initialised,
    returned := some s.table.nextId }) rfl rfl hopen
  · intro hmem
    have hle := (h.issued _ hmem).2
    omega
  · omega
  · rw [hnext, hseq]
    push_cast
    rfl
  · rw [hseq]
    exact Nat.le_succ _
  · rfl
  · rfl
  · exact hactive

theorem books_dispatch {s t : TcpServer} {k : ℕ} {d : Side} {o : WriteOutcome} {errstr : ℕ → String}
    {now : Bytes} (h : Books s) (hsmall : s.table.seq < 2 ^ 31)
    (ht : s.step (.sound errstr now) (.dispatch k d o) = some t) : Books t := by
  obtain ⟨-, c, hk, -, hd⟩ := step_dispatch ht
  cases hd with
  | closed r hr =>
    obtain ⟨hbooks, hseq⟩ := h.close errstr now hsmall hk hr
    exact hbooks.release errstr now k (hseq ▸ hsmall)
  | relayed r n b hr =>
    obtain ⟨x, hx, hcases⟩ := performAll_writeStat (s := s.setConnection k { c with relay := r })
      (.sound errstr now) r n b
    have hset : Books (s.setConnection k { c with relay := r }) :=
      h.set hk ((h.each k c hk).kept hr) rfl hr.isClosed
    rw [hx]
    have hcounted : Books ((s.setConnection k { c with relay := r }).onDatabase x) ∧
        ((s.setConnection k { c with relay := r }).onDatabase x).table.seq = s.table.seq := by
      rcases hcases with rfl | ⟨id, dest, -, -, rfl⟩
      · exact ⟨hset.frame rfl rfl rfl fun _ => Iff.rfl, rfl⟩
      · obtain ⟨hactive, hseq⟩ := update_active errstr now s.table id (.ofNat n) dest
        exact ⟨hset.frame rfl rfl hseq hactive, hseq⟩
    exact hcounted.1.release errstr now k (hcounted.2 ▸ hsmall)

theorem books_step {s t : TcpServer} {e : ServerEvent} {errstr : ℕ → String} {now : Bytes} (h : Books s)
    (hinv : Inv s) (hsmall : s.table.seq < 2 ^ 31) (ht : s.step (.sound errstr now) e = some t) : Books t := by
  cases e with
  | accept error =>
    obtain ⟨k, c, -, -, hk, rfl⟩ := step_accept ht
    cases error with
    | none => exact (h.post hk).startAccept errstr now k hsmall
    | some err =>
      have hnone : Books { s with accepting := none } := h.frame rfl rfl rfl fun _ => Iff.rfl
      exact hnone.startAccept errstr now k hsmall
  | spin =>
    obtain ⟨k, -, -, rfl⟩ := step_spin ht
    exact h.awaitClient.release errstr now k hsmall
  | begin k =>
    obtain ⟨c, hk, -, rfl⟩ := upon_eq_some.mp ht
    exact h.set hk ((h.each k c hk).kept (.refl c.relay)) rfl rfl
  | createProxy k =>
    obtain ⟨c, hk, hp, rfl⟩ := upon_eq_some.mp ht
    simp only [Bool.and_eq_true, beq_iff_eq] at hp
    refine h.set hk ⟨fun _ id hid => ?_, fun hopen id => ⟨fun hid => ?_, fun hid => ?_⟩⟩ rfl rfl
    · cases hid
      rfl
    · have hsocks := (((h.each k c hk).holds hopen id).mp hid).1
      rw [hp.2] at hsocks
      cases hsocks
    · exact absurd (Option.some.inj hid.1).symm hid.2
  | init k record =>
    obtain ⟨c, hk, hp, rfl⟩ := upon_eq_some.mp ht
    simp only [Bool.and_eq_true, beq_iff_eq] at hp
    have hopen := ((hinv.each k c hk).early (by rw [hp.1]; rfl)).1
    exact h.initialise errstr now record hsmall hk hp.2 hopen
  | clientRead k =>
    obtain ⟨c, hk, -, rfl⟩ := upon_eq_some.mp ht
    have hkept : Kept c.relay c.relay.clientRead := kept_startRead c.relay .client
    exact h.set hk ((h.each k c hk).kept hkept) rfl hkept.isClosed
  | serverRead k =>
    obtain ⟨c, hk, -, rfl⟩ := upon_eq_some.mp ht
    have hkept : Kept c.relay c.relay.serverRead := kept_startRead c.relay .server
    have hset : Books (s.setConnection k { c with relay := c.relay.serverRead, job := .done }) :=
      h.set hk ((h.each k c hk).kept hkept) rfl hkept.isClosed
    exact hset.release errstr now k hsmall
  | stop k =>
    obtain ⟨c, hk, -, rfl⟩ := upon_eq_some.mp ht
    have hset : Books (s.setConnection k { c with job := .done }) :=
      h.set hk ((h.each k c hk).kept (.refl c.relay)) rfl rfl
    exact hset.release errstr now k hsmall
  | socket k e =>
    obtain ⟨c, r, hk, hr, rfl⟩ := step_socket ht
    have hkept := (socketStep_kept hr).1
    exact h.set hk ((h.each k c hk).kept hkept) rfl hkept.isClosed
  | dispatch k d o => exact books_dispatch h hsmall ht

end SocksProxy.SessionBooks
