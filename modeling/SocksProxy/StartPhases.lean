import SocksProxy.AuthenticationGate
import SocksProxy.ServerFrames

namespace SocksProxy.StartPhases

open StatefulPrograms TransitionSystems TcpServer OutwardActions AuthenticationGate ServerFrames
open SocksFiveRuns
open TcpSession (query)

def jobEvent (k : ℕ) : Action → Option ServerEvent
  | .create record _ => some (.init k record)
  | .clientRead => some (.clientRead k)
  | .serverRead => some (.serverRead k)
  | _ => none

def jobEvents (k : ℕ) (trace : List Action) : List ServerEvent :=
  trace.filterMap (jobEvent k) ++ if reads trace = [] then [.stop k] else []

theorem jobEvents_of_readless {k : ℕ} {acts : List Action} (h : reads acts = []) :
    acts.filterMap (jobEvent k) = (records acts).map fun record => .init k record := by
  induction acts with
  | nil => rfl
  | cons a acts ih =>
    have hacts : reads acts = [] := by
      apply List.filter_eq_nil_iff.mpr
      intro b hb
      exact List.filter_eq_nil_iff.mp h b (List.mem_cons_of_mem a hb)
    have ha := List.filter_eq_nil_iff.mp h a List.mem_cons_self
    cases a with
    | create record id => exact congrArg (List.cons (ServerEvent.init k record)) (ih hacts)
    | clientRead => exact absurd rfl ha
    | serverRead => exact absurd rfl ha
    | write m err => exact ih hacts
    | connect host service => exact ih hacts
    | attempt ep err => exact ih hacts
    | connected err => exact ih hacts

theorem query_then {α : Type} {e : Env} {q : Query} {f : Endpoint → Handshake α} {s : SessionState}
    {P : List Action → Prop} (hs : P s.trace)
    (hf : ∀ ep t, t.trace = s.trace → P ((f ep).run t).2.trace) : P ((query e q >>= f).run s).2.trace := by
  obtain ⟨t, hrun, hq, -⟩ := query_run e q s
  have ht : t.trace = s.trace := by
    rw [hq.trace, List.append_nil]
  cases he : e.endpoint q s.queries with
  | error err =>
    rw [he] at hrun
    rw [Proc.bind_error hrun, ht]
    exact hs
  | ok ep =>
    rw [he] at hrun
    rw [Proc.bind_ok hrun]
    exact hf ep t ht

def Launched (before after : List Action) : Prop :=
  after = before ∨ after = before ++ [.clientRead, .serverRead]

theorem launch_run (e : Env) (s : SessionState) :
    Launched s.trace ((AuthenticationGate.launch e).run s).2.trace := by
  rw [AuthenticationGate.launch, Proc.bind_ok (Proc.run_modify _ _)]
  refine query_then (P := Launched s.trace) ?_ fun _ t₁ h₁ => ?_
  · exact .inl rfl
  refine query_then (P := Launched s.trace) ?_ fun _ t₂ h₂ => ?_
  · exact .inl h₁
  refine query_then (P := Launched s.trace) ?_ fun _ t₃ h₃ => ?_
  · exact .inl (h₂.trans h₁)
  refine query_then (P := Launched s.trace) ?_ fun _ t₄ h₄ => ?_
  · exact .inl (h₃.trans (h₂.trans h₁))
  have ht : t₄.trace = s.trace := h₄.trans (h₃.trans (h₂.trans h₁))
  right
  change t₄.trace ++ [.clientRead] ++ [.serverRead] = _
  rw [ht, List.append_assoc]
  rfl

theorem protocol_records {e : Env} {v : Ver} {s t : SessionState} {out : Except SystemError Bool}
    (h : (protocol e v).run s = (out, t)) :
    (out ≠ .ok true ∧ Extends s.trace t.trace []) ∨ ∃ user, Extends s.trace t.trace [user] := by
  cases v with
  | socks4 =>
    rcases init4_grants (by exact h) with ⟨-, hout, hext⟩ | ⟨r, rest, -, -, hext⟩
    · exact .inl ⟨hout, hext⟩
    · exact .inr ⟨r.userid, hext⟩
  | socks5 =>
    obtain ⟨b, u, hrun, hopen⟩ := opening_cases e s
    change (Socks5.init e).run s = (out, t) at h
    rw [init_run, hrun] at h
    cases b with
    | false =>
      obtain ⟨rfl, rfl⟩ := Prod.mk.inj h
      exact .inl ⟨by simp, opening_extends hopen⟩
    | true =>
      rcases command_extends (command_outcome h) with ⟨hout, hext⟩ | hext
      · exact .inl ⟨hout, (opening_extends hopen).trans hext⟩
      · exact .inr ⟨u.socks.username, (opening_extends hopen).trans hext⟩

inductive JobSteps (k : ℕ) : List ServerEvent → Prop
  | unrecorded : JobSteps k [.stop k]
  | abandoned (record : Session) : JobSteps k [.init k record, .stop k]
  | relaying (record : Session) : JobSteps k [.init k record, .clientRead k, .serverRead k]

theorem started_steps (k : ℕ) (e : Env) (input : Bytes) : JobSteps k (jobEvents k (started e input).trace) := by
  rcases started_cases e input with ⟨htrace, -⟩ | ⟨v, rest, -, -, hstate⟩
  · rw [htrace]
    exact .unrecorded
  · have htrace := congrArg SessionState.trace hstate
    rcases hrun : (protocol e v).run (chosen v rest) with ⟨out, t⟩
    have hstop := (negotiate_trace hrun).2
    have hidle : Extends [] t.trace [] → jobEvents k t.trace = [.stop k] := by
      intro hext
      have hrecords := List.map_eq_nil_iff.mp hext.users_eq
      rw [jobEvents, jobEvents_of_readless hext.reads_eq, hrecords, hext.reads_eq]
      rfl
    rw [htrace]
    rcases protocol_records hrun with ⟨hout, hext⟩ | ⟨user, hext⟩
    · rw [hstop hout, hidle hext]
      exact .unrecorded
    · obtain ⟨record, hrecord, -⟩ := List.map_eq_singleton_iff.mp hext.users_eq
      have hsteps : t.trace.filterMap (jobEvent k) = [.init k record] := by
        rw [jobEvents_of_readless hext.reads_eq, hrecord]
        rfl
      have habandoned : jobEvents k t.trace = [.init k record, .stop k] := by
        rw [jobEvents, hsteps, hext.reads_eq]
        rfl
      by_cases hout : out = .ok true
      · subst hout
        rw [negotiate, Proc.bind_ok hrun, if_pos rfl]
        rcases launch_run e t with hlaunch | hlaunch
        · rw [hlaunch, habandoned]
          exact .abandoned record
        · rw [hlaunch, jobEvents, List.filterMap_append, hsteps, reads_append, hext.reads_eq]
          exact .relaying record
      · rw [hstop hout, habandoned]
        exact .abandoned record

theorem relaying_of_clientRead {k : ℕ} {e : Env} {input : Bytes}
    (h : .clientRead k ∈ jobEvents k (started e input).trace) : ∃ record,
      jobEvents k (started e input).trace = [.init k record, .clientRead k, .serverRead k] := by
  have hsteps := started_steps k e input
  generalize jobEvents k (started e input).trace = events at h hsteps
  cases hsteps with
  | unrecorded => simp at h
  | abandoned record => simp at h
  | relaying record => exact ⟨record, rfl⟩

theorem release_job {s : TcpServer} {k : ℕ} {c : Connection} (q : Sqlite) (hk : s.connections[k]? = some c) :
    ∃ d, (s.release q k).connections[k]? = some d ∧ d.job = c.job := by
  rw [release_of q hk]
  split_ifs
  · exact ⟨c, hk, rfl⟩
  · cases hc : c.relay.isClosed with
    | true =>
      rw [closeConnection_closed q hk hc]
      exact ⟨c, hk, rfl⟩
    | false =>
      rw [closeConnection_open q hk hc]
      exact ⟨_, setConnection_same hk _, rfl⟩

theorem initialise_job {s : TcpServer} {k : ℕ} {c : Connection} (q : Sqlite) (record : Session)
    (hk : s.connections[k]? = some c) :
    ∃ d, (s.initialise q k record c).connections[k]? = some d ∧ d.job = .initialised := by
  rw [initialise]
  split
  · exact ⟨_, setConnection_same hk _, rfl⟩
  · exact ⟨_, setConnection_same hk _, rfl⟩

theorem stop_runs {s : TcpServer} {k : ℕ} {c : Connection} (q : Sqlite) (hk : s.connections[k]? = some c)
    (hj : c.job = .negotiating ∨ c.job = .initialised) :
    ∃ t d, machine.run s [(.stop k, q)] = some t ∧ t.connections[k]? = some d ∧ d.job = .done := by
  have hstep : machine.step s (.stop k, q) = some ((s.setConnection k { c with job := .done }).release q k) := by
    apply upon_eq_some.mpr
    exact ⟨c, hk, by simpa using hj, rfl⟩
  obtain ⟨d, hd, hjob⟩ := release_job q (setConnection_same hk { c with job := .done })
  exact ⟨_, d, by rw [Machine.run_cons_of machine hstep, Machine.run_nil], hd, hjob⟩

theorem reads_run {s : TcpServer} {k : ℕ} {c : Connection} (q : Sqlite) (hk : s.connections[k]? = some c)
    (hj : c.job = .initialised) : ∃ t d, machine.run s [(.clientRead k, q), (.serverRead k, q)] = some t ∧
      t.connections[k]? = some d ∧ d.job = .done := by
  have hclient : machine.step s (.clientRead k, q) =
      some (s.setConnection k { c with relay := c.relay.clientRead, job := .reading }) := by
    apply upon_eq_some.mpr
    exact ⟨c, hk, by simpa using hj, rfl⟩
  have hk' := setConnection_same hk { c with relay := c.relay.clientRead, job := .reading }
  have hserver : machine.step (s.setConnection k { c with relay := c.relay.clientRead, job := .reading })
      (.serverRead k, q) = some (((s.setConnection k { c with relay := c.relay.clientRead, job := .reading }).setConnection
        k { c with relay := c.relay.clientRead.serverRead, job := .done }).release q k) := by
    apply upon_eq_some.mpr
    exact ⟨_, hk', rfl, rfl⟩
  obtain ⟨d, hd, hjob⟩ := release_job q
    (setConnection_same hk' { c with relay := c.relay.clientRead.serverRead, job := .done })
  refine ⟨_, d, ?_, hd, hjob⟩
  rw [Machine.run_cons_of machine hclient, Machine.run_cons_of machine hserver, Machine.run_nil]

theorem init_step {s : TcpServer} {k : ℕ} {c : Connection} (q : Sqlite) (record : Session)
    (hk : s.connections[k]? = some c) (hj : c.job = .negotiating) (hsocks : c.relay.socks = some 0) :
    machine.step s (.init k record, q) = some (s.initialise q k record c) := by
  apply upon_eq_some.mpr
  exact ⟨c, hk, by simp [hj, hsocks], rfl⟩

theorem start_follows_job (e : Env) (input : Bytes) {s : TcpServer} {k : ℕ} {c : Connection} (q : Sqlite)
    (hk : s.connections[k]? = some c) (hj : c.job = .negotiating) (hsocks : c.relay.socks = some 0) :
    ∃ t d, machine.run s ((jobEvents k (started e input).trace).map fun event => (event, q)) = some t ∧
      t.connections[k]? = some d ∧ d.job = .done := by
  have hsteps := started_steps k e input
  generalize jobEvents k (started e input).trace = events at hsteps
  cases hsteps with
  | unrecorded => exact stop_runs q hk (.inl hj)
  | abandoned record =>
    obtain ⟨d, hd, hjob⟩ := initialise_job q record hk
    obtain ⟨t, d', hrun, hend⟩ := stop_runs q hd (.inr hjob)
    refine ⟨t, d', ?_, hend⟩
    rw [List.map_cons, Machine.run_cons_of machine (init_step q record hk hj hsocks)]
    exact hrun
  | relaying record =>
    obtain ⟨d, hd, hjob⟩ := initialise_job q record hk
    obtain ⟨t, d', hrun, hend⟩ := reads_run q hd hjob
    refine ⟨t, d', ?_, hend⟩
    rw [List.map_cons, Machine.run_cons_of machine (init_step q record hk hj hsocks)]
    exact hrun

end SocksProxy.StartPhases
