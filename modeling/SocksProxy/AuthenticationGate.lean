import SocksProxy.ReplyTranscript
import SocksProxy.SocksFourRuns

namespace SocksProxy.AuthenticationGate

open StatefulPrograms FieldParsing HandshakeGrammar SocksFiveRuns SocksFourRuns OutwardActions
open AcceptanceGrammar
open TcpSession (query emit createProxy initProxy startBody start)

def Presented (e : Env) (input u p : Bytes) : Prop :=
  ∃ methods g c rest, GreetingCode e methods g ∧ CredentialsCode ⟨u, p⟩ c ∧
    input = Ver.socks5.code :: (g ++ (c ++ rest))

def Relays (t : SessionState) : Prop := .clientRead ∈ t.trace ∨ .serverRead ∈ t.trace

def started (e : Env) (input : Bytes) : SessionState := ((start e).run { input := input }).2

def Gate (e : Env) (input : Bytes) : Prop :=
  (Relays (started e input) → ∃ u p, Presented e input u p ∧ e.users.lookup u = some p ∧
    ∀ r ∈ records (started e input).trace, r.user = u) ∧
  ∀ r ∈ records (started e input).trace, ∃ p, Presented e input r.user p ∧
    e.users.lookup r.user = some p

structure Bypass (e : Env) (input : Bytes) (r : Request4) (rest : Bytes) : Prop where
  stream : ∃ h, Request4Code r h ∧ input = Ver.socks4.code :: (h ++ rest)
  greeted : (∃ ep, e.endpoint .clientRemote 0 = .ok ep) ∧ ∃ ep, e.endpoint .clientRemote 1 = .ok ep
  reached : ∃ port, connectResult e r.text (Socks.service r.port) 2 = .ok (port, none)
  answered : e.writeClient 0 = none
  known : (∃ ep, e.endpoint .clientRemote 5 = .ok ep) ∧ ∃ ep, e.endpoint .clientRemote 6 = .ok ep

def Extends (before after : List Action) (users : List Bytes) : Prop :=
  ∃ acts, after = before ++ acts ∧ reads acts = [] ∧ (records acts).map Session.user = users

namespace Extends

theorem refl (tr : List Action) : Extends tr tr [] := ⟨[], by simp, rfl, rfl⟩

theorem write (tr : List Action) (m : Bytes) (err : Option ErrorCode) :
    Extends tr (tr ++ [.write m err]) [] := ⟨_, rfl, rfl, rfl⟩

theorem trans {a b c : List Action} {us vs : List Bytes} (h : Extends a b us) (k : Extends b c vs) :
    Extends a c (us ++ vs) := by
  obtain ⟨xs, rfl, hr, hu⟩ := h
  obtain ⟨ys, rfl, kr, ku⟩ := k
  exact ⟨xs ++ ys, by simp, by simp [hr, kr], by simp [hu, ku]⟩

theorem of_quiet {s t : SessionState} {acts : List Action} (h : Quiet s t acts) :
    Extends s.trace t.trace [] := ⟨acts, h.trace, h.noReads, by simp [h.noRecords]⟩

theorem users_eq {acts : List Action} {us : List Bytes} (h : Extends [] acts us) :
    (records acts).map Session.user = us := by
  obtain ⟨_, rfl, -, hu⟩ := h
  exact hu

theorem reads_eq {acts : List Action} {us : List Bytes} (h : Extends [] acts us) :
    reads acts = [] := by
  obtain ⟨_, rfl, hr, -⟩ := h
  exact hr

end Extends

theorem recording_extends {e : Env} {s t : SessionState} {out : Except SystemError Bool}
    (h : Recording e s out t) : ((∃ err, out = .error err) ∧ Extends s.trace t.trace []) ∨
      (∃ b, out = .ok b) ∧ (∃ ep, e.endpoint .clientRemote s.queries = .ok ep) ∧
        (∃ ep, e.endpoint .clientRemote (s.queries + 1) = .ok ep) ∧
        Extends s.trace t.trace [s.socks.username] := by
  cases h with
  | threw err t hq _ => exact .inl ⟨⟨err, rfl⟩, .of_quiet hq⟩
  | recorded addr port t b id ha hp trace _ _ _ =>
    exact .inr ⟨⟨b, rfl⟩, ⟨addr, ha⟩, ⟨port, hp⟩, _, trace, rfl, rfl⟩

theorem connect_extends {e : Env} {host service : Bytes} {s t : SessionState}
    {out : Except SystemError (UInt16 × Option ErrorCode)}
    (h : (TcpSession.connect e host service).run s = (out, t)) :
    Extends s.trace t.trace [] ∧ t.socks = s.socks ∧ t.writes = s.writes ∧
      out = connectResult e host service s.queries ∧
      ∀ port, out = .ok (port, none) → t.queries = s.queries + 3 := by
  obtain ⟨hout, acts, hq, -, hn⟩ := connect_outcome h
  exact ⟨.of_quiet hq, hq.socks, hq.count, hout, hn⟩

theorem command_extends {e : Env} {s t : SessionState} {out : Except SystemError Bool}
    (h : Command e s out t) :
    (out ≠ .ok true ∧ Extends s.trace t.trace []) ∨ Extends s.trace t.trace [s.socks.username] := by
  cases h with
  | unparsed t hr ht =>
    refine .inl ⟨by simp, ?_⟩
    cases ht with
    | badVersion => exact .write _ _ _
    | badType => exact .write _ _ _
    | dropped => exact .refl _
  | unsupported r rest hr hc => exact .inl ⟨by simp, .write _ _ _⟩
  | connectThrew r rest err t hr hc hrun => exact .inl ⟨by simp, (connect_extends hrun).1⟩
  | connectFailed r rest port err t hr hc hrun =>
    exact .inl ⟨by simp, (connect_extends hrun).1.trans (.write _ _ _)⟩
  | connected r rest port t out u hr hc hrun hrec =>
    obtain ⟨hext, hsocks, -⟩ := connect_extends hrun
    have hwrote := hext.trans (.write _ (Socks5.commandResponse t.socks.atyp port)
      (e.writeClient t.writes))
    have hname : ((bound t port).written e (Socks5.commandResponse t.socks.atyp port)).socks.username =
      s.socks.username := by
      change t.socks.username = _
      rw [hsocks]
      rfl
    rcases recording_extends (createRecord_outcome hrec) with ⟨⟨err, rfl⟩, hnone⟩ | ⟨-, -, -, hone⟩
    · exact .inl ⟨by simp [Except.map], hwrote.trans hnone⟩
    · exact .inr (hname ▸ hwrote.trans hone)

theorem opening_extends {e : Env} {s t : SessionState} {b : Bool} (h : Opening e s b t) :
    Extends s.trace t.trace [] := by
  cases h with
  | answered => exact (Extends.write _ _ _).trans (.write _ _ _)
  | _ => exact .write _ _ _

theorem init_logs_in {e : Env} {s t : SessionState} {out : Except SystemError Bool}
    (ha : e.authFlag = true) (h : (Socks5.init e).run s = (out, t)) :
    (out ≠ .ok true ∧ Extends s.trace t.trace []) ∨
      ∃ c : Credentials, Presented e (Ver.socks5.code :: s.input) c.uname c.passwd ∧
        e.users.lookup c.uname = some c.passwd ∧
        (Extends s.trace t.trace [] ∨ Extends s.trace t.trace [c.uname]) := by
  obtain ⟨b, u, hrun, hopen⟩ := opening_cases e s
  cases b with
  | false =>
    rw [init_run, hrun] at h
    obtain ⟨rfl, rfl⟩ := Prod.mk.inj h
    exact .inl ⟨by simp, opening_extends hopen⟩
  | true =>
    obtain ⟨methods, rest, l, hg, hl, -, hname⟩ := opening_true hopen
    obtain ⟨_, hcode, hr⟩ := (exact_login e _ _ _).mp hl
    rw [LoginCode, if_pos ha] at hcode
    obtain ⟨c, rfl, hc, hlookup⟩ := hcode
    obtain ⟨g, hgreet, hi⟩ := (exact_greeting e _ _ _).mp hg
    rw [init_run, hrun] at h
    have hext := command_extends (command_outcome h)
    rw [hname c rfl] at hext
    refine .inr ⟨c, ⟨methods, g, _, u.input, hgreet, hc, by rw [hi, hr]⟩, hlookup, ?_⟩
    exact hext.imp (fun hnone => (opening_extends hopen).trans hnone.2) (opening_extends hopen).trans

def Granted (e : Env) (s : SessionState) (r : Request4) : Prop :=
  (∃ port, connectResult e r.text (Socks.service r.port) s.queries = .ok (port, none)) ∧
    e.writeClient s.writes = none ∧
    (∃ ep, e.endpoint .clientRemote (s.queries + 3) = .ok ep) ∧
    ∃ ep, e.endpoint .clientRemote (s.queries + 4) = .ok ep

theorem answer_grants {e : Env} {s t : SessionState} {r : Request4} {rest : Bytes}
    {out : Except SystemError Bool} (h : (answer e).run (requested4 s r rest) = (out, t)) :
    (¬Granted e s r ∧ out ≠ .ok true ∧ Extends s.trace t.trace []) ∨
      (Granted e s r ∧ Extends s.trace t.trace [r.userid]) := by
  obtain ⟨out', t', hrun, hans⟩ := answer_cases e (requested4 s r rest)
  obtain ⟨rfl, rfl⟩ := Prod.mk.inj (hrun.symm.trans h)
  cases hans with
  | connectThrew err t hr =>
    obtain ⟨hext, -, -, hres, -⟩ := connect_extends hr
    refine .inl ⟨?_, by simp, hext⟩
    rintro ⟨⟨port, hport⟩, -⟩
    cases hres.trans hport
  | refused port ec t hr hlost =>
    obtain ⟨hext, -, hcount, hres, -⟩ := connect_extends hr
    refine .inl ⟨?_, by simp, hext.trans (.write _ _ _)⟩
    rintro ⟨⟨port', hport⟩, hw, -⟩
    cases hres.trans hport
    rw [hcount] at hlost
    exact hlost.elim (absurd rfl) (absurd hw)
  | granted port t out u hr hw hrec =>
    obtain ⟨hext, hsocks, hcount, hres, hn⟩ := connect_extends hr
    have hqueries : t.queries = s.queries + 3 := hn port rfl
    have hwrote := hext.trans (.write _ (replyMessage none) (e.writeClient t.writes))
    have hname : (bound4 t port).socks.username = r.userid := congrArg Socks.username hsocks
    cases createRecord_outcome hrec with
    | threw err v hv hthrow =>
      refine .inl ⟨?_, by simp [Except.map], hwrote.trans (.of_quiet hv)⟩
      rintro ⟨-, -, ⟨addr, haddr⟩, ⟨port', hport⟩⟩
      obtain ⟨n, rfl | rfl, hn⟩ := hthrow
      · simp [bound4, hqueries, haddr] at hn
      · simp [bound4, hqueries, hport] at hn
    | recorded addr port' v b id haddr hport trace _ _ _ =>
      refine .inr ⟨⟨⟨port, hres.symm⟩, hcount ▸ hw, ⟨addr, ?_⟩, ⟨port', ?_⟩⟩, ?_⟩
      · simpa [bound4, hqueries] using haddr
      · simpa [bound4, hqueries] using hport
      · exact hwrote.trans ⟨_, trace, rfl, by simpa [Socks.newSession] using hname⟩

theorem init4_grants {e : Env} {s t : SessionState} {out : Except SystemError Bool}
    (h : (Socks4.init e).run s = (out, t)) :
    ((∀ r rest, request4 s.input = some (r, rest) → ¬Granted e s r) ∧ out ≠ .ok true ∧
      Extends s.trace t.trace []) ∨
    ∃ r rest, request4 s.input = some (r, rest) ∧ Granted e s r ∧
      Extends s.trace t.trace [r.userid] := by
  rcases hr : request4 s.input with _ | ⟨r, rest⟩
  · obtain ⟨left, x, hrun⟩ := init_malformed (e := e) hr
    obtain ⟨rfl, rfl⟩ := Prod.mk.inj (hrun.symm.trans h)
    exact .inl ⟨by simp, by simp, .refl _⟩
  · rw [SocksFourRuns.init_complete hr] at h
    rcases answer_grants h with ⟨hno, hout, hext⟩ | ⟨hyes, hext⟩
    · refine .inl ⟨?_, hout, hext⟩
      rintro r' rest' he
      cases he
      exact hno
    · exact .inr ⟨r, rest, rfl, hyes, hext⟩

def protocol (e : Env) : Ver → Handshake Bool
  | .socks5 => Socks5.init e
  | .socks4 => Socks4.init e

def chosen (v : Ver) (rest : Bytes) : SessionState :=
  { input := rest, queries := 2, proxy := some v }

def launch (e : Env) : Handshake Unit := do
  Proc.modify fun s => { s with id := s.socks.id }
  let _ ← query e .clientRemote
  let _ ← query e .clientRemote
  let _ ← query e .serverRemote
  let _ ← query e .serverRemote
  emit .clientRead
  emit .serverRead

def Recordless {α : Type} (x : Handshake α) : Prop :=
  ∀ s, records (x.run s).2.trace = records s.trace

theorem Recordless.bind {α β : Type} {x : Handshake α} {f : α → Handshake β} (hx : Recordless x)
    (hf : ∀ a, Recordless (f a)) : Recordless (x >>= f) := by
  have htrans : ∀ s t u : SessionState, records t.trace = records s.trace →
      records u.trace = records t.trace → records u.trace = records s.trace := by
    intro s t u h k
    exact k.trans h
  exact Proc.follows_bind htrans hx hf

theorem recordless_query (e : Env) (q : Query) : Recordless (query e q) := by
  intro s
  obtain ⟨t, hrun, hq, -⟩ := query_run e q s
  simp [hrun, hq.trace]

theorem recordless_emit {a : Action} (h : records [a] = []) : Recordless (emit a) := by
  intro s
  refine (records_append _ _).trans ?_
  rw [h, List.append_nil]

theorem recordless_launch (e : Env) : Recordless (launch e) := by
  apply Recordless.bind (fun s => rfl)
  intro _
  apply (recordless_query e .clientRemote).bind
  intro _
  apply (recordless_query e .clientRemote).bind
  intro _
  apply (recordless_query e .serverRemote).bind
  intro _
  apply (recordless_query e .serverRemote).bind
  intro _
  apply (recordless_emit rfl).bind
  intro _
  exact recordless_emit rfl

def negotiate (e : Env) (v : Ver) : Handshake Unit := do
  if ← protocol e v then launch e

def Greeted (e : Env) : Prop :=
  (∃ ep, e.endpoint .clientRemote 0 = .ok ep) ∧ ∃ ep, e.endpoint .clientRemote 1 = .ok ep

theorem createProxy_cases (s : SessionState) :
    (∃ t taken, createProxy.run s = (.ok false, t) ∧ t.trace = s.trace ∧ s.input = taken ++ t.input ∧
      taken.length ≤ 1 ∧ ∀ v rest, s.input ≠ Ver.code v :: rest) ∨
    ∃ v rest, s.input = Ver.code v :: rest ∧
      createProxy.run s = (.ok true, { s.withInput rest with proxy := some v }) := by
  rcases hi : s.input with _ | ⟨b, rest⟩
  · refine .inl ⟨s, [], ?_, rfl, hi.symm, by simp, by simp⟩
    rw [createProxy, Proc.bind_ok (readByte_nil hi)]
    rfl
  rw [createProxy, Proc.bind_ok (readByte_cons hi)]
  by_cases h5 : b = Ver.socks5.code
  · exact .inr ⟨.socks5, rest, by rw [h5], by simp [h5]; rfl⟩
  by_cases h4 : b = Ver.socks4.code
  · exact .inr ⟨.socks4, rest, by rw [h4], by simp [h4]; rfl⟩
  refine .inl ⟨s.withInput rest, [b], by simp [h4, h5], rfl, rfl, by simp, ?_⟩
  rintro (_ | _) rest' h
  · exact h4 (List.cons.inj h).1
  · exact h5 (List.cons.inj h).1

theorem started_cases (e : Env) (input : Bytes) :
    ((started e input).trace = [] ∧ (∃ taken, input = taken ++ (started e input).input ∧ taken.length ≤ 1) ∧
      ∀ v rest, input = Ver.code v :: rest → ¬Greeted e) ∨
      ∃ v rest, input = Ver.code v :: rest ∧ Greeted e ∧
        started e input = ((negotiate e v).run (chosen v rest)).2 := by
  rw [started, start, Proc.catchAll_state]
  unfold startBody
  rcases h₀ : e.endpoint .clientRemote 0 with err | ep₀
  · refine .inl ⟨?_, ⟨[], ?_, by simp⟩, ?_⟩
    · simp [Proc.run_bind, query, h₀]
    · simp [Proc.run_bind, query, h₀]
    · rintro v rest - ⟨⟨ep, h⟩, -⟩
      cases h₀.symm.trans h
  rcases h₁ : e.endpoint .clientRemote 1 with err | ep₁
  · refine .inl ⟨?_, ⟨[], ?_, by simp⟩, ?_⟩
    · simp [Proc.run_bind, query, h₀, h₁]
    · simp [Proc.run_bind, query, h₀, h₁]
    · rintro v rest - ⟨-, ep, h⟩
      cases h₁.symm.trans h
  have hq₀ : (query e .clientRemote).run { input := input } =
    (.ok ep₀, { input := input, queries := 1 }) := by simp [query, h₀]
  have hq₁ : (query e .clientRemote).run { input := input, queries := 1 } =
    (.ok ep₁, { input := input, queries := 2 }) := by simp [query, h₁]
  rw [Proc.bind_ok hq₀, Proc.bind_ok hq₁]
  rcases createProxy_cases { input := input, queries := 2 } with
    ⟨t, taken, hrun, htrace, htaken, hlength, hno⟩ | ⟨v, rest, hi, hrun⟩
  · refine .inl ⟨?_, ⟨taken, ?_, hlength⟩, fun v rest hi => absurd hi (hno v rest)⟩
    · rw [Proc.bind_ok hrun]
      exact htrace
    · rw [Proc.bind_ok hrun]
      exact htaken
  · refine .inr ⟨v, rest, hi, ⟨⟨ep₀, h₀⟩, ep₁, h₁⟩, ?_⟩
    rw [Proc.bind_ok hrun]
    cases v <;> rfl

theorem negotiate_trace {e : Env} {v : Ver} {s t : SessionState} {out : Except SystemError Bool}
    (h : (protocol e v).run s = (out, t)) :
    records ((negotiate e v).run s).2.trace = records t.trace ∧
      (out ≠ .ok true → ((negotiate e v).run s).2.trace = t.trace) := by
  rcases out with err | _ | _
  · rw [negotiate, Proc.bind_error h]
    exact ⟨rfl, fun _ => rfl⟩
  · rw [negotiate, Proc.bind_ok h]
    exact ⟨rfl, fun _ => rfl⟩
  · rw [negotiate, Proc.bind_ok h, if_pos rfl]
    exact ⟨recordless_launch e t, fun hne => absurd rfl hne⟩

theorem not_relays {t : SessionState} (h : reads t.trace = []) : ¬Relays t := by
  rintro (hc | hc)
  · exact List.filter_eq_nil_iff.mp h _ hc rfl
  · exact List.filter_eq_nil_iff.mp h _ hc rfl

theorem gate_of_idle {e : Env} {input : Bytes} (hr : reads (started e input).trace = [])
    (hn : records (started e input).trace = []) : Gate e input :=
  ⟨fun h => absurd h (not_relays hr), by simp [hn]⟩

theorem bypass_iff {e : Env} {rest : Bytes} {r : Request4} {left : Bytes} (hg : Greeted e) :
    Bypass e (Ver.socks4.code :: rest) r left ↔
      request4 rest = some (r, left) ∧ Granted e (chosen .socks4 rest) r := by
  rw [exact_request4]
  constructor
  · rintro ⟨⟨h, hcode, hi⟩, -, hreach, hw, haddr, hport⟩
    exact ⟨⟨h, hcode, (List.cons.inj hi).2⟩, hreach, hw, haddr, hport⟩
  · rintro ⟨⟨h, hcode, rfl⟩, hreach, hw, haddr, hport⟩
    exact ⟨⟨h, hcode, rfl⟩, hg, hreach, hw, haddr, hport⟩

theorem gate_of_login {e : Env} {input : Bytes} {c : Credentials}
    (hc : Presented e input c.uname c.passwd) (hlookup : e.users.lookup c.uname = some c.passwd)
    (hname : ∀ u ∈ (records (started e input).trace).map Session.user, u = c.uname) :
    Gate e input := by
  have huser : ∀ r ∈ records (started e input).trace, r.user = c.uname :=
    fun r hr => hname _ (List.mem_map_of_mem hr)
  refine ⟨fun _ => ⟨c.uname, c.passwd, hc, hlookup, huser⟩, fun r hr => ⟨c.passwd, ?_, ?_⟩⟩
  · rw [huser r hr]
    exact hc
  · rw [huser r hr]
    exact hlookup

theorem gate_iff (e : Env) (input : Bytes) (ha : e.authFlag = true) :
    Gate e input ↔ ∀ r rest, ¬Bypass e input r rest := by
  rcases started_cases e input with ⟨htrace, -, hno⟩ | ⟨v, rest, rfl, hgreeted, hstate⟩
  · refine ⟨fun _ r rest hbypass => ?_, fun _ => gate_of_idle (by rw [htrace]; rfl) (by rw [htrace]; rfl)⟩
    obtain ⟨h, -, hi⟩ := hbypass.stream
    exact hno .socks4 _ hi hbypass.greeted
  have htrace := congrArg SessionState.trace hstate
  rcases hrun : (protocol e v).run (chosen v rest) with ⟨out, t⟩
  obtain ⟨hrecs, hstop⟩ := negotiate_trace hrun
  rw [← htrace] at hrecs hstop
  have hidle : out ≠ .ok true → Extends [] t.trace [] → Gate e (v.code :: rest) := by
    intro hout hext
    refine gate_of_idle ?_ ?_
    · rw [hstop hout]
      exact hext.reads_eq
    · rw [hrecs]
      exact List.map_eq_nil_iff.mp hext.users_eq
  cases v with
  | socks4 =>
    simp only [bypass_iff hgreeted]
    rcases init4_grants (by exact hrun) with ⟨hno, hout, hext⟩ | ⟨r, left, hr, hg, hext⟩
    · exact ⟨fun _ r left ⟨hr, hg⟩ => hno r left hr hg, fun _ => hidle hout hext⟩
    · refine ⟨fun hgate => ?_, fun hno => absurd ⟨hr, hg⟩ (hno r left)⟩
      have hmem : r.userid ∈ (records (started e (Ver.socks4.code :: rest)).trace).map Session.user := by
        rw [hrecs, hext.users_eq]
        exact List.mem_singleton_self _
      obtain ⟨record, hrecord, -⟩ := List.mem_map.mp hmem
      obtain ⟨p, ⟨_, _, _, _, _, _, hi⟩, -⟩ := hgate.2 record hrecord
      cases (List.cons.inj hi).1
  | socks5 =>
    refine ⟨fun _ r left hbypass => ?_, fun _ => ?_⟩
    · obtain ⟨h, -, hi⟩ := hbypass.stream
      cases (List.cons.inj hi).1
    · rcases init_logs_in ha (by exact hrun) with ⟨hout, hext⟩ | ⟨c, hc, hlookup, hext⟩
      · exact hidle hout hext
      · refine gate_of_login hc hlookup ?_
        rw [hrecs]
        rcases hext with hext | hext
        · simp [hext.users_eq]
        · simp [hext.users_eq]

theorem gate_iff_bob :
    Gate (Env.permissive true [([98, 111, 98], [112, 119])]) (5 :: bobStream) ↔
      ∀ r rest, ¬Bypass (Env.permissive true [([98, 111, 98], [112, 119])]) (5 :: bobStream) r rest :=
  gate_iff _ _ rfl

/-- A SOCKS4 CONNECT to `127.0.0.1:80` by a user id that has no account. -/
def strangerStream : Bytes := [4, 1, 0, 80, 127, 0, 0, 1, 120, 0]

theorem gate_bypassed : ¬Gate (Env.permissive true []) strangerStream := by
  intro h
  have hrelay : Relays (started (Env.permissive true []) strangerStream) := .inl (by decide)
  obtain ⟨_, _, ⟨_, _, _, _, _, _, hi⟩, -⟩ := h.1 hrelay
  cases (List.cons.inj hi).1

end SocksProxy.AuthenticationGate
