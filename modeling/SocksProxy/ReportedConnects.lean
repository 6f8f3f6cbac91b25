import SocksProxy.AttemptSequences
import SocksProxy.SocksFiveOutcomes
import SocksProxy.SocksFourRuns

namespace SocksProxy.ReportedConnects

open StatefulPrograms AttemptSequences OutwardActions SocksFiveRuns SocksFourRuns TcpSession

def outcomes (e : Env) (i : ℕ) (eps : List Endpoint) : List (Endpoint × Option ErrorCode) :=
  (eps.zipIdx i).map fun x => (x.1, e.connectServer x.2 x.1)

def results (e : Env) (host service : Bytes) : List (Endpoint × Option ErrorCode) :=
  match e.resolve host service with
  | .error _ => []
  | .ok eps => outcomes e 0 eps

def Accepts (e : Env) (host service : Bytes) : Prop := Succeeds (results e host service)

def failure (e : Env) (host service : Bytes) : ErrorCode :=
  match e.resolve host service with
  | .error err => err
  | .ok eps => ((outcomes e 0 eps).getLast?.bind Prod.snd).getD .hostNotFound

def attempts (trace : List Action) : List (Endpoint × Option ErrorCode) :=
  trace.filterMap fun
    | .attempt ep err => some (ep, err)
    | _ => none

theorem attempts_append (xs ys : List Action) : attempts (xs ++ ys) = attempts xs ++ attempts ys :=
  List.filterMap_append

structure Connects (e : Env) (host service : Bytes) (s : SessionState)
    (out : Except SystemError (UInt16 × Option ErrorCode)) (t : SessionState) : Prop where
  tried : ∃ ys, FirstSuccess (results e host service) ys ∧ attempts t.trace = attempts s.trace ++ ys
  cleared : ∀ port ec, out = .ok (port, ec) → (ec = none ↔ Accepts e host service)
  thrown : ∀ err, out = .error err → Accepts e host service
  upstream : Accepts e host service → ∃ ep, winner (results e host service) = some ep ∧ t.serverSocket = some ep
  failed : ¬Accepts e host service → out = .ok (0, some (failure e host service))

def reportedCode : ErrorCode → UInt8
  | .hostNotFound | .hostUnreachable => 4
  | .connectionAborted => 2
  | .connectionRefused => 5
  | .timedOut => 6
  | .networkUnreachable => 3
  | _ => 1

def Sent (s t : SessionState) (m : Bytes) : Prop :=
  clientWrites t.trace = clientWrites s.trace ++ [(m, none)]

def Replies5 (e : Env) (host service : Bytes) (s : SessionState) (goesOn : Bool) (rep : UInt8) : Prop :=
  ∃ m t, (Socks5.connect e host service).run s = (.ok goesOn, t) ∧ Sent s t m ∧
    m.take 2 = [Ver.socks5.code, rep]

def Replies4 (e : Env) (s : SessionState) (next : Handshake Bool) (code : UInt8) : Prop :=
  ∃ t, (Socks4.init e).run s = next.run t ∧ Sent s t [0, code, 0, 0, 0, 0, 0, 0]

def afterAttempt (s : SessionState) (x : Endpoint × Option ErrorCode) : SessionState :=
  { s.acted (.attempt x.1 x.2) with serverSocket := if x.2.isSome then none else some x.1 }

theorem attempts_afterAttempts (xs : List (Endpoint × Option ErrorCode)) (s : SessionState) :
    attempts (xs.foldl afterAttempt s).trace = attempts s.trace ++ xs := by
  induction xs generalizing s with
  | nil => exact (List.append_nil _).symm
  | cons x xs ih =>
    have hx : attempts (afterAttempt s x).trace = attempts s.trace ++ [x] := attempts_append _ _
    rw [List.foldl_cons, ih, hx, List.append_assoc]
    rfl

theorem serverSocket_afterAttempts {xs : List (Endpoint × Option ErrorCode)} {ep : Endpoint}
    (h : xs.getLast? = some (ep, none)) (s : SessionState) :
    (xs.foldl afterAttempt s).serverSocket = some ep := by
  obtain ⟨ys, rfl⟩ := List.getLast?_eq_some_iff.mp h
  rw [List.foldl_append]
  rfl

theorem connectLoop_tries (e : Env) (i : ℕ) (eps : List Endpoint) (err : ErrorCode) (s : SessionState) :
    (connectLoop e i eps (some err)).run s = (.ok (reported err (outcomes e i eps)),
      (AttemptSequences.tried (outcomes e i eps)).foldl afterAttempt s) := by
  induction eps generalizing i err s with
  | nil => rfl
  | cons ep eps ih =>
    have hstep : (connectLoop e i (ep :: eps) (some err)).run s =
      (connectLoop e (i + 1) eps (e.connectServer i ep)).run (afterAttempt s (ep, e.connectServer i ep)) := rfl
    have hout : outcomes e i (ep :: eps) = (ep, e.connectServer i ep) :: outcomes e (i + 1) eps := rfl
    rw [hstep, hout]
    cases hec : e.connectServer i ep with
    | none => cases eps <;> rfl
    | some err' => rw [ih, reported_failure, tried_failure, List.foldl_cons]

theorem loopError_eq (e : Env) (i : ℕ) (eps : List Endpoint) (err : ErrorCode) :
    loopError e i eps (some err) = reported err (outcomes e i eps) := by
  obtain ⟨acts, t, hrun, -⟩ := connectLoop_run e i eps (some err) { input := [] }
  rw [connectLoop_tries] at hrun
  exact (Except.ok.inj (congrArg Prod.fst hrun)).symm

def Keeps (s t : SessionState) : Prop := t.serverSocket = s.serverSocket ∧ attempts t.trace = attempts s.trace

theorem Keeps.refl (s : SessionState) : Keeps s s := ⟨rfl, rfl⟩

theorem Keeps.trans (s t u : SessionState) (h : Keeps s t) (k : Keeps t u) : Keeps s u :=
  ⟨k.1.trans h.1, k.2.trans h.2⟩

theorem query_keeps (e : Env) (q : Query) : Proc.Follows Keeps (query e q) := by
  intro s
  simp only [query]
  cases e.endpoint q s.queries <;> exact ⟨rfl, rfl⟩

theorem emit_keeps {a : Action} (h : attempts [a] = []) : Proc.Follows Keeps (emit a) := by
  intro s
  refine ⟨rfl, (attempts_append _ _).trans ?_⟩
  rw [h, List.append_nil]

theorem report_keeps (out : UInt16 × Option ErrorCode) :
    Proc.Follows Keeps (emit (.connected out.2) >>= fun _ => (pure out : Handshake _)) := by
  apply Proc.follows_bind Keeps.trans (emit_keeps rfl)
  intro _
  exact Proc.follows_pure Keeps.refl out

theorem reportBinding_keeps (e : Env) : Proc.Follows Keeps (reportBinding e) := by
  apply Proc.follows_bind Keeps.trans (query_keeps e _)
  intro _
  apply Proc.follows_bind Keeps.trans (query_keeps e _)
  intro _
  apply Proc.follows_bind Keeps.trans (query_keeps e _)
  intro _
  exact report_keeps _

theorem connect_tries (e : Env) (host service : Bytes) (s : SessionState) :
    attempts ((connect e host service).run s).2.trace =
        attempts s.trace ++ AttemptSequences.tried (results e host service) ∧
      (Accepts e host service → ∃ ep, winner (results e host service) = some ep ∧
        ((connect e host service).run s).2.serverSocket = some ep) := by
  have hstart : Keeps s (s.acted (.connect host service)) := emit_keeps rfl s
  rw [connect, emit, Proc.bind_ok (Proc.run_modify _ _), Accepts, results]
  rcases e.resolve host service with err | eps
  · refine ⟨?_, by simp [Succeeds]⟩
    rw [AttemptSequences.tried, List.append_nil]
    exact (report_keeps (0, some err) _).2.trans hstart.2
  simp only
  rw [Proc.bind_ok (connectLoop_tries e 0 eps .hostNotFound (s.acted (.connect host service)))]
  have htail : Proc.Follows Keeps (if (reported .hostNotFound (outcomes e 0 eps)).isSome then (do
        emit (.connected (reported .hostNotFound (outcomes e 0 eps)))
        return (0, reported .hostNotFound (outcomes e 0 eps)))
      else reportBinding e) := Proc.follows_ite (report_keeps _) (reportBinding_keeps e)
  constructor
  · refine (htail _).2.trans ?_
    rw [attempts_afterAttempts, hstart.2]
  · intro h
    obtain ⟨ep, hwinner, hlast⟩ := winner_of_succeeds h
    exact ⟨ep, hwinner, (htail _).1.trans (serverSocket_afterAttempts hlast _)⟩

theorem connectResult_failed {e : Env} {host service : Bytes} (h : ¬Accepts e host service) (n : ℕ) :
    connectResult e host service n = .ok (0, some (failure e host service)) := by
  rw [connectResult, failure]
  rw [Accepts, results] at h
  cases hres : e.resolve host service with
  | error err => rfl
  | ok eps =>
    rw [hres] at h
    simp only
    rw [loopError_eq, reported_last h]

theorem connectResult_accepted {e : Env} {host service : Bytes} (h : Accepts e host service) (n : ℕ) :
    connectResult e host service n = bindingResult e n := by
  rw [connectResult]
  rw [Accepts, results] at h
  cases hres : e.resolve host service with
  | error err => simp [hres, Succeeds] at h
  | ok eps =>
    rw [hres] at h
    simp only
    rw [loopError_eq, reported_eq_none.mpr h]

theorem bindingResult_code {e : Env} {n : ℕ} {port : UInt16} {ec : Option ErrorCode}
    (h : bindingResult e n = .ok (port, ec)) : ec = none := by
  rw [bindingResult] at h
  cases hlocal : e.endpoint .serverLocal n with
  | error err => rw [hlocal] at h; cases h
  | ok ep =>
    cases hremote : e.endpoint .serverRemote (n + 1) with
    | error err => rw [hlocal, hremote] at h; cases h
    | ok remote =>
      cases hport : e.endpoint .serverRemote (n + 2) with
      | error err => rw [hlocal, hremote, hport] at h; cases h
      | ok remote' =>
        rw [hlocal, hremote, hport] at h
        cases h
        rfl

theorem connect_connects (e : Env) (host service : Bytes) (s : SessionState) :
    ∃ out t, (connect e host service).run s = (out, t) ∧ Connects e host service s out t := by
  obtain ⟨htried, hupstream⟩ := connect_tries e host service s
  rcases hrun : (connect e host service).run s with ⟨out, t⟩
  rw [hrun] at htried hupstream
  have hout := (connect_outcome hrun).1
  refine ⟨out, t, rfl, ⟨_, firstSuccess_tried _, htried⟩, ?_, ?_, hupstream, ?_⟩
  · rintro port ec rfl
    by_cases h : Accepts e host service
    · rw [connectResult_accepted h] at hout
      exact iff_of_true (bindingResult_code hout.symm) h
    · rw [connectResult_failed h] at hout
      refine iff_of_false ?_ h
      rintro rfl
      cases hout
  · rintro err rfl
    by_contra h
    rw [connectResult_failed h] at hout
    cases hout
  · intro h
    rw [hout, connectResult_failed h]

theorem connect_unheard {e : Env} {host service : Bytes} {s t : SessionState}
    {out : Except SystemError (UInt16 × Option ErrorCode)} (h : (connect e host service).run s = (out, t)) :
    clientWrites t.trace = clientWrites s.trace := by
  obtain ⟨acts, hquiet⟩ := connect_quiet h
  rw [hquiet.trace, clientWrites_append, hquiet.noWrites, List.append_nil]

theorem connect_fails_run {e : Env} {host service : Bytes} (h : ¬Accepts e host service) (s : SessionState) :
    ∃ t, (connect e host service).run s = (.ok (0, some (failure e host service)), t) := by
  obtain ⟨out, t, hrun, hconnects⟩ := connect_connects e host service s
  exact ⟨t, by rw [hrun, hconnects.failed h]⟩

theorem connect_accepted_run {e : Env} {host service : Bytes} (h : Accepts e host service)
    (hq : ∀ n, (∃ ep, e.endpoint .serverLocal n = .ok ep) ∧ ∃ ep, e.endpoint .serverRemote n = .ok ep)
    (s : SessionState) : ∃ port t, (connect e host service).run s = (.ok (port, none), t) := by
  rcases hrun : (connect e host service).run s with ⟨out, t⟩
  obtain ⟨⟨ep, hlocal⟩, -⟩ := hq s.queries
  obtain ⟨-, remote, hremote⟩ := hq (s.queries + 1)
  obtain ⟨-, remote', hport⟩ := hq (s.queries + 2)
  have hout := (connect_outcome hrun).1
  rw [connectResult_accepted h, bindingResult, hlocal, hremote, hport] at hout
  exact ⟨ep.port, t, by rw [hout]; rfl⟩

theorem sent_written {e : Env} (hw : ∀ n, e.writeClient n = none) {s t : SessionState} {port : UInt16}
    (h : clientWrites t.trace = clientWrites s.trace) (m : Bytes) : Sent s ((bound t port).written e m) m := by
  have hacts : ((bound t port).written e m).trace = t.trace ++ [.write m (e.writeClient t.writes)] := rfl
  rw [Sent, hacts, clientWrites_append, h, hw]
  rfl

theorem replyFor_code (err : ErrorCode) : (Socks5.replyFor (some err)).code = reportedCode err := by
  cases err <;> rfl

section Answers

variable {e : Env} (hw : ∀ n, e.writeClient n = none)

include hw

theorem replies5_failed {host service : Bytes} (h : ¬Accepts e host service) (s : SessionState) :
    Replies5 e host service s false (reportedCode (failure e host service)) := by
  obtain ⟨t, hrun⟩ := connect_fails_run h s
  refine ⟨_, _, connect_fails hrun, sent_written hw (connect_unheard hrun) _, ?_⟩
  rw [← replyFor_code]
  rfl

theorem replies4_failed {s : SessionState} {r : Request4} {rest : Bytes} (hr : request4 s.input = some (r, rest))
    (h : ¬Accepts e r.text (Socks.service r.port)) : Replies4 e s (pure false) 91 := by
  obtain ⟨t, hrun⟩ := connect_fails_run h (requested4 s r rest)
  refine ⟨(bound4 t 0).written e (replyMessage (some (failure e r.text (Socks.service r.port)))), ?_, ?_⟩
  · rw [init_complete hr, answer_replies (by exact hrun), reply_rejects]
    rfl
  · exact sent_written hw (connect_unheard hrun) _

variable (hq : ∀ n, (∃ ep, e.endpoint .serverLocal n = .ok ep) ∧ ∃ ep, e.endpoint .serverRemote n = .ok ep)

include hq

theorem replies5_accepted {host service : Bytes} (h : Accepts e host service) (s : SessionState) :
    Replies5 e host service s true 0 := by
  obtain ⟨port, t, hrun⟩ := connect_accepted_run h hq s
  exact ⟨_, _, connect_succeeds hrun, sent_written hw (connect_unheard hrun) _, rfl⟩

theorem replies4_accepted {s : SessionState} {r : Request4} {rest : Bytes}
    (hr : request4 s.input = some (r, rest)) (h : Accepts e r.text (Socks.service r.port)) :
    Replies4 e s (Socks.createRecord e >>= fun _ => pure true) 90 := by
  obtain ⟨port, t, hrun⟩ := connect_accepted_run h hq (requested4 s r rest)
  refine ⟨(bound4 t port).written e (replyMessage none), ?_, ?_⟩
  · rw [init_complete hr, answer_replies (by exact hrun), reply_grants (by exact hw _)]
  · exact sent_written hw (connect_unheard hrun) _

end Answers

/-- Only the replies need the client writes and the queries of a connected socket to succeed. -/
theorem connect_agrees (e : Env) :
    (∀ host service s, ∃ out t, (connect e host service).run s = (out, t) ∧ Connects e host service s out t) ∧
    ((∀ n, e.writeClient n = none) →
      (∀ n, (∃ ep, e.endpoint .serverLocal n = .ok ep) ∧ ∃ ep, e.endpoint .serverRemote n = .ok ep) →
      (∀ host service s, (Accepts e host service → Replies5 e host service s true 0) ∧
        (¬Accepts e host service →
          Replies5 e host service s false (reportedCode (failure e host service)))) ∧
      ∀ s r rest, request4 s.input = some (r, rest) →
        (Accepts e r.text (Socks.service r.port) →
          Replies4 e s (Socks.createRecord e >>= fun _ => pure true) 90) ∧
        (¬Accepts e r.text (Socks.service r.port) → Replies4 e s (pure false) 91)) := by
  refine ⟨connect_connects e, fun hw hq => ⟨?_, ?_⟩⟩
  · intro host service s
    exact ⟨fun h => replies5_accepted hw hq h s, fun h => replies5_failed hw h s⟩
  · intro s r rest hr
    exact ⟨replies4_accepted hw hq hr, replies4_failed hw hr⟩

def secondAccepts : Env := { Env.permissive false [] with
  resolve := fun host _ => .ok [⟨host, 80⟩, ⟨[50], 80⟩]
  connectServer := fun i _ => if i = 0 then some .connectionRefused else none }

theorem second_endpoint_replied : ((∀ n, secondAccepts.writeClient n = none) ∧
    ∀ n, (∃ ep, secondAccepts.endpoint .serverLocal n = .ok ep) ∧
      ∃ ep, secondAccepts.endpoint .serverRemote n = .ok ep) ∧
    Replies5 secondAccepts [97] [56, 48] { input := [] } true 0 :=
  ⟨⟨fun _ => rfl, fun _ => ⟨⟨_, rfl⟩, _, rfl⟩⟩, (((connect_agrees secondAccepts).2 (fun _ => rfl)
    fun _ => ⟨⟨_, rfl⟩, _, rfl⟩).1 [97] [56, 48] { input := [] }).1 ⟨⟨[50], 80⟩, by decide⟩⟩

end SocksProxy.ReportedConnects
