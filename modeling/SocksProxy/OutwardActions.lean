import SocksProxy.SocksProtocols

namespace SocksProxy.OutwardActions

open StatefulPrograms TcpSession

def clientWrites (trace : List Action) : List (Bytes × Option ErrorCode) :=
  trace.filterMap fun
    | .write m err => some (m, err)
    | _ => none

def records (trace : List Action) : List Session :=
  trace.filterMap fun
    | .create record _ => some record
    | _ => none

def reads (trace : List Action) : List Action :=
  trace.filter fun
    | .clientRead | .serverRead => true
    | _ => false

@[simp] theorem clientWrites_append (xs ys : List Action) :
    clientWrites (xs ++ ys) = clientWrites xs ++ clientWrites ys := List.filterMap_append

@[simp] theorem records_append (xs ys : List Action) :
    records (xs ++ ys) = records xs ++ records ys := List.filterMap_append

@[simp] theorem reads_append (xs ys : List Action) : reads (xs ++ ys) = reads xs ++ reads ys :=
  List.filter_append ..

@[simp] theorem clientWrites_nil : clientWrites [] = [] := rfl

@[simp] theorem records_nil : records [] = [] := rfl

@[simp] theorem clientWrites_write (m : Bytes) (err : Option ErrorCode) (xs : List Action) :
    clientWrites (.write m err :: xs) = (m, err) :: clientWrites xs := rfl

@[simp] theorem records_create (record : Session) (id : Option Int64) (xs : List Action) :
    records (.create record id :: xs) = record :: records xs := rfl

@[simp] theorem records_write (m : Bytes) (err : Option ErrorCode) (xs : List Action) :
    records (.write m err :: xs) = records xs := rfl

@[simp] theorem reads_nil : reads [] = [] := rfl

@[simp] theorem reads_write (m : Bytes) (err : Option ErrorCode) (xs : List Action) :
    reads (.write m err :: xs) = reads xs := rfl

@[simp] theorem reads_create (record : Session) (id : Option Int64) (xs : List Action) :
    reads (.create record id :: xs) = reads xs := rfl

structure Quiet (s t : SessionState) (acts : List Action) : Prop where
  trace : t.trace = s.trace ++ acts
  noWrites : clientWrites acts = []
  noRecords : records acts = []
  noReads : reads acts = []
  count : t.writes = s.writes
  input : t.input = s.input
  socks : t.socks = s.socks

theorem Quiet.refl (s : SessionState) : Quiet s s [] := ⟨by simp, rfl, rfl, rfl, rfl, rfl, rfl⟩

theorem Quiet.trans {s t u : SessionState} {xs ys : List Action} (h : Quiet s t xs)
    (k : Quiet t u ys) : Quiet s u (xs ++ ys) where
  trace := by rw [k.trace, h.trace, List.append_assoc]
  noWrites := by simp [h.noWrites, k.noWrites]
  noRecords := by simp [h.noRecords, k.noRecords]
  noReads := by simp [h.noReads, k.noReads]
  count := k.count.trans h.count
  input := k.input.trans h.input
  socks := k.socks.trans h.socks

def loopError (e : Env) : ℕ → List Endpoint → Option ErrorCode → Option ErrorCode
  | _, [], ec => ec
  | i, ep :: eps, ec => if ec.isSome then loopError e (i + 1) eps (e.connectServer i ep) else ec

theorem connectLoop_run (e : Env) (i : ℕ) (eps : List Endpoint) (ec : Option ErrorCode)
    (s : SessionState) : ∃ acts t, (connectLoop e i eps ec).run s = (.ok (loopError e i eps ec), t) ∧
      Quiet s t acts ∧ t.queries = s.queries := by
  induction eps generalizing i ec s with
  | nil => exact ⟨[], s, rfl, .refl s, rfl⟩
  | cons ep eps ih =>
    cases ec with
    | none => exact ⟨[], s, rfl, .refl s, rfl⟩
    | some err =>
      obtain ⟨acts, t, hr, hq, hn⟩ := ih (i + 1) (e.connectServer i ep)
        { s.acted (.attempt ep (e.connectServer i ep)) with
          serverSocket := if (e.connectServer i ep).isSome then none else some ep }
      refine ⟨.attempt ep (e.connectServer i ep) :: acts, t, hr, ?_, hn⟩
      exact ⟨by rw [hq.trace]; simp, hq.noWrites, hq.noRecords, hq.noReads, hq.count, hq.input, hq.socks⟩

theorem query_run (e : Env) (q : Query) (s : SessionState) : ∃ t,
    (query e q).run s = (e.endpoint q s.queries, t) ∧ Quiet s t [] ∧ t.queries = s.queries + 1 := by
  refine ⟨{ s with queries := s.queries + 1 }, ?_, ⟨by simp, rfl, rfl, rfl, rfl, rfl, rfl⟩, rfl⟩
  simp only [query]
  cases e.endpoint q s.queries <;> rfl

def bindingResult (e : Env) (n : ℕ) : Except SystemError (UInt16 × Option ErrorCode) := do
  let localEndpoint ← e.endpoint .serverLocal n
  let _ ← e.endpoint .serverRemote (n + 1)
  let _ ← e.endpoint .serverRemote (n + 2)
  return (localEndpoint.port, none)

def connectResult (e : Env) (host service : Bytes) (n : ℕ) :
    Except SystemError (UInt16 × Option ErrorCode) :=
  match e.resolve host service with
  | .error err => .ok (0, some err)
  | .ok eps =>
    match loopError e 0 eps (some .hostNotFound) with
    | some err => .ok (0, some err)
    | none => bindingResult e n

theorem Quiet.acted (s : SessionState) {a : Action} (hw : clientWrites [a] = [])
    (hr : records [a] = []) (hd : reads [a] = []) : Quiet s (s.acted a) [a] :=
  ⟨rfl, hw, hr, hd, rfl, rfl, rfl⟩

def reportBinding (e : Env) : Handshake (UInt16 × Option ErrorCode) := do
  let bindPort ← query e .serverLocal
  let _ ← query e .serverRemote
  let _ ← query e .serverRemote
  emit (.connected none)
  return (bindPort.port, none)

theorem reportBinding_run (e : Env) (s : SessionState) : ∃ acts t,
    (reportBinding e).run s = (bindingResult e s.queries, t) ∧ Quiet s t acts ∧
    ∀ port ec, bindingResult e s.queries = .ok (port, ec) →
      .connected ec ∈ acts ∧ t.queries = s.queries + 3 := by
  obtain ⟨t₁, h₁, q₁, n₁⟩ := query_run e .serverLocal s
  obtain ⟨t₂, h₂, q₂, n₂⟩ := query_run e .serverRemote t₁
  obtain ⟨t₃, h₃, q₃, n₃⟩ := query_run e .serverRemote t₂
  rw [n₁] at h₂
  rw [n₂, n₁] at h₃
  unfold bindingResult
  rcases e₁ : e.endpoint .serverLocal s.queries with err | ep
  · rw [e₁] at h₁
    rw [reportBinding, Proc.bind_error h₁]
    exact ⟨[], t₁, rfl, q₁, by rintro port ec h; cases h⟩
  rw [e₁] at h₁
  rw [reportBinding, Proc.bind_ok h₁]
  rcases e₂ : e.endpoint .serverRemote (s.queries + 1) with err | remote
  · rw [e₂] at h₂
    rw [Proc.bind_error h₂]
    exact ⟨[], t₂, rfl, q₁.trans q₂, by rintro port ec h; cases h⟩
  rw [e₂] at h₂
  rw [Proc.bind_ok h₂]
  rcases e₃ : e.endpoint .serverRemote (s.queries + 2) with err | remote'
  · rw [e₃] at h₃
    rw [Proc.bind_error h₃]
    exact ⟨[], t₃, rfl, (q₁.trans q₂).trans q₃, by rintro port ec h; cases h⟩
  rw [e₃] at h₃
  rw [Proc.bind_ok h₃]
  exact ⟨[.connected none], t₃.acted (.connected none), rfl,
    ((q₁.trans q₂).trans q₃).trans (.acted t₃ rfl rfl rfl), by rintro port ec h; cases h; simp [n₃, n₂, n₁]⟩

theorem connect_run (e : Env) (host service : Bytes) (s : SessionState) : ∃ acts t,
    (connect e host service).run s = (connectResult e host service s.queries, t) ∧
      Quiet s t acts ∧
      (∀ port ec, connectResult e host service s.queries = .ok (port, ec) →
        .connected ec ∈ acts) ∧
      ∀ port, connectResult e host service s.queries = .ok (port, none) →
        t.queries = s.queries + 3 := by
  have q₀ : Quiet s (s.acted (.connect host service)) [.connect host service] := .acted s rfl rfl rfl
  rw [connect, emit, Proc.bind_ok (Proc.run_modify _ _)]
  unfold connectResult
  rcases e.resolve host service with err | eps
  · refine ⟨_, _, rfl, q₀.trans (.acted _ (a := .connected (some err)) rfl rfl rfl), ?_,
      by rintro port h; cases h⟩
    rintro port ec h
    cases h
    simp
  · obtain ⟨acts, t, hr, hq, hn⟩ :=
      connectLoop_run e 0 eps (some .hostNotFound) (s.acted (.connect host service))
    simp only
    rw [Proc.bind_ok hr]
    rcases loopError e 0 eps (some .hostNotFound) with _ | err
    · obtain ⟨acts', u, hr', hq', hc⟩ := reportBinding_run e t
      rw [show t.queries = s.queries from hn] at hr'
      have hn' : t.queries = s.queries := hn
      rw [hn'] at hc
      refine ⟨_, u, hr', (q₀.trans hq).trans hq', ?_, ?_⟩
      · rintro port ec h
        exact List.mem_append_right _ (hc port ec h).1
      · rintro port h
        exact (hc port none h).2
    · refine ⟨_, _, rfl, (q₀.trans hq).trans (.acted t (a := .connected (some err)) rfl rfl rfl), ?_,
        by rintro port h; cases h⟩
      rintro port ec h
      cases h
      simp

theorem connect_outcome {e : Env} {host service : Bytes} {s t : SessionState}
    {out : Except SystemError (UInt16 × Option ErrorCode)} (h : (connect e host service).run s = (out, t)) :
    out = connectResult e host service s.queries ∧ ∃ acts, Quiet s t acts ∧
      (∀ port ec, out = .ok (port, ec) → .connected ec ∈ acts) ∧
      ∀ port, out = .ok (port, none) → t.queries = s.queries + 3 := by
  obtain ⟨acts, t', hrun, hquiet, hconnected, hqueries⟩ := connect_run e host service s
  obtain ⟨rfl, rfl⟩ := Prod.mk.inj (hrun.symm.trans h)
  exact ⟨rfl, acts, hquiet, hconnected, hqueries⟩

theorem connect_quiet {e : Env} {host service : Bytes} {s t : SessionState}
    {out : Except SystemError (UInt16 × Option ErrorCode)} (h : (connect e host service).run s = (out, t)) :
    ∃ acts, Quiet s t acts := by
  obtain ⟨-, acts, hquiet, -⟩ := connect_outcome h
  exact ⟨acts, hquiet⟩

inductive Recording (e : Env) (s : SessionState) : Except SystemError Bool → SessionState → Prop
  | threw (err : SystemError) (t : SessionState) (hq : Quiet s t [])
    (h : ∃ n, (n = s.queries ∨ n = s.queries + 1) ∧ e.endpoint .clientRemote n = .error err) : Recording e s (.error err) t
  | recorded (addr port : Endpoint) (t : SessionState) (b : Bool) (id : Int64)
    (ha : e.endpoint .clientRemote s.queries = .ok addr)
    (hp : e.endpoint .clientRemote (s.queries + 1) = .ok port)
    (trace : t.trace = s.trace ++ [.create (Socks.newSession s.socks addr port)
      (e.create (Socks.newSession s.socks addr port))])
    (input : t.input = s.input) (count : t.writes = s.writes)
    (socks : t.socks = { s.socks with id := id }) : Recording e s (.ok b) t

theorem createRecord_cases (e : Env) (s : SessionState) :
    ∃ out t, (Socks.createRecord e).run s = (out, t) ∧ Recording e s out t := by
  obtain ⟨t₁, h₁, q₁, n₁⟩ := query_run e .clientRemote s
  obtain ⟨t₂, h₂, q₂, n₂⟩ := query_run e .clientRemote t₁
  rw [n₁] at h₂
  rcases e₁ : e.endpoint .clientRemote s.queries with err | addr
  · rw [e₁] at h₁
    exact ⟨_, t₁, Proc.bind_error h₁, .threw err t₁ q₁ ⟨_, .inl rfl, e₁⟩⟩
  rw [e₁] at h₁
  rw [Socks.createRecord, Proc.bind_ok h₁]
  rcases e₂ : e.endpoint .clientRemote (s.queries + 1) with err | port
  · rw [e₂] at h₂
    exact ⟨_, t₂, Proc.bind_error h₂, .threw err t₂ (q₁.trans q₂) ⟨_, .inr rfl, e₂⟩⟩
  rw [e₂] at h₂
  have q := q₁.trans q₂
  rw [Proc.bind_ok h₂, Proc.bind_ok (Proc.run_read _ _), q.socks]
  dsimp only
  rw [emit, Proc.bind_ok (Proc.run_modify _ _)]
  rcases hid : e.create (Socks.newSession s.socks addr port) with _ | id
  · refine ⟨_, _, rfl, .recorded addr port _ false s.socks.id e₁ e₂ ?_ q.input q.count q.socks⟩
    simp [q.trace, hid]
  · refine ⟨_, _, rfl, .recorded addr port _ true id e₁ e₂ ?_ q.input q.count ?_⟩
    · simp [q.trace, hid]
    · simp [q.socks]

theorem createRecord_outcome {e : Env} {s t : SessionState} {out : Except SystemError Bool}
    (h : (Socks.createRecord e).run s = (out, t)) : Recording e s out t := by
  obtain ⟨out', t', hrun, hcases⟩ := createRecord_cases e s
  obtain ⟨rfl, rfl⟩ := Prod.mk.inj (hrun.symm.trans h)
  exact hcases

end SocksProxy.OutwardActions
