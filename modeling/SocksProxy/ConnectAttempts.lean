import SocksProxy.OutwardActions

namespace SocksProxy.ConnectAttempts

open StatefulPrograms OutwardActions TcpSession

def connects (trace : List Action) : List (Bytes × Bytes) :=
  trace.filterMap fun
    | .connect host service => some (host, service)
    | _ => none

@[simp] theorem connects_append (xs ys : List Action) :
    connects (xs ++ ys) = connects xs ++ connects ys := List.filterMap_append

@[simp] theorem connects_nil : connects [] = [] := rfl

@[simp] theorem connects_connect (host service : Bytes) (xs : List Action) :
    connects (.connect host service :: xs) = (host, service) :: connects xs := rfl

@[simp] theorem connects_write (m : Bytes) (err : Option ErrorCode) (xs : List Action) :
    connects (.write m err :: xs) = connects xs := rfl

@[simp] theorem connects_create (record : Session) (id : Option Int64) (xs : List Action) :
    connects (.create record id :: xs) = connects xs := rfl

@[simp] theorem connects_connected (err : Option ErrorCode) (xs : List Action) :
    connects (.connected err :: xs) = connects xs := rfl

def OnlyAttempts (acts : List Action) : Prop := ∀ a ∈ acts, ∃ ep err, a = .attempt ep err

theorem OnlyAttempts.connects_eq {acts : List Action} (h : OnlyAttempts acts) : connects acts = [] := by
  apply List.filterMap_eq_nil_iff.mpr
  intro a ha
  obtain ⟨ep, err, rfl⟩ := h a ha
  rfl

theorem connectLoop_actions (e : Env) (i : ℕ) (eps : List Endpoint) (ec : Option ErrorCode)
    (s : SessionState) : ∃ acts, OnlyAttempts acts ∧
      ((connectLoop e i eps ec).run s).2.trace = s.trace ++ acts := by
  induction eps generalizing i ec s with
  | nil => exact ⟨[], by simp [OnlyAttempts], (List.append_nil _).symm⟩
  | cons ep eps ih =>
    cases ec with
    | none => exact ⟨[], by simp [OnlyAttempts], (List.append_nil _).symm⟩
    | some err =>
      obtain ⟨acts, hacts, htrace⟩ := ih (i + 1) (e.connectServer i ep)
        { s.acted (.attempt ep (e.connectServer i ep)) with
          serverSocket := if (e.connectServer i ep).isSome then none else some ep }
      refine ⟨.attempt ep (e.connectServer i ep) :: acts, ?_, ?_⟩
      · intro a ha
        rcases List.mem_cons.mp ha with rfl | ha
        · exact ⟨_, _, rfl⟩
        · exact hacts a ha
      · exact htrace.trans (by simp)

def connectEnd : Except SystemError (UInt16 × Option ErrorCode) → List Action
  | .ok (_, err) => [.connected err]
  | .error _ => []

theorem query_trace (e : Env) (q : Query) (s : SessionState) :
    ((query e q).run s).2.trace = s.trace := by
  simp only [query]
  cases e.endpoint q s.queries <;> rfl

theorem reportBinding_actions (e : Env) (s : SessionState) : ((reportBinding e).run s).2.trace =
    s.trace ++ connectEnd ((reportBinding e).run s).1 := by
  have h₁ := query_trace e .serverLocal s
  rcases q₁ : (query e .serverLocal).run s with ⟨err | ep, t₁⟩
  · rw [q₁] at h₁
    rw [reportBinding, Proc.bind_error q₁, h₁]
    exact (List.append_nil _).symm
  have h₂ := query_trace e .serverRemote t₁
  rw [q₁] at h₁
  rw [reportBinding, Proc.bind_ok q₁]
  rcases q₂ : (query e .serverRemote).run t₁ with ⟨err | remote, t₂⟩
  · rw [q₂] at h₂
    rw [Proc.bind_error q₂, h₂, h₁]
    exact (List.append_nil _).symm
  have h₃ := query_trace e .serverRemote t₂
  rw [q₂] at h₂
  rw [Proc.bind_ok q₂]
  rcases q₃ : (query e .serverRemote).run t₂ with ⟨err | remote', t₃⟩
  · rw [q₃] at h₃
    rw [Proc.bind_error q₃, h₃, h₂, h₁]
    exact (List.append_nil _).symm
  rw [q₃] at h₃
  rw [Proc.bind_ok q₃]
  change t₃.trace ++ [.connected none] = _
  rw [h₃, h₂, h₁]
  rfl

theorem connect_actions (e : Env) (host service : Bytes) (s : SessionState) :
    ∃ attempts, OnlyAttempts attempts ∧ ((connect e host service).run s).2.trace =
      s.trace ++ .connect host service :: (attempts ++ connectEnd ((connect e host service).run s).1) := by
  rw [connect, emit, Proc.bind_ok (Proc.run_modify _ _)]
  rcases e.resolve host service with err | eps
  · exact ⟨[], by simp [OnlyAttempts], by simp [emit, Proc.run_bind, connectEnd]⟩
  obtain ⟨acts, hacts, htrace⟩ :=
    connectLoop_actions e 0 eps (some .hostNotFound) (s.acted (.connect host service))
  obtain ⟨acts', t, hr, -⟩ :=
    connectLoop_run e 0 eps (some .hostNotFound) (s.acted (.connect host service))
  rw [hr] at htrace
  change t.trace = s.trace ++ [.connect host service] ++ acts at htrace
  refine ⟨acts, hacts, ?_⟩
  simp only
  rw [Proc.bind_ok hr]
  rcases loopError e 0 eps (some .hostNotFound) with _ | err
  · refine (reportBinding_actions e t).trans ?_
    rw [htrace, List.append_assoc, List.append_assoc]
    rfl
  · simp [emit, Proc.run_bind, connectEnd, htrace]

theorem connect_connects {e : Env} {host service : Bytes} {s t : SessionState}
    {out : Except SystemError (UInt16 × Option ErrorCode)}
    (h : (connect e host service).run s = (out, t)) :
    connects t.trace = connects s.trace ++ [(host, service)] := by
  obtain ⟨attempts, hattempts, htrace⟩ := connect_actions e host service s
  rw [h] at htrace
  rw [htrace]
  rcases out with err | ⟨port, ec⟩ <;> simp [connectEnd, hattempts.connects_eq]

end SocksProxy.ConnectAttempts
