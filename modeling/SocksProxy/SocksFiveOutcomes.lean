import SocksProxy.SocksFiveRequests

namespace SocksProxy.SocksFiveRuns

open StatefulPrograms FieldParsing HandshakeGrammar TcpSession Socks5

def methodMessage (m : Method) : Bytes := [Ver.socks5.code, m.code]

def opening (e : Env) : Handshake Bool := do
  if !(← readMethodRequest e) then return false
  if e.authFlag then auth e else return true

def command (e : Env) : Handshake Bool := do
  if !(← readCommandRequest e) then return false
  let socks ← Proc.read SessionState.socks
  if socks.cmd = Cmd.connect.code then
    if !(← Socks5.connect e socks.dstAddress (Socks.service socks.dstPort)) then return false
    let _ ← Socks.createRecord e
    return true
  else
    sendErrorResponse e .commandNotSupp
    return false

theorem init_eq (e : Env) : init e = (do
    if !(← readMethodRequest e) then return false
    if e.authFlag then
      if !(← auth e) then return false
      command e
    else command e) := by
  unfold init command
  simp only [ite_self]

theorem init_run (e : Env) (s : SessionState) : (init e).run s =
    match (opening e).run s with
    | (.ok true, t) => (command e).run t
    | r => r := by
  rw [init_eq, opening]
  rcases hm : (readMethodRequest e).run s with ⟨_ | _ | _, t⟩
  · rw [Proc.bind_error hm, Proc.bind_error hm]
  · rw [Proc.bind_ok hm, Proc.bind_ok hm]
    rfl
  · rw [Proc.bind_ok hm, Proc.bind_ok hm]
    cases e.authFlag
    · rfl
    · simp only [Bool.not_true, Bool.false_eq_true, ↓reduceIte]
      rcases ha : (auth e).run t with ⟨_ | _ | _, u⟩
      · rw [Proc.bind_error ha]
      · rw [Proc.bind_ok ha]
        rfl
      · rw [Proc.bind_ok ha]
        rfl

inductive Opening (e : Env) (s : SessionState) : Bool → SessionState → Prop
  | refused (left : Bytes) (h : greeting e s.input = none) :
    Opening e s false ((s.withInput left).written e (methodMessage .noAccMethods))
  | methodLost (methods rest : Bytes) (h : greeting e s.input = some (methods, rest))
    (hw : e.writeClient s.writes ≠ none) :
    Opening e s false ((s.withInput rest).written e (methodMessage (getServerMethod e)))
  | unauthenticated (methods rest : Bytes) (h : greeting e s.input = some (methods, rest))
    (hw : e.writeClient s.writes = none) (ha : e.authFlag = false) :
    Opening e s true ((s.withInput rest).written e (methodMessage (getServerMethod e)))
  | unread (methods rest left : Bytes) (h : greeting e s.input = some (methods, rest))
    (hw : e.writeClient s.writes = none) (ha : e.authFlag = true)
    (hc : credentials rest = none) :
    Opening e s false ((s.withInput left).written e (methodMessage (getServerMethod e)))
  | answered (methods rest : Bytes) (c : Credentials) (left : Bytes)
    (h : greeting e s.input = some (methods, rest)) (hw : e.writeClient s.writes = none)
    (ha : e.authFlag = true) (hc : credentials rest = some (c, left)) :
    Opening e s ((e.writeClient (s.writes + 1)).isNone && Socks.hasUser e c.uname c.passwd)
      ((((s.withInput left).written e (methodMessage (getServerMethod e))).withSocks
        { s.socks with username := c.uname }).written e (statusMessage e c))

theorem opening_cases (e : Env) (s : SessionState) :
    ∃ b t, (opening e).run s = (.ok b, t) ∧ Opening e s b t := by
  rcases hg : greeting e s.input with _ | ⟨methods, rest⟩
  · obtain ⟨left, hr⟩ := readMethodRequest_refuses hg
    exact ⟨_, _, by rw [opening, Proc.bind_ok hr]; rfl, .refused left hg⟩
  · have hr := readMethodRequest_accepts hg
    rw [opening, Proc.bind_ok hr]
    rcases hw : e.writeClient s.writes with _ | err
    · cases ha : e.authFlag with
      | false => exact ⟨_, _, rfl, .unauthenticated methods rest hg hw ha⟩
      | true =>
        simp only [Option.isNone_none, Bool.not_true, Bool.false_eq_true, ↓reduceIte]
        rcases hc : credentials rest with _ | ⟨c, left⟩
        · obtain ⟨left, hr⟩ := auth_drops (e := e) (s := (s.withInput rest).written e
            (methodMessage (getServerMethod e))) hc
          exact ⟨_, _, hr, .unread methods rest left hg hw ha hc⟩
        · exact ⟨_, _, auth_answers (by exact hc), .answered methods rest c left hg hw ha hc⟩
    · exact ⟨_, _, rfl, .methodLost methods rest hg (by simp [hw])⟩

def bound (t : SessionState) (port : UInt16) : SessionState :=
  t.withSocks { t.socks with bindPort := port }

inductive Command (e : Env) (s : SessionState) : Except SystemError Bool → SessionState → Prop
  | unparsed (t : SessionState) (h : request s.input = none) (ht : Unparsed e s t) :
    Command e s (.ok false) t
  | unsupported (r : Request) (rest : Bytes) (h : request s.input = some (r, rest))
    (hc : r.cmd ≠ Cmd.connect.code) :
    Command e s (.ok false) ((requested s r rest).written e (errorResponse .commandNotSupp))
  | connectThrew (r : Request) (rest : Bytes) (err : SystemError) (t : SessionState)
    (h : request s.input = some (r, rest)) (hc : r.cmd = Cmd.connect.code)
    (hr : (TcpSession.connect e r.text (Socks.service r.port)).run (requested s r rest) =
      (.error err, t)) :
    Command e s (.error err) t
  | connectFailed (r : Request) (rest : Bytes) (port : UInt16) (err : ErrorCode) (t : SessionState)
    (h : request s.input = some (r, rest)) (hc : r.cmd = Cmd.connect.code)
    (hr : (TcpSession.connect e r.text (Socks.service r.port)).run (requested s r rest) =
      (.ok (port, some err), t)) :
    Command e s (.ok false) ((bound t port).written e (errorResponse (replyFor (some err))))
  | connected (r : Request) (rest : Bytes) (port : UInt16) (t : SessionState)
    (out : Except SystemError Bool) (u : SessionState)
    (h : request s.input = some (r, rest)) (hc : r.cmd = Cmd.connect.code)
    (hr : (TcpSession.connect e r.text (Socks.service r.port)).run (requested s r rest) =
      (.ok (port, none), t))
    (hrec : (Socks.createRecord e).run
      ((bound t port).written e (commandResponse t.socks.atyp port)) = (out, u)) :
    Command e s (out.map fun _ => true) u

theorem replyFor_some_ne (err : ErrorCode) : replyFor (some err) ≠ .succeeded := by
  cases err <;> simp [replyFor]

theorem connect_throws {e : Env} {host service : Bytes} {s t : SessionState} {err : SystemError}
    (h : (TcpSession.connect e host service).run s = (.error err, t)) :
    (Socks5.connect e host service).run s = (.error err, t) := by
  rw [Socks5.connect, Proc.bind_error h]

theorem connect_fails {e : Env} {host service : Bytes} {s t : SessionState} {port : UInt16}
    {err : ErrorCode} (h : (TcpSession.connect e host service).run s = (.ok (port, some err), t)) :
    (Socks5.connect e host service).run s =
      (.ok false, (bound t port).written e (errorResponse (replyFor (some err)))) := by
  rw [Socks5.connect, Proc.bind_ok h, Proc.bind_ok (Proc.run_modify _ _),
    if_neg (replyFor_some_ne err)]
  rfl

theorem sendCommandResponse_run (e : Env) (port : UInt16) (s : SessionState) :
    (sendCommandResponse e port).run s = (.ok (e.writeClient s.writes).isNone,
      s.written e (commandResponse s.socks.atyp port)) := by
  rw [sendCommandResponse, Proc.bind_ok (Proc.run_read _ _)]
  simp only [Proc.run_bind, writeBytes, Socks.checkError]
  cases e.writeClient s.writes <;> rfl

theorem connect_succeeds {e : Env} {host service : Bytes} {s t : SessionState} {port : UInt16}
    (h : (TcpSession.connect e host service).run s = (.ok (port, none), t)) :
    (Socks5.connect e host service).run s =
      (.ok true, (bound t port).written e (commandResponse t.socks.atyp port)) := by
  rw [Socks5.connect, Proc.bind_ok h, Proc.bind_ok (Proc.run_modify _ _),
    if_pos (show replyFor none = .succeeded from rfl), Proc.bind_ok (sendCommandResponse_run _ _ _)]
  rfl

theorem command_cases (e : Env) (s : SessionState) :
    ∃ out t, (command e).run s = (out, t) ∧ Command e s out t := by
  rcases hq : request s.input with _ | ⟨r, rest⟩
  · obtain ⟨t, hr, ht⟩ := readCommandRequest_fails (e := e) hq
    exact ⟨_, t, by rw [command, Proc.bind_ok hr]; rfl, .unparsed t hq ht⟩
  · rw [command, Proc.bind_ok (readCommandRequest_parses hq)]
    simp only [Bool.not_true, Bool.false_eq_true, ↓reduceIte]
    rw [Proc.bind_ok (Proc.run_read _ _)]
    by_cases hc : r.cmd = Cmd.connect.code
    · rw [if_pos (by exact hc)]
      rcases hr : (TcpSession.connect e r.text (Socks.service r.port)).run (requested s r rest)
        with ⟨err | ⟨port, _ | err⟩, t⟩
      · rw [Proc.bind_error (connect_throws (by exact hr))]
        exact ⟨_, _, rfl, .connectThrew r rest err t hq hc hr⟩
      · rw [Proc.bind_ok (connect_succeeds (by exact hr))]
        rcases hrec : (Socks.createRecord e).run
          ((bound t port).written e (commandResponse t.socks.atyp port)) with ⟨err | b, u⟩
        · exact ⟨_, _, Proc.bind_error hrec, .connected r rest port t _ u hq hc hr hrec⟩
        · exact ⟨_, _, (Proc.bind_ok hrec).trans rfl, .connected r rest port t _ u hq hc hr hrec⟩
      · rw [Proc.bind_ok (connect_fails (by exact hr))]
        exact ⟨_, _, rfl, .connectFailed r rest port err t hq hc hr⟩
    · rw [if_neg (by exact hc)]
      exact ⟨_, _, rfl, .unsupported r rest hq hc⟩

theorem command_outcome {e : Env} {s t : SessionState} {out : Except SystemError Bool}
    (h : (command e).run s = (out, t)) : Command e s out t := by
  obtain ⟨out', t', hrun, hcases⟩ := command_cases e s
  obtain ⟨rfl, rfl⟩ := Prod.mk.inj (hrun.symm.trans h)
  exact hcases

end SocksProxy.SocksFiveRuns
