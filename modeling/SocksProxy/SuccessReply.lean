import SocksProxy.ConnectAttempts
import SocksProxy.ReplyTranscript

namespace SocksProxy.SuccessReply

open StatefulPrograms FieldParsing HandshakeGrammar SocksFiveRuns OutwardActions ConnectAttempts
open AcceptanceGrammar ReplyTranscript Socks5

structure CommandReply where
  ver : UInt8
  rep : UInt8
  rsv : UInt8
  atyp : UInt8
  addr : Bytes
  port : UInt16
  deriving DecidableEq

def bigEndian (high low : UInt8) : UInt16 := (high.toUInt16 <<< 8) ||| low.toUInt16

def replyAddress (atyp : UInt8) : Parser UInt8 Bytes :=
  if atyp = Atyp.ipv4.code then exactly 4
  else if atyp = Atyp.ipv6.code then exactly 16
  else fun _ => none

def commandReply : Parser UInt8 CommandReply := do
  let ver ← symbol
  let rep ← symbol
  let rsv ← symbol
  let atyp ← symbol
  let addr ← replyAddress atyp
  let high ← symbol
  let low ← symbol
  return ⟨ver, rep, rsv, atyp, addr, bigEndian high low⟩

def decodeReply (m : Bytes) : Option CommandReply :=
  match commandReply m with
  | some (reply, []) => some reply
  | _ => none

def Reports (m : Bytes) (port : UInt16) : Prop :=
  ∃ reply, decodeReply m = some reply ∧ reply.ver = Ver.socks5.code ∧ reply.rep = Rep.succeeded.code ∧
    reply.rsv = rsv ∧ (∀ b ∈ reply.addr, b = 0) ∧ reply.port = port

theorem low_toNat (port : UInt16) : ((port &&& 0x00FF).toUInt8).toNat = port.toNat % 256 := by
  have hand : port.toNat &&& 255 = port.toNat % 256 := Nat.and_two_pow_sub_one_eq_mod port.toNat 8
  rw [UInt16.toNat_toUInt8, UInt16.toNat_and]
  simp [hand]

theorem high_eq (port : UInt16) : ((port &&& 0xFF) >>> 8).toUInt8 = 0 := by
  have hand : port.toNat &&& 255 = port.toNat % 256 := Nat.and_two_pow_sub_one_eq_mod port.toNat 8
  rw [← UInt8.toNat_inj, UInt16.toNat_toUInt8, UInt16.toNat_shiftRight, UInt16.toNat_and]
  simp [hand, Nat.shiftRight_eq_div_pow]

def replyType (atyp : UInt8) : UInt8 :=
  if atyp = Atyp.ipv6.code then Atyp.ipv6.code else Atyp.ipv4.code

theorem decodeReply_commandResponse {atyp : UInt8} (h : Supported atyp) (port : UInt16) :
    ∃ addr, (∀ b ∈ addr, b = 0) ∧ decodeReply (commandResponse atyp port) =
      some ⟨Ver.socks5.code, Rep.succeeded.code, rsv, replyType atyp, addr,
        bigEndian 0 (port &&& 0x00FF).toUInt8⟩ := by
  rcases h with rfl | rfl | rfl
  · exact ⟨List.replicate 4 0, by simp, by rw [commandResponse, high_eq]; rfl⟩
  · exact ⟨List.replicate 4 0, by simp, by rw [commandResponse, high_eq]; rfl⟩
  · exact ⟨List.replicate 16 0, by simp, by rw [commandResponse, high_eq]; rfl⟩

theorem bigEndian_low (port : UInt16) : bigEndian 0 (port &&& 0x00FF).toUInt8 = port ↔ port.toNat < 256 := by
  have hvalue := (Request.mk 0 0 0 [] 0 (port &&& 0x00FF).toUInt8).port_toNat
  change (bigEndian 0 (port &&& 0x00FF).toUInt8).toNat = 256 * 0 + ((port &&& 0x00FF).toUInt8).toNat at hvalue
  rw [low_toNat] at hvalue
  rw [← UInt16.toNat_inj, hvalue]
  omega

theorem reports_iff {atyp : UInt8} (h : Supported atyp) (port : UInt16) :
    Reports (commandResponse atyp port) port ↔ port.toNat < 256 := by
  obtain ⟨addr, hzero, hdecode⟩ := decodeReply_commandResponse h port
  constructor
  · rintro ⟨reply, hreply, -, -, -, -, hport⟩
    obtain rfl := Option.some.inj (hdecode.symm.trans hreply)
    exact (bigEndian_low port).mp hport
  · intro hlow
    exact ⟨_, hdecode, rfl, rfl, rfl, hzero, (bigEndian_low port).mpr hlow⟩

def OnlyRecords (acts : List Action) : Prop := ∀ a ∈ acts, ∃ record id, a = .create record id

inductive Connection (e : Env) (s : SessionState) (acts : List Action) : Prop
  | failed (h : .connected none ∉ acts)
  | made (before after : List Action) (atyp : UInt8) (ep : Endpoint) (err : Option ErrorCode)
    (hb : .connected none ∉ before) (ha : OnlyRecords after) (hs : Supported atyp)
    (hport : e.endpoint .serverLocal s.queries = .ok ep)
    (hacts : acts = before ++ .connected none :: .write (commandResponse atyp ep.port) err :: after)

theorem bindingResult_port {e : Env} {n : ℕ} {port : UInt16} (h : bindingResult e n = .ok (port, none)) :
    ∃ ep, e.endpoint .serverLocal n = .ok ep ∧ ep.port = port := by
  unfold bindingResult at h
  rcases h₁ : e.endpoint .serverLocal n with err | ep
  · rw [h₁] at h
    cases h
  rw [h₁] at h
  rcases h₂ : e.endpoint .serverRemote (n + 1) with err | remote
  · rw [h₂] at h
    cases h
  rw [h₂] at h
  rcases h₃ : e.endpoint .serverRemote (n + 2) with err | remote'
  · rw [h₃] at h
    cases h
  rw [h₃] at h
  exact ⟨ep, rfl, (Prod.mk.inj (Except.ok.inj h)).1⟩

theorem connectResult_port {e : Env} {host service : Bytes} {n : ℕ} {port : UInt16}
    (h : connectResult e host service n = .ok (port, none)) :
    ∃ ep, e.endpoint .serverLocal n = .ok ep ∧ ep.port = port := by
  unfold connectResult at h
  split at h
  · cases h
  · split at h
    · cases h
    · exact bindingResult_port h

theorem not_connected_attempts {acts : List Action} (h : OnlyAttempts acts) : .connected none ∉ acts := by
  intro hm
  obtain ⟨ep, err, he⟩ := h _ hm
  cases he

theorem recording_records {e : Env} {s t : SessionState} {out : Except SystemError Bool}
    (h : Recording e s out t) : ∃ after, t.trace = s.trace ++ after ∧ OnlyRecords after := by
  cases h with
  | threw err t hq _ => exact ⟨[], hq.trace, by simp [OnlyRecords]⟩
  | recorded addr port t b id _ _ trace _ _ _ =>
    refine ⟨_, trace, ?_⟩
    intro a ha
    exact ⟨_, _, List.mem_singleton.mp ha⟩

theorem command_connection {e : Env} {s t : SessionState} {out : Except SystemError Bool}
    (h : Command e s out t) : ∃ acts, t.trace = s.trace ++ acts ∧ Connection e s acts := by
  cases h with
  | unparsed t h ht =>
    cases ht with
    | badVersion left h => exact ⟨[_], rfl, .failed (by simp)⟩
    | badType cmd rsv atyp left x h hs => exact ⟨[_], rfl, .failed (by simp)⟩
    | dropped left x h hs => exact ⟨[], by simp, .failed (by simp)⟩
  | unsupported r rest h hc => exact ⟨[_], rfl, .failed (by simp)⟩
  | connectThrew r rest err t h hc hr =>
    obtain ⟨attempts, hattempts, htrace⟩ :=
      connect_actions e r.text (Socks.service r.port) (requested s r rest)
    rw [hr] at htrace
    refine ⟨_, htrace, .failed ?_⟩
    simp [connectEnd, not_connected_attempts hattempts]
  | connectFailed r rest port err t h hc hr =>
    obtain ⟨attempts, hattempts, htrace⟩ :=
      connect_actions e r.text (Socks.service r.port) (requested s r rest)
    rw [hr] at htrace
    refine ⟨_, (congrArg (· ++ [_]) htrace).trans (List.append_assoc ..), .failed ?_⟩
    simp [connectEnd, not_connected_attempts hattempts]
  | connected r rest port t out u h hc hr hrec =>
    obtain ⟨attempts, hattempts, htrace⟩ :=
      connect_actions e r.text (Socks.service r.port) (requested s r rest)
    obtain ⟨hres, acts, hquiet, -⟩ := connect_outcome hr
    obtain ⟨ep, hep, rfl⟩ := connectResult_port hres.symm
    obtain ⟨after, hafter, honly⟩ := recording_records (createRecord_outcome hrec)
    have hatyp : t.socks.atyp = r.atyp := by
      rw [hquiet.socks]
      rfl
    rw [hr] at htrace
    change t.trace = s.trace ++ _ at htrace
    refine ⟨_, hafter.trans ?_, .made (.connect r.text (Socks.service r.port) :: attempts) after r.atyp ep
      (e.writeClient t.writes) ?_ honly (request_supported h) hep rfl⟩
    · simp [bound, htrace, hatyp, connectEnd]
    · simp [not_connected_attempts hattempts]

theorem opening_unconnected {e : Env} {s t : SessionState} {b : Bool} (h : Opening e s b t) :
    ∃ acts, t.trace = s.trace ++ acts ∧ .connected none ∉ acts := by
  cases h with
  | answered methods rest c left h hw ha hc =>
    exact ⟨[.write (methodMessage (getServerMethod e)) (e.writeClient s.writes),
      .write (statusMessage e c) (e.writeClient (s.writes + 1))], by simp, by simp⟩
  | _ => exact ⟨[_], rfl, by simp⟩

theorem success_reply_iff {e : Env} {s t : SessionState} {out : Except SystemError Bool}
    {pre post : List Action} (hrun : (init e).run s = (out, t))
    (htrace : t.trace = s.trace ++ (pre ++ .connected none :: post)) :
    ∃ ep m err after, e.endpoint .serverLocal s.queries = .ok ep ∧ post = .write m err :: after ∧
      clientWrites after = [] ∧ (Reports m ep.port ↔ ep.port.toNat < 256) := by
  obtain ⟨b, u, hopen, hopening⟩ := opening_cases e s
  obtain ⟨acts, hacts, hfree⟩ := opening_unconnected hopening
  rw [init_run, hopen] at hrun
  cases b with
  | false =>
    obtain ⟨-, rfl⟩ := Prod.mk.inj hrun
    have hsame := List.append_cancel_left (hacts.symm.trans htrace)
    exact absurd (hsame ▸ List.mem_append_right pre List.mem_cons_self) hfree
  | true =>
    obtain ⟨-, -, -, -, -, hqueries, -⟩ := opening_true hopening
    obtain ⟨acts', hacts', hconnection⟩ := command_connection (command_outcome hrun)
    rw [hacts, List.append_assoc] at hacts'
    have hsame := List.append_cancel_left (hacts'.symm.trans htrace)
    cases hconnection with
    | failed h =>
      have hm : .connected none ∈ acts ++ acts' := hsame ▸ List.mem_append_right pre List.mem_cons_self
      rcases List.mem_append.mp hm with hm | hm
      · exact absurd hm hfree
      · exact absurd hm h
    | made before after atyp ep err hb ha hs hport hmade =>
      have hafter : .connected none ∉ after := by
        intro hm
        obtain ⟨record, id, he⟩ := ha _ hm
        cases he
      have hnoWrites : clientWrites after = [] := by
        apply List.filterMap_eq_nil_iff.mpr
        intro a hm
        obtain ⟨record, id, rfl⟩ := ha a hm
        rfl
      rw [hmade, ← List.append_assoc] at hsame
      obtain ⟨-, -, rfl⟩ := (List.append_cons_inj_of_notMem (by simp [hfree, hb])
        (by simp [hafter])).mp hsame
      exact ⟨ep, _, err, after, hqueries ▸ hport, rfl, hnoWrites, reports_iff hs ep.port⟩

/-- A CONNECT to `127.0.0.1:80` without authentication. -/
def plainStream : Bytes := [1, 0] ++ [5, 1, 0, 1, 127, 0, 0, 1, 0, 80]

def plainEnv (port : UInt16) : Env :=
  { Env.permissive false [] with endpoint := fun _ _ => .ok ⟨[49], port⟩ }

def plainRun (port : UInt16) : Except SystemError Bool × SessionState :=
  (init (plainEnv port)).run { input := plainStream }

def plainTrace (port : UInt16) : List Action := (plainRun port).2.trace

theorem success_reply_iff_eighty : ∃ m err after, (plainTrace 80).drop 4 = .write m err :: after ∧ Reports m 80 := by
  have htrace : (plainRun 80).2.trace =
      [] ++ ((plainTrace 80).take 3 ++ .connected none :: (plainTrace 80).drop 4) := by decide
  have hrun : (init (plainEnv 80)).run { input := plainStream } = ((plainRun 80).1, (plainRun 80).2) := rfl
  obtain ⟨ep, m, err, after, hep, hpost, -, hreports⟩ := success_reply_iff hrun htrace
  obtain rfl := Except.ok.inj hep
  exact ⟨m, err, after, hpost, hreports.mpr (by decide)⟩

theorem port_misreported : .connected none ∈ plainTrace 1080 ∧
    clientWrites (plainTrace 1080) = [([5, 0], none), ([5, 0, 0, 1, 0, 0, 0, 0, 0, 56], none)] ∧
    decodeReply [5, 0, 0, 1, 0, 0, 0, 0, 0, 56] = some ⟨5, 0, 0, 1, [0, 0, 0, 0], 56⟩ ∧
    ¬Reports [5, 0, 0, 1, 0, 0, 0, 0, 0, 56] 1080 := by
  refine ⟨by decide, by decide, by decide, ?_⟩
  exact fun h => absurd ((reports_iff (.inl rfl) 1080).mp h) (by decide)

end SocksProxy.SuccessReply
