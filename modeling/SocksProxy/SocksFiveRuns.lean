import SocksProxy.HandshakeGrammar

namespace SocksProxy.SocksFiveRuns

open StatefulPrograms FieldParsing HandshakeGrammar TcpSession Socks5

theorem readByte_nil {s : SessionState} (h : s.input = []) :
    readByte.run s = (.ok (0, some .eof), s) := by
  simp [readByte, h]

theorem readByte_cons {s : SessionState} {b : UInt8} {rest : Bytes} (h : s.input = b :: rest) :
    readByte.run s = (.ok (b, none), s.withInput rest) := by
  simp [readByte, h]

theorem readBytes_some {s : SessionState} {n : ℕ} {f rest : Bytes}
    (h : exactly n s.input = some (f, rest)) :
    (readBytes n).run s = (.ok (f, none), s.withInput rest) := by
  simp only [exactly, Option.ite_none_right_eq_some, Option.some.injEq, Prod.mk.injEq] at h
  obtain ⟨hn, rfl, rfl⟩ := h
  simp [readBytes, hn]

theorem readBytes_none {s : SessionState} {n : ℕ} (h : exactly n s.input = none) :
    ∃ junk, (readBytes n).run s = (.ok (junk, some .eof), s.withInput []) := by
  simp only [exactly, ite_eq_right_iff, reduceCtorEq, imp_false] at h
  exact ⟨_, by simp only [readBytes, if_neg h]; rfl⟩

theorem field_nil : field [] = none := rfl

theorem field_cons (n : UInt8) (tail : Bytes) : field (n :: tail) = exactly n.toNat tail := rfl

theorem readField_run {α : Type} (s : SessionState) (bad : α) (next : Bytes → Handshake α) :
    (do
      let (n, ec) ← readByte
      if Socks.checkError ec then return bad
      let (f, ec) ← readBytes n.toNat
      if Socks.checkError ec then return bad
      next f : Handshake α).run s =
    match field s.input with
    | some (f, rest) => (next f).run (s.withInput rest)
    | none => (.ok bad, s.withInput []) := by
  rcases hi : s.input with _ | ⟨n, tail⟩
  · rw [Proc.bind_ok (readByte_nil hi), field_nil, ← hi]
    simp [Socks.checkError]
  · rw [Proc.bind_ok (readByte_cons hi), field_cons]
    rcases hx : exactly n.toNat tail with _ | ⟨f, rest⟩
    · obtain ⟨junk, hr⟩ := readBytes_none (s := s.withInput tail) hx
      simp [Socks.checkError, Proc.bind_ok hr]
    · have hr := readBytes_some (s := s.withInput tail) hx
      simp [Socks.checkError, Proc.bind_ok hr]

theorem greeting_apply (e : Env) (input : Bytes) : greeting e input =
    (field input).bind fun r =>
      if (getServerMethod e).code ∈ r.1 then some r else none := by
  simp only [greeting, bind_apply, require_apply, pure_apply]
  congr 1
  funext r
  split_ifs <;> rfl

theorem checkMethod_run (e : Env) (s : SessionState) : (checkMethod e).run s =
    match field s.input with
    | some (methods, rest) =>
      (.ok (methods.contains (getServerMethod e).code), s.withInput rest)
    | none => (.ok false, s.withInput []) :=
  readField_run s false fun methods => pure (methods.contains (getServerMethod e).code)

theorem readMethodRequest_accepts {e : Env} {s : SessionState} {methods rest : Bytes}
    (h : greeting e s.input = some (methods, rest)) :
    (readMethodRequest e).run s = (.ok (e.writeClient s.writes).isNone,
      (s.withInput rest).written e [Ver.socks5.code, (getServerMethod e).code]) := by
  rw [greeting_apply, Option.bind_eq_some_iff] at h
  obtain ⟨⟨ms, tail⟩, hf, hm⟩ := h
  simp only [Option.ite_none_right_eq_some, Option.some.injEq, Prod.mk.injEq] at hm
  obtain ⟨hmem, rfl, rfl⟩ := hm
  have hc : (checkMethod e).run s = (.ok true, s.withInput tail) := by
    rw [checkMethod_run, hf]
    simpa using hmem
  rw [readMethodRequest, Proc.bind_ok hc]
  simp only [Bool.not_true, Bool.false_eq_true, ↓reduceIte, sendMethodResponse, Proc.run_bind,
    writeBytes, Proc.run_pure, SessionState.withInput_writes]
  cases e.writeClient s.writes <;> rfl

theorem readMethodRequest_refuses {e : Env} {s : SessionState} (h : greeting e s.input = none) :
    ∃ rest, (readMethodRequest e).run s = (.ok false,
      (s.withInput rest).written e [Ver.socks5.code, Method.noAccMethods.code]) := by
  have hc : ∃ rest, (checkMethod e).run s = (.ok false, s.withInput rest) := by
    rw [checkMethod_run]
    rw [greeting_apply] at h
    rcases hf : field s.input with _ | ⟨ms, tail⟩
    · exact ⟨[], rfl⟩
    · refine ⟨tail, ?_⟩
      have hm : (getServerMethod e).code ∉ ms := by simpa [hf] using h
      simpa using hm
  obtain ⟨rest, hc⟩ := hc
  refine ⟨rest, ?_⟩
  rw [readMethodRequest, Proc.bind_ok hc]
  simp [sendMethodResponse, Proc.run_bind, writeBytes]

theorem credentials_apply (input : Bytes) : credentials input =
    match input with
    | [] => none
    | ver :: tail =>
      if ver = authVer then
        (field tail).bind fun u => if u.1 = [] then none else
          (field u.2).map fun p => (⟨u.1, p.1⟩, p.2)
      else none := by
  rcases input with _ | ⟨ver, tail⟩
  · rfl
  · simp only [credentials, bind_apply, symbol_cons, require_apply, pure_apply, Option.bind_some]
    split_ifs with hv
    · simp only [Option.bind_some]
      congr 1
      funext u
      split_ifs <;> simp_all [Option.map_eq_bind]
    · rfl

def statusMessage (e : Env) (c : Credentials) : Bytes :=
  [authVer, (if Socks.hasUser e c.uname c.passwd then AuthStatus.success else AuthStatus.deny).code]

def answerCredentials (e : Env) (uname passwd : Bytes) : Handshake Bool := do
  Proc.modify fun s => s.withSocks { s.socks with username := AddressText.to_string uname }
  let success := Socks.hasUser e (AddressText.to_string uname) (AddressText.to_string passwd)
  let status := if success then AuthStatus.success else AuthStatus.deny
  let ec ← writeBytes e [authVer, status.code]
  if Socks.checkError ec then return false
  return success

def authPasswd (e : Env) (uname : Bytes) : Handshake Bool := do
  let (plen, ec) ← readByte
  if Socks.checkError ec then return false
  let (passwd, ec) ← readBytes plen.toNat
  if Socks.checkError ec then return false
  answerCredentials e uname passwd

theorem answerCredentials_run (e : Env) (uname passwd : Bytes) (s : SessionState) :
    (answerCredentials e uname passwd).run s =
      (.ok ((e.writeClient s.writes).isNone && Socks.hasUser e uname passwd),
        (s.withSocks { s.socks with username := uname }).written e
          (statusMessage e ⟨uname, passwd⟩)) := by
  simp only [answerCredentials, AddressText.to_string_eq, Proc.run_bind, Proc.run_modify, writeBytes,
    Proc.run_ite, Proc.run_pure, SessionState.withSocks_writes]
  cases e.writeClient s.writes <;> simp [Socks.checkError, statusMessage]

theorem authPasswd_run (e : Env) (uname : Bytes) (s : SessionState) : (authPasswd e uname).run s =
    match field s.input with
    | some (passwd, rest) =>
      (.ok ((e.writeClient s.writes).isNone && Socks.hasUser e uname passwd),
        ((s.withInput rest).withSocks { s.socks with username := uname }).written e
          (statusMessage e ⟨uname, passwd⟩))
    | none => (.ok false, s.withInput []) := by
  rw [show (authPasswd e uname).run s = _ from readField_run s false (answerCredentials e uname)]
  rcases field s.input with _ | ⟨passwd, rest⟩
  · rfl
  · exact answerCredentials_run e uname passwd (s.withInput rest)

theorem auth_name {e : Env} {s : SessionState} {n : UInt8} {tail uname rest : Bytes}
    (hi : s.input = authVer :: n :: tail) (hn : n ≠ 0)
    (hx : exactly n.toNat tail = some (uname, rest)) :
    (auth e).run s = (authPasswd e uname).run (s.withInput rest) := by
  have hr := readBytes_some (s := s.withInput tail) hx
  rw [auth, Proc.bind_ok (readByte_cons hi)]
  simp only [Socks.checkError, Option.isSome_none, bne_self_eq_false, Bool.or_self,
    Bool.false_eq_true, ↓reduceIte]
  rw [Proc.bind_ok (readByte_cons (s := s.withInput (n :: tail)) rfl)]
  simp only [Option.isSome_none, Bool.false_or, beq_iff_eq, hn, ↓reduceIte,
    SessionState.withInput_withInput]
  rw [Proc.bind_ok hr]
  rfl

theorem auth_nameless {e : Env} {s : SessionState}
    (h : ∀ n tail, s.input = authVer :: n :: tail → n = 0 ∨ exactly n.toNat tail = none) :
    ∃ rest, (auth e).run s = (.ok false, s.withInput rest) := by
  rcases hi : s.input with _ | ⟨ver, _ | ⟨n, tail⟩⟩
  · exact ⟨s.input, by rw [auth, Proc.bind_ok (readByte_nil hi)]; simp [Socks.checkError]⟩
  · refine ⟨[], ?_⟩
    rw [auth, Proc.bind_ok (readByte_cons hi)]
    by_cases hv : ver = authVer
    · simp [Socks.checkError, hv, Proc.bind_ok (readByte_nil (s := s.withInput []) rfl)]
    · simp [Socks.checkError, hv]
  · rw [auth, Proc.bind_ok (readByte_cons hi)]
    by_cases hv : ver = authVer
    · rw [hv] at hi
      simp only [Socks.checkError, hv, Option.isSome_none, bne_self_eq_false, Bool.or_self,
        Bool.false_eq_true, ↓reduceIte]
      rw [Proc.bind_ok (readByte_cons (s := s.withInput (n :: tail)) rfl)]
      rcases h n tail hi with hn | hx
      · exact ⟨tail, by simp [hn]⟩
      · obtain ⟨junk, hr⟩ := readBytes_none (s := s.withInput tail) hx
        by_cases hn : n = 0
        · exact ⟨tail, by simp [hn]⟩
        · exact ⟨[], by simp [hn, Proc.bind_ok hr]⟩
    · exact ⟨n :: tail, by simp [Socks.checkError, hv]⟩

theorem exactly_ne_nil {n : UInt8} {tail f rest : Bytes} (hn : n ≠ 0)
    (hx : exactly n.toNat tail = some (f, rest)) : f ≠ [] := by
  obtain ⟨_, ⟨rfl, hf⟩, _⟩ := (exact_exactly n.toNat tail f rest).mp hx
  rintro rfl
  exact hn (UInt8.toNat_inj.mp hf.symm)

theorem credentials_name {n : UInt8} {tail uname rest : Bytes} (hn : n ≠ 0)
    (hx : exactly n.toNat tail = some (uname, rest)) :
    credentials (authVer :: n :: tail) = (field rest).map fun p => (⟨uname, p.1⟩, p.2) := by
  rw [credentials_apply]
  simp [field_cons, hx, exactly_ne_nil hn hx]

theorem auth_drops {e : Env} {s : SessionState} (h : credentials s.input = none) :
    ∃ rest, (auth e).run s = (.ok false, s.withInput rest) := by
  by_cases hname : ∃ n tail uname rest, s.input = authVer :: n :: tail ∧ n ≠ 0 ∧
      exactly n.toNat tail = some (uname, rest)
  · obtain ⟨n, tail, uname, rest, hi, hn, hx⟩ := hname
    rw [hi, credentials_name hn hx, Option.map_eq_none_iff] at h
    refine ⟨[], ?_⟩
    rw [auth_name hi hn hx, authPasswd_run, SessionState.withInput_input, h,
      SessionState.withInput_withInput]
  · apply auth_nameless
    intro n tail hi
    by_contra hc
    push Not at hc
    obtain ⟨⟨uname, rest⟩, hx⟩ := Option.ne_none_iff_exists'.mp hc.2
    exact hname ⟨n, tail, uname, rest, hi, hc.1, hx⟩

theorem auth_answers {e : Env} {s : SessionState} {c : Credentials} {rest : Bytes}
    (h : credentials s.input = some (c, rest)) :
    (auth e).run s = (.ok ((e.writeClient s.writes).isNone && Socks.hasUser e c.uname c.passwd),
      ((s.withInput rest).withSocks { s.socks with username := c.uname }).written e
        (statusMessage e c)) := by
  obtain ⟨_, ⟨hne, _, p, ⟨n, hn, rfl⟩, hp, rfl⟩, hi⟩ := (exact_credentials _ _ _).mp h
  have hx : exactly n.toNat (c.uname ++ (p ++ rest)) = some (c.uname, p ++ rest) :=
    (exact_exactly _ _ _ _).mpr ⟨_, ⟨rfl, hn.symm⟩, rfl⟩
  have hf : field (p ++ rest) = some (c.passwd, rest) := (exact_field _ _ _).mpr ⟨p, hp, rfl⟩
  have hn0 : n ≠ 0 := by
    rintro rfl
    exact hne (List.length_eq_zero_iff.mp hn.symm)
  rw [auth_name (by simpa using hi) hn0 hx, authPasswd_run, SessionState.withInput_input, hf]
  rfl

end SocksProxy.SocksFiveRuns
