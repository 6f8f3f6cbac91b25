import SocksProxy.SocksFiveRuns

namespace SocksProxy.SocksFiveRuns

open StatefulPrograms FieldParsing HandshakeGrammar TcpSession Socks5

def Supported (atyp : UInt8) : Prop :=
  atyp = Atyp.ipv4.code ∨ atyp = Atyp.domainName.code ∨ atyp = Atyp.ipv6.code

theorem readIPV4_run (s : SessionState) : Socks.readIPV4.run s =
    match exactly 4 s.input with
    | some (raw, rest) => (.ok (AddressText.formIpAddressString raw), s.withInput rest)
    | none => (.ok [], s.withInput []) := by
  rcases hx : exactly 4 s.input with _ | ⟨raw, rest⟩
  · obtain ⟨junk, hr⟩ := readBytes_none hx
    rw [Socks.readIPV4, Proc.bind_ok hr]
    rfl
  · rw [Socks.readIPV4, Proc.bind_ok (readBytes_some hx)]
    rfl

theorem readPort_some {s : SessionState} {high low : UInt8} {rest : Bytes}
    (h : s.input = high :: low :: rest) :
    Socks.readPort.run s = (.ok true, (s.withInput rest).withSocks
      { s.socks with dstPort := (high.toUInt16 <<< 8) ||| low.toUInt16 }) := by
  rw [Socks.readPort, Proc.bind_ok (readByte_cons h), Proc.bind_ok (Proc.run_modify _ _)]
  simp only [Socks.checkError, Option.isSome_none, Bool.false_eq_true, ↓reduceIte]
  rw [Proc.bind_ok (readByte_cons (show _ = low :: rest by rfl)), Proc.bind_ok (Proc.run_modify _ _)]
  rfl

theorem readPort_none {s : SessionState} (h : s.input.length < 2) :
    ∃ x, Socks.readPort.run s = (.ok false, (s.withInput []).withSocks x) := by
  rcases hi : s.input with _ | ⟨high, _ | ⟨low, rest⟩⟩
  · rw [Socks.readPort, Proc.bind_ok (readByte_nil hi), Proc.bind_ok (Proc.run_modify _ _), ← hi]
    exact ⟨_, rfl⟩
  · rw [Socks.readPort, Proc.bind_ok (readByte_cons hi), Proc.bind_ok (Proc.run_modify _ _)]
    simp only [Socks.checkError, Option.isSome_none, Bool.false_eq_true, ↓reduceIte]
    rw [Proc.bind_ok (readByte_nil (by rfl)), Proc.bind_ok (Proc.run_modify _ _)]
    exact ⟨_, rfl⟩
  · simp only [hi, List.length_cons] at h
    omega

theorem readAddress_some {e : Env} {s : SessionState} {atyp : UInt8} {raw rest : Bytes}
    (h : address atyp s.input = some (raw, rest)) :
    (readAddress e atyp).run s = (.ok (addressText atyp raw), s.withInput rest) := by
  unfold address at h
  split_ifs at h with h4 h3 h16
  · have hn : atyp ≠ Atyp.domainName.code := by rw [h4]; decide
    rw [readAddress, if_pos h4, readIPV4_run, h]
    simp [addressText, hn]
  · have hf : field s.input = some (raw, rest) := by
      simp only [bind_apply, require_apply, pure_apply, Option.bind_eq_some_iff] at h
      obtain ⟨r, hr, u, hu, ht⟩ := h
      split_ifs at hu
      cases hu
      cases ht
      exact hr
    rw [readAddress, if_neg h4, if_pos h3]
    refine (readField_run s [] fun name => pure (AddressText.to_string name)).trans ?_
    rw [hf]
    simp [addressText, h3]
  · rw [readAddress, if_neg h4, if_neg h3, if_pos h16, Proc.bind_ok (readBytes_some h)]
    simp [Socks.checkError, addressText, h3]

theorem readAddress_none {e : Env} {s : SessionState} {atyp : UInt8} (hs : Supported atyp)
    (h : address atyp s.input = none) :
    ∃ rest, (readAddress e atyp).run s = (.ok [], s.withInput rest) := by
  unfold address at h
  split_ifs at h with h4 h3 h16
  · exact ⟨[], by rw [readAddress, if_pos h4, readIPV4_run, h]⟩
  · rw [readAddress, if_neg h4, if_pos h3]
    have hr := readField_run s [] fun name => pure (AddressText.to_string name)
    rcases hf : field s.input with _ | ⟨name, rest⟩
    · rw [hf] at hr
      exact ⟨[], hr⟩
    · have hn : name = [] := by
        simp only [bind_apply, hf, Option.bind_some, require_apply] at h
        by_contra hne
        simp [hne] at h
      rw [hf] at hr
      exact ⟨rest, hr.trans (by simp [hn])⟩
  · obtain ⟨junk, hr⟩ := readBytes_none h
    refine ⟨[], ?_⟩
    rw [readAddress, if_neg h4, if_neg h3, if_pos h16, Proc.bind_ok hr]
    rfl
  · rcases hs with hs | hs | hs
    · exact absurd hs h4
    · exact absurd hs h3
    · exact absurd hs h16

theorem readAddress_unsupported {e : Env} {s : SessionState} {atyp : UInt8} (hs : ¬Supported atyp) :
    (readAddress e atyp).run s = (.ok [], s.written e (errorResponse .addrTypeNotSupp)) := by
  simp only [Supported, not_or] at hs
  rw [readAddress, if_neg hs.1, if_neg hs.2.1, if_neg hs.2.2]
  rfl

def typed (s : SessionState) (cmd atyp : UInt8) (rest : Bytes) : SessionState :=
  (s.withInput rest).withSocks { s.socks with cmd := cmd, atyp := atyp }

def readDestination (e : Env) (atyp : UInt8) : Handshake Bool := do
  let address ← readAddress e atyp
  Proc.modify fun s => s.withSocks { s.socks with dstAddress := address }
  if address.length = 0 then return false
  Socks.readPort

theorem readCommandRequest_typed {e : Env} {s : SessionState} {cmd rsv atyp : UInt8} {rest : Bytes}
    (h : s.input = Ver.socks5.code :: cmd :: rsv :: atyp :: rest) :
    (readCommandRequest e).run s = (readDestination e atyp).run (typed s cmd atyp rest) := by
  have hv : (Socks.checkVersion .socks5).run s =
      (.ok true, s.withInput (cmd :: rsv :: atyp :: rest)) := by
    rw [Socks.checkVersion, Proc.bind_ok (readByte_cons h)]
    rfl
  rw [readCommandRequest, Proc.bind_ok hv]
  simp only [Bool.not_true, Bool.false_eq_true, ↓reduceIte]
  rw [Proc.bind_ok (readByte_cons (by rfl)), Proc.bind_ok (Proc.run_modify _ _)]
  simp only [Socks.checkError, Option.isSome_none, Bool.false_eq_true, ↓reduceIte]
  rw [Proc.bind_ok (readByte_cons (by rfl))]
  simp only [Option.isSome_none, Bool.false_eq_true, ↓reduceIte]
  rw [Proc.bind_ok (readByte_cons (by rfl)), Proc.bind_ok (Proc.run_modify _ _)]
  rfl

def requested (s : SessionState) (r : Request) (rest : Bytes) : SessionState :=
  (s.withInput rest).withSocks
    { s.socks with cmd := r.cmd, atyp := r.atyp, dstAddress := r.text, dstPort := r.port }

theorem readCommandRequest_parses {e : Env} {s : SessionState} {r : Request} {rest : Bytes}
    (h : request s.input = some (r, rest)) :
    (readCommandRequest e).run s = (.ok true, requested s r rest) := by
  obtain ⟨_, ⟨a, ha, rfl⟩, hi⟩ := (exact_request _ _ _).mp h
  have hx : address r.atyp (a ++ r.high :: r.low :: rest) = some (r.raw, r.high :: r.low :: rest) :=
    (exact_address _ _ _ _).mpr ⟨a, ha, rfl⟩
  have hne : (addressText r.atyp r.raw).length ≠ 0 := by
    simpa using addressText_ne_nil ha
  have htyped : s.input = Ver.socks5.code :: r.cmd :: r.rsv :: r.atyp ::
      (a ++ r.high :: r.low :: rest) := by simpa using hi
  rw [readCommandRequest_typed htyped,
    readDestination, Proc.bind_ok (readAddress_some (by exact hx)), Proc.bind_ok (Proc.run_modify _ _),
    if_neg hne, readPort_some (by rfl)]
  rfl

theorem request_typed {cmd rsv atyp : UInt8} {rest : Bytes} :
    request (Ver.socks5.code :: cmd :: rsv :: atyp :: rest) = (address atyp rest).bind fun a =>
      match a.2 with
      | high :: low :: tail => some (⟨cmd, rsv, atyp, a.1, high, low⟩, tail)
      | _ => none := by
  simp only [request, bind_apply, symbol_cons, require_apply, pure_apply, ↓reduceIte,
    Option.bind_some]
  congr 1
  funext a
  rcases a with ⟨raw, _ | ⟨high, _ | ⟨low, tail⟩⟩⟩ <;> simp

theorem readDestination_fails {e : Env} {s : SessionState} {cmd rsv atyp : UInt8} {rest : Bytes}
    (hs : Supported atyp)
    (h : request (Ver.socks5.code :: cmd :: rsv :: atyp :: rest) = none) (hi : s.input = rest) :
    ∃ left x, (readDestination e atyp).run s = (.ok false, (s.withInput left).withSocks x) := by
  rw [request_typed, ← hi] at h
  rcases ha : address atyp s.input with _ | ⟨raw, tail⟩
  · obtain ⟨left, hr⟩ := readAddress_none (e := e) hs ha
    refine ⟨left, { s.socks with dstAddress := [] }, ?_⟩
    rw [readDestination, Proc.bind_ok hr, Proc.bind_ok (Proc.run_modify _ _)]
    rfl
  · have hne : (addressText atyp raw).length ≠ 0 := by
      obtain ⟨_, hc, _⟩ := (exact_address _ _ _ _).mp ha
      simpa using addressText_ne_nil hc
    have hl : tail.length < 2 := by
      rcases tail with _ | ⟨high, _ | ⟨low, tail⟩⟩
      · simp
      · simp
      · simp [ha] at h
    rw [readDestination, Proc.bind_ok (readAddress_some ha), Proc.bind_ok (Proc.run_modify _ _),
      if_neg hne]
    obtain ⟨x, hp⟩ := readPort_none (s := (s.withInput tail).withSocks
      { s.socks with dstAddress := addressText atyp raw }) hl
    exact ⟨[], x, hp⟩

inductive Unparsed (e : Env) (s : SessionState) : SessionState → Prop
  | badVersion (left : Bytes) (h : s.input.head? ≠ some Ver.socks5.code) :
    Unparsed e s ((s.withInput left).written e (errorResponse .serverFailure))
  | badType (cmd rsv atyp : UInt8) (left : Bytes) (x : Socks)
    (h : s.input = Ver.socks5.code :: cmd :: rsv :: atyp :: left) (hs : ¬Supported atyp) :
    Unparsed e s (((s.withInput left).written e (errorResponse .addrTypeNotSupp)).withSocks x)
  | dropped (left : Bytes) (x : Socks) (h : s.input.head? = some Ver.socks5.code)
    (hs : ∀ cmd rsv atyp rest, s.input = Ver.socks5.code :: cmd :: rsv :: atyp :: rest →
      Supported atyp) :
    Unparsed e s ((s.withInput left).withSocks x)

theorem readCommandRequest_unversioned {e : Env} {s : SessionState}
    (h : s.input.head? ≠ some Ver.socks5.code) :
    ∃ left, (readCommandRequest e).run s =
      (.ok false, (s.withInput left).written e (errorResponse .serverFailure)) := by
  have hv : ∃ left, (Socks.checkVersion .socks5).run s = (.ok false, s.withInput left) := by
    rcases hi : s.input with _ | ⟨b, rest⟩
    · exact ⟨s.input, by rw [Socks.checkVersion, Proc.bind_ok (readByte_nil hi)]; rfl⟩
    · refine ⟨rest, ?_⟩
      have hb : b ≠ Ver.socks5.code := by simpa [hi] using h
      rw [Socks.checkVersion, Proc.bind_ok (readByte_cons hi)]
      simp [Socks.checkError, hb]
  obtain ⟨left, hv⟩ := hv
  exact ⟨left, by rw [readCommandRequest, Proc.bind_ok hv]; rfl⟩

theorem readCommandRequest_short {e : Env} {s : SessionState} {tail : Bytes}
    (h : s.input = Ver.socks5.code :: tail) (hl : tail.length < 3) :
    ∃ left x, (readCommandRequest e).run s = (.ok false, (s.withInput left).withSocks x) := by
  have hv : (Socks.checkVersion .socks5).run s = (.ok true, s.withInput tail) := by
    rw [Socks.checkVersion, Proc.bind_ok (readByte_cons h)]
    rfl
  rw [readCommandRequest, Proc.bind_ok hv]
  simp only [Bool.not_true, Bool.false_eq_true, ↓reduceIte]
  rcases tail with _ | ⟨cmd, _ | ⟨rsv, _ | ⟨atyp, rest⟩⟩⟩
  · rw [Proc.bind_ok (readByte_nil (by rfl)), Proc.bind_ok (Proc.run_modify _ _)]
    exact ⟨[], _, rfl⟩
  · rw [Proc.bind_ok (readByte_cons (by rfl)), Proc.bind_ok (Proc.run_modify _ _)]
    simp only [Socks.checkError, Option.isSome_none, Bool.false_eq_true, ↓reduceIte]
    rw [Proc.bind_ok (readByte_nil (by rfl))]
    exact ⟨[], _, rfl⟩
  · rw [Proc.bind_ok (readByte_cons (by rfl)), Proc.bind_ok (Proc.run_modify _ _)]
    simp only [Socks.checkError, Option.isSome_none, Bool.false_eq_true, ↓reduceIte]
    rw [Proc.bind_ok (readByte_cons (by rfl))]
    simp only [Option.isSome_none, Bool.false_eq_true, ↓reduceIte]
    rw [Proc.bind_ok (readByte_nil (by rfl)), Proc.bind_ok (Proc.run_modify _ _)]
    exact ⟨[], _, rfl⟩
  · simp only [List.length_cons] at hl
    omega

theorem readCommandRequest_fails {e : Env} {s : SessionState} (h : request s.input = none) :
    ∃ t, (readCommandRequest e).run s = (.ok false, t) ∧ Unparsed e s t := by
  by_cases hv : s.input.head? = some Ver.socks5.code
  · obtain ⟨tail, hi⟩ : ∃ tail, s.input = Ver.socks5.code :: tail := by
      rcases hi : s.input with _ | ⟨b, tail⟩
      · simp [hi] at hv
      · exact ⟨tail, by simpa [hi] using hv⟩
    by_cases hl : tail.length < 3
    · obtain ⟨left, x, hr⟩ := readCommandRequest_short (e := e) hi hl
      refine ⟨_, hr, .dropped left x hv ?_⟩
      rintro cmd rsv atyp rest hj
      simp only [hi, List.cons.injEq, true_and] at hj
      simp only [hj, List.length_cons] at hl
      omega
    · obtain ⟨cmd, rsv, atyp, rest, rfl⟩ : ∃ cmd rsv atyp rest, tail = cmd :: rsv :: atyp :: rest := by
        rcases tail with _ | ⟨cmd, _ | ⟨rsv, _ | ⟨atyp, rest⟩⟩⟩
        · simp at hl
        · simp at hl
        · simp at hl
        · exact ⟨cmd, rsv, atyp, rest, rfl⟩
      rw [readCommandRequest_typed hi]
      by_cases hs : Supported atyp
      · rw [hi] at h
        obtain ⟨left, x, hr⟩ := readDestination_fails (e := e) (s := typed s cmd atyp rest) hs h rfl
        refine ⟨_, hr, .dropped left x hv ?_⟩
        rintro cmd' rsv' atyp' rest' hj
        simp only [hi, List.cons.injEq, true_and] at hj
        exact hj.2.2.1 ▸ hs
      · refine ⟨_, ?_, .badType cmd rsv atyp rest
          { s.socks with cmd := cmd, atyp := atyp, dstAddress := [] } hi hs⟩
        rw [readDestination, Proc.bind_ok (readAddress_unsupported hs)]
        rfl
  · obtain ⟨left, hr⟩ := readCommandRequest_unversioned (e := e) hv
    exact ⟨_, hr, .badVersion left hv⟩

end SocksProxy.SocksFiveRuns
