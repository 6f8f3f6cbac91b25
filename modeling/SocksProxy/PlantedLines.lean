import SocksProxy.ConfigDump
import SocksProxy.StartedServer
import SocksProxy.WrittenLogs

namespace SocksProxy

namespace Socks5

open AddressText ByteStrings StatefulPrograms

def wrongCredentials (username passString : Bytes) : LogLine :=
  ⟨.error, ascii "Wrong credentials: " ++ username ++ ascii ":" ++ passString⟩

def authLogged (e : Env) : Handshake (Bool × List LogLine) := do
  let (ver, ec) ← TcpSession.readByte
  if Socks.checkError ec || ver != authVer then return (false, [])
  let (ulen, ec) ← TcpSession.readByte
  if Socks.checkError ec || ulen == 0 then return (false, [])
  let (uname, ec) ← TcpSession.readBytes ulen.toNat
  if Socks.checkError ec then return (false, [])
  let (plen, ec) ← TcpSession.readByte
  if Socks.checkError ec then return (false, [])
  let (passwd, ec) ← TcpSession.readBytes plen.toNat
  if Socks.checkError ec then return (false, [])
  Proc.modify fun s => s.withSocks { s.socks with username := to_string uname }
  let success := Socks.hasUser e (to_string uname) (to_string passwd)
  let lines := if success then [] else [wrongCredentials (to_string uname) (to_string passwd)]
  let status := if success then AuthStatus.success else AuthStatus.deny
  let ec ← TcpSession.writeBytes e [authVer, status.code]
  if Socks.checkError ec then return (false, lines)
  return (success, lines)

end Socks5

namespace PlantedLines

open ByteStrings ConfigReader ConfigLines FieldParsing HandshakeGrammar Logger LogLines LoggerRuns WrittenLogs
open SocksFiveRuns StatefulPrograms AuthenticationGate OutwardActions TextLines TransitionSystems WorkerQueues

theorem authLogged_fst (e : Env) :
    (Socks5.authLogged e >>= fun r => pure r.1) = Socks5.auth e := by
  rw [Socks5.authLogged, Socks5.auth]
  rw [Proc.bind_assoc]
  congr 1; funext r
  obtain ⟨ver, ec⟩ := r
  dsimp only
  split_ifs
  · rfl
  rw [Proc.bind_assoc]
  congr 1; funext r
  obtain ⟨ulen, ec⟩ := r
  split_ifs
  · rfl
  rw [Proc.bind_assoc]
  congr 1; funext r
  obtain ⟨uname, ec⟩ := r
  split_ifs
  · rfl
  rw [Proc.bind_assoc]
  congr 1; funext r
  obtain ⟨plen, ec⟩ := r
  split_ifs
  · rfl
  rw [Proc.bind_assoc]
  congr 1; funext r
  obtain ⟨passwd, ec⟩ := r
  split_ifs
  · rfl
  all_goals
    rw [Proc.bind_assoc]
    congr 1; funext _
    rw [Proc.bind_assoc]
    congr 1; funext ec
    split_ifs <;> rfl

theorem authLogged_refused {e : Env} {s : SessionState} {c : Credentials} {rest : Bytes}
    (h : credentials s.input = some (c, rest)) (hno : Socks.hasUser e c.uname c.passwd = false) :
    ∃ t, (Socks5.authLogged e).run s = (.ok (false, [Socks5.wrongCredentials c.uname c.passwd]), t) := by
  obtain ⟨_, ⟨hne, _, _, ⟨n, hn, rfl⟩, ⟨m, hm, rfl⟩, rfl⟩, hi⟩ := (exact_credentials _ _ _).mp h
  have hn0 : n ≠ 0 := by
    rintro rfl
    exact hne (List.length_eq_zero_iff.mp hn.symm)
  have huname : exactly n.toNat (c.uname ++ (m :: (c.passwd ++ rest))) = some (c.uname, m :: (c.passwd ++ rest)) :=
    (exact_exactly _ _ _ _).mpr ⟨_, ⟨rfl, hn.symm⟩, rfl⟩
  have hpasswd : exactly m.toNat (c.passwd ++ rest) = some (c.passwd, rest) :=
    (exact_exactly _ _ _ _).mpr ⟨_, ⟨rfl, hm.symm⟩, rfl⟩
  have hinput : s.input = Socks5.authVer :: n :: (c.uname ++ (m :: (c.passwd ++ rest))) := by
    rw [hi]
    simp
  have hname := readByte_cons (s := s.withInput (n :: (c.uname ++ (m :: (c.passwd ++ rest))))) rfl
  have huser := readBytes_some (s := s.withInput (c.uname ++ (m :: (c.passwd ++ rest)))) huname
  have hlength := readByte_cons (s := s.withInput (m :: (c.passwd ++ rest))) rfl
  have hpass := readBytes_some (s := s.withInput (c.passwd ++ rest)) hpasswd
  rw [Socks5.authLogged, Proc.bind_ok (readByte_cons hinput)]
  simp only [Socks.checkError, Option.isSome_none, bne_self_eq_false, Bool.or_self, Bool.false_eq_true, ↓reduceIte]
  rw [Proc.bind_ok hname]
  simp only [Option.isSome_none, Bool.false_or, beq_iff_eq, hn0, ↓reduceIte,
    SessionState.withInput_withInput]
  rw [Proc.bind_ok huser]
  simp only [Option.isSome_none, Bool.false_eq_true, ↓reduceIte, SessionState.withInput_withInput]
  rw [Proc.bind_ok hlength]
  simp only [Option.isSome_none, Bool.false_eq_true, ↓reduceIte, SessionState.withInput_withInput]
  rw [Proc.bind_ok hpass]
  simp only [Option.isSome_none, Bool.false_eq_true, ↓reduceIte, SessionState.withInput_withInput,
    AddressText.to_string_eq, hno, Proc.run_bind, Proc.run_modify, TcpSession.writeBytes, Proc.run_ite, Proc.run_pure]
  split_ifs <;> exact ⟨_, rfl⟩

theorem password_newline {file : Option Bytes} {u w : Bytes} (h : (parseFile file {}).2.users.lookup u = some w) :
    10 ∉ w := by
  cases file with
  | none => simp [parseFile] at h
  | some content =>
    rw [parseFile_eq, foldl_record] at h
    rcases mem_of_lookup_lastWins h with hempty | hmem
    · simp at hempty
    obtain ⟨e, he, hacc⟩ := List.mem_filterMap.mp hmem
    cases e with
    | setting => cases hacc
    | account v q =>
      obtain ⟨rfl, rfl⟩ := Prod.mk.inj (Option.some.inj hacc)
      obtain ⟨i, line1, line2, hpair⟩ := PhantomAccounts.pairAt_of_account he
      have hline := ConfigDump.not_mem_lines content line2 (List.mem_of_getElem? hpair.second)
      rw [(PhantomAccounts.password_taken hpair.password).2.2, ReducedText.tagValue_eq]
      intro hw
      rcases ConfigDump.mem_reduce hw with h32 | hw
      · simp at h32
      · exact hline (PhantomAccounts.mem_of_mem_configData (List.mem_of_mem_drop hw))

def payload (now : CTime) (target : LogLine) : Bytes := 10 :: (now.chars ++ mark target.level ++ target.data)

def loginCode (now : CTime) (target : LogLine) : Bytes :=
  Socks5.authVer :: ([1, 97] ++ UInt8.ofNat (payload now target).length :: payload now target)

theorem payload_length (now : CTime) {target : LogLine} (hlevel : target.level ∈ shownLevels) :
    (payload now target).length = target.data.length + 36 := by
  have hmark := (mark_plain hlevel).1
  rw [payload, List.length_cons, List.length_append, List.length_append, now.length, hmark]
  omega

theorem complaint_newline (c : Config) : ∀ line ∈ complaint (levelSetting c), 10 ∉ line.data := by
  unfold levelSetting Logger.setting
  split
  · split
    · simp [complaint]
    · simp [complaint, ascii]
  · simp [complaint, ascii]

theorem presented_unique {e : Env} {input u w u' w' : Bytes} (h : Presented e input u w)
    (h' : Presented e input u' w') : u = u' ∧ w = w' := by
  obtain ⟨methods, g, c, rest, hg, hc, rfl⟩ := h
  obtain ⟨methods', g', c', rest', hg', hc', hinput⟩ := h'
  obtain ⟨-, hinput⟩ := List.cons.inj hinput
  have hgreeting := (exact_greeting e (g ++ (c ++ rest)) methods (c ++ rest)).mpr ⟨g, hg, rfl⟩
  rw [(exact_greeting e _ _ _).mpr ⟨g', hg', hinput⟩, Option.some.injEq, Prod.mk.injEq] at hgreeting
  have hlogin := (exact_credentials (c ++ rest) ⟨u, w⟩ rest).mpr ⟨c, hc, rfl⟩
  rw [(exact_credentials _ _ _).mpr ⟨c', hc', hgreeting.2.symm⟩, Option.some.injEq, Prod.mk.injEq] at hlogin
  have hboth := Credentials.mk.inj hlogin.1
  exact ⟨hboth.1.symm, hboth.2.symm⟩

/-- A client that knows no account can bring any line it likes into the log: it is refused, but its
password carries the line, with any time and any level. -/
theorem line_planted {file : Option Bytes} {e : Env} (hauth : e.authFlag = true)
    (husers : e.users = (parseFile file {}).2.users) (now : CTime) {target : LogLine}
    (hlevel : target.level ∈ shownLevels) (hdata : 10 ∉ target.data) (hshort : target.data.length ≤ 219) :
    ∃ greeting login refusal, GreetingCode e [2] greeting ∧
      ¬Relays (started e (Ver.socks5.code :: (greeting ++ login))) ∧
      records (started e (Ver.socks5.code :: (greeting ++ login))).trace = [] ∧
      (∀ s, s.input = login → ∃ t, (Socks5.authLogged e).run s = (.ok (false, [refusal]), t)) ∧
      ∀ opened (es : List LoggerEvent) t, (protocol (parseFile file {}).2).machine.run (start opened) es = some t →
        t.state.stage = .ready ∨ t.state.stage = .joined → refusal ∈ (protocol (parseFile file {}).2).taken es →
        ∀ sink, receives opened (typeOf (parseFile file {}).2) sink = true →
          passes (levelOf (parseFile file {}).2) refusal = true →
          now.chars ++ mark target.level ++ target.data ∈ lines 10 (text t.state sink) ∧
            some target ∈ readLog (text t.state sink) := by
  have hlength := payload_length now hlevel
  have hgreeting : GreetingCode e [2] [1, 2] := by
    refine ⟨⟨1, rfl, rfl⟩, ?_⟩
    rw [Socks5.getServerMethod, if_pos hauth]
    exact List.mem_singleton.mpr rfl
  have hcode : CredentialsCode ⟨[97], payload now target⟩ (loginCode now target) := by
    refine ⟨by simp, [1, 97], _, ⟨1, rfl, rfl⟩, ⟨UInt8.ofNat (payload now target).length, ?_, rfl⟩, rfl⟩
    have hsmall : (payload now target).length < 2 ^ 8 := by omega
    rw [UInt8.toNat_ofNat']
    exact Nat.mod_eq_of_lt hsmall
  have hpresented : Presented e (Ver.socks5.code :: ([1, 2] ++ loginCode now target)) [97] (payload now target) :=
    ⟨[2], [1, 2], loginCode now target, [], hgreeting, hcode, by rw [List.append_nil]⟩
  -- nobody gets through or is recorded but with the password of an account
  have hnobody : ∀ u w, Presented e (Ver.socks5.code :: ([1, 2] ++ loginCode now target)) u w →
      e.users.lookup u ≠ some w := by
    intro u w h hlookup
    obtain ⟨-, rfl⟩ := presented_unique h hpresented
    rw [husers] at hlookup
    exact password_newline hlookup List.mem_cons_self
  obtain ⟨hrelays, hrecords⟩ := StartedServer.socks5_gate hauth ([1, 2] ++ loginCode now target)
  refine ⟨[1, 2], loginCode now target, Socks5.wrongCredentials [97] (payload now target), hgreeting, ?_, ?_, ?_, ?_⟩
  · intro h
    obtain ⟨u, w, h, hlookup⟩ := hrelays h
    exact hnobody u w h hlookup
  · apply List.eq_nil_iff_forall_not_mem.mpr
    intro r hr
    obtain ⟨w, h, hlookup⟩ := hrecords r hr
    exact hnobody r.user w h hlookup
  · intro s hs
    have hread : credentials s.input = some (⟨[97], payload now target⟩, []) :=
      (exact_credentials _ _ _).mpr ⟨loginCode now target, hcode, by rw [hs, List.append_nil]⟩
    apply authLogged_refused hread
    rw [Socks.hasUser, husers, beq_eq_false_iff_ne]
    intro hlookup
    exact password_newline hlookup List.mem_cons_self
  · intro opened es t hrun hbuilt htaken sink hsink hpass
    obtain ⟨-, -, hbooks⟩ := books hrun
    obtain ⟨first, -, hwritten⟩ := hbooks.written
    have hbroken : 10 ∈ (Socks5.wrongCredentials [97] (payload now target)).data := by
      simp [Socks5.wrongCredentials, payload]
    have hshown := mem_entries hbooks.settled hbuilt htaken
      (fun hmem => complaint_newline _ _ hmem hbroken) hsink hpass first
    have hline : now.chars ++ mark target.level ++ target.data ∈ lines 10 (text t.state sink) := by
      apply (hwritten sink).planted hshown (x := ascii "Wrong credentials: " ++ [97] ++ ascii ":")
      · rfl
      · exact mt (newline_row hlevel).mp hdata
    refine ⟨hline, ?_⟩
    rw [readLog, ← @readLine_row now _ hlevel]
    exact List.mem_map_of_mem hline

def stoppedLine : LogLine := ⟨.info, ascii "Stopped server."⟩

theorem line_planted_stopped : ∃ greeting login refusal, GreetingCode (Env.permissive true []) [2] greeting ∧
    ¬Relays (started (Env.permissive true []) (Ver.socks5.code :: (greeting ++ login))) ∧
    records (started (Env.permissive true []) (Ver.socks5.code :: (greeting ++ login))).trace = [] ∧
    (∀ s, s.input = login → ∃ t, (Socks5.authLogged (Env.permissive true [])).run s = (.ok (false, [refusal]), t)) ∧
    ∀ opened (es : List LoggerEvent) t, (protocol (parseFile none {}).2).machine.run (start opened) es = some t →
      t.state.stage = .ready ∨ t.state.stage = .joined → refusal ∈ (protocol (parseFile none {}).2).taken es →
      ∀ sink, receives opened (typeOf (parseFile none {}).2) sink = true →
        passes (levelOf (parseFile none {}).2) refusal = true →
        blankTime.chars ++ mark stoppedLine.level ++ stoppedLine.data ∈ lines 10 (text t.state sink) ∧
          some stoppedLine ∈ readLog (text t.state sink) :=
  line_planted rfl rfl blankTime (by decide) (by decide) (by decide)

end PlantedLines

end SocksProxy
