import SocksProxy.AuthenticationGate
import SocksProxy.BoundedReads

namespace SocksProxy.HandshakeReads

open StatefulPrograms BoundedReads FieldParsing HandshakeGrammar SocksFiveRuns SocksFourRuns OutwardActions
open AuthenticationGate
open TcpSession (query emit readByte readBytes writeBytes)

def bytesRead (e : Env) (input : Bytes) : ℕ := input.length - (started e input).input.length

def userIdField (tail : Bytes) : Bytes := tail.take ((tail.takeWhile (· != 0)).length + 1)

def SentUserId (e : Env) (input f : Bytes) : Prop :=
  Greeted e ∧ ∃ high low raw tail, raw.length = 4 ∧
    input = Ver.socks4.code :: Cmd.connect.code :: high :: low :: (raw ++ tail) ∧ f = userIdField tail

def Bounded (runs : Set (Env × Bytes)) : Prop := ∃ B, ∀ r ∈ runs, bytesRead r.1 r.2 ≤ B

abbrev Reads {α : Type} (n : ℕ) (x : Handshake α) : Prop := Takes SessionState.input n x

theorem reads_readByte : Reads 1 readByte := by
  intro s
  rcases hi : s.input with _ | ⟨b, rest⟩
  · exact ⟨[], by rw [readByte_nil hi, hi]; rfl, by simp⟩
  · exact ⟨[b], by rw [readByte_cons hi]; rfl, by simp⟩

theorem reads_readBytes (n : ℕ) : Reads n (readBytes n) := by
  intro s
  rcases hx : exactly n s.input with _ | ⟨f, rest⟩
  · obtain ⟨junk, hrun⟩ := readBytes_none hx
    have hn : ¬n ≤ s.input.length := by
      intro hn
      rw [exactly, if_pos hn] at hx
      cases hx
    refine ⟨s.input, ?_, by omega⟩
    rw [hrun]
    exact (List.append_nil _).symm
  · obtain ⟨_, ⟨rfl, hlength⟩, hi⟩ := (exact_exactly n _ _ _).mp hx
    exact ⟨_, by rw [readBytes_some hx]; exact hi, by omega⟩

theorem reads_field (n : UInt8) : Reads 255 (readBytes n.toNat) := by
  have hn := n.toNat_lt
  exact (reads_readBytes n.toNat).mono (by omega)

theorem reads_writeBytes (e : Env) (n : ℕ) (m : Bytes) : Reads n (writeBytes e m) := takes_of_kept fun _ => rfl

theorem reads_query (e : Env) (n : ℕ) (q : Query) : Reads n (query e q) := by
  apply takes_of_kept
  intro s
  obtain ⟨t, hrun, hquiet, -⟩ := query_run e q s
  rw [hrun, hquiet.input]

theorem reads_socks (n : ℕ) (f : SessionState → Socks) :
    Reads n (Proc.modify fun s => s.withSocks (f s)) := takes_modify n fun _ => rfl

theorem reads_connect (e : Env) (n : ℕ) (host service : Bytes) : Reads n (TcpSession.connect e host service) := by
  apply takes_of_kept
  intro s
  obtain ⟨acts, hquiet⟩ := connect_quiet (Prod.mk.eta (p := (TcpSession.connect e host service).run s)).symm
  exact hquiet.input

theorem reads_createRecord (e : Env) (n : ℕ) : Reads n (Socks.createRecord e) := by
  apply takes_of_kept
  intro s
  obtain ⟨out, t, hrun, hrec⟩ := createRecord_cases e s
  rw [hrun]
  cases hrec with
  | threw err t hquiet => exact hquiet.input
  | recorded addr port t b id ha hp trace input => exact input

theorem reads_sendErrorResponse (e : Env) (n : ℕ) (rep : Socks5.Rep) :
    Reads n (Socks5.sendErrorResponse e rep) := reads_writeBytes e n _

theorem reads_sendMethodResponse (e : Env) (n : ℕ) (method : Socks5.Method) :
    Reads n (Socks5.sendMethodResponse e method) := by
  apply (reads_writeBytes e 0 _).bind (by omega)
  intro ec
  exact takes_pure _ _

theorem reads_checkMethod (e : Env) : Reads 256 (Socks5.checkMethod e) := by
  apply reads_readByte.bind (by omega)
  rintro ⟨nMethods, ec⟩
  apply takes_ite (takes_pure _ _)
  apply (reads_field nMethods).bind (by omega)
  rintro ⟨methods, ec⟩
  exact takes_ite (takes_pure _ _) (takes_pure _ _)

theorem reads_readMethodRequest (e : Env) : Reads 256 (Socks5.readMethodRequest e) := by
  apply (reads_checkMethod e).bind (by omega)
  intro ok
  apply takes_ite
  · apply (reads_sendMethodResponse e 0 _).bind (by omega)
    intro lost
    exact takes_pure _ _
  · apply (reads_sendMethodResponse e 0 _).bind (by omega)
    intro lost
    exact takes_pure _ _

theorem reads_auth (e : Env) : Reads 513 (Socks5.auth e) := by
  apply reads_readByte.bind (by omega)
  rintro ⟨ver, ec⟩
  apply takes_ite (takes_pure _ _)
  apply reads_readByte.bind (by omega)
  rintro ⟨ulen, ec⟩
  apply takes_ite (takes_pure _ _)
  apply (reads_field ulen).bind (by omega)
  rintro ⟨uname, ec⟩
  apply takes_ite (takes_pure _ _)
  apply reads_readByte.bind (by omega)
  rintro ⟨plen, ec⟩
  apply takes_ite (takes_pure _ _)
  apply (reads_field plen).bind (by omega)
  rintro ⟨passwd, ec⟩
  apply takes_ite (takes_pure _ _)
  apply (reads_socks 0 _).bind (by omega)
  intro _
  apply (reads_writeBytes e 0 _).bind (by omega)
  intro ec
  exact takes_ite (takes_pure _ _) (takes_pure _ _)

theorem reads_checkVersion (v : Ver) : Reads 1 (Socks.checkVersion v) := by
  apply reads_readByte.bind (by omega)
  rintro ⟨b, ec⟩
  apply takes_ite (takes_pure _ _)
  exact takes_ite (takes_pure _ _) (takes_pure _ _)

theorem reads_readIPV4 : Reads 4 Socks.readIPV4 := by
  apply (reads_readBytes 4).bind (by omega)
  rintro ⟨raw, ec⟩
  exact takes_ite (takes_pure _ _) (takes_pure _ _)

theorem reads_readPort : Reads 2 Socks.readPort := by
  apply reads_readByte.bind (by omega)
  rintro ⟨high, ec⟩
  apply (reads_socks 0 _).bind (by omega)
  intro _
  apply takes_ite (takes_pure _ _)
  apply reads_readByte.bind (by omega)
  rintro ⟨low, ec⟩
  apply (reads_socks 0 _).bind (by omega)
  intro _
  exact takes_ite (takes_pure _ _) (takes_pure _ _)

theorem reads_readAddress (e : Env) (atyp : UInt8) : Reads 256 (Socks5.readAddress e atyp) := by
  apply takes_ite
  · exact reads_readIPV4.mono (by omega)
  apply takes_ite
  · apply reads_readByte.bind (by omega)
    rintro ⟨addSize, ec⟩
    apply takes_ite (takes_pure _ _)
    apply (reads_field addSize).bind (by omega)
    rintro ⟨name, ec⟩
    exact takes_ite (takes_pure _ _) (takes_pure _ _)
  apply takes_ite
  · apply (reads_readBytes 16).bind (by omega)
    rintro ⟨raw, ec⟩
    exact takes_ite (takes_pure _ _) (takes_pure _ _)
  · apply (reads_sendErrorResponse e 0 _).bind (by omega)
    intro _
    exact takes_pure _ _

theorem reads_readCommandRequest (e : Env) : Reads 262 (Socks5.readCommandRequest e) := by
  apply (reads_checkVersion _).bind (by omega)
  intro ok
  apply takes_ite
  · apply (reads_sendErrorResponse e 0 _).bind (by omega)
    intro _
    exact takes_pure _ _
  apply reads_readByte.bind (by omega)
  rintro ⟨cmd, ec⟩
  apply (reads_socks 0 _).bind (by omega)
  intro _
  apply takes_ite (takes_pure _ _)
  apply reads_readByte.bind (by omega)
  rintro ⟨rsv, ec⟩
  apply takes_ite (takes_pure _ _)
  apply reads_readByte.bind (by omega)
  rintro ⟨atyp, ec⟩
  apply (reads_socks 0 _).bind (by omega)
  intro _
  apply takes_ite (takes_pure _ _)
  apply (reads_readAddress e atyp).bind (by omega)
  intro address
  apply (reads_socks 0 _).bind (by omega)
  intro _
  exact takes_ite (takes_pure _ _) (reads_readPort.mono (by omega))

theorem reads_connect5 (e : Env) (host service : Bytes) : Reads 0 (Socks5.connect e host service) := by
  apply (reads_connect e 0 host service).bind (by omega)
  rintro ⟨port, ec⟩
  apply (reads_socks 0 _).bind (by omega)
  intro _
  apply takes_ite
  · apply (show Reads 0 (Socks5.sendCommandResponse e port) from ?_).bind (by omega)
    · intro _
      exact takes_pure _ _
    · apply (takes_read 0 _).bind (by omega)
      intro socks
      apply (reads_writeBytes e 0 _).bind (by omega)
      intro ec
      exact takes_ite (takes_pure _ _) (takes_pure _ _)
  · apply (reads_sendErrorResponse e 0 _).bind (by omega)
    intro _
    exact takes_pure _ _

theorem reads_command (e : Env) : Reads 262 (command e) := by
  apply (reads_readCommandRequest e).bind (by omega)
  intro ok
  apply takes_ite (takes_pure _ _)
  apply (takes_read 0 _).bind (by omega)
  intro socks
  apply takes_ite
  · apply (reads_connect5 e _ _).bind (by omega)
    intro connected
    apply takes_ite (takes_pure _ _)
    apply (reads_createRecord e 0).bind (by omega)
    intro _
    exact takes_pure _ _
  · apply (reads_sendErrorResponse e 0 _).bind (by omega)
    intro _
    exact takes_pure _ _

theorem reads_init5 (e : Env) : Reads 1031 (Socks5.init e) := by
  rw [SocksFiveRuns.init_eq]
  apply (reads_readMethodRequest e).bind (by omega)
  intro ok
  apply takes_ite (takes_pure _ _)
  apply takes_ite
  · apply (reads_auth e).bind (by omega)
    intro success
    exact takes_ite (takes_pure _ _) (reads_command e)
  · exact (reads_command e).mono (by omega)

theorem reads_emit (n : ℕ) (a : Action) : Reads n (emit a) := takes_of_kept fun _ => rfl

theorem reads_launch (e : Env) (n : ℕ) : Reads n (launch e) := by
  apply Takes.bind (takes_modify 0 fun _ => by rfl) (by omega)
  intro _
  apply (reads_query e 0 _).bind (by omega)
  intro _
  apply (reads_query e 0 _).bind (by omega)
  intro _
  apply (reads_query e 0 _).bind (by omega)
  intro _
  apply (reads_query e 0 _).bind (by omega)
  intro _
  apply (reads_emit 0 _).bind (by omega)
  intro _
  exact reads_emit _ _

theorem reads_negotiate5 (e : Env) : Reads 1031 (negotiate e .socks5) := by
  apply Takes.bind (reads_init5 e) (by omega)
  intro ok
  exact takes_ite (reads_launch e _) (takes_pure _ _)

theorem reads_answer (e : Env) (n : ℕ) : Reads n (answer e) := by
  apply (takes_read 0 _).bind (by omega)
  intro socks
  apply (reads_connect e 0 _ _).bind (by omega)
  rintro ⟨port, ec⟩
  apply (reads_socks 0 _).bind (by omega)
  intro _
  apply (reads_writeBytes e 0 _).bind (by omega)
  intro ec'
  apply takes_ite (takes_pure _ _)
  apply (reads_createRecord e 0).bind (by omega)
  intro _
  exact takes_pure _ _

theorem upTo_rest (tail : Bytes) : (match upTo (· == 0) tail with
    | some (_, rest) => rest
    | none => []) = tail.drop ((tail.takeWhile (· != 0)).length + 1) := by
  induction tail with
  | nil => rfl
  | cons b tail ih =>
    by_cases hb : b = 0
    · simp [upTo, hb]
    · rw [List.takeWhile_cons_of_pos (by simpa using hb), List.length_cons, List.drop_succ_cons, ← ih]
      rcases hu : upTo (· == 0) tail with _ | ⟨u, rest⟩ <;> simp [upTo, hb, hu]

theorem kept_of_reads {α : Type} {x : Handshake α} (h : Reads 0 x) (s : SessionState) :
    (x.run s).2.input = s.input := by
  obtain ⟨taken, htaken, hlength⟩ := h s
  obtain rfl := List.length_eq_zero_iff.mp (Nat.le_zero.mp hlength)
  exact htaken.symm

theorem readTarget_input {e : Env} {s : SessionState} {raw tail : Bytes} (hraw : raw.length = 4)
    (h : s.input = raw ++ tail) :
    ((readTarget e).run s).2.input = tail.drop ((tail.takeWhile (· != 0)).length + 1) := by
  have hx : exactly 4 s.input = some (raw, tail) := (exact_exactly 4 _ _ _).mpr ⟨raw, ⟨rfl, hraw⟩, h⟩
  rw [readTarget_some hx, ← upTo_rest]
  rcases upTo (· == 0) tail with _ | ⟨u, rest⟩
  · rfl
  · exact kept_of_reads (reads_answer e 0) _

theorem init4_input {e : Env} {s : SessionState} {high low : UInt8} {raw tail : Bytes} (hraw : raw.length = 4)
    (h : s.input = Cmd.connect.code :: high :: low :: (raw ++ tail)) :
    ((Socks4.init e).run s).2.input = tail.drop ((tail.takeWhile (· != 0)).length + 1) := by
  rw [init_port h, readPort_some rfl]
  exact readTarget_input hraw rfl

theorem init4_unsupported {e : Env} {s : SessionState} {cd : UInt8} {tail : Bytes} (hcd : cd ≠ Cmd.connect.code)
    (h : s.input = cd :: tail) : ((Socks4.init e).run s).2.input = tail := by
  rw [SocksFourRuns.init_eq, Proc.bind_ok (readByte_cons h)]
  simp [hcd]

theorem negotiate_input (e : Env) (v : Ver) (s : SessionState) :
    ((negotiate e v).run s).2.input = ((protocol e v).run s).2.input := by
  rcases hrun : (protocol e v).run s with ⟨err | _ | _, t⟩
  · rw [negotiate, Proc.bind_error hrun]
  · rw [negotiate, Proc.bind_ok hrun]
    rfl
  · rw [negotiate, Proc.bind_ok hrun, if_pos rfl]
    exact kept_of_reads (reads_launch e 0) t

theorem bytesRead_of_sent {e : Env} {input f : Bytes} (h : SentUserId e input f) :
    bytesRead e input = 8 + f.length := by
  obtain ⟨hgreeted, high, low, raw, tail, hraw, rfl, rfl⟩ := h
  rcases started_cases e (Ver.socks4.code :: Cmd.connect.code :: high :: low :: (raw ++ tail)) with
    ⟨-, -, hno⟩ | ⟨v, rest, hi, -, hstate⟩
  · exact absurd hgreeted (hno .socks4 _ rfl)
  cases v with
  | socks5 => cases (List.cons.inj hi).1
  | socks4 =>
    obtain rfl := (List.cons.inj hi).2
    have hleft := init4_input (e := e)
      (s := chosen .socks4 (Cmd.connect.code :: high :: low :: (raw ++ tail))) hraw rfl
    have hprotocol : protocol e .socks4 = Socks4.init e := rfl
    rw [bytesRead, hstate, negotiate_input, hprotocol, hleft, userIdField]
    simp only [List.length_cons, List.length_append, List.length_drop, List.length_take, hraw]
    omega

theorem bytesRead_of_taken {e : Env} {input taken : Bytes} (h : input = taken ++ (started e input).input) :
    bytesRead e input = taken.length := by
  have hlength := congrArg List.length h
  rw [List.length_append] at hlength
  rw [bytesRead]
  omega

theorem short_of_unsent {e : Env} {tail : Bytes} (hgreeted : Greeted e)
    (h : ∀ f, ¬SentUserId e (Ver.socks4.code :: Cmd.connect.code :: tail) f) : tail.length < 6 := by
  by_contra hlong
  obtain ⟨high, low, more, rfl⟩ : ∃ high low more, tail = high :: low :: more := by
    rcases tail with _ | ⟨high, _ | ⟨low, more⟩⟩
    · simp at hlong
    · simp at hlong
    · exact ⟨high, low, more, rfl⟩
  simp only [List.length_cons] at hlong
  refine h _ ⟨hgreeted, high, low, more.take 4, more.drop 4, ?_, ?_, rfl⟩
  · rw [List.length_take]
    omega
  · rw [List.take_append_drop]

theorem bytesRead_le {e : Env} {input : Bytes} (h : ∀ f, ¬SentUserId e input f) : bytesRead e input ≤ 1032 := by
  rcases started_cases e input with ⟨-, ⟨taken, htaken, hlength⟩, -⟩ | ⟨v, rest, rfl, hgreeted, hstate⟩
  · rw [bytesRead_of_taken htaken]
    omega
  cases v with
  | socks5 =>
    obtain ⟨taken, htaken, hlength⟩ := reads_negotiate5 e (chosen .socks5 rest)
    have hinput : Ver.socks5.code :: rest =
        (Ver.socks5.code :: taken) ++ (started e (Ver.socks5.code :: rest)).input := by
      rw [hstate, List.cons_append, ← htaken]
      rfl
    rw [bytesRead_of_taken hinput, List.length_cons]
    omega
  | socks4 =>
    have hleft : (started e (Ver.socks4.code :: rest)).input = ((Socks4.init e).run (chosen .socks4 rest)).2.input := by
      rw [hstate, negotiate_input]
      rfl
    rcases rest with _ | ⟨cd, tail⟩
    · rw [bytesRead, List.length_singleton]
      omega
    by_cases hcd : cd = Cmd.connect.code
    · subst hcd
      have hshort := short_of_unsent hgreeted h
      rw [bytesRead]
      simp only [List.length_cons]
      omega
    · rw [init4_unsupported hcd rfl] at hleft
      rw [bytesRead, hleft]
      simp only [List.length_cons]
      omega

theorem bounded_iff (runs : Set (Env × Bytes)) :
    Bounded runs ↔ ∃ L, ∀ r ∈ runs, ∀ f, SentUserId r.1 r.2 f → f.length ≤ L := by
  constructor
  · rintro ⟨B, hB⟩
    refine ⟨B, fun r hr f hf => ?_⟩
    have hread := hB r hr
    rw [bytesRead_of_sent hf] at hread
    omega
  · rintro ⟨L, hL⟩
    refine ⟨1032 + L, fun r hr => ?_⟩
    by_cases h : ∃ f, SentUserId r.1 r.2 f
    · obtain ⟨f, hf⟩ := h
      have hlength := hL r hr f hf
      rw [bytesRead_of_sent hf]
      omega
    · have hread := bytesRead_le (not_exists.mp h)
      omega

/-- A CONNECT request to `127.0.0.1:80` with a user id of `n` letters that nothing ends. -/
def floodStream (n : ℕ) : Bytes := [4, 1, 0, 80, 127, 0, 0, 1] ++ List.replicate n 97

theorem flood_read (n : ℕ) : bytesRead (Env.permissive true []) (floodStream n) = 8 + n := by
  have hfield : userIdField (List.replicate n 97) = List.replicate n 97 := by
    rw [userIdField, List.takeWhile_replicate, if_pos (by decide), List.length_replicate]
    exact List.take_of_length_le (by simp)
  have hsent : SentUserId (Env.permissive true []) (floodStream n) (List.replicate n 97) :=
    ⟨⟨⟨_, rfl⟩, _, rfl⟩, 0, 80, [127, 0, 0, 1], List.replicate n 97, rfl, rfl, hfield.symm⟩
  rw [bytesRead_of_sent hsent, List.length_replicate]

theorem flood_unbounded : ¬Bounded Set.univ := by
  rintro ⟨B, hB⟩
  have hread : bytesRead (Env.permissive true []) (floodStream B) ≤ B := hB (Env.permissive true [], floodStream B) trivial
  rw [flood_read] at hread
  omega

end SocksProxy.HandshakeReads
