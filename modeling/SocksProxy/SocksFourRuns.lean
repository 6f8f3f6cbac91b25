import SocksProxy.SocksFiveRequests
import SocksProxy.OutwardActions

namespace SocksProxy.SocksFourRuns

open StatefulPrograms FieldParsing HandshakeGrammar SocksFiveRuns OutwardActions TcpSession Socks4

structure Request4 where
  high : UInt8
  low : UInt8
  raw : Bytes
  userid : Bytes
  deriving DecidableEq

namespace Request4

def text (r : Request4) : Bytes := AddressText.formIpAddressString r.raw

def port (r : Request4) : UInt16 := (r.high.toUInt16 <<< 8) ||| r.low.toUInt16

end Request4

def request4 : Parser UInt8 Request4 := do
  let cd ← symbol
  require (cd = Cmd.connect.code)
  let high ← symbol
  let low ← symbol
  let raw ← exactly 4
  let userid ← upTo (· == 0)
  return ⟨high, low, raw, userid⟩

def Request4Code (r : Request4) (h : Bytes) : Prop :=
  r.raw.length = 4 ∧ (∀ c ∈ r.userid, c ≠ 0) ∧
    h = Cmd.connect.code :: r.high :: r.low :: (r.raw ++ (r.userid ++ [0]))

theorem exact_request4 : Exact request4 Request4Code := by
  refine (exact_symbol.bind fun cd => (exact_require (cd = Cmd.connect.code)).bind fun _ =>
    exact_symbol.bind fun high => exact_symbol.bind fun low => (exact_exactly 4).bind fun raw =>
    (exact_upTo (· == 0)).bind fun userid =>
    exact_pure (Request4.mk high low raw userid)).congr ?_
  intro r h
  constructor
  · rintro ⟨_, _, _, rfl, ⟨_, _, _, ⟨rfl, rfl⟩, ⟨high, _, _, rfl, ⟨low, _, _, rfl, ⟨raw, _, _, ⟨rfl, hl⟩,
      ⟨userid, _, _, ⟨hu, z, hz, rfl⟩, ⟨rfl, rfl⟩, rfl⟩, rfl⟩, rfl⟩, rfl⟩, rfl⟩, rfl⟩
    obtain rfl : z = 0 := by simpa using hz
    exact ⟨hl, by simpa using hu, by simp⟩
  · rintro ⟨hl, hu, rfl⟩
    refine ⟨_, _, _, rfl, ⟨(), [], _, ⟨rfl, rfl⟩, ⟨r.high, _, _, rfl, ⟨r.low, _, _, rfl, ⟨r.raw, r.raw, _,
      ⟨rfl, hl⟩, ⟨r.userid, r.userid ++ [0], [], ⟨by simpa using hu, 0, rfl, rfl⟩, ⟨rfl, rfl⟩,
        (List.append_nil _).symm⟩, rfl⟩, rfl⟩, rfl⟩, rfl⟩, ?_⟩
    simp

theorem readUserId_run (fuel : ℕ) (acc : Bytes) (s : SessionState) (h : s.input.length < fuel) :
    (readUserId fuel acc).run s =
      match upTo (· == 0) s.input with
      | some (u, rest) => (.ok (acc ++ u, none), s.withInput rest)
      | none => (.ok (acc ++ s.input, some .eof), s.withInput []) := by
  induction fuel generalizing acc s with
  | zero => omega
  | succ fuel ih =>
    rcases hi : s.input with _ | ⟨c, tail⟩
    · have hs : s.withInput [] = s := by rw [← hi, SessionState.withInput_self]
      rw [readUserId, Proc.bind_ok (readByte_nil hi)]
      simp [upTo, hs]
    · rw [readUserId, Proc.bind_ok (readByte_cons hi)]
      by_cases hc : c = 0
      · simp [hc, upTo]
      · simp only [ne_eq, hc, not_false_eq_true, Option.isNone_none, and_self, ↓reduceIte]
        rw [ih (acc ++ [c]) (s.withInput tail) (by simpa [hi] using h)]
        simp only [SessionState.withInput_input, upTo, beq_iff_eq, hc, ↓reduceIte]
        rcases upTo (· == 0) tail with _ | ⟨u, rest⟩ <;> simp

def answer (e : Env) : Handshake Bool := do
  let socks ← Proc.read SessionState.socks
  let (port, ec) ← TcpSession.connect e socks.dstAddress (Socks.service socks.dstPort)
  Proc.modify fun s => s.withSocks { s.socks with bindPort := port }
  let code := if ec.isSome then Reply.rejected.code else Reply.granted.code
  let ec ← writeBytes e [0, code, 0, 0, 0, 0, 0, 0]
  if Socks.checkError ec || code == Reply.rejected.code then return false
  let _ ← Socks.createRecord e
  return true

def readTarget (e : Env) : Handshake Bool := do
  let address ← Socks.readIPV4
  Proc.modify fun s => s.withSocks { s.socks with dstAddress := address }
  if address.length = 0 then return false
  let fuel ← Proc.read fun s => s.input.length + 1
  let (userid, ec) ← readUserId fuel []
  if Socks.checkError ec then return false
  Proc.modify fun s => s.withSocks { s.socks with username := AddressText.to_string userid }
  answer e

def requested4 (s : SessionState) (r : Request4) (rest : Bytes) : SessionState :=
  (s.withInput rest).withSocks
    { s.socks with dstPort := r.port, dstAddress := r.text, username := r.userid }

theorem init_eq (e : Env) : init e = (do
    let (method, _) ← readByte
    if method ≠ Cmd.connect.code then return false
    let _ ← Socks.readPort
    readTarget e) := rfl

theorem init_port {e : Env} {s : SessionState} {tail : Bytes}
    (h : s.input = Cmd.connect.code :: tail) :
    (init e).run s = match Socks.readPort.run (s.withInput tail) with
      | (.ok _, t) => (readTarget e).run t
      | (.error err, t) => (.error err, t) := by
  rw [init_eq, Proc.bind_ok (readByte_cons h)]
  simp only [ne_eq, not_true_eq_false, ↓reduceIte, Proc.run_bind]
  rcases Socks.readPort.run (s.withInput tail) with ⟨_ | _, t⟩ <;> rfl

theorem readTarget_none {e : Env} {s : SessionState} (h : exactly 4 s.input = none) :
    ∃ left x, (readTarget e).run s = (.ok false, (s.withInput left).withSocks x) := by
  have hr := readIPV4_run s
  rw [h] at hr
  exact ⟨[], _, by rw [readTarget, Proc.bind_ok hr]; rfl⟩

theorem readTarget_some {e : Env} {s : SessionState} {raw tail : Bytes}
    (h : exactly 4 s.input = some (raw, tail)) : (readTarget e).run s =
      match upTo (· == 0) tail with
      | some (u, rest) => (answer e).run ((s.withInput rest).withSocks
        { s.socks with dstAddress := AddressText.formIpAddressString raw, username := u })
      | none => (.ok false, (s.withInput []).withSocks
        { s.socks with dstAddress := AddressText.formIpAddressString raw }) := by
  have hr := readIPV4_run s
  rw [h] at hr
  have hne : (AddressText.formIpAddressString raw).length ≠ 0 := by
    simpa using AddressText.formIpAddressString_ne_nil raw
  rw [readTarget, Proc.bind_ok hr, Proc.bind_ok (Proc.run_modify _ _), if_neg hne,
    Proc.bind_ok (Proc.run_read _ _)]
  have hu := readUserId_run (tail.length + 1) [] ((s.withInput tail).withSocks
    { s.socks with dstAddress := AddressText.formIpAddressString raw }) (by simp)
  simp only [SessionState.withSocks_input, SessionState.withInput_input] at hu
  rcases hx : upTo (· == 0) tail with _ | ⟨u, rest⟩
  · rw [hx] at hu
    rw [Proc.bind_ok (by exact hu)]
    rfl
  · rw [hx] at hu
    rw [Proc.bind_ok (by exact hu)]
    simp only [Socks.checkError, Option.isSome_none, Bool.false_eq_true, ↓reduceIte]
    rw [Proc.bind_ok (Proc.run_modify _ _)]
    simp only [AddressText.to_string_eq, List.nil_append]
    rfl

theorem request4_cons {high low : UInt8} {tail : Bytes} :
    request4 (Cmd.connect.code :: high :: low :: tail) = (exactly 4 tail).bind fun a =>
      (upTo (· == 0) a.2).map fun u => (⟨high, low, a.1, u.1⟩, u.2) := by
  simp only [request4, bind_apply, symbol_cons, require_apply, pure_apply, ↓reduceIte,
    Option.bind_some, Option.map_eq_bind, Function.comp_def]

theorem init_complete {e : Env} {s : SessionState} {r : Request4} {rest : Bytes}
    (h : request4 s.input = some (r, rest)) :
    (init e).run s = (answer e).run (requested4 s r rest) := by
  obtain ⟨_, ⟨hl, hu, rfl⟩, hi⟩ := (exact_request4 _ _ _).mp h
  have hx : exactly 4 (r.raw ++ (r.userid ++ [0]) ++ rest) = some (r.raw, r.userid ++ [0] ++ rest) :=
    (exact_exactly 4 _ _ _).mpr ⟨r.raw, ⟨rfl, hl⟩, by simp⟩
  have hup : upTo (· == 0) (r.userid ++ [0] ++ rest) = some (r.userid, rest) :=
    (exact_upTo _ _ _ _).mpr ⟨_, ⟨by simpa using hu, 0, rfl, rfl⟩, rfl⟩
  rw [init_port hi, readPort_some (by rfl)]
  simp only
  rw [readTarget_some (by exact hx), hup]
  rfl

theorem init_malformed {e : Env} {s : SessionState} (h : request4 s.input = none) :
    ∃ left x, (init e).run s = (.ok false, (s.withInput left).withSocks x) := by
  rcases hi : s.input with _ | ⟨cd, tail⟩
  · refine ⟨s.input, s.socks, ?_⟩
    rw [init, Proc.bind_ok (readByte_nil hi)]
    rfl
  · by_cases hcd : cd = Cmd.connect.code
    · subst hcd
      rw [init_port hi]
      rcases tail with _ | ⟨high, _ | ⟨low, tail⟩⟩
      · obtain ⟨x, hp⟩ := readPort_none (s := s.withInput []) (by simp)
        obtain ⟨left, y, ht⟩ := readTarget_none (e := e)
          (s := ((s.withInput []).withInput []).withSocks x) (by rfl)
        exact ⟨left, y, by rw [hp]; exact ht⟩
      · obtain ⟨x, hp⟩ := readPort_none (s := s.withInput [high]) (by simp)
        obtain ⟨left, y, ht⟩ := readTarget_none (e := e)
          (s := ((s.withInput [high]).withInput []).withSocks x) (by rfl)
        exact ⟨left, y, by rw [hp]; exact ht⟩
      · rw [readPort_some (s := s.withInput (high :: low :: tail)) (by rfl)]
        rw [hi, request4_cons] at h
        simp only
        rcases hx : exactly 4 tail with _ | ⟨raw, more⟩
        · obtain ⟨left, y, ht⟩ := readTarget_none (e := e) (s := ((s.withInput
            (high :: low :: tail)).withInput tail).withSocks { s.socks with
              dstPort := (high.toUInt16 <<< 8) ||| low.toUInt16 }) (by exact hx)
          exact ⟨left, y, ht⟩
        · have hup : upTo (· == 0) more = none := by simpa [hx] using h
          rw [readTarget_some (by exact hx), hup]
          exact ⟨[], _, rfl⟩
    · refine ⟨tail, s.socks, ?_⟩
      rw [init_eq, Proc.bind_ok (readByte_cons hi)]
      simp only [ne_eq, hcd, not_false_eq_true, ↓reduceIte, Proc.run_pure]
      rfl

def replyMessage (ec : Option ErrorCode) : Bytes :=
  [0, if ec.isSome then Reply.rejected.code else Reply.granted.code, 0, 0, 0, 0, 0, 0]

def bound4 (t : SessionState) (port : UInt16) : SessionState :=
  t.withSocks { t.socks with bindPort := port }

inductive Answer (e : Env) (s : SessionState) : Except SystemError Bool → SessionState → Prop
  | connectThrew (err : SystemError) (t : SessionState)
    (hr : (TcpSession.connect e s.socks.dstAddress (Socks.service s.socks.dstPort)).run s =
      (.error err, t)) : Answer e s (.error err) t
  | refused (port : UInt16) (ec : Option ErrorCode) (t : SessionState)
    (hr : (TcpSession.connect e s.socks.dstAddress (Socks.service s.socks.dstPort)).run s =
      (.ok (port, ec), t))
    (h : ec ≠ none ∨ e.writeClient t.writes ≠ none) :
    Answer e s (.ok false) ((bound4 t port).written e (replyMessage ec))
  | granted (port : UInt16) (t : SessionState) (out : Except SystemError Bool) (u : SessionState)
    (hr : (TcpSession.connect e s.socks.dstAddress (Socks.service s.socks.dstPort)).run s =
      (.ok (port, none), t))
    (hw : e.writeClient t.writes = none)
    (hrec : (Socks.createRecord e).run ((bound4 t port).written e (replyMessage none)) = (out, u)) :
    Answer e s (out.map fun _ => true) u

def reply (e : Env) (ec : Option ErrorCode) : Handshake Bool := do
  let lost ← writeBytes e (replyMessage ec)
  if Socks.checkError lost || (if ec.isSome then Reply.rejected.code else Reply.granted.code) ==
    Reply.rejected.code then return false
  let _ ← Socks.createRecord e
  return true

theorem answer_replies {e : Env} {s t : SessionState} {port : UInt16} {ec : Option ErrorCode}
    (h : (TcpSession.connect e s.socks.dstAddress (Socks.service s.socks.dstPort)).run s =
      (.ok (port, ec), t)) : (answer e).run s = (reply e ec).run (bound4 t port) := by
  rw [answer, Proc.bind_ok (Proc.run_read _ _), Proc.bind_ok h]
  rfl

theorem reply_rejects (e : Env) (err : ErrorCode) (s : SessionState) :
    (reply e (some err)).run s = (.ok false, s.written e (replyMessage (some err))) := by
  have hwrite : (writeBytes e (replyMessage (some err))).run s =
    (.ok (e.writeClient s.writes), s.written e (replyMessage (some err))) := rfl
  rw [reply, Proc.bind_ok hwrite]
  cases e.writeClient s.writes <;> rfl

theorem reply_loses {e : Env} {s : SessionState} (h : e.writeClient s.writes ≠ none) :
    (reply e none).run s = (.ok false, s.written e (replyMessage none)) := by
  have hwrite : (writeBytes e (replyMessage none)).run s =
    (.ok (e.writeClient s.writes), s.written e (replyMessage none)) := rfl
  obtain ⟨lost, hlost⟩ := Option.ne_none_iff_exists'.mp h
  rw [reply, Proc.bind_ok hwrite, hlost]
  rfl

theorem reply_grants {e : Env} {s : SessionState} (h : e.writeClient s.writes = none) :
    (reply e none).run s =
      (Socks.createRecord e >>= fun _ => pure true).run (s.written e (replyMessage none)) := by
  have hwrite : (writeBytes e (replyMessage none)).run s =
    (.ok (e.writeClient s.writes), s.written e (replyMessage none)) := rfl
  rw [reply, Proc.bind_ok hwrite, h]
  rfl

theorem answer_cases (e : Env) (s : SessionState) :
    ∃ out t, (answer e).run s = (out, t) ∧ Answer e s out t := by
  rcases hr : (TcpSession.connect e s.socks.dstAddress (Socks.service s.socks.dstPort)).run s
    with ⟨err | ⟨port, _ | err⟩, t⟩
  · exact ⟨_, t, by rw [answer, Proc.bind_ok (Proc.run_read _ _), Proc.bind_error hr],
      .connectThrew err t hr⟩
  · rw [answer_replies hr]
    by_cases hw : e.writeClient t.writes = none
    · rw [reply_grants (by exact hw)]
      rcases hrec : (Socks.createRecord e).run ((bound4 t port).written e (replyMessage none))
        with ⟨err | b, u⟩
      · exact ⟨_, _, Proc.bind_error hrec, .granted port t _ u hr hw hrec⟩
      · exact ⟨_, _, (Proc.bind_ok hrec).trans rfl, .granted port t _ u hr hw hrec⟩
    · exact ⟨_, _, reply_loses (by exact hw), .refused port none t hr (.inr hw)⟩
  · rw [answer_replies hr]
    exact ⟨_, _, reply_rejects e err _, .refused port (some err) t hr (.inl (by simp))⟩

end SocksProxy.SocksFourRuns
