import SocksProxy.SocksFiveOutcomes
import SocksProxy.OutwardActions

namespace SocksProxy.AcceptanceGrammar

open StatefulPrograms FieldParsing HandshakeGrammar SocksFiveRuns OutwardActions Socks5

def login (e : Env) : Parser UInt8 (Option Credentials) :=
  if e.authFlag then do
    let c ← credentials
    require (e.users.lookup c.uname = some c.passwd)
    return some c
  else pure none

def LoginCode (e : Env) (login : Option Credentials) (h : Bytes) : Prop :=
  if e.authFlag then
    ∃ c, login = some c ∧ CredentialsCode c h ∧ e.users.lookup c.uname = some c.passwd
  else login = none ∧ h = []

theorem exact_login (e : Env) : Exact (login e) (LoginCode e) := by
  unfold login LoginCode
  cases e.authFlag with
  | false => exact exact_pure none
  | true =>
    refine (exact_credentials.bind fun c =>
      (exact_require (e.users.lookup c.uname = some c.passwd)).bind fun _ =>
      exact_pure (some c)).congr ?_
    intro l h
    constructor
    · rintro ⟨c, _, _, hc, ⟨_, _, _, ⟨hu, rfl⟩, ⟨rfl, rfl⟩, rfl⟩, rfl⟩
      exact ⟨c, rfl, by simpa using hc, hu⟩
    · rintro ⟨c, rfl, hc, hu⟩
      exact ⟨c, h, [], hc, ⟨(), [], [], ⟨hu, rfl⟩, ⟨rfl, rfl⟩, rfl⟩, by simp⟩

def handshake (e : Env) : Parser UInt8 (Option Credentials × Request) := do
  let _ ← greeting e
  let l ← login e
  let r ← request
  require (r.cmd = Cmd.connect.code)
  return (l, r)

def HandshakeCode (e : Env) (l : Option Credentials) (r : Request) (h : Bytes) : Prop :=
  ∃ methods g c q, GreetingCode e methods g ∧ LoginCode e l c ∧ RequestCode r q ∧
    r.cmd = Cmd.connect.code ∧ h = g ++ c ++ q

theorem exact_handshake (e : Env) :
    Exact (handshake e) (fun v h => HandshakeCode e v.1 v.2 h) := by
  refine ((exact_greeting e).bind fun _ => (exact_login e).bind fun l => exact_request.bind fun r =>
    (exact_require (r.cmd = Cmd.connect.code)).bind fun _ => exact_pure (l, r)).congr ?_
  rintro ⟨l, r⟩ h
  constructor
  · rintro ⟨methods, g, _, hg, ⟨_, c, _, hl, ⟨_, q, _, hr, ⟨_, _, _, ⟨hc, rfl⟩, ⟨he, rfl⟩, rfl⟩,
      rfl⟩, rfl⟩, rfl⟩
    cases he
    exact ⟨methods, g, c, q, hg, hl, hr, hc, by simp⟩
  · rintro ⟨methods, g, c, q, hg, hl, hr, hc, rfl⟩
    exact ⟨methods, g, c ++ q, hg, ⟨l, c, q, hl, ⟨r, q, [], hr, ⟨(), [], [], ⟨hc, rfl⟩, ⟨rfl, rfl⟩,
      rfl⟩, by simp⟩, rfl⟩, by simp⟩

def Reaches (e : Env) (s : SessionState) (host service : Bytes) : Prop :=
  ∃ port t, (TcpSession.connect e host service).run s = (.ok (port, none), t)

theorem reaches_congr {e : Env} {s t : SessionState} (h : s.queries = t.queries)
    (host service : Bytes) : Reaches e s host service ↔ Reaches e t host service := by
  obtain ⟨_, s', hs, -⟩ := connect_run e host service s
  obtain ⟨_, t', ht, -⟩ := connect_run e host service t
  simp only [Reaches, hs, ht, h, Prod.mk.injEq]
  constructor
  · rintro ⟨port, _, hp, _⟩
    exact ⟨port, t', hp, rfl⟩
  · rintro ⟨port, _, hp, _⟩
    exact ⟨port, s', hp, rfl⟩

theorem hasUser_iff (e : Env) (u p : Bytes) :
    Socks.hasUser e u p = true ↔ e.users.lookup u = some p := by
  simp [Socks.hasUser]

theorem opening_true {e : Env} {s t : SessionState} (h : Opening e s true t) :
    ∃ methods rest l, greeting e s.input = some (methods, rest) ∧
      login e rest = some (l, t.input) ∧ t.queries = s.queries ∧
      ∀ c, l = some c → t.socks.username = c.uname := by
  generalize hb : true = b at h
  cases h with
  | refused => cases hb
  | methodLost => cases hb
  | unread => cases hb
  | unauthenticated methods rest hg hw ha =>
    exact ⟨methods, rest, none, hg, by simp [login, ha], rfl, by simp⟩
  | answered methods rest c left hg hw ha hc =>
    have hu : e.users.lookup c.uname = some c.passwd := by
      rw [← hasUser_iff]
      exact (Bool.and_eq_true_iff.mp hb.symm).2
    refine ⟨methods, rest, some c, hg, ?_, rfl, by simp⟩
    simp only [login, ha, ↓reduceIte, bind_apply, hc, Option.bind_some, require_apply, hu, pure_apply,
      SessionState.written_input, SessionState.acted_input, SessionState.withSocks_input,
      SessionState.withInput_input]

theorem opening_accepts {e : Env} {s : SessionState} {methods rest left : Bytes}
    {l : Option Credentials} (hw : ∀ n, e.writeClient n = none)
    (hg : greeting e s.input = some (methods, rest)) (hl : login e rest = some (l, left)) :
    ∃ t, (opening e).run s = (.ok true, t) ∧ Opening e s true t := by
  obtain ⟨b, t, hr, ho⟩ := opening_cases e s
  suffices hb : b = true by exact ⟨t, hb ▸ hr, hb ▸ ho⟩
  cases ho with
  | refused left h => simp [h] at hg
  | methodLost methods rest h hn => exact absurd (hw _) hn
  | unauthenticated => rfl
  | unread methods' rest' left' h hn ha hc =>
    rw [h, Option.some.injEq, Prod.mk.injEq] at hg
    obtain ⟨rfl, rfl⟩ := hg
    simp [login, ha, bind_apply, hc] at hl
  | answered methods' rest' c left' h hn ha hc =>
    rw [h, Option.some.injEq, Prod.mk.injEq] at hg
    obtain ⟨rfl, rfl⟩ := hg
    simp only [login, ha, ↓reduceIte, bind_apply, hc, Option.bind_some, require_apply] at hl
    have hu : Socks.hasUser e c.uname c.passwd = true := by
      rw [hasUser_iff]
      by_contra hne
      simp [hne] at hl
    simp [hw, hu]

structure Served (s : SessionState) (r : Request) (rest : Bytes) (t : SessionState) : Prop where
  input : t.input = rest
  dstPort : t.socks.dstPort = r.port
  dstAddress : t.socks.dstAddress = r.text
  username : t.socks.username = s.socks.username

theorem command_true {e : Env} {s u : SessionState} (h : Command e s (.ok true) u) :
    ∃ r rest, request s.input = some (r, rest) ∧ r.cmd = Cmd.connect.code ∧
      Reaches e s r.text (Socks.service r.port) ∧ Served s r rest u := by
  generalize ho : Except.ok true = out at h
  cases h with
  | unparsed => cases ho
  | unsupported => cases ho
  | connectThrew => cases ho
  | connectFailed => cases ho
  | connected r rest port t out u hq hc hr hrec =>
    have hreach : Reaches e s r.text (Socks.service r.port) :=
      (reaches_congr (by rfl) _ _).mp ⟨port, t, hr⟩
    refine ⟨r, rest, hq, hc, hreach, ?_⟩
    obtain ⟨acts, hquiet⟩ := connect_quiet hr
    cases createRecord_outcome hrec with
    | threw => cases ho
    | recorded addr port' u b id _ _ _ hi _ hs =>
      exact ⟨by rw [hi]; exact hquiet.input, by simp [hs, bound, hquiet.socks, requested],
        by simp [hs, bound, hquiet.socks, requested], by simp [hs, bound, hquiet.socks, requested]⟩

theorem command_accepts {e : Env} {s : SessionState} {r : Request} {rest : Bytes}
    (hq : ∀ n, ∃ ep, e.endpoint .clientRemote n = .ok ep)
    (hr : request s.input = some (r, rest)) (hc : r.cmd = Cmd.connect.code)
    (hreach : Reaches e s r.text (Socks.service r.port)) :
    ∃ u, (command e).run s = (.ok true, u) ∧ Command e s (.ok true) u := by
  obtain ⟨out, u, hrun, hcmd⟩ := command_cases e s
  suffices ho : out = .ok true by exact ⟨u, ho ▸ hrun, ho ▸ hcmd⟩
  obtain ⟨port, t, hconn⟩ := (reaches_congr (s := s) (t := requested s r rest) rfl _ _).mp hreach
  cases hcmd with
  | unparsed t h => simp [h] at hr
  | unsupported r' rest' h hn =>
    rw [h, Option.some.injEq, Prod.mk.injEq] at hr
    exact absurd hc (hr.1 ▸ hn)
  | connectThrew r' rest' err t' h _ hthrow =>
    rw [h, Option.some.injEq, Prod.mk.injEq] at hr
    obtain ⟨rfl, rfl⟩ := hr
    cases (hthrow.symm.trans hconn)
  | connectFailed r' rest' port' err t' h _ hfail =>
    rw [h, Option.some.injEq, Prod.mk.injEq] at hr
    obtain ⟨rfl, rfl⟩ := hr
    cases (hfail.symm.trans hconn)
  | connected r' rest' port' t' out u h _ _ hrec =>
    cases createRecord_outcome hrec with
    | threw err u _ h =>
      obtain ⟨n, -, hn⟩ := h
      obtain ⟨ep, hep⟩ := hq n
      cases hn.symm.trans hep
    | recorded => rfl

theorem init_true {e : Env} {s u : SessionState} (h : (init e).run s = (.ok true, u)) :
    ∃ t, (opening e).run s = (.ok true, t) ∧ Opening e s true t ∧ (command e).run t = (.ok true, u) ∧
      Command e t (.ok true) u := by
  obtain ⟨b, t, hr, ho⟩ := opening_cases e s
  rw [init_run, hr] at h
  cases b with
  | false => cases h
  | true =>
    exact ⟨t, hr, ho, h, command_outcome h⟩

theorem handshake_eq_some {e : Env} {input rest : Bytes} {l : Option Credentials} {r : Request} :
    handshake e input = some ((l, r), rest) ↔ ∃ methods mid left,
      greeting e input = some (methods, mid) ∧ login e mid = some (l, left) ∧
        request left = some (r, rest) ∧ r.cmd = Cmd.connect.code := by
  simp only [handshake, bind_apply, require_apply, pure_apply, Option.bind_eq_some_iff, Prod.exists]
  constructor
  · rintro ⟨methods, mid, hg, l', left, hl, r', rest', hr, u, last, hc, he⟩
    split_ifs at hc with hcmd
    cases hc
    cases he
    exact ⟨methods, mid, left, hg, hl, hr, hcmd⟩
  · rintro ⟨methods, mid, left, hg, hl, hr, hc⟩
    exact ⟨methods, mid, hg, l, left, hl, r, rest, hr, (), rest, if_pos hc, rfl⟩

structure Decoded (l : Option Credentials) (r : Request) (rest : Bytes) (t : SessionState) : Prop where
  input : t.input = rest
  dstPort : t.socks.dstPort.toNat = 256 * r.high.toNat + r.low.toNat
  domainName : r.atyp = Atyp.domainName.code → t.socks.dstAddress = r.raw
  ipv4 : ∀ a b c d, r.atyp = Atyp.ipv4.code → r.raw = [a, b, c, d] →
    t.socks.dstAddress = ByteStrings.decimal a.toNat ++ 46 :: (ByteStrings.decimal b.toNat ++
      46 :: (ByteStrings.decimal c.toNat ++ 46 :: ByteStrings.decimal d.toNat))
  ipv6 : r.atyp = Atyp.ipv6.code →
    t.socks.dstAddress = AddressText.formIpAddressString r.raw
  username : ∀ c, l = some c → t.socks.username = c.uname

theorem decoded_of_served {t u : SessionState} {l : Option Credentials} {r : Request} {rest : Bytes}
    (hserved : Served t r rest u) (hname : ∀ c, l = some c → t.socks.username = c.uname) :
    Decoded l r rest u where
  input := hserved.input
  dstPort := by rw [hserved.dstPort, r.port_toNat]
  domainName h := by simp [hserved.dstAddress, Request.text, addressText, h]
  ipv4 a b c d h hraw := by
    rw [hserved.dstAddress, Request.text, addressText, if_neg (by rw [h]; decide), hraw,
      AddressText.formIpAddressString_four]
  ipv6 h := by rw [hserved.dstAddress, Request.text, addressText, if_neg (by rw [h]; decide)]
  username c h := by rw [hserved.username, hname c h]

theorem init_handshake {e : Env} {s u : SessionState} (h : (init e).run s = (.ok true, u)) :
    ∃ l r rest, handshake e s.input = some ((l, r), rest) ∧
      Reaches e s r.text (Socks.service r.port) ∧ Decoded l r rest u := by
  obtain ⟨t, -, hopen, -, hcmd⟩ := init_true h
  obtain ⟨methods, mid, l, hg, hl, hq, hname⟩ := opening_true hopen
  obtain ⟨r, rest, hr, hc, hreach, hserved⟩ := command_true hcmd
  exact ⟨l, r, rest, handshake_eq_some.mpr ⟨methods, mid, t.input, hg, hl, hr, hc⟩,
    (reaches_congr hq _ _).mp hreach, decoded_of_served hserved hname⟩

theorem handshake_init {e : Env} {s : SessionState} {l : Option Credentials} {r : Request}
    {rest : Bytes} (hw : ∀ n, e.writeClient n = none)
    (hq : ∀ n, ∃ ep, e.endpoint .clientRemote n = .ok ep)
    (h : handshake e s.input = some ((l, r), rest))
    (hreach : Reaches e s r.text (Socks.service r.port)) :
    ∃ u, (init e).run s = (.ok true, u) := by
  obtain ⟨methods, mid, left, hg, hl, hr, hc⟩ := handshake_eq_some.mp h
  obtain ⟨t, hrun, hopen⟩ := opening_accepts hw hg hl
  obtain ⟨methods', mid', l', hg', hl', hqs, -⟩ := opening_true hopen
  obtain ⟨rfl, rfl⟩ := Prod.mk.inj (Option.some.inj (hg.symm.trans hg'))
  obtain ⟨rfl, rfl⟩ := Prod.mk.inj (Option.some.inj (hl.symm.trans hl'))
  obtain ⟨u, hu, -⟩ := command_accepts hq hr hc ((reaches_congr hqs _ _).mpr hreach)
  exact ⟨u, by rw [init_run, hrun]; exact hu⟩

theorem init_accepts_exactly (e : Env) (s : SessionState) (hw : ∀ n, e.writeClient n = none)
    (hq : ∀ n, ∃ ep, e.endpoint .clientRemote n = .ok ep) :
    (((init e).run s).1 = .ok true ↔ ∃ h rest l r, s.input = h ++ rest ∧ HandshakeCode e l r h ∧
      Reaches e s r.text (Socks.service r.port)) ∧
    ∀ h rest l r, s.input = h ++ rest → HandshakeCode e l r h →
      Reaches e s r.text (Socks.service r.port) → Decoded l r rest ((init e).run s).2 := by
  constructor
  · constructor
    · intro hok
      obtain ⟨l, r, rest, hparse, hreach, -⟩ :=
        init_handshake (e := e) (s := s) (u := ((init e).run s).2) (Prod.ext hok rfl)
      obtain ⟨h, hcode, hi⟩ := (exact_handshake e _ _ _).mp hparse
      exact ⟨h, rest, l, r, hi, hcode, hreach⟩
    · rintro ⟨h, rest, l, r, hi, hcode, hreach⟩
      obtain ⟨u, hu⟩ := handshake_init hw hq ((exact_handshake e _ (l, r) _).mpr ⟨h, hcode, hi⟩) hreach
      rw [hu]
  · intro h rest l r hi hcode hreach
    have hparse : handshake e s.input = some ((l, r), rest) :=
      (exact_handshake e _ (l, r) _).mpr ⟨h, hcode, hi⟩
    obtain ⟨u, hu⟩ := handshake_init hw hq hparse hreach
    obtain ⟨l', r', rest', hparse', -, hdec⟩ := init_handshake hu
    obtain ⟨he, rfl⟩ := Prod.mk.inj (Option.some.inj (hparse.symm.trans hparse'))
    obtain ⟨rfl, rfl⟩ := Prod.mk.inj he
    rw [hu]
    exact hdec

/-- A login as `bob` with password `pw`, a CONNECT to `h:80`, and two payload bytes. -/
def bobStream : Bytes :=
  [1, 2] ++ [1, 3, 98, 111, 98, 2, 112, 119] ++ [5, 1, 0, 3, 1, 104, 0, 80] ++ [71, 69]

theorem init_accepts_bob :
    ((init (Env.permissive true [([98, 111, 98], [112, 119])])).run { input := bobStream }).2.input =
      [71, 69] := by
  have h := (init_accepts_exactly (Env.permissive true [([98, 111, 98], [112, 119])])
    { input := bobStream } (fun _ => rfl) (fun _ => ⟨_, rfl⟩)).2
    ([1, 2] ++ [1, 3, 98, 111, 98, 2, 112, 119] ++ [5, 1, 0, 3, 1, 104, 0, 80]) [71, 69]
    (some ⟨[98, 111, 98], [112, 119]⟩) ⟨1, 0, 3, [104], 0, 80⟩ rfl
    ⟨[2], [1, 2], [1, 3, 98, 111, 98, 2, 112, 119], [5, 1, 0, 3, 1, 104, 0, 80],
      ⟨⟨1, rfl, rfl⟩, by decide⟩,
      ⟨_, rfl, ⟨by decide, [3, 98, 111, 98], [2, 112, 119], ⟨3, rfl, rfl⟩, ⟨2, rfl, rfl⟩, rfl⟩,
        by decide⟩,
      ⟨[1, 104], .inr (.inl ⟨rfl, by decide, 1, rfl, rfl⟩), rfl⟩, rfl, rfl⟩
    ⟨1080, _, rfl⟩
  exact h.input

end SocksProxy.AcceptanceGrammar
