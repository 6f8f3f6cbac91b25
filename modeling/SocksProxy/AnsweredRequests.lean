import SocksProxy.DeliveredReplies

namespace SocksProxy.AnsweredRequests

open StatefulPrograms FieldParsing HandshakeGrammar SocksFiveRuns SocksFourRuns OutwardActions
open AcceptanceGrammar ReplyTranscript DeliveredReplies

/-- A whole address field; a domain name may have any length, zero included. -/
def WholeAddressCode (atyp : UInt8) (raw h : Bytes) : Prop :=
  (atyp = Socks5.Atyp.ipv4.code ∧ raw.length = 4 ∧ h = raw) ∨
  (atyp = Socks5.Atyp.domainName.code ∧ FieldCode raw h) ∨
  (atyp = Socks5.Atyp.ipv6.code ∧ raw.length = 16 ∧ h = raw)

def WholeRequestCode (r : Request) (h : Bytes) : Prop :=
  ∃ a, WholeAddressCode r.atyp r.raw a ∧
    h = Ver.socks5.code :: r.cmd :: r.rsv :: r.atyp :: (a ++ [r.high, r.low])

def Requests (e : Env) (r : Request) (input : Bytes) : Prop :=
  ∃ methods g l c q rest, GreetingCode e methods g ∧ LoginCode e l c ∧ WholeRequestCode r q ∧
    input = g ++ (c ++ (q ++ rest))

def WholeRequest4Code (cd : UInt8) (r : Request4) (h : Bytes) : Prop :=
  r.raw.length = 4 ∧ (∀ c ∈ r.userid, c ≠ 0) ∧
    h = cd :: r.high :: r.low :: (r.raw ++ (r.userid ++ [0]))

def Answers (init : Handshake Bool) (answer : List (Bytes × Option ErrorCode) → Prop) (s : SessionState) : Prop :=
  ∃ out t acts, init.run s = (out, t) ∧ t.trace = s.trace ++ acts ∧
    (out = .ok false → answer (clientWrites acts))

def RefusedOnce (writes : List (Bytes × Option ErrorCode)) : Prop :=
  ∃ first w rep, writes = first ++ [w] ∧ (∀ v ∈ first, v.1.length = 2) ∧
    rep ≠ Socks5.Rep.succeeded.code ∧ IsReply rep w.1

def RejectedOnce (writes : List (Bytes × Option ErrorCode)) : Prop :=
  ∃ w, writes = [w] ∧ w.1.length = 8 ∧ w.1[1]? = some Socks4.Reply.rejected.code

def Nameless (r : Request) : Prop := r.atyp = Socks5.Atyp.domainName.code ∧ r.raw = []

theorem request_whole {r : Request} {q : Bytes} (rest : Bytes) (h : WholeRequestCode r q)
    (hn : ¬Nameless r) : request (q ++ rest) = some (r, rest) := by
  obtain ⟨a, ha, rfl⟩ := h
  refine (exact_request _ _ _).mpr ⟨_, ⟨a, ?_, rfl⟩, rfl⟩
  rcases ha with h4 | ⟨h3, hf⟩ | h16
  · exact .inl h4
  · exact .inr (.inl ⟨h3, fun hraw => hn ⟨h3, hraw⟩, hf⟩)
  · exact .inr (.inr h16)

theorem request_nameless {r : Request} {q : Bytes} (rest : Bytes) (h : WholeRequestCode r q)
    (hn : Nameless r) : request (q ++ rest) = none := by
  obtain ⟨a, ha, rfl⟩ := h
  obtain ⟨h3, hraw⟩ := hn
  have hfield : address Socks5.Atyp.domainName.code (0 :: r.high :: r.low :: rest) = none := rfl
  have ha0 : a = [0] := by
    rcases ha with ⟨h4, -⟩ | ⟨-, n, hlen, rfl⟩ | ⟨h16, -⟩
    · exact absurd (h3.symm.trans h4) (by decide)
    · rw [hraw] at hlen ⊢
      have hzero : n = 0 := UInt8.toNat_inj.mp hlen
      rw [hzero]
    · exact absurd (h3.symm.trans h16) (by decide)
  rw [ha0, h3]
  simp only [List.cons_append, List.nil_append]
  rw [request_typed, hfield]
  rfl

theorem parsed_answers {e : Env} {s t : SessionState} {out : Except SystemError Bool} {r : Request}
    {rest : Bytes} (h : Command e s out t) (hr : request s.input = some (r, rest)) :
    ∃ acts, t.trace = s.trace ++ acts ∧ (out = .ok false →
      ∃ rep err, rep ≠ .succeeded ∧ clientWrites acts = [(Socks5.errorResponse rep, err)]) := by
  have hwrites := command_writes h
  cases h with
  | unparsed t h ht =>
    rw [h] at hr
    cases hr
  | unsupported r rest h hc =>
    exact ⟨[_], rfl, fun _ => ⟨.commandNotSupp, _, by decide, rfl⟩⟩
  | connectThrew r rest err t h hc hrun =>
    obtain ⟨acts, htrace, -⟩ := hwrites
    exact ⟨acts, htrace, by simp⟩
  | connectFailed r rest port err t h hc hrun =>
    obtain ⟨acts, hquiet⟩ := connect_quiet hrun
    have htrace : t.trace = s.trace ++ acts := hquiet.trace
    refine ⟨acts ++ [.write (Socks5.errorResponse (Socks5.replyFor (some err))) (e.writeClient t.writes)], ?_,
      fun _ => ⟨_, e.writeClient t.writes, replyFor_some_ne err, ?_⟩⟩
    · simp [bound, htrace]
    · simp [hquiet.noWrites]
  | connected r rest port t out u h hc hrun hrec =>
    obtain ⟨acts, htrace, -⟩ := hwrites
    refine ⟨acts, htrace, ?_⟩
    cases out <;> simp [Except.map]

theorem nameless_dropped {e : Env} {s t : SessionState} {out : Except SystemError Bool} {r : Request}
    {q rest : Bytes} (h : Command e s out t) (hq : WholeRequestCode r q) (hn : Nameless r)
    (hi : s.input = q ++ rest) : out = .ok false ∧ t.trace = s.trace := by
  have hnone : request s.input = none := by rw [hi, request_nameless rest hq hn]
  obtain ⟨a, -, rfl⟩ := hq
  cases h with
  | unparsed t h ht =>
    refine ⟨rfl, ?_⟩
    cases ht with
    | badVersion left h => exact absurd (by rw [hi]; rfl) h
    | badType cmd rsv atyp left x h hs =>
      rw [hi] at h
      have hatyp : r.atyp = atyp := (List.cons.inj (List.cons.inj (List.cons.inj (List.cons.inj h).2).2).2).1
      exact absurd (.inr (.inl (hatyp ▸ hn.1))) hs
    | dropped left x h hs => rfl
  | unsupported r' rest' h hc => cases hnone.symm.trans h
  | connectThrew r' rest' err t h hc hr => cases hnone.symm.trans h
  | connectFailed r' rest' port err t h hc hr => cases hnone.symm.trans h
  | connected r' rest' port t out u h hc hr hrec => cases hnone.symm.trans h

theorem answered5_iff {e : Env} {s : SessionState} {r : Request} (hw : ∀ n, e.writeClient n = none)
    (h : Requests e r s.input) : Answers (Socks5.init e) RefusedOnce s ↔ ¬Nameless r := by
  obtain ⟨methods, g, l, c, q, rest, hg, hl, hq, hi⟩ := h
  have hgreet : greeting e s.input = some (methods, c ++ (q ++ rest)) :=
    (exact_greeting e _ _ _).mpr ⟨g, hg, hi⟩
  have hlogin : login e (c ++ (q ++ rest)) = some (l, q ++ rest) := (exact_login e _ _ _).mpr ⟨c, hl, rfl⟩
  obtain ⟨t, hrun, hopen⟩ := opening_accepts hw hgreet hlogin
  obtain ⟨methods', mid, l', hg', hl', -, -⟩ := opening_true hopen
  obtain ⟨rfl, rfl⟩ := Prod.mk.inj (Option.some.inj (hgreet.symm.trans hg'))
  obtain ⟨rfl, hleft⟩ := Prod.mk.inj (Option.some.inj (hlogin.symm.trans hl'))
  obtain ⟨-, -, acts, htrace, -, hshort⟩ := opening_passes hopen
  obtain ⟨out, u, hcrun, hcommand⟩ := command_cases e t
  have hinit : (Socks5.init e).run s = (out, u) := by
    rw [init_run, hrun]
    exact hcrun
  constructor
  · rintro ⟨out', u', acts₀, hrun', htrace₀, hanswer⟩ hn
    obtain ⟨rfl, rfl⟩ := Prod.mk.inj (hinit.symm.trans hrun')
    obtain ⟨hfalse, hsame⟩ := nameless_dropped hcommand hq hn hleft.symm
    obtain ⟨first, w, rep, hwrites, -, -, hreply⟩ := hanswer hfalse
    rw [hsame, htrace] at htrace₀
    rw [← List.append_cancel_left htrace₀] at hwrites
    exact not_isReply_short (hshort w (by simp [hwrites])).2 hreply
  · intro hn
    have hr : request t.input = some (r, rest) := by rw [← hleft, request_whole rest hq hn]
    obtain ⟨acts', htrace', hanswer⟩ := parsed_answers hcommand hr
    refine ⟨out, u, acts ++ acts', hinit, by rw [htrace', htrace, List.append_assoc], fun hfalse => ?_⟩
    obtain ⟨rep, err, hne, hwrites⟩ := hanswer hfalse
    refine ⟨clientWrites acts, (Socks5.errorResponse rep, err), rep.code, ?_, fun v hv => (hshort v hv).2,
      rep_code_ne hne, isReply_errorResponse rep⟩
    rw [clientWrites_append, hwrites]

theorem answer_rejects {e : Env} (hw : ∀ n, e.writeClient n = none) (s : SessionState) :
    Answers (answer e) RejectedOnce s := by
  obtain ⟨out, t, hrun, hcases⟩ := answer_cases e s
  refine ⟨out, t, ?_⟩
  cases hcases with
  | connectThrew err t hr =>
    obtain ⟨acts, hquiet⟩ := connect_quiet hr
    exact ⟨acts, hrun, hquiet.trace, by simp⟩
  | refused port ec t hr h =>
    obtain ⟨acts, hquiet⟩ := connect_quiet hr
    have hec : ec.isSome = true := Option.isSome_iff_ne_none.mpr (h.resolve_right fun hne => hne (hw _))
    refine ⟨acts ++ [.write (replyMessage ec) (e.writeClient t.writes)], hrun, ?_, fun _ => ?_⟩
    · simp [bound4, hquiet.trace]
    · refine ⟨(replyMessage ec, e.writeClient t.writes), by simp [hquiet.noWrites], rfl, ?_⟩
      rw [replyMessage, hec]
      rfl
  | granted port t out u hr hnone hrec =>
    obtain ⟨acts, hquiet⟩ := connect_quiet hr
    obtain ⟨post, hpost, -⟩ := recording_tail (createRecord_outcome hrec)
    refine ⟨acts ++ .write (replyMessage none) (e.writeClient t.writes) :: post, hrun, ?_, ?_⟩
    · simp [hpost, bound4, hquiet.trace]
    · cases out <;> simp [Except.map]

theorem answered4_iff {e : Env} {s : SessionState} {cd : UInt8} {r : Request4} {h rest : Bytes}
    (hw : ∀ n, e.writeClient n = none) (hcode : WholeRequest4Code cd r h) (hi : s.input = h ++ rest) :
    Answers (Socks4.init e) RejectedOnce s ↔ cd = Cmd.connect.code := by
  obtain ⟨hraw, huser, rfl⟩ := hcode
  constructor
  · intro hanswers
    by_contra hcd
    have hnone : request4 s.input = none := by
      rw [hi]
      simp [request4, bind_apply, hcd]
    obtain ⟨left, x, hrun⟩ := init_malformed (e := e) hnone
    obtain ⟨out, t, acts, hrun', htrace, hanswer⟩ := hanswers
    obtain ⟨rfl, rfl⟩ := Prod.mk.inj (hrun.symm.trans hrun')
    have hacts : acts = [] := List.append_cancel_left (htrace.symm.trans (List.append_nil _).symm)
    obtain ⟨w, hwrites, -⟩ := hanswer rfl
    rw [hacts] at hwrites
    cases hwrites
  · rintro rfl
    have hparse : request4 s.input = some (r, rest) :=
      (exact_request4 _ _ _).mpr ⟨_, ⟨hraw, huser, rfl⟩, hi⟩
    obtain ⟨out, t, acts, hrun, htrace, hanswer⟩ := answer_rejects hw (requested4 s r rest)
    exact ⟨out, t, acts, (init_complete hparse).trans hrun, htrace, hanswer⟩

theorem answered_iff (e : Env) (s : SessionState) (hw : ∀ n, e.writeClient n = none) :
    (∀ r, Requests e r s.input → (Answers (Socks5.init e) RefusedOnce s ↔ ¬Nameless r)) ∧
    ∀ cd r h rest, WholeRequest4Code cd r h → s.input = h ++ rest →
      (Answers (Socks4.init e) RejectedOnce s ↔ cd = Cmd.connect.code) :=
  ⟨fun _ h => answered5_iff hw h, fun _ _ _ _ hcode hi => answered4_iff hw hcode hi⟩

/-- A SOCKS4 BIND to `127.0.0.1:80` without a user id. -/
def bindStream : Bytes := [2, 0, 80, 127, 0, 0, 1, 0]

theorem bind_unanswered : ¬Answers (Socks4.init (Env.permissive false [])) RejectedOnce { input := bindStream } := by
  rw [(answered_iff (Env.permissive false []) { input := bindStream } fun _ => rfl).2 2
    ⟨0, 80, [127, 0, 0, 1], []⟩ bindStream [] ⟨rfl, by simp, rfl⟩ rfl]
  decide

/-- A SOCKS5 CONNECT to port 80 of a domain name of length zero. -/
def namelessStream : Bytes := [1, 0] ++ [5, 1, 0, 3, 0, 0, 80]

theorem requests_nameless : Requests (Env.permissive false []) ⟨1, 0, 3, [], 0, 80⟩ namelessStream :=
  ⟨[0], [1, 0], none, [], [5, 1, 0, 3, 0, 0, 80], [], ⟨⟨1, rfl, rfl⟩, by decide⟩, ⟨rfl, rfl⟩,
    ⟨[0], .inr (.inl ⟨rfl, 0, rfl, rfl⟩), rfl⟩, rfl⟩

theorem requests_dropped :
    ((Socks4.init (Env.permissive false [])).run { input := bindStream }).1 = .ok false ∧
    ((Socks4.init (Env.permissive false [])).run { input := bindStream }).2.trace = [] ∧
    ((Socks5.init (Env.permissive false [])).run { input := namelessStream }).1 = .ok false ∧
    clientWrites ((Socks5.init (Env.permissive false [])).run { input := namelessStream }).2.trace =
      [([5, 0], none)] ∧
    ¬Answers (Socks4.init (Env.permissive false [])) RejectedOnce { input := bindStream } ∧
    ¬Answers (Socks5.init (Env.permissive false [])) RefusedOnce { input := namelessStream } := by
  refine ⟨by decide, by decide, by decide, by decide, ?_, ?_⟩
  · have hcode : WholeRequest4Code 2 ⟨0, 80, [127, 0, 0, 1], []⟩ bindStream := ⟨rfl, by simp, rfl⟩
    rw [answered4_iff (fun _ => rfl) hcode (List.append_nil _).symm]
    decide
  · rw [answered5_iff (fun _ => rfl) requests_nameless, not_not]
    exact ⟨rfl, rfl⟩

end SocksProxy.AnsweredRequests
