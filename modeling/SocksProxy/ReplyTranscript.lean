import SocksProxy.AcceptanceGrammar

namespace SocksProxy.ReplyTranscript

open StatefulPrograms HandshakeGrammar SocksFiveRuns OutwardActions AcceptanceGrammar Socks5

def IsReply (rep : UInt8) (m : Bytes) : Prop :=
  (m.length = 10 ∨ m.length = 22) ∧ ∃ tail, m = Ver.socks5.code :: rep :: rsv :: tail

def Refuses (m : Bytes) : Prop :=
  m = methodMessage .noAccMethods ∨ m = [authVer, AuthStatus.deny.code] ∨
    ∃ rep, rep ≠ Rep.succeeded.code ∧ IsReply rep m

def Final (w : Bytes × Option ErrorCode) : Prop := Refuses w.1 ∨ w.2 ≠ none

theorem isReply_errorResponse (rep : Rep) : IsReply rep.code (errorResponse rep) :=
  ⟨.inl rfl, _, rfl⟩

theorem isReply_commandResponse {atyp : UInt8} (h : Supported atyp) (port : UInt16) :
    IsReply Rep.succeeded.code (commandResponse atyp port) := by
  rcases h with rfl | rfl | rfl
  · exact ⟨.inl rfl, _, rfl⟩
  · exact ⟨.inl rfl, _, rfl⟩
  · exact ⟨.inr rfl, _, rfl⟩

theorem isReply_unique {rep rep' : UInt8} {m : Bytes} (h : IsReply rep m) (h' : IsReply rep' m) :
    rep = rep' := by
  obtain ⟨-, tail, rfl⟩ := h
  obtain ⟨-, tail', he⟩ := h'
  simp only [List.cons.injEq, true_and] at he
  exact he.1

theorem rep_code_ne {rep : Rep} (h : rep ≠ .succeeded) : rep.code ≠ Rep.succeeded.code := by
  cases rep <;> first | exact absurd rfl h | decide

theorem not_isReply_short {rep : UInt8} {m : Bytes} (h : m.length = 2) : ¬IsReply rep m := by
  rintro ⟨h' | h', -⟩ <;> omega

theorem not_refuses_method (e : Env) : ¬Refuses (methodMessage (getServerMethod e)) := by
  rintro (hr | hr | ⟨rep, -, hr⟩)
  · unfold getServerMethod at hr
    split_ifs at hr <;> exact absurd hr (by decide)
  · simp [methodMessage, Ver.code, authVer] at hr
  · exact not_isReply_short rfl hr

theorem not_refuses_status {e : Env} {c : Credentials}
    (h : Socks.hasUser e c.uname c.passwd = true) : ¬Refuses (statusMessage e c) := by
  rintro (hr | hr | ⟨rep, -, hr⟩)
  · simp [statusMessage, methodMessage, Ver.code, authVer] at hr
  · simp [statusMessage, h, AuthStatus.code] at hr
  · exact not_isReply_short rfl hr

structure OpeningWrites (e : Env) (s : SessionState) (b : Bool) (first : Bytes × Option ErrorCode)
    (status : List (Bytes × Option ErrorCode)) : Prop where
  method : first.1 = methodMessage (getServerMethod e) ∨ first.1 = methodMessage .noAccMethods
  credentials : ∀ w ∈ status, e.authFlag = true ∧ first.1 = methodMessage (getServerMethod e) ∧
    ∃ methods mid c left, greeting e s.input = some (methods, mid) ∧
      credentials mid = some (c, left) ∧ w.1 = statusMessage e c
  single : status.length ≤ 1
  ordered : (first :: status).Pairwise fun w _ => ¬Final w
  accepted : b = true → ∀ w ∈ first :: status, ¬Final w

theorem opening_writes {e : Env} {s t : SessionState} {b : Bool} (h : Opening e s b t) :
    ∃ acts first status, t.trace = s.trace ++ acts ∧ clientWrites acts = first :: status ∧
      OpeningWrites e s b first status := by
  cases h with
  | refused left h =>
    exact ⟨[_], _, [], rfl, rfl, .inr rfl, by simp, by simp, by simp, by simp⟩
  | methodLost methods rest h hw =>
    exact ⟨[_], _, [], rfl, rfl, .inl rfl, by simp, by simp, by simp, by simp⟩
  | unauthenticated methods rest h hw ha =>
    refine ⟨[_], _, [], rfl, rfl, .inl rfl, by simp, by simp, by simp, ?_⟩
    simp [Final, not_refuses_method, hw]
  | unread methods rest left h hw ha hc =>
    exact ⟨[_], _, [], rfl, rfl, .inl rfl, by simp, by simp, by simp, by simp⟩
  | answered methods rest c left h hw ha hc =>
    refine ⟨[.write (methodMessage (getServerMethod e)) (e.writeClient s.writes),
      .write (statusMessage e c) (e.writeClient (s.writes + 1))], _, [_], by simp, rfl, .inl rfl,
      ?_, by simp, ?_, ?_⟩
    · simp only [List.mem_singleton, forall_eq]
      exact ⟨ha, trivial, methods, rest, c, left, h, hc, rfl⟩
    · simp [Final, not_refuses_method, hw]
    · intro hb
      obtain ⟨hw', hu⟩ := Bool.and_eq_true_iff.mp hb
      simp [Final, not_refuses_method, hw, not_refuses_status hu, Option.isNone_iff_eq_none.mp hw']

inductive CommandWrites (out : Except SystemError Bool) (t : SessionState) : List Action → Prop
  | silent (acts : List Action) (h : clientWrites acts = []) (ho : out ≠ .ok true) :
    CommandWrites out t acts
  | refusal (acts : List Action) (rep : Rep) (err : Option ErrorCode) (hn : rep ≠ .succeeded)
    (h : clientWrites acts = [(errorResponse rep, err)]) (ho : out ≠ .ok true) :
    CommandWrites out t acts
  | success (pre post : List Action) (atyp : UInt8) (port : UInt16) (err : Option ErrorCode)
    (hs : Supported atyp) (hpre : clientWrites pre = []) (hpost : clientWrites post = [])
    (hc : .connected none ∈ pre) (hcmd : t.socks.cmd = Cmd.connect.code) (ho : out ≠ .ok false) :
    CommandWrites out t (pre ++ .write (commandResponse atyp port) err :: post)

theorem unparsed_writes {e : Env} {s t : SessionState} (h : Unparsed e s t) :
    ∃ acts, t.trace = s.trace ++ acts ∧ CommandWrites (.ok false) t acts := by
  cases h with
  | badVersion left h =>
    exact ⟨[_], rfl, .refusal _ .serverFailure _ (by decide) rfl (by simp)⟩
  | badType cmd rsv atyp left x h hs =>
    exact ⟨[_], rfl, .refusal _ .addrTypeNotSupp _ (by decide) rfl (by simp)⟩
  | dropped left x h hs =>
    exact ⟨[], by simp, .silent _ rfl (by simp)⟩

theorem request_supported {input : Bytes} {r : Request} {rest : Bytes}
    (h : request input = some (r, rest)) : Supported r.atyp := by
  obtain ⟨_, ⟨a, ha, -⟩, -⟩ := (exact_request _ _ _).mp h
  rcases ha with ⟨h4, -⟩ | ⟨h3, -⟩ | ⟨h16, -⟩
  · exact .inl h4
  · exact .inr (.inl h3)
  · exact .inr (.inr h16)

theorem recording_tail {e : Env} {s t : SessionState} {out : Except SystemError Bool}
    (h : Recording e s out t) : ∃ post, t.trace = s.trace ++ post ∧ clientWrites post = [] ∧
      t.socks.cmd = s.socks.cmd := by
  cases h with
  | threw err t hq _ => exact ⟨[], hq.trace, rfl, by rw [hq.socks]⟩
  | recorded addr port t b id _ _ trace _ _ socks => exact ⟨_, trace, rfl, by rw [socks]⟩

theorem command_writes {e : Env} {s t : SessionState} {out : Except SystemError Bool}
    (h : Command e s out t) : ∃ acts, t.trace = s.trace ++ acts ∧ CommandWrites out t acts := by
  cases h with
  | unparsed t h ht => exact unparsed_writes ht
  | unsupported r rest h hc =>
    exact ⟨[_], rfl, .refusal _ .commandNotSupp _ (by decide) rfl (by simp)⟩
  | connectThrew r rest err t h hc hr =>
    obtain ⟨acts, hq⟩ := connect_quiet hr
    exact ⟨acts, hq.trace, .silent _ hq.noWrites (by simp)⟩
  | connectFailed r rest port err t h hc hr =>
    obtain ⟨acts, hq⟩ := connect_quiet hr
    have htrace : t.trace = s.trace ++ acts := hq.trace
    refine ⟨acts ++ [.write (errorResponse (replyFor (some err))) (e.writeClient t.writes)], ?_,
      .refusal _ _ (e.writeClient t.writes) (replyFor_some_ne err) ?_ (by simp)⟩
    · simp [bound, htrace]
    · simp [hq.noWrites]
  | connected r rest port t out u h hc hr hrec =>
    obtain ⟨-, acts, hq, hconn, -⟩ := connect_outcome hr
    have htrace : t.trace = s.trace ++ acts := hq.trace
    have hatyp : t.socks.atyp = r.atyp := by rw [hq.socks]; rfl
    have hcmd : t.socks.cmd = Cmd.connect.code := by rw [hq.socks]; exact hc
    rw [hatyp] at hrec
    have hs := request_supported h
    obtain ⟨post, hpost, hsilent, hkept⟩ := recording_tail (createRecord_outcome hrec)
    refine ⟨acts ++ .write (commandResponse r.atyp port) (e.writeClient t.writes) :: post, ?_,
      .success acts post r.atyp port _ hs hq.noWrites hsilent (hconn port none rfl) ?_ ?_⟩
    · simp [hpost, bound, htrace]
    · rw [hkept]
      exact hcmd
    · cases out <;> simp [Except.map]

theorem mem_clientWrites {acts : List Action} {m : Bytes} {err : Option ErrorCode} :
    (m, err) ∈ clientWrites acts ↔ .write m err ∈ acts := by
  simp only [clientWrites, List.mem_filterMap]
  constructor
  · rintro ⟨a, ha, h⟩
    cases a <;> simp_all
  · intro h
    exact ⟨_, h, rfl⟩

theorem append_split {α : Type} {xs ys pre post : List α} {x : α}
    (h : xs ++ ys = pre ++ x :: post) :
    x ∈ xs ∨ ∃ mid, pre = xs ++ mid ∧ ys = mid ++ x :: post := by
  rcases List.append_eq_append_iff.mp h with ⟨mid, hpre, hys⟩ | ⟨mid, hxs, hmid⟩
  · exact .inr ⟨mid, hpre, hys⟩
  · rcases mid with _ | ⟨y, mid⟩
    · exact .inr ⟨[], by simpa using hxs.symm, by simpa using hmid.symm⟩
    · obtain ⟨rfl, -⟩ := List.cons.inj hmid
      exact .inl (hxs ▸ by simp)

theorem opening_short {e : Env} {s : SessionState} {b : Bool} {first : Bytes × Option ErrorCode}
    {status : List (Bytes × Option ErrorCode)} (h : OpeningWrites e s b first status) :
    ∀ w ∈ first :: status, w.1.length = 2 := by
  intro w hw
  rcases List.mem_cons.mp hw with rfl | hw
  · rcases h.method with hm | hm <;> rw [hm] <;> rfl
  · obtain ⟨-, -, _, _, c, _, -, -, hc⟩ := h.credentials w hw
    rw [hc]
    rfl

structure Transcript (e : Env) (s : SessionState) (acts : List Action) (b : Bool)
    (t : SessionState) : Prop where
  shape : ∃ first status reply, clientWrites acts = first :: (status ++ reply) ∧
    (first.1 = [Ver.socks5.code, (getServerMethod e).code] ∨
      first.1 = [Ver.socks5.code, Method.noAccMethods.code]) ∧
    status.length ≤ 1 ∧ reply.length ≤ 1 ∧
    (∀ w ∈ status, e.authFlag = true ∧ first.1 = [Ver.socks5.code, (getServerMethod e).code] ∧
      (∃ methods mid c left, greeting e s.input = some (methods, mid) ∧
        credentials mid = some (c, left)) ∧
      (w.1 = [authVer, AuthStatus.success.code] ∨ w.1 = [authVer, AuthStatus.deny.code])) ∧
    ∀ w ∈ reply, ∃ rep, IsReply rep w.1
  final : ∀ pre w post, clientWrites acts = pre ++ w :: post → Final w → post = []
  connected : ∀ pre m err post, acts = pre ++ .write m err :: post →
    IsReply Rep.succeeded.code m → .connected none ∈ pre ∧ t.socks.cmd = Cmd.connect.code
  verdict : (∀ w ∈ clientWrites acts, w.2 = none) →
    (b = true ↔ ∃ w, (clientWrites acts).getLast? = some w ∧ IsReply Rep.succeeded.code w.1)

theorem statusMessage_eq (e : Env) (c : Credentials) :
    statusMessage e c = [authVer, AuthStatus.success.code] ∨
      statusMessage e c = [authVer, AuthStatus.deny.code] := by
  unfold statusMessage
  split_ifs
  · exact .inl rfl
  · exact .inr rfl

theorem pairwise_final {xs : List (Bytes × Option ErrorCode)}
    (h : xs.Pairwise fun w _ => ¬Final w) {pre post : List (Bytes × Option ErrorCode)}
    {w : Bytes × Option ErrorCode} (hx : xs = pre ++ w :: post) (hw : Final w) : post = [] := by
  subst hx
  rcases post with _ | ⟨y, post⟩
  · rfl
  · have hp := (List.pairwise_append.mp h).2.1
    exact absurd hw ((List.pairwise_cons.mp hp).1 y (by simp))

theorem opening_transcript {e : Env} {s t : SessionState} {acts : List Action}
    {first : Bytes × Option ErrorCode} {status : List (Bytes × Option ErrorCode)}
    (hacts : clientWrites acts = first :: status) (h : OpeningWrites e s false first status) :
    Transcript e s acts false t where
  shape := by
    refine ⟨first, status, [], by simpa using hacts, h.method, h.single, by simp, ?_, by simp⟩
    intro w hw
    obtain ⟨ha, hm, methods, mid, c, left, hg, hc, hs⟩ := h.credentials w hw
    exact ⟨ha, hm, ⟨methods, mid, c, left, hg, hc⟩, hs ▸ statusMessage_eq e c⟩
  final pre w post hx hw := pairwise_final h.ordered (hacts ▸ hx) hw
  connected pre m err post hx hm := by
    have hmem : (m, err) ∈ clientWrites acts := mem_clientWrites.mpr (hx ▸ by simp)
    exact absurd hm (not_isReply_short (opening_short h _ (hacts ▸ hmem)))
  verdict _ := by
    simp only [Bool.false_eq_true, false_iff, not_exists, not_and]
    intro w hw
    exact not_isReply_short (opening_short h w (hacts ▸ List.mem_of_getLast? hw))

theorem commandWrites_reply {out : Except SystemError Bool} {t : SessionState} {acts : List Action}
    (h : CommandWrites out t acts) :
    clientWrites acts = [] ∨ ∃ w rep, clientWrites acts = [w] ∧ IsReply rep w.1 := by
  cases h with
  | silent _ h _ => exact .inl h
  | refusal _ rep err _ h _ => exact .inr ⟨_, _, h, isReply_errorResponse rep⟩
  | success pre post atyp port err hs hpre hpost _ _ _ =>
    exact .inr ⟨(commandResponse atyp port, err), _, by simp [hpre, hpost],
      isReply_commandResponse hs port⟩

theorem commandWrites_connected {out : Except SystemError Bool} {t : SessionState}
    {acts pre post : List Action} {m : Bytes} {err : Option ErrorCode}
    (h : CommandWrites out t acts) (hx : acts = pre ++ .write m err :: post)
    (hm : IsReply Rep.succeeded.code m) :
    .connected none ∈ pre ∧ t.socks.cmd = Cmd.connect.code := by
  have hmem : (m, err) ∈ clientWrites acts := mem_clientWrites.mpr (hx ▸ by simp)
  cases h with
  | silent _ h _ => simp [h] at hmem
  | refusal _ rep err' hn h _ =>
    rw [h, List.mem_singleton] at hmem
    obtain ⟨rfl, -⟩ := Prod.mk.inj hmem
    exact absurd (isReply_unique (isReply_errorResponse rep) hm) (rep_code_ne hn)
  | success pre' post' atyp port err' hs hpre hpost hc hcmd _ =>
    refine ⟨?_, hcmd⟩
    -- a write cannot stand before the connect, so the reply is at or after the command's own
    rcases append_split hx with hx | ⟨mid, rfl, -⟩
    · have := mem_clientWrites.mpr hx
      simp [hpre] at this
    · exact List.mem_append_left _ hc

theorem commandWrites_verdict {b : Bool} {t : SessionState} {acts : List Action}
    (h : CommandWrites (.ok b) t acts) :
    b = true ↔ ∃ w, (clientWrites acts).getLast? = some w ∧ IsReply Rep.succeeded.code w.1 := by
  cases h with
  | silent _ h ho =>
    have hb : b = false := by simpa using ho
    simp [h, hb]
  | refusal _ rep err hn h ho =>
    have hb : b = false := by simpa using ho
    simp only [hb, Bool.false_eq_true, h, List.getLast?_singleton, Option.some.injEq, false_iff,
      not_exists, not_and]
    rintro w rfl hw
    exact rep_code_ne hn (isReply_unique (isReply_errorResponse rep) hw)
  | success pre post atyp port err hs hpre hpost hc hcmd ho =>
    have hb : b = true := by simpa using ho
    simp only [hb, true_iff]
    exact ⟨(commandResponse atyp port, err), by simp [hpre, hpost], isReply_commandResponse hs port⟩

theorem command_transcript {e : Env} {s t : SessionState} {acts acts' : List Action} {b : Bool}
    {first : Bytes × Option ErrorCode} {status : List (Bytes × Option ErrorCode)}
    (hacts : clientWrites acts = first :: status) (h : OpeningWrites e s true first status)
    (hc : CommandWrites (.ok b) t acts') : Transcript e s (acts ++ acts') b t := by
  have hlist : clientWrites (acts ++ acts') = (first :: status) ++ clientWrites acts' := by
    rw [clientWrites_append, hacts]
  constructor
  · refine ⟨first, status, clientWrites acts', by simpa using hlist, h.method, h.single, ?_, ?_, ?_⟩
    · rcases commandWrites_reply hc with hr | ⟨w, rep, hr, -⟩ <;> simp [hr]
    · intro w hw
      obtain ⟨ha, hm, methods, mid, c, left, hg, hcr, hs⟩ := h.credentials w hw
      exact ⟨ha, hm, ⟨methods, mid, c, left, hg, hcr⟩, hs ▸ statusMessage_eq e c⟩
    · intro w hw
      rcases commandWrites_reply hc with hr | ⟨w', rep, hr, hrep⟩
      · simp [hr] at hw
      · rw [hr, List.mem_singleton] at hw
        exact ⟨rep, hw ▸ hrep⟩
  · intro pre w post hx hw
    refine pairwise_final (List.pairwise_append.mpr ⟨h.ordered, ?_, ?_⟩) (hlist ▸ hx) hw
    · rcases commandWrites_reply hc with hr | ⟨w, rep, hr, -⟩ <;> simp [hr]
    · intro w hw _ _
      exact h.accepted rfl w hw
  · intro pre m err post hx hm
    rcases append_split hx with hmem | ⟨mid, rfl, hx'⟩
    · have hmem := mem_clientWrites.mpr hmem
      exact absurd hm (not_isReply_short (opening_short h _ (hacts ▸ hmem)))
    · obtain ⟨hconn, hcmd⟩ := commandWrites_connected hc hx' hm
      exact ⟨List.mem_append_right _ hconn, hcmd⟩
  · intro _
    rw [commandWrites_verdict hc, hlist]
    rcases commandWrites_reply hc with hr | ⟨w, rep, hr, -⟩
    · simp only [hr, List.getLast?_nil, reduceCtorEq, false_and, exists_false, List.append_nil,
        false_iff, not_exists, not_and]
      intro w hw
      exact not_isReply_short (opening_short h w (List.mem_of_getLast? hw))
    · rw [hr, List.getLast?_append_of_ne_nil _ (by simp)]

theorem command_ok {e : Env} {s t : SessionState} {out : Except SystemError Bool}
    (hq : ∀ q n, ∃ ep, e.endpoint q n = .ok ep) (h : Command e s out t) : ∃ b, out = .ok b := by
  cases h with
  | unparsed => exact ⟨_, rfl⟩
  | unsupported => exact ⟨_, rfl⟩
  | connectFailed => exact ⟨_, rfl⟩
  | connectThrew r rest err t h hc hr =>
    have hres := (connect_outcome hr).1.symm
    obtain ⟨ep₁, h₁⟩ := hq .serverLocal (requested s r rest).queries
    obtain ⟨ep₂, h₂⟩ := hq .serverRemote ((requested s r rest).queries + 1)
    obtain ⟨ep₃, h₃⟩ := hq .serverRemote ((requested s r rest).queries + 2)
    unfold connectResult at hres
    split at hres
    · cases hres
    · split at hres
      · cases hres
      · rw [bindingResult, h₁, h₂, h₃] at hres
        cases hres
  | connected r rest port t out u h hc hr hrec =>
    cases createRecord_outcome hrec with
    | threw err u _ h =>
      obtain ⟨n, -, hn⟩ := h
      obtain ⟨ep, hep⟩ := hq .clientRemote n
      cases hn.symm.trans hep
    | recorded => exact ⟨_, rfl⟩

theorem init_transcript (e : Env) (s : SessionState) (hq : ∀ q n, ∃ ep, e.endpoint q n = .ok ep) :
    ∃ b t acts, (init e).run s = (.ok b, t) ∧ t.trace = s.trace ++ acts ∧
      Transcript e s acts b t := by
  obtain ⟨b, t, hrun, hopen⟩ := opening_cases e s
  obtain ⟨acts, first, status, htrace, hacts, hwrites⟩ := opening_writes hopen
  cases b with
  | false =>
    exact ⟨false, t, acts, by rw [init_run, hrun], htrace, opening_transcript hacts hwrites⟩
  | true =>
    obtain ⟨out, u, hcrun, hcmd⟩ := command_cases e t
    obtain ⟨b, rfl⟩ := command_ok hq hcmd
    obtain ⟨acts', htrace', hcw⟩ := command_writes hcmd
    exact ⟨b, u, acts ++ acts', by rw [init_run, hrun]; exact hcrun,
      by rw [htrace', htrace, List.append_assoc], command_transcript hacts hwrites hcw⟩

theorem init_transcript_bob : ∃ t acts,
    (init (Env.permissive true [([98, 111, 98], [112, 119])])).run { input := bobStream } =
      (.ok true, t) ∧ t.trace = acts ∧ Transcript (Env.permissive true [([98, 111, 98], [112, 119])])
        { input := bobStream } acts true t := by
  obtain ⟨b, t, acts, hrun, htrace, htr⟩ := init_transcript
    (Env.permissive true [([98, 111, 98], [112, 119])]) { input := bobStream } (fun _ _ => ⟨_, rfl⟩)
  have hb : b = true := by
    have h : ((init (Env.permissive true [([98, 111, 98], [112, 119])])).run
      { input := bobStream }).1 = .ok true := by decide
    rw [hrun] at h
    exact Except.ok.inj h
  subst hb
  exact ⟨t, acts, hrun, htrace, htr⟩

end SocksProxy.ReplyTranscript
