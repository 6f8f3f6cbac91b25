import SocksProxy.ReplyTranscript
import SocksProxy.SocksFourRuns

namespace SocksProxy.DeliveredReplies

open StatefulPrograms FieldParsing HandshakeGrammar SocksFiveRuns SocksFourRuns OutwardActions
open AcceptanceGrammar ReplyTranscript

structure Backed (success : Bytes → Prop) (out : Except SystemError Bool) (acts : List Action) : Prop where
  delivered : out = .ok true ∨ records acts ≠ [] → ∃ m, (m, none) ∈ clientWrites acts ∧ success m
  refused : (∃ m err, (m, some err) ∈ clientWrites acts) → out = .ok false ∧ records acts = []

def Backs (init : Handshake Bool) (success : Bytes → Prop) (s : SessionState) : Prop :=
  ∃ out t acts, init.run s = (out, t) ∧ t.trace = s.trace ++ acts ∧ Backed success out acts

def Granted (m : Bytes) : Prop := m = replyMessage none

namespace Backed

variable {success : Bytes → Prop} {out : Except SystemError Bool} {acts : List Action}

theorem stopped (hr : records acts = []) : Backed success (.ok false) acts := by
  refine ⟨?_, fun _ => ⟨rfl, hr⟩⟩
  rintro (h | h)
  · cases h
  · exact absurd hr h

theorem silent (ho : out ≠ .ok true) (hr : records acts = []) (hw : ∀ w ∈ clientWrites acts, w.2 = none) :
    Backed success out acts := by
  constructor
  · rintro (h | h)
    · exact absurd h ho
    · exact absurd hr h
  · rintro ⟨m, err, hm⟩
    cases hw _ hm

theorem answered {m : Bytes} (hm : (m, none) ∈ clientWrites acts) (hs : success m)
    (hw : ∀ w ∈ clientWrites acts, w.2 = none) : Backed success out acts := by
  refine ⟨fun _ => ⟨m, hm, hs⟩, ?_⟩
  rintro ⟨m', err, hm'⟩
  cases hw _ hm'

end Backed

theorem answer_backed (e : Env) (s : SessionState) : Backs (answer e) Granted s := by
  obtain ⟨out, t, hrun, hcases⟩ := answer_cases e s
  refine ⟨out, t, ?_⟩
  cases hcases with
  | connectThrew err t hr =>
    obtain ⟨acts, hquiet⟩ := connect_quiet hr
    exact ⟨acts, hrun, hquiet.trace, .silent (by simp) hquiet.noRecords (by simp [hquiet.noWrites])⟩
  | refused port ec t hr h =>
    obtain ⟨acts, hquiet⟩ := connect_quiet hr
    refine ⟨acts ++ [.write (replyMessage ec) (e.writeClient t.writes)], hrun, ?_, .stopped ?_⟩
    · simp [bound4, hquiet.trace]
    · simp [hquiet.noRecords]
  | granted port t out u hr hw hrec =>
    obtain ⟨acts, hquiet⟩ := connect_quiet hr
    obtain ⟨post, hpost, hsilent, -⟩ := recording_tail (createRecord_outcome hrec)
    have hwrites : clientWrites (acts ++ .write (replyMessage none) none :: post) = [(replyMessage none, none)] := by
      simp [hquiet.noWrites, hsilent]
    refine ⟨acts ++ .write (replyMessage none) none :: post, hrun, ?_, .answered (m := replyMessage none) ?_ rfl ?_⟩
    · simp [hpost, bound4, hquiet.trace, hw]
    · simp [hwrites]
    · simp [hwrites]

theorem init4_backed (e : Env) (s : SessionState) : Backs (Socks4.init e) Granted s := by
  rcases hp : request4 s.input with _ | ⟨r, rest⟩
  · obtain ⟨left, x, hrun⟩ := init_malformed (e := e) hp
    exact ⟨.ok false, _, [], hrun, by simp, .stopped rfl⟩
  · obtain ⟨out, t, acts, hrun, htrace, hbacked⟩ := answer_backed e (requested4 s r rest)
    exact ⟨out, t, acts, (init_complete hp).trans hrun, htrace, hbacked⟩

def replyNumber (e : Env) : ℕ := if e.authFlag then 2 else 1

theorem opening_passes {e : Env} {s t : SessionState} (h : Opening e s true t) :
    t.writes = s.writes + replyNumber e ∧ (∀ n < replyNumber e, e.writeClient (s.writes + n) = none) ∧
      ∃ acts, t.trace = s.trace ++ acts ∧ records acts = [] ∧
        ∀ w ∈ clientWrites acts, w.2 = none ∧ w.1.length = 2 := by
  generalize hb : true = b at h
  cases h with
  | refused => cases hb
  | methodLost => cases hb
  | unread => cases hb
  | unauthenticated methods rest hg hw ha =>
    rw [replyNumber, ha]
    refine ⟨rfl, ?_, [_], rfl, rfl, ?_⟩
    · intro n hn
      obtain rfl : n = 0 := by simpa using hn
      exact hw
    · simp [hw, methodMessage]
  | answered methods rest c left hg hw ha hc =>
    have hstatus := Option.isNone_iff_eq_none.mp (Bool.and_eq_true_iff.mp hb.symm).1
    rw [replyNumber, ha]
    refine ⟨rfl, ?_, [.write (methodMessage (Socks5.getServerMethod e)) (e.writeClient s.writes),
      .write (statusMessage e c) (e.writeClient (s.writes + 1))], by simp, rfl, ?_⟩
    · intro n hn
      obtain rfl | rfl : n = 0 ∨ n = 1 := by
        simp only [if_true] at hn
        omega
      · exact hw
      · exact hstatus
    · simp [hw, hstatus, methodMessage, statusMessage]

theorem opening_stops {e : Env} {s t : SessionState} (h : Opening e s false t) :
    (∃ acts, t.trace = s.trace ++ acts ∧ records acts = []) ∧
      ∀ methods mid l left, greeting e s.input = some (methods, mid) → login e mid = some (l, left) →
        ∃ n < replyNumber e, e.writeClient (s.writes + n) ≠ none := by
  generalize hb : false = b at h
  cases h with
  | refused left h =>
    refine ⟨⟨[_], rfl, rfl⟩, ?_⟩
    intro methods mid l left' hg
    rw [h] at hg
    cases hg
  | methodLost methods rest h hw =>
    refine ⟨⟨[_], rfl, rfl⟩, ?_⟩
    intro _ _ _ _ _ _
    refine ⟨0, ?_, hw⟩
    unfold replyNumber
    split_ifs <;> decide
  | unauthenticated => cases hb
  | unread methods rest left h hw ha hc =>
    refine ⟨⟨[_], rfl, rfl⟩, ?_⟩
    intro methods' mid l left' hg hl
    obtain ⟨rfl, rfl⟩ := Prod.mk.inj (Option.some.inj (h.symm.trans hg))
    simp [login, ha, bind_apply, hc] at hl
  | answered methods rest c left h hw ha hc =>
    refine ⟨⟨[.write (methodMessage (Socks5.getServerMethod e)) (e.writeClient s.writes),
      .write (statusMessage e c) (e.writeClient (s.writes + 1))], by simp, rfl⟩, ?_⟩
    intro methods' mid l left' hg hl
    obtain ⟨rfl, rfl⟩ := Prod.mk.inj (Option.some.inj (h.symm.trans hg))
    have hu : Socks.hasUser e c.uname c.passwd = true := by
      simp only [login, ha, ↓reduceIte, bind_apply, hc, Option.bind_some, require_apply] at hl
      rw [hasUser_iff]
      by_contra hne
      simp [hne] at hl
    refine ⟨1, by simp [replyNumber, ha], ?_⟩
    rw [hu, Bool.and_true] at hb
    exact Option.isSome_iff_ne_none.mp (by simpa using hb.symm)

def Connects (e : Env) (s : SessionState) : Prop :=
  ∃ r rest, request s.input = some (r, rest) ∧ r.cmd = Cmd.connect.code ∧
    Reaches e s r.text (Socks.service r.port)

inductive CommandReply (e : Env) (s : SessionState) (out : Except SystemError Bool)
    (acts : List Action) : Prop
  | refused (h : ¬Connects e s) (hr : records acts = [])
    (ho : out = .ok false ∨ (out ≠ .ok true ∧ clientWrites acts = []))
  | served (h : Connects e s) (m : Bytes) (hw : clientWrites acts = [(m, e.writeClient s.writes)])
    (hm : IsReply Socks5.Rep.succeeded.code m) (ho : out ≠ .ok false)

theorem not_connects {e : Env} {s : SessionState} {r : HandshakeGrammar.Request} {rest : Bytes}
    (h : request s.input = some (r, rest)) (hno : ¬Reaches e s r.text (Socks.service r.port)) :
    ¬Connects e s := by
  rintro ⟨r', rest', hr', -, hreach⟩
  obtain ⟨rfl, rfl⟩ := Prod.mk.inj (Option.some.inj (h.symm.trans hr'))
  exact hno hreach

theorem not_reaches {e : Env} {s u t : SessionState} {host service : Bytes}
    {out : Except SystemError (UInt16 × Option ErrorCode)}
    (hr : (TcpSession.connect e host service).run u = (out, t)) (hq : u.queries = s.queries)
    (ho : ∀ port, out ≠ .ok (port, none)) :
    ¬Reaches e s host service := by
  intro hreach
  obtain ⟨port, t', hr'⟩ := (reaches_congr hq host service).mpr hreach
  exact ho port (congrArg Prod.fst (hr.symm.trans hr'))

theorem command_reply {e : Env} {s t : SessionState} {out : Except SystemError Bool}
    (h : Command e s out t) : ∃ acts, t.trace = s.trace ++ acts ∧ CommandReply e s out acts := by
  cases h with
  | unparsed t h ht =>
    have hno : ¬Connects e s := by
      rintro ⟨r, rest, hr, -⟩
      rw [h] at hr
      cases hr
    cases ht with
    | badVersion left h => exact ⟨[_], rfl, .refused hno rfl (.inl rfl)⟩
    | badType cmd rsv atyp left x h hs => exact ⟨[_], rfl, .refused hno rfl (.inl rfl)⟩
    | dropped left x h hs => exact ⟨[], by simp, .refused hno rfl (.inl rfl)⟩
  | unsupported r rest h hc =>
    refine ⟨[_], rfl, .refused ?_ rfl (.inl rfl)⟩
    rintro ⟨r', rest', hr', hc', -⟩
    obtain ⟨rfl, rfl⟩ := Prod.mk.inj (Option.some.inj (h.symm.trans hr'))
    exact hc hc'
  | connectThrew r rest err t h hc hr =>
    obtain ⟨acts, hquiet⟩ := connect_quiet hr
    have hno := not_connects h (not_reaches hr (by rfl) (by simp))
    exact ⟨acts, hquiet.trace, .refused hno hquiet.noRecords (.inr ⟨by simp, hquiet.noWrites⟩)⟩
  | connectFailed r rest port err t h hc hr =>
    obtain ⟨acts, hquiet⟩ := connect_quiet hr
    have hno := not_connects h (not_reaches hr (by rfl) (by simp))
    have htrace : t.trace = s.trace ++ acts := hquiet.trace
    refine ⟨acts ++ [.write (Socks5.errorResponse (Socks5.replyFor (some err))) (e.writeClient t.writes)], ?_,
      .refused hno ?_ (.inl rfl)⟩
    · simp [bound, htrace]
    · simp [hquiet.noRecords]
  | connected r rest port t out u h hc hr hrec =>
    obtain ⟨acts, hquiet⟩ := connect_quiet hr
    obtain ⟨post, hpost, hsilent, -⟩ := recording_tail (createRecord_outcome hrec)
    have hatyp : t.socks.atyp = r.atyp := by
      rw [hquiet.socks]
      rfl
    have hwrites : t.writes = s.writes := hquiet.count
    have htrace : t.trace = s.trace ++ acts := hquiet.trace
    have hconnects : Connects e s :=
      ⟨r, rest, h, hc, (reaches_congr (s := requested s r rest) (t := s) rfl _ _).mp ⟨port, t, hr⟩⟩
    refine ⟨acts ++ .write (Socks5.commandResponse r.atyp port) (e.writeClient s.writes) :: post, ?_,
      .served hconnects _ ?_ (isReply_commandResponse (request_supported h) port) ?_⟩
    · simp [hpost, bound, htrace, hatyp, hwrites]
    · simp [hquiet.noWrites, hsilent]
    · cases out <;> simp [Except.map]

structure LostReply (e : Env) (s : SessionState) : Prop where
  reached : ∃ l r rest, handshake e s.input = some ((l, r), rest) ∧ Reaches e s r.text (Socks.service r.port)
  before : ∀ n < replyNumber e, e.writeClient (s.writes + n) = none
  lost : e.writeClient (s.writes + replyNumber e) ≠ none

theorem handshake_connects {e : Env} {s t : SessionState} (h : Opening e s true t) :
    (∃ l r rest, handshake e s.input = some ((l, r), rest) ∧ Reaches e s r.text (Socks.service r.port)) ↔
      Connects e t := by
  obtain ⟨methods, mid, l, hg, hl, hq, -⟩ := opening_true h
  constructor
  · rintro ⟨l', r, rest, hparse, hreach⟩
    obtain ⟨methods', mid', left, hg', hl', hr, hc⟩ := handshake_eq_some.mp hparse
    obtain ⟨rfl, rfl⟩ := Prod.mk.inj (Option.some.inj (hg.symm.trans hg'))
    obtain ⟨rfl, rfl⟩ := Prod.mk.inj (Option.some.inj (hl.symm.trans hl'))
    exact ⟨r, rest, hr, hc, (reaches_congr hq _ _).mpr hreach⟩
  · rintro ⟨r, rest, hr, hc, hreach⟩
    exact ⟨l, r, rest, handshake_eq_some.mpr ⟨methods, mid, t.input, hg, hl, hr, hc⟩,
      (reaches_congr hq _ _).mp hreach⟩

theorem connected_backed_iff {e : Env} {s : SessionState} {out : Except SystemError Bool}
    {acts acts' : List Action} (hr : records acts = []) (hw : ∀ w ∈ clientWrites acts, w.2 = none)
    (h : CommandReply e s out acts') : Backed (IsReply Socks5.Rep.succeeded.code) out (acts ++ acts') ↔
      ¬(Connects e s ∧ e.writeClient s.writes ≠ none) := by
  cases h with
  | refused h hr' ho =>
    refine iff_of_true ?_ fun hlost => h hlost.1
    have hnone : records (acts ++ acts') = [] := by rw [records_append, hr, hr']; rfl
    rcases ho with rfl | ⟨ho, hsilent⟩
    · exact .stopped hnone
    · exact .silent ho hnone (by simpa [hsilent] using hw)
  | served h m hw' hm ho =>
    have hmem : (m, e.writeClient s.writes) ∈ clientWrites (acts ++ acts') := by
      rw [clientWrites_append, hw']
      exact List.mem_append_right _ (List.mem_singleton_self _)
    constructor
    · rintro hbacked ⟨-, hlost⟩
      obtain ⟨err, herr⟩ := Option.ne_none_iff_exists'.mp hlost
      rw [herr] at hmem
      exact ho (hbacked.refused ⟨m, err, hmem⟩).1
    · intro hlost
      have hnone : e.writeClient s.writes = none := by
        by_contra hne
        exact hlost ⟨h, hne⟩
      rw [hnone] at hmem hw'
      refine .answered hmem hm ?_
      intro w hmw
      rw [clientWrites_append, hw', List.mem_append, List.mem_singleton] at hmw
      rcases hmw with hmw | rfl
      · exact hw w hmw
      · rfl

theorem init5_backed_iff (e : Env) (s : SessionState) :
    Backs (Socks5.init e) (IsReply Socks5.Rep.succeeded.code) s ↔ ¬LostReply e s := by
  obtain ⟨b, t, hrun, hopen⟩ := opening_cases e s
  cases b with
  | false =>
    obtain ⟨⟨acts, htrace, hr⟩, hstop⟩ := opening_stops hopen
    refine iff_of_true ⟨.ok false, t, acts, by rw [init_run, hrun], htrace, .stopped hr⟩ ?_
    rintro ⟨⟨l, r, rest, hparse, -⟩, hbefore, -⟩
    obtain ⟨methods, mid, left, hg, hl, -⟩ := handshake_eq_some.mp hparse
    obtain ⟨n, hn, hne⟩ := hstop methods mid l left hg hl
    exact hne (hbefore n hn)
  | true =>
    obtain ⟨hcount, hbefore, acts, htrace, hr, hw⟩ := opening_passes hopen
    obtain ⟨out, u, hcrun, hcommand⟩ := command_cases e t
    obtain ⟨acts', htrace', hreply⟩ := command_reply hcommand
    have hinit : (Socks5.init e).run s = (out, u) := by
      rw [init_run, hrun]
      exact hcrun
    have hall : u.trace = s.trace ++ (acts ++ acts') := by
      rw [htrace', htrace, List.append_assoc]
    have hbacked := connected_backed_iff hr (fun w hm => (hw w hm).1) hreply
    rw [hcount] at hbacked
    have hlost : LostReply e s ↔ Connects e t ∧ e.writeClient (s.writes + replyNumber e) ≠ none :=
      ⟨fun h => ⟨(handshake_connects hopen).mp h.reached, h.lost⟩,
        fun h => ⟨(handshake_connects hopen).mpr h.1, hbefore, h.2⟩⟩
    rw [hlost, ← hbacked]
    constructor
    · rintro ⟨out', u', acts₀, hrun', htrace₀, hback⟩
      obtain ⟨rfl, rfl⟩ := Prod.mk.inj (hinit.symm.trans hrun')
      rwa [List.append_cancel_left (hall.symm.trans htrace₀)]
    · intro hback
      exact ⟨out, u, acts ++ acts', hinit, hall, hback⟩

theorem backed_iff (e : Env) (s : SessionState) : Backs (Socks4.init e) Granted s ∧
    (Backs (Socks5.init e) (IsReply Socks5.Rep.succeeded.code) s ↔ ¬LostReply e s) :=
  ⟨init4_backed e s, init5_backed_iff e s⟩

def goneEnv : Env :=
  { Env.permissive true [([98, 111, 98], [112, 119])] with
    writeClient := fun n => if n = 2 then some .connectionAborted else none }

theorem lost_reply_recorded : ((Socks5.init goneEnv).run { input := bobStream }).1 = .ok true ∧
    (records ((Socks5.init goneEnv).run { input := bobStream }).2.trace).length = 1 ∧
    ¬Backs (Socks5.init goneEnv) (IsReply Socks5.Rep.succeeded.code) { input := bobStream } := by
  have htrue : ((Socks5.init goneEnv).run { input := bobStream }).1 = .ok true := by decide
  have hfailed : ([5, 0, 0, 1, 0, 0, 0, 0, 0, 56], some .connectionAborted) ∈
      clientWrites ((Socks5.init goneEnv).run { input := bobStream }).2.trace := by decide
  refine ⟨htrue, by decide, ?_⟩
  rintro ⟨out, t, acts, hrun, htrace, hbacked⟩
  rw [hrun] at htrue hfailed
  rw [htrace] at hfailed
  have hfalse := (hbacked.refused ⟨_, _, hfailed⟩).1
  cases htrue.symm.trans hfalse

end SocksProxy.DeliveredReplies
