import SocksProxy.RelayFidelity

namespace SocksProxy.StreamEnds

open TransitionSystems RelaySession RelayLedgers RelayFidelity

def Smooth : RelayEvent → Prop
  | .readError _ err => err = .eof
  | .dispatch _ o => o = .whole
  | _ => True

def Orderly (bufferSize : ℕ) (s : RelaySession) : Prop :=
  s.isClosed = false → ∀ d c, (s.peer d).read = .ready c →
    (c = ⟨some .eof, 0⟩ ∧ (s.peer d).incoming = []) ∨
    (c.error = none ∧ (c.bytes_transferred = 0 → bufferSize = 0))

theorem Orderly.frame {bufferSize : ℕ} {s t : RelaySession} {d : Side} (h : Orderly bufferSize s)
    (hclosed : t.isClosed = s.isClosed)
    (hd : ∀ c, (t.peer d).read = .ready c → (c = ⟨some .eof, 0⟩ ∧ (t.peer d).incoming = []) ∨
      (c.error = none ∧ (c.bytes_transferred = 0 → bufferSize = 0)))
    (hother : (t.peer d.other).read = (s.peer d.other).read ∧
      (t.peer d.other).incoming = (s.peer d.other).incoming) : Orderly bufferSize t := by
  intro hc e c hread
  rcases eq_or_eq_other d e with rfl | rfl
  · exact hd c hread
  · rw [hother.1] at hread
    rw [hother.2]
    exact h (hclosed ▸ hc) d.other c hread

inductive SmoothDispatch (d : Side) (s : RelaySession) : RelaySession → Prop
  | ended (c : Completion) (hready : (s.peer d).read = .ready c) (h : c.error.isSome ∨ c.bytes_transferred = 0) :
    SmoothDispatch d s (s.popped d).close.1
  | forwarded (bytes : Bytes) : SmoothDispatch d s (((s.popped d).delivered d.other bytes).startRead d)

theorem dispatch_smooth {d : Side} {s t : RelaySession} {effects : List Effect}
    (hopen : (s.peer d.other).isOpen = true) (h : s.dispatch d .whole = some (t, effects)) :
    SmoothDispatch d s t := by
  rw [dispatch] at h
  split at h
  case h_1 c hready =>
    rw [handler_eq, Option.some.injEq] at h
    obtain rfl : (handle d c .whole (s.popped d)).1 = t := congrArg Prod.fst h
    by_cases herr : c.error.isSome
    · rw [handle, if_pos herr]
      exact .ended c hready (.inl herr)
    by_cases hn : c.bytes_transferred > 0
    · have hother : ((s.popped d).peer d.other).isOpen = true := by
        rw [popped, peer_setPeer_other]
        exact hopen
      rw [handle, if_neg herr, if_pos hn, writeToSocket, sent, if_pos hother]
      exact .forwarded _
    · rw [handle, if_neg herr, if_neg hn]
      exact .ended c hready (.inr (by omega))
  case h_2 => cases h

theorem kept_forwarded (s : RelaySession) (d : Side) (bytes : Bytes) :
    Kept s (((s.popped d).delivered d.other bytes).startRead d) := by
  exact ((kept_popped s d).trans (kept_delivered _ _ _)).trans (kept_startRead _ _)

theorem orderly_dispatch {bufferSize : ℕ} {d : Side} {s t : RelaySession} (h : Orderly bufferSize s)
    (hd : SmoothDispatch d s t) : Orderly bufferSize t := by
  cases hd with
  | ended c hready hend =>
    intro hclosed
    rw [close_isClosed] at hclosed
    cases hclosed
  | forwarded bytes =>
    refine h.frame (d := d) (kept_forwarded s d bytes).isClosed ?_ ?_
    · intro c hread
      rw [startRead] at hread
      split_ifs at hread
      · simp at hread
      · rw [delivered_peer_other, popped, peer_setPeer] at hread
        cases hread
    · rw [startRead]
      split_ifs
      · simp [delivered, popped]
      · simp [delivered, popped]

theorem closed_step {payload : Side → Bytes} {bufferSize : ℕ} {r r' : Relay} {e : RelayEvent}
    (hinv : Inv payload r) (hclosed : r.session.isClosed = true) (hs : relayStep bufferSize r e = some r') :
    r'.session.isClosed = true ∧ ∀ d, written r'.trace d = written r.trace d := by
  rcases relayStep_cases hs with ⟨d, o, effects, -, hd, htrace⟩ | ⟨hkept, htrace⟩
  · rw [htrace]
    obtain ⟨c, hready, hcases⟩ := dispatch_cases hd
    have hshut : ((r.session.popped d).peer d.other).isOpen = false := by
      rw [popped, peer_setPeer_other, (hinv.flow d.other).socket, hclosed]
      rfl
    generalize r'.session = s at hcases
    cases hcases with
    | ended hend =>
      refine ⟨close_isClosed _, fun e => ?_⟩
      rw [written_append, (silent_close _).written, List.append_nil]
    | forwarded bytes hc hn hopen hb =>
      rw [hshut] at hopen
      cases hopen
    | lost bytes hc hn hb hnone =>
      refine ⟨close_isClosed _, fun e => ?_⟩
      rw [hnone hshut]
      simp [(silent_close _).written]
  · rw [htrace]
    exact ⟨hkept.isClosed.trans hclosed, fun _ => rfl⟩

theorem orderly_step {payload : Side → Bytes} {bufferSize : ℕ} {r r' : Relay} {e : RelayEvent}
    (hinv : Inv payload r) (h : Orderly bufferSize r.session) (he : Smooth e)
    (hs : relayStep bufferSize r e = some r') : Orderly bufferSize r'.session := by
  cases e with
  | transfer d size =>
    obtain ⟨s, ht, rfl⟩ := Option.map_eq_some_iff.mp hs
    obtain ⟨⟨-, -, -, hzero⟩, rfl⟩ := transfer_eq_some.mp ht
    refine h.frame (d := d) (by simp) (fun c hread => .inr ?_) (by simp)
    simp only [peer_setPeer, ReadOp.ready.injEq] at hread
    subst hread
    exact ⟨rfl, hzero⟩
  | readError d err =>
    obtain ⟨s, ht, rfl⟩ := Option.map_eq_some_iff.mp hs
    obtain ⟨⟨-, hend⟩, rfl⟩ := readError_eq_some.mp ht
    obtain rfl : err = .eof := he
    refine h.frame (d := d) (by simp) (fun c hread => .inl ?_) (by simp)
    simp only [peer_setPeer, ReadOp.ready.injEq] at hread ⊢
    exact ⟨hread.symm, hend rfl⟩
  | serverRead =>
    rw [relayStep] at hs
    split_ifs at hs with hf
    cases hs
    have hidle := hinv.fresh (by simpa using hf)
    refine h.frame (d := .server) (kept_startRead _ _).isClosed ?_ ?_
    · intro c hread
      rw [serverRead, startRead] at hread
      split_ifs at hread
      · simp at hread
      · rw [hidle] at hread
        cases hread
    · rw [serverRead, startRead]
      split_ifs
      · exact ⟨rfl, rfl⟩
      · exact ⟨rfl, rfl⟩
  | dispatch d o =>
    obtain rfl : o = .whole := he
    obtain ⟨⟨s, effects⟩, hd, rfl⟩ := Option.map_eq_some_iff.mp hs
    cases hclosed : r.session.isClosed with
    | false =>
      have hopen : (r.session.peer d.other).isOpen = true := by
        rw [(hinv.flow d.other).socket, hclosed]
        rfl
      exact orderly_dispatch h (dispatch_smooth hopen hd)
    | true =>
      intro hlive
      rw [(closed_step hinv hclosed hs).1] at hlive
      cases hlive

theorem orderly_run {bufferSize : ℕ} {id : Int64} {payload : Side → Bytes} {es : List RelayEvent} {r : Relay}
    (hrun : (machine bufferSize).run (relaying bufferSize id payload) es = some r)
    (hsmooth : ∀ e ∈ es, Smooth e) : Orderly bufferSize r.session := by
  have hkeeps : ∀ s f t, (Inv payload s ∧ Orderly bufferSize s.session) → Smooth f →
      (machine bufferSize).step s f = some t → (Inv payload t ∧ Orderly bufferSize t.session) := by
    rintro s f t ⟨hi, ho⟩ hf hst
    exact ⟨inv_step hi hst, orderly_step hi ho hf hst⟩
  have hstart : Orderly bufferSize (relaying bufferSize id payload).session := by
    intro _ d c hread
    cases d <;> cases hread
  exact (Machine.invariant_events hkeeps ⟨inv_relaying bufferSize id payload, hstart⟩ hsmooth hrun).2

theorem closed_run {payload : Side → Bytes} {bufferSize : ℕ} {r r' : Relay} {es : List RelayEvent}
    (hinv : Inv payload r) (hclosed : r.session.isClosed = true)
    (hrun : (machine bufferSize).run r es = some r') :
    r'.session.isClosed = true ∧ ∀ d, (r'.session.peer d).outgoing = (r.session.peer d).outgoing := by
  have hkeeps : ∀ u e v, (Inv payload u ∧ u.session.isClosed = true ∧ ∀ d, written u.trace d = written r.trace d) →
      (machine bufferSize).step u e = some v →
      (Inv payload v ∧ v.session.isClosed = true ∧ ∀ d, written v.trace d = written r.trace d) := by
    rintro u e v ⟨hu, hc, hw⟩ hs
    obtain ⟨hc', hw'⟩ := closed_step hu hc hs
    exact ⟨inv_step hu hs, hc', fun d => (hw' d).trans (hw d)⟩
  obtain ⟨hinv', hclosed', hwritten⟩ := Machine.invariant hkeeps ⟨hinv, hclosed, fun _ => rfl⟩ hrun
  refine ⟨hclosed', fun d => ?_⟩
  rw [(hinv'.flow d).outgoing, (hinv.flow d).outgoing, hwritten]

def Ends (d : Side) (s : RelaySession) : Prop := (s.peer d).read = .ready ⟨some .eof, 0⟩

theorem dispatch_end {d : Side} {s : RelaySession} (h : Ends d s) (o : WriteOutcome) :
    s.dispatch d o = some (s.popped d).close := by
  have hready : (s.peer d).read = .ready ⟨some .eof, 0⟩ := h
  rw [dispatch, hready, handler_eq]
  rfl

theorem ended_step (bufferSize : ℕ) {d : Side} {u : Relay} (h : Ends d u.session) (o : WriteOutcome) :
    ∃ v, relayStep bufferSize u (.dispatch d o) = some v ∧ v.session.isClosed = true := by
  rw [relayStep, dispatch_end h]
  exact ⟨_, rfl, close_isClosed _⟩

theorem ended_run {bufferSize : ℕ} {id : Int64} {payload : Side → Bytes} {pre post : List RelayEvent} {d : Side}
    {o : WriteOutcome} {u r : Relay} (hpre : (machine bufferSize).run (relaying bufferSize id payload) pre = some u)
    (hrun : (machine bufferSize).run (relaying bufferSize id payload) (pre ++ .dispatch d o :: post) = some r)
    (h : Ends d u.session) : r.session.isClosed = true := by
  obtain ⟨v, hs, hclosed⟩ := ended_step bufferSize h o
  have hstep : (machine bufferSize).step u (.dispatch d o) = some v := hs
  rw [Machine.run_append_of _ hpre, Machine.run_cons_of (machine bufferSize) hstep] at hrun
  exact (closed_run (inv_step (inv_run hpre) hs) hclosed hrun).1

def left (p : Peer) : Bytes := arrived p ++ p.incoming

theorem left_live {payload : Side → Bytes} {r : Relay} (hinv : Inv payload r)
    (hlive : r.session.isClosed = false) (d : Side) :
    (r.session.peer d.other).outgoing ++ left (r.session.peer d) = payload d := by
  rw [(hinv.flow d.other).outgoing, (hinv.flow d).ledger.exact (hinv.unfailed hlive), left,
    ← List.append_assoc, (hinv.flow d).live hlive]

theorem closing_event {bufferSize : ℕ} {r r' : Relay} {e : RelayEvent} (hlive : r.session.isClosed = false)
    (hclosed : r'.session.isClosed = true) (hs : relayStep bufferSize r e = some r') :
    ∃ d o effects, e = .dispatch d o ∧ r.session.dispatch d o = some (r'.session, effects) := by
  rcases relayStep_cases hs with ⟨d, o, effects, he, hd, -⟩ | ⟨hkept, -⟩
  · exact ⟨d, o, effects, he, hd⟩
  · rw [hkept.isClosed, hlive] at hclosed
    cases hclosed

theorem outgoing_close_popped (s : RelaySession) (d e : Side) :
    ((s.popped d).close.1.peer e).outgoing = (s.peer e).outgoing := by
  have hpopped : ((s.popped d).peer e).outgoing = (s.peer e).outgoing := by
    rcases eq_or_eq_other d e with rfl | rfl
    · simp [popped]
    · simp [popped]
  rcases close_peer (s.popped d) e with hp | hp
  · rw [hp, hpopped]
  · rw [hp, closeSocket, hpopped]

theorem closing_handler {payload : Side → Bytes} {u : Relay} {t : RelaySession} {d : Side} {effects : List Effect}
    (hinv : Inv payload u) (hlive : u.session.isClosed = false)
    (hd : u.session.dispatch d .whole = some (t, effects)) (hclosed : t.isClosed = true) :
    ∃ c, (u.session.peer d).read = .ready c ∧ (c.error.isSome ∨ c.bytes_transferred = 0) ∧
      t = (u.session.popped d).close.1 := by
  have hopen : (u.session.peer d.other).isOpen = true := by
    rw [(hinv.flow d.other).socket, hlive]
    rfl
  cases dispatch_smooth hopen hd with
  | ended c hready hend => exact ⟨c, hready, hend, rfl⟩
  | forwarded bytes =>
    rw [(kept_forwarded u.session d bytes).isClosed, hlive] at hclosed
    cases hclosed

theorem smooth_close {bufferSize : ℕ} {id : Int64} {payload : Side → Bytes} {es : List RelayEvent} {r : Relay}
    (hrun : (machine bufferSize).run (relaying bufferSize id payload) es = some r)
    (hsmooth : ∀ e ∈ es, Smooth e) :
    (∀ pre d post u, es = pre ++ .dispatch d .whole :: post →
      (machine bufferSize).run (relaying bufferSize id payload) pre = some u → Ends d u.session →
      ∃ v, (machine bufferSize).run (relaying bufferSize id payload) (pre ++ [.dispatch d .whole]) = some v ∧
        v.session.isClosed = true ∧ r.session.isClosed = true) ∧
    (r.session.isClosed = true → ∃ pre d post u v, es = pre ++ .dispatch d .whole :: post ∧
      (machine bufferSize).run (relaying bufferSize id payload) pre = some u ∧ u.session.isClosed = false ∧
      (machine bufferSize).run (relaying bufferSize id payload) (pre ++ [.dispatch d .whole]) = some v ∧
      v.session.isClosed = true ∧
      (∀ pre' e post' w, pre = pre' ++ .dispatch e .whole :: post' →
        (machine bufferSize).run (relaying bufferSize id payload) pre' = some w → ¬Ends e w.session) ∧
      (∀ e, (r.session.peer e.other).outgoing ++ left (u.session.peer e) = payload e) ∧
      (0 < bufferSize → Ends d u.session ∧ left (u.session.peer d) = [])) := by
  constructor
  · rintro pre d post u rfl hpre hend
    obtain ⟨v, hs, hv⟩ := ended_step bufferSize hend .whole
    exact ⟨v, Machine.run_concat_of _ hpre hs, hv, ended_run hpre hrun hend⟩
  intro hclosed
  obtain ⟨pre, e, post, u, v, rfl, hpre, hu, hs, hv, hpost⟩ :=
    Machine.entry (p := fun r : Relay => r.session.isClosed = true) (by simp [relaying]) hclosed hrun
  have hlive : u.session.isClosed = false := by simpa using hu
  have hinv : Inv payload u := inv_run hpre
  have horderly : Orderly bufferSize u.session :=
    orderly_run hpre fun f hf => hsmooth f (List.mem_append_left _ hf)
  obtain ⟨d, o, effects, rfl, hd⟩ := closing_event hlive hv hs
  obtain rfl : o = .whole := hsmooth _ (List.mem_append_right pre List.mem_cons_self)
  obtain ⟨c, hready, hend, ht⟩ := closing_handler hinv hlive hd hv
  have hinv' : Inv payload v := inv_step hinv (show relayStep bufferSize u (.dispatch d .whole) = some v from hs)
  have houtgoing : ∀ e, (r.session.peer e).outgoing = (u.session.peer e).outgoing := by
    intro e
    rw [(closed_run hinv' hv hpost).2 e, ht]
    exact outgoing_close_popped _ _ _
  refine ⟨pre, d, post, u, v, rfl, hpre, hlive, Machine.run_concat_of _ hpre hs, hv, ?_, fun e => ?_, fun hsize => ?_⟩
  · rintro pre' e post' w rfl hpre' hend
    have hshut : u.session.isClosed = true := ended_run hpre' hpre hend
    rw [hlive] at hshut
    cases hshut
  · rw [houtgoing, left_live hinv hlive]
  · rcases horderly hlive d c hready with ⟨rfl, hincoming⟩ | ⟨hnone, hzero⟩
    · refine ⟨hready, ?_⟩
      rw [left, arrived, hready, hincoming]
      rfl
    · rcases hend with herr | hz
      · rw [hnone] at herr
        cases herr
      · have hsize' := hzero hz
        omega

def oneSided : Side → Bytes
  | .client => []
  | .server => [7]

def patient : List RelayEvent :=
  [.serverRead, .transfer .server 1, .dispatch .server .whole, .readError .client .eof, .dispatch .client .whole]

def hasty : List RelayEvent := [.serverRead, .readError .client .eof, .dispatch .client .whole]

theorem smooth_close_patient : ∃ r, (machine 2).run (relaying 2 5 oneSided) patient = some r ∧
    ∃ d, (r.session.peer d.other).outgoing = oneSided d := by
  obtain ⟨r, hrun, hclosed⟩ : ∃ r, (machine 2).run (relaying 2 5 oneSided) patient = some r ∧
      r.session.isClosed = true := ⟨_, rfl, rfl⟩
  have hsmooth : ∀ e ∈ patient, Smooth e := by
    intro e he
    simp only [patient, List.mem_cons, List.not_mem_nil, or_false] at he
    rcases he with rfl | rfl | rfl | rfl | rfl <;> first | rfl | trivial
  obtain ⟨pre, d, post, u, v, -, -, -, -, -, -, hsent, hend⟩ := (smooth_close hrun hsmooth).2 hclosed
  refine ⟨r, hrun, d, ?_⟩
  rw [← hsent d, (hend (by decide)).2, List.append_nil]

theorem hasty_loses_data : ∃ r, (machine 2).run (relaying 2 5 oneSided) hasty = some r ∧
    (∀ e ∈ hasty, Smooth e) ∧ r.session.isClosed = true ∧
    (r.session.peer .client).outgoing = [] ∧ oneSided .server = [7] := by
  refine ⟨_, rfl, ?_, rfl, rfl, rfl⟩
  intro e he
  simp only [hasty, List.mem_cons, List.not_mem_nil, or_false] at he
  rcases he with rfl | rfl | rfl <;> first | rfl | trivial

end SocksProxy.StreamEnds
