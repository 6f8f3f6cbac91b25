import SocksProxy.LoggerRuns

namespace SocksProxy.WrittenLogs

open ByteStrings Logger LogLines LoggerRuns TransitionSystems WorkerQueues

variable {c : Config} {opened : Bool}

def complaints (c : Config) : List LogLine := complaint (levelSetting c) ++ complaint (typeSetting c)

theorem logged_append (es fs : List LoggerEvent) : logged (es ++ fs) = logged es ++ logged fs :=
  List.filterMap_append

def PostedAt (c : Config) (es : List LoggerEvent) : LoggerStage → Prop
  | .level => (protocol c).posted es = [] ∧ logged es = []
  | .type => (protocol c).posted es = complaint (levelSetting c) ∧ logged es = []
  | _ => (protocol c).posted es = complaints c ++ logged es

theorem exec_stage {i : CTime × CTime} {line : LogLine} {s t : Logger}
    (h : (protocol c).exec i line s = some t) : s.stage ≠ .joined ∧ t.stage = s.stage := by
  simp only [protocol] at h
  split_ifs at h with hjoined
  exact ⟨hjoined, (logTask_written h).1.2.2.1⟩

theorem posted_stage {es : List LoggerEvent} {t : Pool Logger LogLine}
    (hrun : (protocol c).machine.run (start opened) es = some t) : PostedAt c es t.state.stage := by
  have hstart : PostedAt c [] (start opened).state.stage := by
    cases opened <;> exact ⟨rfl, rfl⟩
  apply Machine.invariant_history (I := fun es t => PostedAt c es t.state.stage) _ hstart hrun
  intro es s e t hs hstep
  cases e with
  | work i =>
    obtain ⟨line, -, hexec⟩ := Protocol.step_work hstep
    have hsame : PostedAt c (es ++ [.work i]) s.state.stage ↔ PostedAt c es s.state.stage := by
      cases s.state.stage <;> simp [PostedAt, Protocol.posted, logged]
    rw [(exec_stage hexec).2, hsame]
    exact hs
  | call k =>
    obtain ⟨hcall, -⟩ := Protocol.step_call hstep
    have hposted : (protocol c).posted (es ++ [.call k]) = (protocol c).posted es ++ posts c k := by
      rw [Protocol.posted_append]
      simp [Protocol.posted, protocol]
    obtain ⟨rfl, hstage, ht⟩ | ⟨rfl, hstage, ht⟩ | ⟨⟨line, rfl⟩, hstage, ht⟩ | ⟨rfl, hstage, -, ht⟩ := call_cases hcall
    · rw [hstage] at hs
      rw [ht]
      refine ⟨?_, ?_⟩
      · rw [hposted, hs.1, List.nil_append, posts]
      · rw [logged_append, hs.2]
        rfl
    · rw [hstage] at hs
      rw [ht]
      change (protocol c).posted (es ++ [.call .configureType]) = _
      rw [hposted, hs.1, logged_append, hs.2]
      simp [posts, complaints, logged]
    · have hline : logged (es ++ [.call (.log line)]) = logged es ++ [line] := by
        rw [logged_append]
        rfl
      rw [ht]
      rcases hstage with hstage | hstage <;> rw [hstage] at hs ⊢ <;>
        exact hposted.trans (by rw [hs, hline, posts, List.append_assoc])
    · rw [hstage] at hs
      have hline : logged (es ++ [.call .join]) = logged es := by
        rw [logged_append]
        exact List.append_nil _
      rw [ht]
      change (protocol c).posted (es ++ [.call .join]) = _
      rw [hposted, hs, posts, List.append_nil, hline]

theorem posted_built {es : List LoggerEvent} {t : Pool Logger LogLine}
    (hrun : (protocol c).machine.run (start opened) es = some t)
    (hbuilt : t.state.stage = .ready ∨ t.state.stage = .joined) :
    (protocol c).posted es = complaints c ++ logged es := by
  have h := posted_stage hrun
  rcases hbuilt with hbuilt | hbuilt <;> rw [hbuilt] at h <;> exact h

theorem books {es : List LoggerEvent} {t : Pool Logger LogLine}
    (hrun : (protocol c).machine.run (start opened) es = some t) :
    (protocol c).taken es ++ t.queue = (protocol c).posted es ∧
      ((protocol c).taken es).length = Protocol.worked es ∧
      Books c opened ((protocol c).taken es) t.queue t.state :=
  (books_invariant c opened).run (books_start c opened) hrun

theorem log_reads_back {es : List LoggerEvent} {t : Pool Logger LogLine}
    (hrun : (protocol c).machine.run (start opened) es = some t)
    (hbuilt : t.state.stage = .ready ∨ t.state.stage = .joined) :
    (protocol c).taken es ++ t.queue = complaints c ++ logged es ∧
      ∃ first, (first = .enable ∨ first = typeOf c) ∧ ∀ sink,
        Written (text t.state sink) (entries c opened first sink ((protocol c).taken es)) ∧
        (readLog (text t.state sink) = (entries c opened first sink ((protocol c).taken es)).map some ↔
          ∀ line ∈ entries c opened first sink ((protocol c).taken es), 10 ∉ line.data) := by
  obtain ⟨hposted, -, hbooks⟩ := books hrun
  obtain ⟨first, hfirst, hwritten⟩ := hbooks.written
  exact ⟨hposted.trans (posted_built hrun hbuilt), first, hfirst, fun sink => ⟨hwritten sink, (hwritten sink).reads⟩⟩

def blankTime : CTime := ⟨List.replicate 24 32, by simp, by simp⟩

def infoConfig : Config := ⟨(∅ : Finmap fun _ : Bytes => Bytes).insert (ascii "log_level") (ascii "Info"), ∅⟩

def infoEvents (now : CTime) : List LoggerEvent :=
  [.call .configureLevel, .call .configureType, .call (.log ⟨.info, ascii "up"⟩),
    .call (.log ⟨.debug, ascii "x"⟩), .work (now, now), .work (now, now)]

theorem log_reads_back_info : ∃ t,
    (protocol infoConfig).machine.run (start true) (infoEvents blankTime) = some t ∧ ∃ first,
      (first = .enable ∨ first = typeOf infoConfig) ∧ ∀ sink,
        Written (text t.state sink) (entries infoConfig true first sink ((protocol infoConfig).taken (infoEvents blankTime))) ∧
        (readLog (text t.state sink) =
          (entries infoConfig true first sink ((protocol infoConfig).taken (infoEvents blankTime))).map some ↔
          ∀ line ∈ entries infoConfig true first sink ((protocol infoConfig).taken (infoEvents blankTime)),
            10 ∉ line.data) :=
  ⟨_, rfl, (log_reads_back rfl (.inl rfl)).2⟩

theorem logTask_some (now later : CTime) {line : LogLine} (h : line.level ≠ .all) (s : Logger) :
    ∃ t, logTask now later line s = some t := by
  obtain ⟨r, hr⟩ := row_some now h
  obtain ⟨r', hr'⟩ := row_some later h
  unfold logTask
  split_ifs
  · cases s.logType <;> simp [hr, hr']
  · exact ⟨s, rfl⟩

theorem complaint_error {α : Type} {tag : Bytes} {names : List Bytes} {values : List α} {invalid missing : Bytes} :
    ∀ line ∈ complaint (setting c tag names values invalid missing), line.level = .error := by
  unfold setting
  split
  · split <;> simp [complaint]
  · simp [complaint]

theorem joined_stays {es : List LoggerEvent} {s t : Pool Logger LogLine} (h : s.state.stage = .joined)
    (hrun : (protocol c).machine.run s es = some t) : t.state = s.state ∧ Protocol.worked es = 0 := by
  have hboth : t.state.stage = .joined ∧ t.state = s.state ∧ Protocol.worked es = 0 := by
    apply Machine.invariant_history
      (I := fun es t => t.state.stage = .joined ∧ t.state = s.state ∧ Protocol.worked es = 0)
      _ ⟨h, rfl, rfl⟩ hrun
    rintro es u e v ⟨hu, hsame, hworked⟩ hstep
    cases e with
    | work i =>
      obtain ⟨line, -, hexec⟩ := Protocol.step_work hstep
      exact absurd hu (exec_stage hexec).1
    | call k =>
      obtain ⟨hcall, -⟩ := Protocol.step_call hstep
      obtain ⟨-, hstage, -⟩ | ⟨-, hstage, -⟩ | ⟨-, -, ht⟩ | ⟨-, hstage, -⟩ := call_cases hcall
      · simp [hu] at hstage
      · simp [hu] at hstage
      · rw [ht]
        refine ⟨hu, hsame, ?_⟩
        rw [Protocol.worked_append, hworked]
        rfl
      · simp [hu] at hstage
  exact hboth.2

theorem enters_joined {s t : Pool Logger LogLine} {e : LoggerEvent} (hs : s.state.stage ≠ .joined)
    (ht : t.state.stage = .joined) (hstep : (protocol c).machine.step s e = some t) :
    e = .call .join ∧ s.queue = [] ∧ s.state.stage = .ready := by
  cases e with
  | work i =>
    obtain ⟨line, -, hexec⟩ := Protocol.step_work hstep
    exact absurd ((exec_stage hexec).2.symm.trans ht) hs
  | call k =>
    obtain ⟨hcall, -⟩ := Protocol.step_call hstep
    obtain ⟨-, -, hnew⟩ | ⟨-, -, hnew⟩ | ⟨-, -, hnew⟩ | ⟨rfl, hstage, hqueue, -⟩ := call_cases hcall
    · simp [hnew] at ht
    · simp [hnew] at ht
    · exact absurd (hnew ▸ ht) hs
    · exact ⟨rfl, hqueue, hstage⟩

theorem taken_joined {es more : List LoggerEvent} {t u : Pool Logger LogLine}
    (hrun : (protocol c).machine.run (start opened) es = some t) (hready : t.state.stage = .ready)
    (hmore : (protocol c).machine.run t more = some u) (hjoined : u.state.stage = .joined) :
    ∃ before after, more = before ++ .call .join :: after ∧
      (protocol c).taken (es ++ more) = complaints c ++ logged es ++ logged before := by
  have hopen : ¬t.state.stage = .joined := by simp [hready]
  obtain ⟨before, e, after, v, w, rfl, hbefore, hv, hstep, hw, hafter⟩ :=
    Machine.entry (p := fun s : Pool Logger LogLine => s.state.stage = .joined) hopen hjoined hmore
  obtain ⟨rfl, hqueue, hlast⟩ := enters_joined hv hw hstep
  have hboth : (protocol c).machine.run (start opened) (es ++ before) = some v := by
    rw [Machine.run_append_of _ hrun]
    exact hbefore
  obtain ⟨hposted, hlength, -⟩ := books hboth
  have hnone := (joined_stays hw hafter).2
  have hworked : Protocol.worked (es ++ (before ++ .call .join :: after)) =
      ((protocol c).taken (es ++ before)).length := by
    rw [hlength, ← List.append_assoc, Protocol.worked_append]
    exact congrArg (Protocol.worked (es ++ before) + ·) hnone
  refine ⟨before, after, rfl, ?_⟩
  rw [hqueue, List.append_nil] at hposted
  rw [Protocol.taken, hworked, hposted, ← List.append_assoc, Protocol.posted_append (es ++ before), List.take_left,
    posted_built hboth (.inl hlast), logged_append, List.append_assoc]

theorem join_returns {es : List LoggerEvent} {t : Pool Logger LogLine}
    (hrun : (protocol c).machine.run (start opened) es = some t) (hready : t.state.stage = .ready)
    (hlevels : ∀ line ∈ logged es, line.level ≠ .all) :
    ∃ (is : List (CTime × CTime)) (u : Pool Logger LogLine),
      (protocol c).machine.run t (is.map .work ++ [.call .join]) = some u ∧ u.state.stage = .joined := by
  have hqueue : ∀ line ∈ t.queue, line.level ≠ .all := by
    intro line hline
    have hmem : line ∈ complaints c ++ logged es := by
      rw [← posted_built hrun (.inl hready), ← (books hrun).1]
      exact List.mem_append_right _ hline
    rcases List.mem_append.mp hmem with hmem | hmem
    · have herror : line.level = .error := by
        rcases List.mem_append.mp hmem with hmem | hmem <;> exact complaint_error line hmem
      simp [herror]
    · exact hlevels line hmem
  obtain ⟨is, s, hworks, hs, -⟩ := Protocol.drains (P := protocol c)
    (I := fun queue s => s.stage = .ready ∧ ∀ line ∈ queue, line.level ≠ .all)
    (fun line rest s hs => by
      obtain ⟨u, hu⟩ := logTask_some blankTime blankTime (hs.2 line List.mem_cons_self) s
      have hexec : (protocol c).exec (blankTime, blankTime) line s = some u := by
        simp [protocol, hs.1, hu]
      refine ⟨(blankTime, blankTime), u, hexec, (exec_stage hexec).2.trans hs.1, ?_⟩
      exact fun l hl => hs.2 l (List.mem_cons_of_mem line hl)) ⟨hready, hqueue⟩
  have hjoin : (protocol c).machine.step ⟨s, []⟩ (.call .join) = some ⟨{ s with stage := .joined }, []⟩ := by
    simp [Protocol.machine, Protocol.step, protocol, call, hs, posts]
  refine ⟨is, ⟨{ s with stage := .joined }, []⟩, ?_, rfl⟩
  rw [Machine.run_append_of _ hworks, Machine.run_cons_of _ hjoin, Machine.run_nil]

theorem join_flushes {es : List LoggerEvent} {t : Pool Logger LogLine}
    (hrun : (protocol c).machine.run (start opened) es = some t) (hready : t.state.stage = .ready)
    (hlevels : ∀ line ∈ logged es, line.level ≠ .all) :
    (∃ (is : List (CTime × CTime)) (u : Pool Logger LogLine),
      (protocol c).machine.run t (is.map .work ++ [.call .join]) = some u ∧ u.state.stage = .joined) ∧
    ∀ more u, (protocol c).machine.run t more = some u → u.state.stage = .joined →
      ∃ before after, more = before ++ .call .join :: after ∧
        ∃ first, (first = .enable ∨ first = typeOf c) ∧ ∀ sink,
          Written (text u.state sink)
            (entries c opened first sink (complaints c ++ logged es ++ logged before)) ∧
          (readLog (text u.state sink) =
              (entries c opened first sink (complaints c ++ logged es ++ logged before)).map some ↔
            ∀ line ∈ entries c opened first sink (complaints c ++ logged es ++ logged before), 10 ∉ line.data) := by
  constructor
  · exact join_returns hrun hready hlevels
  · intro more u hmore hjoined
    obtain ⟨before, after, rfl, htaken⟩ := taken_joined hrun hready hmore hjoined
    have hboth : (protocol c).machine.run (start opened) (es ++ (before ++ .call .join :: after)) = some u := by
      rw [Machine.run_append_of _ hrun]
      exact hmore
    obtain ⟨first, hfirst, hwritten⟩ := (books hboth).2.2.written
    rw [htaken] at hwritten
    exact ⟨before, after, rfl, first, hfirst, fun sink => ⟨hwritten sink, (hwritten sink).reads⟩⟩

theorem join_flushes_info : ∃ t u, (protocol infoConfig).machine.run (start true) (infoEvents blankTime) = some t ∧
    (protocol infoConfig).machine.run t [.work (blankTime, blankTime), .call .join, .call (.log ⟨.info, []⟩)] = some u ∧
    ∃ before after, [.work (blankTime, blankTime), .call .join, .call (.log ⟨.info, []⟩)] =
        before ++ .call .join :: after ∧ ∃ first, (first = .enable ∨ first = typeOf infoConfig) ∧ ∀ sink,
      Written (text u.state sink) (entries infoConfig true first sink
        (complaints infoConfig ++ logged (infoEvents blankTime) ++ logged before)) ∧
      (readLog (text u.state sink) = (entries infoConfig true first sink
          (complaints infoConfig ++ logged (infoEvents blankTime) ++ logged before)).map some ↔
        ∀ line ∈ entries infoConfig true first sink
          (complaints infoConfig ++ logged (infoEvents blankTime) ++ logged before), 10 ∉ line.data) :=
  ⟨_, _, rfl, rfl, (join_flushes rfl rfl (by simp [logged, infoEvents])).2 _ _ rfl rfl⟩

end SocksProxy.WrittenLogs
