import SocksProxy.LogLines

namespace SocksProxy.LoggerRuns

open ByteStrings Logger LogLines TransitionSystems WorkerQueues

variable {c : Config} {opened : Bool}

theorem shown_append (level : LogLevel) (ty : LogType) (sink : Sink) (ls ms : List LogLine) :
    shown opened level ty sink (ls ++ ms) = shown opened level ty sink ls ++ shown opened level ty sink ms := by
  unfold shown
  split_ifs
  · exact List.filter_append ls ms
  · rfl

theorem shown_nil (level : LogLevel) (ty : LogType) (sink : Sink) : shown opened level ty sink [] = [] := by
  unfold shown
  split_ifs <;> rfl

theorem shown_refused {level : LogLevel} {line : LogLine} (h : passes level line = false) (ty : LogType)
    (sink : Sink) : shown opened level ty sink [line] = [] := by
  unfold shown
  split_ifs
  · simp [h]
  · rfl

theorem shown_passed {level : LogLevel} {line : LogLine} (h : passes level line = true) (ty : LogType)
    (sink : Sink) : shown opened level ty sink [line] = if receives opened ty sink then [line] else [] := by
  unfold shown
  split_ifs
  · simp [h]
  · rfl

theorem Written.sink {log r : Bytes} {ls : List LogLine} {now : CTime} {line : LogLine} (b : Bool)
    (h : Written log ls) (hline : line.level ≠ .off) (hr : row now line = some r) :
    Written (if b then log ++ r else log) (ls ++ if b then [line] else []) := by
  cases b with
  | true => exact h.append hline hr
  | false =>
    rw [if_neg (by simp), if_neg (by simp), List.append_nil]
    exact h

theorem logTask_written {now later : CTime} {line : LogLine} {s t : Logger}
    (h : logTask now later line s = some t) :
    (t.logLevel = s.logLevel ∧ t.logType = s.logType ∧ t.stage = s.stage ∧ t.file.isSome = s.file.isSome) ∧
      ∀ sink ls, Written (text s sink) ls →
        Written (text t sink) (ls ++ shown s.file.isSome s.logLevel s.logType sink [line]) := by
  unfold logTask at h
  by_cases hp : line.level.value ≤ s.logLevel.value ∧ line.level ≠ .off
  · have hpasses : passes s.logLevel line = true := decide_eq_true hp
    rw [if_pos hp] at h
    simp only [shown_passed hpasses]
    cases hty : s.logType <;> rw [hty] at h <;> dsimp only at h
    case disable =>
      cases h
      refine ⟨⟨rfl, hty, rfl, rfl⟩, fun sink ls hw => ?_⟩
      cases sink <;> simpa [receives] using hw
    case console =>
      obtain ⟨r, hr, rfl⟩ := Option.map_eq_some_iff.mp h
      refine ⟨⟨rfl, rfl, rfl, rfl⟩, fun sink ls hw => ?_⟩
      cases sink with
      | console => exact hw.append hp.2 hr
      | file => simpa [receives, text] using hw
    case file =>
      obtain ⟨r, hr, rfl⟩ := Option.map_eq_some_iff.mp h
      refine ⟨⟨rfl, rfl, rfl, by simp⟩, fun sink ls hw => ?_⟩
      cases sink with
      | console => simpa [receives, text] using hw
      | file =>
        have hsink := Written.sink s.file.isSome hw hp.2 hr
        cases hf : s.file <;> simpa [receives, text, hf] using hsink
    case enable =>
      obtain ⟨r, hr, h⟩ := Option.bind_eq_some_iff.mp h
      obtain ⟨r', hr', rfl⟩ := Option.map_eq_some_iff.mp h
      refine ⟨⟨rfl, rfl, rfl, by simp⟩, fun sink ls hw => ?_⟩
      cases sink with
      | console => exact hw.append hp.2 hr'
      | file =>
        have hsink := Written.sink s.file.isSome hw hp.2 hr
        cases hf : s.file <;> simpa [receives, text, hf] using hsink
  · have hpasses : passes s.logLevel line = false := decide_eq_false hp
    rw [if_neg hp] at h
    cases h
    refine ⟨⟨rfl, rfl, rfl, rfl⟩, fun sink ls hw => ?_⟩
    rw [shown_refused hpasses, List.append_nil]
    exact hw

/-- The lines that a sink shows of those the worker has run. `first` is the type that the complaint
about the level has met. -/
def entries (c : Config) (opened : Bool) (first : LogType) (sink : Sink) (past : List LogLine) : List LogLine :=
  let count := (complaint (levelSetting c)).length
  shown opened (levelOf c) first sink (past.take count) ++ shown opened (levelOf c) (typeOf c) sink (past.drop count)

theorem entries_nil (first : LogType) (sink : Sink) : entries c opened first sink [] = [] := by
  simp only [entries, List.take_nil, List.drop_nil, shown_nil, List.append_nil]

theorem entries_first {line : LogLine} (h : (complaint (levelSetting c)).length = 1) (first : LogType)
    (sink : Sink) : entries c opened first sink [line] = shown opened (levelOf c) first sink [line] := by
  simp only [entries, h, List.take_one, List.head?_cons, Option.toList_some, List.drop_one, List.tail_cons,
    shown_nil, List.append_nil]

theorem entries_later {past : List LogLine} (h : (complaint (levelSetting c)).length ≤ past.length)
    (first : LogType) (sink : Sink) (line : LogLine) : entries c opened first sink (past ++ [line]) =
      entries c opened first sink past ++ shown opened (levelOf c) (typeOf c) sink [line] := by
  simp only [entries, List.take_append_of_le_length h, List.drop_append_of_le_length h, shown_append,
    List.append_assoc]

theorem complaint_length {α : Type} (x : Except LogLine α) : (complaint x).length ≤ 1 := by
  cases x <;> simp [complaint]

def Settled (c : Config) (lines : List LogLine) (s : Logger) : Prop :=
  match s.stage with
  | .level => lines = [] ∧ s.logLevel = .all ∧ s.logType = .enable
  | .type => lines = complaint (levelSetting c) ∧ s.logLevel = levelOf c ∧ s.logType = .enable
  | _ => complaint (levelSetting c) <+: lines ∧ s.logLevel = levelOf c ∧ s.logType = typeOf c

structure Books (c : Config) (opened : Bool) (past queue : List LogLine) (s : Logger) : Prop where
  file : s.file.isSome = opened
  settled : Settled c (past ++ queue) s
  written : ∃ first, (first = .enable ∨ first = typeOf c) ∧
    ∀ sink, Written (text s sink) (entries c opened first sink past)

theorem mem_entries {past queue : List LogLine} {s : Logger} (h : Settled c (past ++ queue) s)
    (hbuilt : s.stage = .ready ∨ s.stage = .joined) {line : LogLine} (hmem : line ∈ past)
    (hnew : line ∉ complaint (levelSetting c)) {sink : Sink} (hsink : receives opened (typeOf c) sink = true)
    (hpass : passes (levelOf c) line = true) (first : LogType) : line ∈ entries c opened first sink past := by
  have hprefix : complaint (levelSetting c) <+: past ++ queue := by
    unfold Settled at h
    rcases hbuilt with hstage | hstage <;> rw [hstage] at h <;> exact h.1
  have hlate : line ∈ past.drop (complaint (levelSetting c)).length := by
    rw [← List.take_append_drop (complaint (levelSetting c)).length past] at hmem
    rcases List.mem_append.mp hmem with hmem | hmem
    · rw [List.prefix_iff_eq_take.mp hprefix, List.take_append] at hnew
      exact absurd (List.mem_append_left _ hmem) hnew
    · exact hmem
  apply List.mem_append_right
  rw [shown, if_pos hsink]
  exact List.mem_filter.mpr ⟨hlate, hpass⟩

theorem books_start (c : Config) (opened : Bool) : Books c opened [] [] (start opened).state where
  file := by cases opened <;> rfl
  settled := ⟨rfl, rfl, rfl⟩
  written := by
    refine ⟨.enable, .inl rfl, fun sink => ?_⟩
    rw [entries_nil]
    cases sink <;> cases opened <;> exact written_nil

theorem call_cases {k : LoggerCall} {queue : List LogLine} {s t : Logger} (h : call c k queue s = some t) :
    (k = .configureLevel ∧ s.stage = .level ∧
      t = { s with logLevel := (levelSetting c).toOption.getD s.logLevel, stage := .type }) ∨
    (k = .configureType ∧ s.stage = .type ∧
      t = { s with logType := (typeSetting c).toOption.getD s.logType, stage := .ready }) ∨
    ((∃ line, k = .log line) ∧ (s.stage = .ready ∨ s.stage = .joined) ∧ t = s) ∨
    (k = .join ∧ s.stage = .ready ∧ queue = [] ∧ t = { s with stage := .joined }) := by
  unfold call at h
  split at h
  · exact .inl ⟨rfl, ‹_›, (Option.some.inj h).symm⟩
  · exact .inr (.inl ⟨rfl, ‹_›, (Option.some.inj h).symm⟩)
  · exact .inr (.inr (.inl ⟨⟨_, rfl⟩, .inl ‹_›, (Option.some.inj h).symm⟩))
  · exact .inr (.inr (.inl ⟨⟨_, rfl⟩, .inr ‹_›, (Option.some.inj h).symm⟩))
  · split_ifs at h with hqueue
    exact .inr (.inr (.inr ⟨rfl, ‹_›, hqueue, (Option.some.inj h).symm⟩))
  · cases h

theorem Books.called {past queue : List LogLine} {s t : Logger} (h : Books c opened past queue s) {k : LoggerCall}
    (hcall : call c k queue s = some t) : Books c opened past (queue ++ posts c k) t := by
  obtain ⟨hfile, hsettled, hwritten⟩ := h
  unfold Settled at hsettled
  obtain ⟨rfl, hstage, rfl⟩ | ⟨rfl, hstage, rfl⟩ | ⟨⟨line, rfl⟩, hstage, rfl⟩ | ⟨rfl, hstage, -, rfl⟩ := call_cases hcall
  · rw [hstage] at hsettled
    obtain ⟨hnil, hlevel, htype⟩ := hsettled
    refine ⟨hfile, ⟨?_, ?_, htype⟩, hwritten⟩
    · rw [← List.append_assoc, hnil, List.nil_append, posts]
    · simp only [hlevel, levelOf]
  · rw [hstage] at hsettled
    obtain ⟨hlines, hlevel, htype⟩ := hsettled
    refine ⟨hfile, ⟨?_, hlevel, ?_⟩, hwritten⟩
    · rw [← List.append_assoc, hlines]
      exact List.prefix_append _ _
    · simp only [htype, typeOf]
  · refine ⟨hfile, ?_, hwritten⟩
    rw [← List.append_assoc]
    unfold Settled
    rcases hstage with hstage | hstage <;> rw [hstage] at hsettled ⊢ <;>
      exact ⟨hsettled.1.trans (List.prefix_append _ _), hsettled.2⟩
  · rw [hstage] at hsettled
    refine ⟨hfile, ?_, hwritten⟩
    rw [posts, List.append_nil]
    exact hsettled

theorem Books.worked {past rest : List LogLine} {line : LogLine} {s t : Logger} {i : CTime × CTime}
    (h : Books c opened past (line :: rest) s) (hexec : (protocol c).exec i line s = some t) :
    Books c opened (past ++ [line]) rest t := by
  obtain ⟨hfile, hsettled, first, hfirst, hwritten⟩ := h
  simp only [protocol] at hexec
  split_ifs at hexec with hjoined
  obtain ⟨⟨hlevel, htype, hstage, hopened⟩, hline⟩ := logTask_written hexec
  have hlines : past ++ line :: rest = past ++ [line] ++ rest := by simp
  refine ⟨hopened.trans hfile, ?_, ?_⟩
  · rw [← hlines]
    simpa only [Settled, hstage, hlevel, htype] using hsettled
  · rw [hfile] at hline
    have hcount := complaint_length (levelSetting c)
    by_cases hlate : (complaint (levelSetting c)).length ≤ past.length
    · refine ⟨first, hfirst, fun sink => ?_⟩
      have hready : s.logLevel = levelOf c ∧ s.logType = typeOf c := by
        unfold Settled at hsettled
        cases hst : s.stage <;> rw [hst] at hsettled <;> dsimp only at hsettled
        case level => simp at hsettled
        case type =>
          have hlength := congrArg List.length hsettled.1
          simp only [List.length_append, List.length_cons] at hlength
          omega
        all_goals exact hsettled.2
      rw [entries_later hlate, ← hready.1, ← hready.2]
      exact hline sink _ (by simpa only [hready.1] using hwritten sink)
    · -- only the complaint about the level can meet a type that is not final
      have hpast : past = [] := List.eq_nil_of_length_eq_zero (by omega)
      have hone : (complaint (levelSetting c)).length = 1 := by
        rw [hpast, List.length_nil] at hlate
        omega
      have hmet : s.logLevel = levelOf c ∧ (s.logType = .enable ∨ s.logType = typeOf c) := by
        unfold Settled at hsettled
        cases hst : s.stage <;> rw [hst] at hsettled <;> dsimp only at hsettled
        case level => simp at hsettled
        case type => exact ⟨hsettled.2.1, .inl hsettled.2.2⟩
        all_goals exact ⟨hsettled.2.1, .inr hsettled.2.2⟩
      refine ⟨s.logType, hmet.2, fun sink => ?_⟩
      have hnil := hwritten sink
      rw [hpast, entries_nil] at hnil
      rw [hpast, List.nil_append, entries_first hone, ← hmet.1]
      exact hline sink [] hnil

theorem books_invariant (c : Config) (opened : Bool) : (protocol c).Invariant (Books c opened) where
  call _ _ _ _ _ h hcall := h.called hcall
  exec _ _ _ _ _ _ h hexec := h.worked hexec

end SocksProxy.LoggerRuns
