import SocksProxy.ServerStart
import SocksProxy.WrittenLogs

namespace SocksProxy

namespace Main

open ByteStrings DatabaseService

def databaseLog (q : Sqlite) (table : SessionTable) : List LogLine :=
  match (openConnection q 0).run table with
  | (.error _, _) => []
  | (.ok _, opened) => ⟨.debug, ascii "Database created successfully."⟩ ::
    match (createTable (ConcurrentService.behindOpen q)).run opened with
    | (.error _, _) => []
    | (.ok _, _) => [⟨.debug, ascii "Table created successfully."⟩]

def parameterLog (p : Parameters) (endpoint : Bytes) : List LogLine :=
  [⟨.info, ascii "[server] ============================================="⟩,
    ⟨.info, ascii "[server] Starting proxy server with given parameters:"⟩,
    ⟨.info, ascii "[server] port: " ++ decimal (toPort p.port).toNat⟩,
    ⟨.info, ascii "[server] buffer size (per connection): " ++ decimal (toSize p.bufferSizeKB).toNat ++ ascii " KB"⟩,
    ⟨.info, ascii "[server] max sessions: " ++ decimal (toSize p.maxSessions).toNat⟩,
    ⟨.info, ascii "[server] auth enabled?: " ++ if p.authFlag then ascii "true" else ascii "false"⟩,
    ⟨.info, ascii "[server] ============================================="⟩,
    ⟨.debug, ascii "[server] Current connections: " ++ decimal 0⟩,
    ⟨.debug, ascii "[server] waiting for new client... " ++ endpoint⟩]

def failureText : Failure → Bytes
  | .databaseNotCreated _ => ascii "Database was not created: "
  | .serverNotStarted => ascii "Failed to start server: "

def serverLog (h : Host) (file : Option Bytes) (endpoint : Bytes) : List LogLine :=
  match parameters (ConfigReader.parseFile file {}).2 with
  | some p => if h.listens (toPort p.port) then parameterLog p endpoint else []
  | none => []

def failureLine (f : Failure) (what : Bytes) : LogLine := ⟨.fatal, failureText f ++ what⟩

/-- What `main` logs until it calls `context.run()` or gives up; `what` is the text of an exception. -/
def startLog (h : Host) (q : Sqlite) (file : Option Bytes) (table : SessionTable) (issued : List Int64)
    (endpoint what : Bytes) : List LogLine :=
  databaseLog q table ++ match main h q file table issued with
    | some (.ok _) => serverLog h file endpoint
    | some (.error .serverNotStarted) => serverLog h file endpoint ++ [failureLine .serverNotStarted what]
    | some (.error f) => [failureLine f what]
    | none => []

end Main

namespace FailedStarts

open ByteStrings Logger LogLines LoggerRuns Main TransitionSystems WorkerQueues WrittenLogs

def Calm (line : LogLine) : Prop := line.level ≠ .fatal ∧ line.level ≠ .all ∧ 10 ∉ line.data

theorem decimal_newline (n : ℕ) : 10 ∉ decimal n := by
  intro h
  have hdigit := (ConfigValues.isdigit_iff 10).mp (ConfigValues.isdigit_decimal n 10 h)
  simp at hdigit

theorem databaseLog_calm (q : Sqlite) (table : SessionTable) : ∀ line ∈ databaseLog q table, Calm line := by
  have hcreated : Calm ⟨.debug, ascii "Database created successfully."⟩ := ⟨by simp, by simp, by simp [ascii]⟩
  have htable : Calm ⟨.debug, ascii "Table created successfully."⟩ := ⟨by simp, by simp, by simp [ascii]⟩
  unfold databaseLog
  split
  · simp
  · split
    · simpa using hcreated
    · simpa using ⟨hcreated, htable⟩

theorem parameterLog_calm (p : Parameters) {endpoint : Bytes} (h : 10 ∉ endpoint) :
    ∀ line ∈ parameterLog p endpoint, Calm line := by
  have hflag : 10 ∉ (if p.authFlag then ascii "true" else ascii "false") := by
    split_ifs <;> simp [ascii]
  simp only [parameterLog, List.forall_mem_cons, List.not_mem_nil, false_imp_iff, implies_true, and_true, Calm,
    List.mem_append, hflag, h, decimal_newline]
  simp [ascii]

theorem startLog_failed {h : Host} {q : Sqlite} {file : Option Bytes} {table : SessionTable} {issued : List Int64}
    {endpoint : Bytes} (what : Bytes) {f : Failure} (hendpoint : 10 ∉ endpoint)
    (hmain : main h q file table issued = some (.error f)) :
    ∃ earlier, startLog h q file table issued endpoint what = earlier ++ [failureLine f what] ∧
      ∀ line ∈ earlier, Calm line := by
  cases f with
  | databaseNotCreated err =>
    refine ⟨databaseLog q table, ?_, databaseLog_calm q table⟩
    simp only [startLog, hmain]
  | serverNotStarted =>
    refine ⟨databaseLog q table ++ serverLog h file endpoint, ?_, fun line hline => ?_⟩
    · simp only [startLog, hmain, List.append_assoc]
    · rcases List.mem_append.mp hline with hline | hline
      · exact databaseLog_calm q table line hline
      · unfold serverLog at hline
        split at hline
        · split_ifs at hline
          · exact parameterLog_calm _ hendpoint line hline
          · cases hline
        · cases hline

theorem complaints_calm (c : Config) : ∀ line ∈ complaints c, Calm line := by
  have hsetting : ∀ {α : Type} {tag : Bytes} {names : List Bytes} {values : List α} {invalid missing : Bytes},
      10 ∉ invalid → 10 ∉ missing → ∀ line ∈ complaint (setting c tag names values invalid missing), Calm line := by
    intro α tag names values invalid missing hinvalid hmissing
    unfold setting
    split
    · split
      · simp [complaint]
      · simpa [complaint, Calm] using hinvalid
    · simpa [complaint, Calm] using hmissing
  intro line hline
  rcases List.mem_append.mp hline with hline | hline
  · exact hsetting (by simp [ascii]) (by simp [ascii]) line hline
  · exact hsetting (by simp [ascii]) (by simp [ascii]) line hline

theorem entries_subset {c : Config} {opened : Bool} {first : LogType} {sink : Sink} {past : List LogLine} :
    ∀ line ∈ entries c opened first sink past, line ∈ past := by
  have hshown : ∀ {level ty} {ls : List LogLine}, ∀ line ∈ shown opened level ty sink ls, line ∈ ls := by
    intro level ty ls line hline
    unfold shown at hline
    split_ifs at hline
    · exact List.mem_of_mem_filter hline
    · cases hline
  intro line hline
  rcases List.mem_append.mp hline with hline | hline
  · exact List.mem_of_mem_take (hshown line hline)
  · exact List.mem_of_mem_drop (hshown line hline)

theorem joins {c : Config} {is : List (CTime × CTime)} {t u : Pool Logger LogLine}
    (hrun : (protocol c).machine.run t (is.map .work ++ [.call .join]) = some u) : u.state.stage = .joined := by
  rw [Machine.run_append] at hrun
  obtain ⟨v, -, hjoin⟩ := Option.bind_eq_some_iff.mp hrun
  obtain ⟨w, hstep, hw⟩ := Option.bind_eq_some_iff.mp hjoin
  cases hw
  obtain ⟨hcall, -⟩ := Protocol.step_call hstep
  obtain ⟨hk, -⟩ | ⟨hk, -⟩ | ⟨⟨line, hk⟩, -⟩ | ⟨-, -, -, ht⟩ := call_cases hcall
  · cases hk
  · cases hk
  · cases hk
  · rw [ht]

theorem logged_works (is : List (CTime × CTime)) : logged (is.map .work ++ [.call .join]) = [] := by
  rw [logged_append]
  apply List.append_eq_nil_iff.mpr
  refine ⟨?_, rfl⟩
  induction is with
  | nil => rfl
  | cons i is ih => exact ih

theorem passes_failure (level : LogLevel) (f : Failure) (what : Bytes) :
    passes level (failureLine f what) = true ↔ level ≠ .off := by
  cases level <;> simp [passes, failureLine, LogLevel.value]

theorem ends_with_failure {c : Config} {opened : Bool} {calm : List LogLine} (hcalm : ∀ line ∈ calm, Calm line)
    (hlength : (complaint (levelSetting c)).length ≤ calm.length) (f : Failure) (what : Bytes) (first : LogType)
    (sink : Sink) : (entries c opened first sink (calm ++ [failureLine f what])).getLast? = some (failureLine f what) ↔
      receives opened (typeOf c) sink = true ∧ levelOf c ≠ .off := by
  rw [entries_later hlength]
  by_cases hshown : receives opened (typeOf c) sink = true ∧ levelOf c ≠ .off
  · have hpass := (passes_failure (levelOf c) f what).mpr hshown.2
    rw [shown_passed hpass, if_pos hshown.1, List.getLast?_concat]
    exact iff_of_true rfl hshown
  · have hnone : shown opened (levelOf c) (typeOf c) sink [failureLine f what] = [] := by
      by_cases hsink : receives opened (typeOf c) sink = true
      · have hrefused : passes (levelOf c) (failureLine f what) = false := by
          rw [← Bool.not_eq_true]
          exact fun hpass => hshown ⟨hsink, (passes_failure _ f what).mp hpass⟩
        exact shown_refused hrefused _ _
      · rw [shown, if_neg hsink]
    rw [hnone, List.append_nil]
    refine iff_of_false (fun hlast => ?_) hshown
    have hmem := entries_subset _ (List.mem_of_getLast? hlast)
    exact (hcalm _ hmem).1 rfl

theorem failed_start_told {h : Host} {q : Sqlite} {file : Option Bytes} {table : SessionTable} {issued : List Int64}
    {endpoint what : Bytes} {f : Failure} (hendpoint : 10 ∉ endpoint) (hwhat : 10 ∉ what)
    (hmain : main h q file table issued = some (.error f)) {opened : Bool} {es : List LoggerEvent}
    {t : Pool Logger LogLine}
    (hrun : (protocol (ConfigReader.parseFile file {}).2).machine.run (start opened) es = some t)
    (hready : t.state.stage = .ready) (hlogged : logged es = startLog h q file table issued endpoint what) :
    (∃ (is : List (CTime × CTime)) (u : Pool Logger LogLine), (protocol (ConfigReader.parseFile file {}).2).machine.run t
      (is.map .work ++ [.call .join]) = some u ∧ u.state.stage = .joined) ∧
    ∀ (is : List (CTime × CTime)) u, (protocol (ConfigReader.parseFile file {}).2).machine.run t
        (is.map .work ++ [.call .join]) = some u → ∀ sink,
      ((readLog (text u.state sink)).getLast? = some (some (failureLine f what)) ↔
        receives opened (typeOf (ConfigReader.parseFile file {}).2) sink = true ∧
          levelOf (ConfigReader.parseFile file {}).2 ≠ .off) := by
  obtain ⟨earlier, hstart, hearlier⟩ := startLog_failed what hendpoint hmain
  generalize (ConfigReader.parseFile file {}).2 = c at hrun ⊢
  rw [hstart] at hlogged
  have hfailure : 10 ∉ (failureLine f what).data := by
    cases f <;> simp [failureLine, failureText, hwhat, ascii]
  have hcalm : ∀ line ∈ complaints c ++ earlier, Calm line := by
    intro line hline
    rcases List.mem_append.mp hline with hline | hline
    · exact complaints_calm c line hline
    · exact hearlier line hline
  constructor
  · apply join_returns hrun hready
    intro line hline
    rw [hlogged] at hline
    rcases List.mem_append.mp hline with hline | hline
    · exact (hearlier line hline).2.1
    · simp [List.mem_singleton.mp hline, failureLine]
  · intro is u hmore sink
    obtain ⟨before, after, hsplit, htaken⟩ := taken_joined hrun hready hmore (joins hmore)
    have hbefore : logged before = [] := by
      have hnone := logged_works is
      rw [hsplit, logged_append] at hnone
      exact (List.append_eq_nil_iff.mp hnone).1
    have hpast : (protocol c).taken (es ++ (is.map .work ++ [.call .join])) =
        complaints c ++ earlier ++ [failureLine f what] := by
      rw [htaken, hbefore, hlogged, List.append_nil, List.append_assoc]
    have hboth : (protocol c).machine.run (start opened) (es ++ (is.map .work ++ [.call .join])) = some u := by
      rw [Machine.run_append_of _ hrun]
      exact hmore
    obtain ⟨first, -, hwritten⟩ := (books hboth).2.2.written
    rw [hpast] at hwritten
    have hread : readLog (text u.state sink) =
        (entries c opened first sink (complaints c ++ earlier ++ [failureLine f what])).map some := by
      apply (hwritten sink).reads.mpr
      intro line hline
      rcases List.mem_append.mp (entries_subset line hline) with hline | hline
      · exact (hcalm line hline).2.2
      · rwa [List.mem_singleton.mp hline]
    rw [hread, List.getLast?_map, Option.map_eq_some_iff]
    have hlength : (complaint (levelSetting c)).length ≤ (complaints c ++ earlier).length := by
      simp only [complaints, List.length_append]
      omega
    rw [← ends_with_failure hcalm hlength f what first sink]
    simp

theorem logged_calls (ls : List LogLine) :
    logged ([.call .configureLevel, .call .configureType] ++ ls.map fun line => .call (.log line)) = ls := by
  induction ls with
  | nil => rfl
  | cons line ls ih =>
    rw [logged_append] at ih ⊢
    exact congrArg (line :: ·) ih

theorem failed_start_told_taken : ∃ t, (protocol (ConfigReader.parseFile none {}).2).machine.run (start false)
      ([.call .configureLevel, .call .configureType] ++
        (startLog ⟨2, fun _ => false, fun _ => true⟩ .quiet none .empty [] [] (ascii "bind: Address already in use")).map
          fun line => .call (.log line)) = some t ∧
    ∀ (is : List (CTime × CTime)) u, (protocol (ConfigReader.parseFile none {}).2).machine.run t
        (is.map .work ++ [.call .join]) = some u → ∀ sink,
      ((readLog (text u.state sink)).getLast? = some (some (failureLine .serverNotStarted (ascii "bind: Address already in use"))) ↔
        receives false (typeOf (ConfigReader.parseFile none {}).2) sink = true ∧
          levelOf (ConfigReader.parseFile none {}).2 ≠ .off) := by
  have hwhat : 10 ∉ ascii "bind: Address already in use" := by simp [ascii]
  have hendpoint : 10 ∉ ([] : Bytes) := by simp
  have hmain : main ⟨2, fun _ => false, fun _ => true⟩ .quiet none .empty [] = some (.error .serverNotStarted) := rfl
  exact ⟨_, rfl, (failed_start_told hendpoint hwhat hmain rfl rfl (logged_calls _)).2⟩

end FailedStarts

end SocksProxy
