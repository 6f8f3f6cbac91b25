import SocksProxy.Logger

namespace SocksProxy.LogLines

open ByteStrings Logger TextLines

inductive Sink
  | console
  | file
  deriving DecidableEq

def text (s : Logger) : Sink → Bytes
  | .console => s.console
  | .file => s.file.getD []

def receives (opened : Bool) (ty : LogType) : Sink → Bool
  | .console => ty == .console || ty == .enable
  | .file => opened && (ty == .file || ty == .enable)

def passes (level : LogLevel) (line : LogLine) : Bool :=
  decide (line.level.value ≤ level.value ∧ line.level ≠ .off)

def shown (opened : Bool) (level : LogLevel) (ty : LogType) (sink : Sink) (ls : List LogLine) : List LogLine :=
  if receives opened ty sink then ls.filter (passes level) else []

def shownLevels : List LogLevel := [.fatal, .error, .info, .debug, .trace]

def mark (level : LogLevel) : Bytes := [32] ++ logLevelPrefix.getD (level.value - 1) [] ++ [32]

def readLine (l : Bytes) : Option LogLine :=
  (shownLevels.find? fun level => (mark level).isPrefixOf (l.drop 24)).map fun level => ⟨level, l.drop 35⟩

def readLog (log : Bytes) : List (Option LogLine) := (lines 10 log).map readLine

theorem getCurrentTime_eq (now : CTime) : getCurrentTime now = now.chars := by
  have htake : (now.chars ++ [10]).take 26 = now.chars ++ [10] := by
    apply List.take_of_length_le
    rw [List.length_append, now.length]
    simp
  have hstring : cString (now.chars ++ [10]) = now.chars ++ [10] := by
    apply cString_eq_self.mpr
    intro h
    rcases List.mem_append.mp h with h | h
    · exact (now.plain 0 h).1 rfl
    · simp at h
  rw [getCurrentTime, htake, hstring, List.dropLast_concat]

theorem row_cases {now : CTime} {line : LogLine} {r : Bytes} (h : row now line = some r) :
    r = now.chars ++ mark line.level ++ line.data ++ [10] ∧
      (line.level ≠ .off → line.level ∈ shownLevels) := by
  obtain ⟨p, hp, rfl⟩ := Option.map_eq_some_iff.mp h
  constructor
  · rw [getCurrentTime_eq, mark, List.getD_eq_getElem?_getD, hp, Option.getD_some]
    simp
  · intro hoff
    obtain ⟨level, data⟩ := line
    cases level
    case off => exact absurd rfl hoff
    case all => simp [LogLevel.value, logLevelPrefix] at hp
    all_goals simp [shownLevels]

theorem row_some (now : CTime) {line : LogLine} (h : line.level ≠ .all) : ∃ r, row now line = some r := by
  obtain ⟨level, data⟩ := line
  cases level
  case all => exact absurd rfl h
  all_goals exact ⟨_, rfl⟩

theorem mark_plain {level : LogLevel} (h : level ∈ shownLevels) :
    (mark level).length = 11 ∧ 10 ∉ mark level ∧
      ∀ rest, (shownLevels.find? fun other => (mark other).isPrefixOf (mark level ++ rest)) = some level := by
  simp only [shownLevels, List.mem_cons, List.not_mem_nil, or_false] at h
  rcases h with rfl | rfl | rfl | rfl | rfl <;> exact ⟨by decide, by decide, fun rest => rfl⟩

theorem readLine_row {now : CTime} {line : LogLine} (h : line.level ∈ shownLevels) :
    readLine (now.chars ++ mark line.level ++ line.data) = some line := by
  obtain ⟨hlength, -, hfind⟩ := mark_plain h
  have hmark : (now.chars ++ mark line.level ++ line.data).drop 24 = mark line.level ++ line.data := by
    rw [List.append_assoc]
    exact List.drop_left' now.length
  have hdata : (now.chars ++ mark line.level ++ line.data).drop 35 = line.data := by
    apply List.drop_left'
    rw [List.length_append, now.length, hlength]
  rw [readLine, hmark, hfind, hdata]
  rfl

theorem newline_row {now : CTime} {line : LogLine} (h : line.level ∈ shownLevels) :
    10 ∈ now.chars ++ mark line.level ++ line.data ↔ 10 ∈ line.data := by
  obtain ⟨-, hmark, -⟩ := mark_plain h
  have htime : (10 : UInt8) ∉ now.chars := fun hm => (now.plain 10 hm).2 rfl
  rw [List.mem_append, List.mem_append]
  tauto

def Shows (r : Bytes) (line : LogLine) : Prop := readLine r = some line ∧ (10 ∈ r ↔ 10 ∈ line.data)

theorem rows_read {rows : List Bytes} {ls : List LogLine} (h : List.Forall₂ Shows rows ls) :
    rows.map readLine = ls.map some := by
  induction h with
  | nil => rfl
  | cons hline _ ih => rw [List.map_cons, List.map_cons, hline.1, ih]

theorem rows_newline {rows : List Bytes} {ls : List LogLine} (h : List.Forall₂ Shows rows ls) :
    (∀ r ∈ rows, 10 ∉ r) ↔ ∀ line ∈ ls, 10 ∉ line.data := by
  induction h with
  | nil => simp
  | cons hline _ ih => rw [List.forall_mem_cons, List.forall_mem_cons, ih, hline.2]

def Written (log : Bytes) (ls : List LogLine) : Prop := ∃ rows, log = unlines 10 rows ∧ List.Forall₂ Shows rows ls

theorem rows_mem {rows : List Bytes} {ls : List LogLine} (h : List.Forall₂ Shows rows ls) {line : LogLine}
    (hline : line ∈ ls) : ∃ r ∈ rows, Shows r line := by
  induction h with
  | nil => cases hline
  | cons hr _ ih =>
    rcases List.mem_cons.mp hline with rfl | hline
    · exact ⟨_, List.mem_cons_self, hr⟩
    · obtain ⟨r, hmem, hshows⟩ := ih hline
      exact ⟨r, List.mem_cons_of_mem _ hmem, hshows⟩

theorem Shows.data {r : Bytes} {line : LogLine} (h : Shows r line) : ∃ stamp, r = stamp ++ line.data := by
  obtain ⟨level, -, rfl⟩ := Option.map_eq_some_iff.mp h.1
  exact ⟨r.take 35, (List.take_append_drop 35 r).symm⟩

theorem written_nil : Written [] [] := ⟨[], rfl, .nil⟩

theorem Written.append {log r : Bytes} {ls : List LogLine} {now : CTime} {line : LogLine}
    (h : Written log ls) (hline : line.level ≠ .off) (hr : row now line = some r) :
    Written (log ++ r) (ls ++ [line]) := by
  obtain ⟨rows, rfl, hrows⟩ := h
  obtain ⟨rfl, hlevel⟩ := row_cases hr
  refine ⟨rows ++ [now.chars ++ mark line.level ++ line.data], ?_, ?_⟩
  · simp [unlines]
  · apply List.rel_append hrows
    exact .cons ⟨readLine_row (hlevel hline), newline_row (hlevel hline)⟩ .nil

theorem Written.reads {log : Bytes} {ls : List LogLine} (h : Written log ls) :
    readLog log = ls.map some ↔ ∀ line ∈ ls, 10 ∉ line.data := by
  obtain ⟨rows, rfl, hrows⟩ := h
  rw [readLog, ← rows_newline hrows]
  constructor
  · intro h
    apply (length_lines_unlines_iff 10 rows).mp
    have hlength := congrArg List.length h
    rw [List.length_map, List.length_map, ← hrows.length_eq] at hlength
    exact hlength
  · intro h
    rw [lines_unlines h, rows_read hrows]

theorem Written.planted {log x l : Bytes} {ls : List LogLine} {line : LogLine} (h : Written log ls)
    (hline : line ∈ ls) (hdata : line.data = x ++ 10 :: l) (hl : 10 ∉ l) : l ∈ lines 10 log := by
  obtain ⟨rows, rfl, hrows⟩ := h
  obtain ⟨r, hmem, hshows⟩ := rows_mem hrows hline
  obtain ⟨stamp, hr⟩ := hshows.data
  obtain ⟨before, after, rfl⟩ := List.append_of_mem hmem
  have hlog : unlines 10 (before ++ r :: after) =
      (unlines 10 before ++ (stamp ++ x)) ++ 10 :: (l ++ 10 :: unlines 10 after) := by
    rw [hr, hdata]
    simp [unlines]
  rw [hlog]
  exact List.mem_of_mem_tail (mem_tail_lines hl _ _)

end SocksProxy.LogLines
