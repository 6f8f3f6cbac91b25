import SocksProxy.ConfigReader
import Mathlib.Data.List.Induction

namespace SocksProxy.ConfigLines

open ConfigReader

inductive Mode
  | settings
  | users
  | password (login : Bytes)
  deriving DecidableEq

inductive Entry
  | setting (tag value : Bytes)
  | account (login password : Bytes)
  deriving DecidableEq

def settingStep (data : Bytes) : Mode × Option Entry :=
  if data = [] then (.settings, none)
  else if 123 ∈ data then (.users, none)
  else if (tagValue 61 data).1 = [] ∨ (tagValue 61 data).2 = [] then (.settings, none)
  else (.settings, some (.setting (tagValue 61 data).1 (tagValue 61 data).2))

def loginStep (data : Bytes) : Mode × Option Entry :=
  if data = [] then (.users, none)
  else if 125 ∈ data then (.settings, none)
  else if (tagValue 58 data).1 = [] ∨ (tagValue 58 data).2 = [] then (.users, none)
  else if (tagValue 58 data).1 ≠ loginTag then (.users, none)
  else (.password (tagValue 58 data).2, none)

def passwordStep (login line : Bytes) : Mode × Option Entry :=
  if 125 ∈ line then (.settings, none)
  else if configData line = [] then (.users, none)
  else if 125 ∈ configData line then (.settings, none)
  else if (tagValue 58 (configData line)).1 = [] ∨ (tagValue 58 (configData line)).2 = [] then
    (.users, none)
  else (.users, some (.account login (tagValue 58 (configData line)).2))

def step : Mode → Bytes → Mode × Option Entry
  | .settings, line => settingStep (configData line)
  | .users, line => loginStep (configData line)
  | .password login, line => passwordStep login line

/-- The automaton of single lines that the two nested loops amount to. -/
def runLines : Mode → List Bytes → Mode × List Entry
  | m, [] => (m, [])
  | m, line :: rest =>
    ((runLines (step m line).1 rest).1, (step m line).2.toList ++ (runLines (step m line).1 rest).2)

@[simp] theorem runLines_nil (m : Mode) : runLines m [] = (m, []) := rfl

theorem runLines_cons {m m' : Mode} {line : Bytes} {e : Option Entry} (rest : List Bytes)
    (h : step m line = (m', e)) :
    runLines m (line :: rest) = ((runLines m' rest).1, e.toList ++ (runLines m' rest).2) := by
  rw [runLines, h]

theorem runLines_append (m : Mode) (xs ys : List Bytes) :
    runLines m (xs ++ ys) = ((runLines (runLines m xs).1 ys).1,
      (runLines m xs).2 ++ (runLines (runLines m xs).1 ys).2) := by
  induction xs generalizing m with
  | nil => rfl
  | cons x xs ih => rw [List.cons_append, runLines, ih, runLines, List.append_assoc]

def record (c : Config) : Entry → Config
  | .setting tag value => { c with settings := c.settings.insert tag value }
  | .account login password => { c with users := c.users.insert login password }

structure BlockRead (users users' : Finmap (fun _ : Bytes => Bytes)) (m : Mode)
    (ls rest : List Bytes) : Prop where
  intro ::
  read : ∃ block m' es, ls = block ++ rest ∧ runLines m block = (m', es) ∧
    (m' = .settings ∨ rest = []) ∧ ∀ c : Config, c.users = users →
      es.foldl record c = { c with users := users' }

theorem BlockRead.cons {users users' users'' : Finmap (fun _ : Bytes => Bytes)} {m m' : Mode}
    {line : Bytes} {ls rest : List Bytes} {e : Option Entry} (h : step m line = (m', e))
    (he : ∀ c : Config, c.users = users → e.toList.foldl record c = { c with users := users' })
    (hr : BlockRead users' users'' m' ls rest) : BlockRead users users'' m (line :: ls) rest := by
  obtain ⟨block, m'', es, rfl, hrun, hend, hfold⟩ := hr.read
  refine ⟨line :: block, m'', e.toList ++ es, rfl, ?_, hend, ?_⟩
  · rw [runLines_cons block h, hrun]
  · intro c hc
    rw [List.foldl_append, he c hc, hfold _ rfl]

theorem BlockRead.closed {users : Finmap (fun _ : Bytes => Bytes)} {m : Mode} {line : Bytes}
    (rest : List Bytes) (h : step m line = (.settings, none)) :
    BlockRead users users m (line :: rest) rest := by
  refine ⟨[line], .settings, [], rfl, ?_, .inl rfl, ?_⟩
  · rw [runLines_cons [] h]
    rfl
  · rintro c rfl
    rfl

theorem BlockRead.ended (users : Finmap (fun _ : Bytes => Bytes)) (m : Mode) :
    BlockRead users users m [] [] := by
  refine ⟨[], m, [], rfl, rfl, .inr rfl, ?_⟩
  rintro c rfl
  rfl

theorem BlockRead.skip {users users' : Finmap (fun _ : Bytes => Bytes)} {m m' : Mode}
    {line : Bytes} {ls rest : List Bytes} (h : step m line = (m', none))
    (hr : BlockRead users users' m' ls rest) : BlockRead users users' m (line :: ls) rest := by
  apply BlockRead.cons h _ hr
  rintro c rfl
  rfl

theorem login_line {line : Bytes} (h : ¬configData line = []) (h₁ : 125 ∉ configData line)
    (h₂ : ¬((tagValue 58 (configData line)).1 = [] ∨ (tagValue 58 (configData line)).2 = []))
    (h₃ : ¬(tagValue 58 (configData line)).1 ≠ loginTag) :
    step .users line = (.password (tagValue 58 (configData line)).2, none) := by
  rw [step, loginStep, if_neg h, if_neg h₁, if_neg h₂, if_neg h₃]

theorem fillUsers_read (users : Finmap (fun _ : Bytes => Bytes)) (ls : List Bytes) :
    BlockRead users (fillUsers users ls).1 .users ls (fillUsers users ls).2 := by
  fun_induction fillUsers users ls with
  | case1 users => exact .ended users .users
  | case2 users line rest data h ih =>
    exact .skip (by rw [step, loginStep, if_pos (by exact h)]) ih
  | case3 users line rest data h h₁ =>
    exact .closed rest (by rw [step, loginStep, if_neg (by exact h), if_pos (by exact h₁)])
  | case4 users line rest data h h₁ tv h₂ ih =>
    exact .skip (by rw [step, loginStep, if_neg (by exact h), if_neg (by exact h₁),
      if_pos (by exact h₂)]) ih
  | case5 users line rest data h h₁ tv h₂ h₃ ih =>
    exact .skip (by rw [step, loginStep, if_neg (by exact h), if_neg (by exact h₁),
      if_neg (by exact h₂), if_pos (by exact h₃)]) ih
  | case6 users line data h h₁ tv h₂ h₃ =>
    exact .skip (login_line h h₁ h₂ h₃) (.ended users _)
  | case7 users line data h h₁ tv h₂ h₃ line2 rest k =>
    exact .skip (login_line h h₁ h₂ h₃) (.closed rest (by rw [step, passwordStep, if_pos k]))
  | case8 users line data h h₁ tv h₂ h₃ line2 rest k data2 k₁ ih =>
    exact .skip (login_line h h₁ h₂ h₃) (.skip (by
      rw [step, passwordStep, if_neg k, if_pos (by exact k₁)]) ih)
  | case9 users line data h h₁ tv h₂ h₃ line2 rest k data2 k₁ k₂ =>
    exact .skip (login_line h h₁ h₂ h₃) (.closed rest (by
      rw [step, passwordStep, if_neg k, if_neg (by exact k₁), if_pos (by exact k₂)]))
  | case10 users line data h h₁ tv h₂ h₃ line2 rest k data2 k₁ k₂ tv2 k₃ ih =>
    exact .skip (login_line h h₁ h₂ h₃) (.skip (by
      rw [step, passwordStep, if_neg k, if_neg (by exact k₁), if_neg (by exact k₂),
        if_pos (by exact k₃)]) ih)
  | case11 users line data h h₁ tv h₂ h₃ line2 rest k data2 k₁ k₂ tv2 k₃ ih =>
    refine .skip (login_line h h₁ h₂ h₃) (.cons (by
      rw [step, passwordStep, if_neg k, if_neg (by exact k₁), if_neg (by exact k₂),
        if_neg (by exact k₃)]) ?_ ih)
    rintro c rfl
    simp only [Option.toList_some, List.foldl_cons, List.foldl_nil, record, assign_eq]
    rfl

theorem parseLines_eq (fuel : ℕ) (ls : List Bytes) (c : Config) (h : ls.length ≤ fuel) :
    parseLines fuel ls c = (runLines .settings ls).2.foldl record c := by
  induction fuel generalizing ls c with
  | zero =>
    rw [List.length_eq_zero_iff.mp (Nat.le_zero.mp h)]
    rfl
  | succ fuel ih =>
    cases ls with
    | nil => rfl
    | cons line rest =>
      have hrest : rest.length ≤ fuel := Nat.le_of_succ_le_succ h
      rw [parseLines]
      simp only
      by_cases h₁ : configData line = []
      · rw [if_pos h₁, ih rest c hrest, runLines_cons rest (show step .settings line = (.settings, none) by
          rw [step, settingStep, if_pos h₁])]
        rfl
      rw [if_neg h₁]
      by_cases h₂ : 123 ∈ configData line
      · obtain ⟨block, m', es, hsplit, hrun, hend, hfold⟩ := (fillUsers_read c.users rest).read
        rw [if_pos h₂, runLines_cons rest (show step .settings line = (.users, none) by
          rw [step, settingStep, if_neg h₁, if_pos h₂])]
        have hle : (fillUsers c.users rest).2.length ≤ fuel := by
          have hl := congrArg List.length hsplit
          rw [List.length_append] at hl
          omega
        have hruns := congrArg (runLines .users) hsplit
        rw [runLines_append, hrun] at hruns
        have htail : (runLines m' (fillUsers c.users rest).2).2 =
            (runLines .settings (fillUsers c.users rest).2).2 := by
          rcases hend with rfl | hnil
          · rfl
          · rw [hnil]
            rfl
        rw [ih _ _ hle, hruns, htail]
        simp only [Option.toList_none, List.nil_append, List.foldl_append]
        rw [hfold c rfl]
      rw [if_neg h₂]
      by_cases h₃ : (tagValue 61 (configData line)).1 = [] ∨ (tagValue 61 (configData line)).2 = []
      · rw [if_pos h₃, ih rest c hrest, runLines_cons rest (show step .settings line = (.settings, none) by
          rw [step, settingStep, if_neg h₁, if_neg h₂, if_pos h₃])]
        rfl
      · rw [if_neg h₃, ih rest _ hrest, assign_eq, runLines_cons rest (show step .settings line = _ by
          rw [step, settingStep, if_neg h₁, if_neg h₂, if_neg h₃])]
        rfl

theorem parseFile_eq (content : Bytes) (c : Config) : parseFile (some content) c =
    (true, (runLines .settings (TextLines.lines 10 content)).2.foldl record c) := by
  rw [parseFile, parseLines_eq _ _ _ (Nat.le_refl _)]

def account : Entry → Option (Bytes × Bytes)
  | .account login password => some (login, password)
  | .setting _ _ => none

def setting : Entry → Option (Bytes × Bytes)
  | .setting tag value => some (tag, value)
  | .account _ _ => none

def lastWins (m : Finmap (fun _ : Bytes => Bytes)) (entries : List (Bytes × Bytes)) :
    Finmap (fun _ : Bytes => Bytes) := entries.foldl (fun m e => m.insert e.1 e.2) m

theorem foldl_record (es : List Entry) (c : Config) : es.foldl record c =
    ⟨lastWins c.settings (es.filterMap setting), lastWins c.users (es.filterMap account)⟩ := by
  induction es generalizing c with
  | nil => rfl
  | cons e es ih =>
    rw [List.foldl_cons, ih]
    cases e <;> rfl

theorem mem_of_lookup_lastWins {m : Finmap (fun _ : Bytes => Bytes)} {entries : List (Bytes × Bytes)}
    {k v : Bytes} (h : (lastWins m entries).lookup k = some v) :
    m.lookup k = some v ∨ (k, v) ∈ entries := by
  induction entries generalizing m with
  | nil => exact .inl h
  | cons e entries ih =>
    rcases ih h with h | h
    · by_cases hk : k = e.1
      · subst hk
        rw [Finmap.lookup_insert, Option.some.injEq] at h
        exact .inr (List.mem_cons.mpr (.inl (by rw [← h])))
      · rw [Finmap.lookup_insert_of_ne _ hk] at h
        exact .inl h
    · exact .inr (List.mem_cons_of_mem e h)

def modeAt (ls : List Bytes) (i : ℕ) : Mode := (runLines .settings (ls.take i)).1

theorem modeAt_succ {ls : List Bytes} {i : ℕ} {line : Bytes} (h : ls[i]? = some line) :
    modeAt ls (i + 1) = (step (modeAt ls i) line).1 := by
  rw [modeAt, List.take_add_one, h, Option.toList_some, runLines_append]
  rfl

theorem mem_runLines {ls : List Bytes} {e : Entry} (h : e ∈ (runLines .settings ls).2) :
    ∃ i line, ls[i]? = some line ∧ (step (modeAt ls i) line).2 = some e := by
  induction ls using List.reverseRecOn with
  | nil => simp at h
  | append_singleton ls line ih =>
    rw [runLines_append] at h
    rcases List.mem_append.mp h with h | h
    · obtain ⟨i, l, hl, he⟩ := ih h
      have hi : i < ls.length := (List.getElem?_eq_some_iff.mp hl).1
      refine ⟨i, l, by rw [List.getElem?_append_left hi, hl], ?_⟩
      rwa [modeAt, List.take_append_of_le_length (Nat.le_of_lt hi)]
    · refine ⟨ls.length, line, by simp, ?_⟩
      rw [modeAt, List.take_left]
      simpa [runLines] using h

end SocksProxy.ConfigLines
