import SocksProxy.ConfigRoundTrip

namespace SocksProxy.CommentLines

open ConfigReader ConfigLines ConfigRoundTrip

abbrev Line := {l : Bytes // 10 ∉ l}

def lineCr (cr : Bool) : Bytes := if cr then [13] else []

inductive Edit
  | append (line text : Line) (cr : Bool)
  | insert (filler : Option Line) (cr : Bool)

namespace Edit

def before : Edit → List Bytes
  | .append line _ cr => [line.1 ++ lineCr cr]
  | .insert _ _ => []

def after : Edit → List Bytes
  | .append line text cr => [line.1 ++ 35 :: text.1 ++ lineCr cr]
  | .insert filler cr => [fillerLine (filler.map Subtype.val) ++ lineCr cr]

/-- A password line is tested for its closing brace together with its comment, and a line after a
login line is taken for its password line even when it is empty. -/
def Harmless : Edit → Mode → Prop
  | .append line text _, .password _ => 125 ∈ text.1 → 125 ∈ line.1
  | .insert _ _, .password _ => False
  | _, _ => True

end Edit

def Unchanged (pre : List Line) (e : Edit) : Prop :=
  ∀ (post : List Line) (f g : Bytes),
    TextLines.lines 10 f = pre.map Subtype.val ++ (e.before ++ post.map Subtype.val) →
    TextLines.lines 10 g = pre.map Subtype.val ++ (e.after ++ post.map Subtype.val) →
    (parseFile (some f) {}).2 = (parseFile (some g) {}).2

def modeAfter (pre : List Line) : Mode := (runLines .settings (pre.map Subtype.val)).1

def configAfter (pre : List Line) : Config :=
  (runLines .settings (pre.map Subtype.val)).2.foldl record {}

theorem parseFile_lines {pre : List Line} {rest : List Bytes} {f : Bytes}
    (h : TextLines.lines 10 f = pre.map Subtype.val ++ rest) : (parseFile (some f) {}).2 =
      (runLines (modeAfter pre) rest).2.foldl record (configAfter pre) := by
  rw [parseFile_eq, h, runLines_append, List.foldl_append]
  rfl

theorem newline_lineCr {l : Bytes} (cr : Bool) (h : 10 ∉ l) : 10 ∉ l ++ lineCr cr := by
  cases cr <;> simp [lineCr, h]

theorem Edit.before_newline (e : Edit) : ∀ l ∈ e.before, 10 ∉ l := by
  intro l hl
  cases e with
  | append line text cr =>
    rw [List.mem_singleton.mp hl]
    exact newline_lineCr cr line.2
  | insert filler cr => simp [before] at hl

theorem Edit.after_newline (e : Edit) : ∀ l ∈ e.after, 10 ∉ l := by
  intro l hl
  rw [after.eq_def] at hl
  cases e with
  | append line text cr =>
    rw [List.mem_singleton.mp hl]
    apply newline_lineCr cr
    simp [line.2, text.2]
  | insert filler cr =>
    rw [List.mem_singleton.mp hl]
    apply newline_lineCr cr
    cases filler with
    | none => simp [fillerLine]
    | some text => simp [fillerLine, text.2]

theorem exists_file (pre : List Line) {mid : List Bytes} (post : List Line) (h : ∀ l ∈ mid, 10 ∉ l) :
    ∃ f, TextLines.lines 10 f = pre.map Subtype.val ++ (mid ++ post.map Subtype.val) := by
  have hline : ∀ (ls : List Line), ∀ l ∈ ls.map Subtype.val, 10 ∉ l := by
    intro ls l hl
    obtain ⟨k, -, rfl⟩ := List.mem_map.mp hl
    exact k.2
  refine ⟨TextLines.unlines 10 _, TextLines.lines_unlines fun l hl => ?_⟩
  rcases List.mem_append.mp hl with hl | hl
  · exact hline pre l hl
  rcases List.mem_append.mp hl with hl | hl
  · exact h l hl
  · exact hline post l hl

theorem step_lineCr (m : Mode) (l : Bytes) (cr : Bool) : step m (l ++ lineCr cr) = step m l := by
  cases cr with
  | false => rw [lineCr, if_neg (by decide), List.append_nil]
  | true => rw [lineCr, if_pos rfl, step_cr]

theorem configData_comment (line text : Bytes) : configData (line ++ 35 :: text) = configData line := by
  unfold configData
  rw [List.takeWhile_append]
  split_ifs with h
  · rw [(List.takeWhile_prefix _).eq_of_length h]
    simp
  · rfl

theorem step_comment {m : Mode} {line text : Bytes}
    (h : ∀ login, m = .password login → 125 ∈ text → 125 ∈ line) :
    step m (line ++ 35 :: text) = step m line := by
  cases m with
  | settings => rw [step, step, configData_comment]
  | users => rw [step, step, configData_comment]
  | password login =>
    have hbrace : 125 ∈ line ++ 35 :: text ↔ 125 ∈ line := by
      have htext := h login rfl
      simp only [List.mem_append, List.mem_cons]
      constructor
      · rintro (hl | hc | ht)
        · exact hl
        · exact absurd hc (by decide)
        · exact htext ht
      · exact .inl
    rw [step, step, passwordStep, passwordStep, configData_comment]
    simp only [hbrace]

theorem runLines_edit {e : Edit} {m : Mode} (post : List Bytes) (h : e.Harmless m) :
    (runLines m (e.after ++ post)).2 = (runLines m (e.before ++ post)).2 := by
  cases e with
  | append line text cr =>
    have hstep : step m (line.1 ++ 35 :: text.1) = step m line.1 := by
      apply step_comment
      rintro login rfl
      exact h
    simp only [Edit.after, Edit.before, List.singleton_append, runLines, step_lineCr, hstep]
  | insert filler cr =>
    have hstep : step m (fillerLine (filler.map Subtype.val)) = (m, none) := by
      cases m with
      | settings => exact step_filler _ (.inl rfl)
      | users => exact step_filler _ (.inr rfl)
      | password login => exact h.elim
    simp only [Edit.after, Edit.before, List.singleton_append, List.nil_append, runLines, step_lineCr,
      hstep, Option.toList_none]

theorem unchanged_of_harmless {pre : List Line} {e : Edit} (h : e.Harmless (modeAfter pre)) :
    Unchanged pre e := by
  intro post f g hf hg
  rw [parseFile_lines hf, parseFile_lines hg, runLines_edit _ h]

theorem foldl_settings {es : List Entry} (c : Config) (h : es.filterMap setting = []) :
    (es.foldl record c).settings = c.settings := by
  rw [foldl_record, h]
  rfl

theorem foldl_users {es : List Entry} (c : Config) (h : es.filterMap account = []) :
    (es.foldl record c).users = c.users := by
  rw [foldl_record, h]
  rfl

def settingProbe (c : UInt8) : Bytes := [120, 61, c]

def passwordProbe (c : UInt8) : Bytes := [97, 58, c]

theorem settingProbe_settings {c : UInt8} (h : c = 98 ∨ c = 99) :
    step .settings (settingProbe c) = (.settings, some (.setting [120] [c])) := by
  rcases h with rfl | rfl <;> decide

theorem settingProbe_users {c : UInt8} (h : c = 98 ∨ c = 99) :
    step .users (settingProbe c) = (.users, none) := by
  rcases h with rfl | rfl <;> decide

theorem passwordProbe_password {c : UInt8} (login : Bytes) (h : c = 98 ∨ c = 99) :
    step (.password login) (passwordProbe c) = (.users, some (.account login [c])) := by
  rcases h with rfl | rfl <;> rfl

theorem passwordProbe_accounts {c : UInt8} {m : Mode} (h : c = 98 ∨ c = 99)
    (hm : m = .settings ∨ m = .users) : (runLines m [passwordProbe c]).2.filterMap account = [] := by
  rcases h with rfl | rfl <;> rcases hm with rfl | rfl <;> decide

theorem newline_probe {a b c : UInt8} (hab : a ≠ 10 ∧ b ≠ 10) (h : c = 98 ∨ c = 99) :
    10 ∉ [a, b, c] := by
  rcases h with rfl | rfl <;> simp [hab.1.symm, hab.2.symm]

theorem step_password_line {line : Bytes} (login : Bytes) (h : 125 ∉ line) :
    (step (.password login) line).1 = .users ∧
      (step (.password login) line).2.toList.filterMap setting = [] := by
  have hdata : 125 ∉ configData line := by
    intro hm
    exact h ((List.takeWhile_prefix _).subset (List.mem_of_mem_filter hm))
  rw [step, passwordStep, if_neg h, if_neg hdata]
  split_ifs <;> exact ⟨rfl, rfl⟩

theorem step_password_filler (login : Bytes) (f : Filler) : ∃ m, (m = .settings ∨ m = .users) ∧
    step (.password login) (fillerLine f) = (m, none) := by
  by_cases h : 125 ∈ fillerLine f
  · exact ⟨.settings, .inl rfl, by rw [step, passwordStep, if_pos h]⟩
  · exact ⟨.users, .inr rfl, by rw [step, passwordStep, if_neg h, if_pos (configData_filler f)]⟩

theorem braced_comment {pre : List Line} {line text : Line} {cr : Bool} {login : Bytes}
    (hm : modeAfter pre = .password login) (h : Unchanged pre (.append line text cr))
    (ht : 125 ∈ text.1) : 125 ∈ line.1 := by
  by_contra hl
  have hread (c : UInt8) (hc : c = 98 ∨ c = 99) : (configAfter pre).settings.lookup [120] = some [c] := by
    obtain ⟨f, hf⟩ := exists_file pre [⟨settingProbe c, newline_probe (by decide) hc⟩]
      (Edit.before_newline (.append line text cr))
    obtain ⟨g, hg⟩ := exists_file pre [⟨settingProbe c, newline_probe (by decide) hc⟩]
      (Edit.after_newline (.append line text cr))
    have hsame := h _ f g hf hg
    have hclosed : step (.password login) (line.1 ++ 35 :: text.1) = (.settings, none) := by
      rw [step, passwordStep, if_pos (by simp [ht])]
    obtain ⟨hmode, hnone⟩ := step_password_line login hl
    rw [parseFile_lines hf, parseFile_lines hg, hm] at hsame
    simp only [Edit.before, Edit.after, List.singleton_append, List.map_cons, List.map_nil, runLines,
      step_lineCr, hclosed, hmode, settingProbe_settings hc, settingProbe_users hc] at hsame
    have hsettings := congrArg Config.settings hsame
    rw [foldl_settings _ (by simpa using hnone)] at hsettings
    rw [hsettings]
    exact Finmap.lookup_insert _
  have htwice := (hread 98 (.inl rfl)).symm.trans (hread 99 (.inr rfl))
  exact absurd htwice (by decide)

theorem inserted_password {pre : List Line} {filler : Option Line} {cr : Bool} {login : Bytes}
    (hm : modeAfter pre = .password login) : ¬Unchanged pre (.insert filler cr) := by
  intro h
  have hread (c : UInt8) (hc : c = 98 ∨ c = 99) : (configAfter pre).users.lookup login = some [c] := by
    obtain ⟨f, hf⟩ := exists_file pre [⟨passwordProbe c, newline_probe (by decide) hc⟩]
      (Edit.before_newline (.insert filler cr))
    obtain ⟨g, hg⟩ := exists_file pre [⟨passwordProbe c, newline_probe (by decide) hc⟩]
      (Edit.after_newline (.insert filler cr))
    have hsame := h _ f g hf hg
    obtain ⟨m, hmode, hstep⟩ := step_password_filler login (filler.map Subtype.val)
    rw [parseFile_lines hf, parseFile_lines hg, hm] at hsame
    simp only [Edit.before, Edit.after, List.singleton_append, List.nil_append, List.map_cons,
      List.map_nil] at hsame
    have hline : step (.password login) (fillerLine (filler.map Subtype.val) ++ lineCr cr) = (m, none) := by
      rw [step_lineCr, hstep]
    rw [runLines_cons [] (passwordProbe_password login hc), runLines_cons _ hline] at hsame
    simp only [Option.toList_none, List.nil_append] at hsame
    have husers := congrArg Config.users hsame
    rw [foldl_users _ (passwordProbe_accounts hc hmode)] at husers
    rw [← husers]
    exact Finmap.lookup_insert _
  have htwice := (hread 98 (.inl rfl)).symm.trans (hread 99 (.inr rfl))
  exact absurd htwice (by decide)

theorem edit_iff (pre : List Line) (e : Edit) : Unchanged pre e ↔ e.Harmless (modeAfter pre) := by
  refine ⟨fun h => ?_, unchanged_of_harmless⟩
  cases hm : modeAfter pre with
  | settings => cases e <;> trivial
  | users => cases e <;> trivial
  | password login =>
    cases e with
    | append line text cr => exact braced_comment hm h
    | insert filler cr => exact inserted_password hm h

def openPair : List Line := [⟨[123], by decide⟩, ⟨loginTag ++ [58, 97], by decide⟩]

def pairRest : List Line := [⟨[112, 58, 98], by decide⟩, ⟨[125], by decide⟩]

def pairFile (mid : Bytes) : Bytes :=
  TextLines.unlines 10 (openPair.map Subtype.val) ++ (mid ++ TextLines.unlines 10 (pairRest.map Subtype.val))

theorem blank_line_drops_account : (parseFile (some (pairFile [])) {}).2.users.lookup [97] = some [98] ∧
    (parseFile (some (pairFile [10])) {}).2.users.lookup [97] = none ∧
    ¬Unchanged openPair (.insert none false) := by
  have hkept : (parseFile (some (pairFile [])) {}).2.users.lookup [97] = some [98] := by decide
  have hdropped : (parseFile (some (pairFile [10])) {}).2.users.lookup [97] = none := by decide
  refine ⟨hkept, hdropped, fun h => ?_⟩
  rw [h pairRest (pairFile []) (pairFile [10]) (by decide) (by decide), hdropped] at hkept
  cases hkept

end SocksProxy.CommentLines
