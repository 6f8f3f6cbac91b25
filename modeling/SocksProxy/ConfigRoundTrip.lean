import SocksProxy.ConfigLines
import SocksProxy.ReducedText
import Mathlib.Data.List.TakeWhile

namespace SocksProxy.ConfigRoundTrip

open ConfigReader ConfigLines ReducedText WordSeparation

abbrev Filler := Option Bytes

def fillerLine : Filler → Bytes
  | none => []
  | some text => 35 :: text

structure Pair where
  above : List Filler
  login : Bytes
  password : Bytes
  deriving DecidableEq

inductive Item
  | setting (tag value : Bytes)
  | filler (f : Filler)
  | block (pairs : List Pair) (below : List Filler)
  deriving DecidableEq

def settingLine (tag value : Bytes) : Bytes := tag ++ [32] ++ 61 :: 32 :: value

def loginLine (login : Bytes) : Bytes := loginTag ++ 58 :: 32 :: login

def passwordKey : Bytes := [112, 97, 115, 115, 119, 111, 114, 100]

def passwordLine (password : Bytes) : Bytes := passwordKey ++ 58 :: 32 :: password

def Pair.lines (p : Pair) : List Bytes :=
  p.above.map fillerLine ++ [loginLine p.login, passwordLine p.password]

def Item.lines : Item → List Bytes
  | .setting tag value => [settingLine tag value]
  | .filler f => [fillerLine f]
  | .block pairs below => [123] :: (pairs.flatMap Pair.lines ++ below.map fillerLine ++ [[125]])

def Item.entries : Item → List Entry
  | .setting tag value => [.setting tag value]
  | .filler _ => []
  | .block pairs _ => pairs.map fun p => .account p.login p.password

structure Plain (excluded t : Bytes) : Prop where
  ne_nil : t ≠ []
  reduced : Reduced t
  free : ∀ c ∈ excluded, c ∉ t

def Filler.Valid (f : Filler) : Prop := ∀ text, f = some text → 10 ∉ text

structure Pair.Valid (p : Pair) : Prop where
  above : ∀ f ∈ p.above, Filler.Valid f
  login : Plain [35, 13, 10, 125] p.login
  password : Plain [35, 13, 10, 125] p.password

def Item.Valid : Item → Prop
  | .setting tag value => Plain [35, 13, 10, 123, 61] tag ∧ Plain [35, 13, 10, 123] value
  | .filler f => Filler.Valid f
  | .block pairs below => (∀ p ∈ pairs, p.Valid) ∧ ∀ f ∈ below, Filler.Valid f

def lineEnd (crlf : Bool) : Bytes := if crlf then [13, 10] else [10]

/-- The text of some lines: line `n` ends with CR LF where `crlf n` says so, and the last line
has no end at all unless `final` is set. -/
def render (crlf : ℕ → Bool) (final : Bool) : List Bytes → Bytes
  | [] => []
  | [l] => if final then l ++ lineEnd (crlf 0) else l
  | l :: k :: ls => l ++ lineEnd (crlf 0) ++ render (fun n => crlf (n + 1)) final (k :: ls)

theorem configData_cr (l : Bytes) : configData (l ++ [13]) = configData l := by
  unfold configData
  rw [List.takeWhile_append]
  split_ifs with h
  · rw [(List.takeWhile_prefix _).eq_of_length h]
    simp
  · rfl

theorem step_cr (m : Mode) (l : Bytes) : step m (l ++ [13]) = step m l := by
  cases m with
  | settings => rw [step, step, configData_cr]
  | users => rw [step, step, configData_cr]
  | password u =>
    have hm : 125 ∈ l ++ [13] ↔ 125 ∈ l := by simp
    rw [step, step, passwordStep, passwordStep, configData_cr]
    simp only [hm]

theorem step_empty (m : Mode) : (step m []).2 = none := by
  cases m <;> rfl

theorem lines_cons_lineEnd {l : Bytes} (crlf : Bool) (text : Bytes) (h : 10 ∉ l) :
    TextLines.lines 10 (l ++ lineEnd crlf ++ text) =
      (if crlf then l ++ [13] else l) :: TextLines.lines 10 text := by
  cases crlf with
  | false =>
    have hl := TextLines.lines_append_newline text h
    simpa [lineEnd] using hl
  | true =>
    have hcr : 10 ∉ l ++ [13] := by simp [h]
    have hl := TextLines.lines_append_newline text hcr
    simpa [lineEnd] using hl

theorem runLines_lineEnd {m : Mode} {l : Bytes} (crlf : Bool) (text : Bytes) (h : 10 ∉ l) :
    runLines m (TextLines.lines 10 (l ++ lineEnd crlf ++ text)) =
      ((runLines (step m l).1 (TextLines.lines 10 text)).1,
        (step m l).2.toList ++ (runLines (step m l).1 (TextLines.lines 10 text)).2) := by
  rw [lines_cons_lineEnd crlf text h, runLines]
  cases crlf with
  | false => rfl
  | true => rw [if_pos rfl, step_cr]

theorem runLines_render (m : Mode) (crlf : ℕ → Bool) (final : Bool) (ls : List Bytes)
    (h : ∀ l ∈ ls, 10 ∉ l) :
    (runLines m (TextLines.lines 10 (render crlf final ls))).2 = (runLines m ls).2 := by
  fun_induction render crlf final ls generalizing m with
  | case1 crlf => rfl
  | case2 crlf l hf =>
    have hl : 10 ∉ l := h l List.mem_cons_self
    have hr := runLines_lineEnd (m := m) (crlf 0) [] hl
    rw [List.append_nil] at hr
    rw [hr]
    rfl
  | case3 crlf l hf =>
    rw [TextLines.lines_unterminated (h l List.mem_cons_self)]
    by_cases hl : l = []
    · rw [if_pos hl, hl, runLines_nil, runLines, step_empty]
      rfl
    · rw [if_neg hl]
  | case4 crlf l k ls ih =>
    have hls : ∀ j ∈ k :: ls, 10 ∉ j := fun j hj => h j (List.mem_cons_of_mem l hj)
    rw [runLines_lineEnd _ _ (h l List.mem_cons_self), ih _ hls]
    rfl

theorem configData_plain {l : Bytes} (h : 35 ∉ l) (h' : 13 ∉ l) : configData l = l := by
  have ht : l.takeWhile (· != 35) = l := by
    rw [List.takeWhile_eq_self_iff]
    intro c hc
    simp only [bne_iff_ne, ne_eq]
    rintro rfl
    exact h hc
  rw [configData, ht]
  apply List.filter_eq_self.mpr
  intro c hc
  simp only [bne_iff_ne, ne_eq]
  rintro rfl
  exact h' hc

theorem configData_filler (f : Filler) : configData (fillerLine f) = [] := by
  cases f <;> rfl

theorem step_filler {m : Mode} (f : Filler) (h : m = .settings ∨ m = .users) :
    step m (fillerLine f) = (m, none) := by
  rcases h with rfl | rfl
  · rw [step, configData_filler]
    rfl
  · rw [step, configData_filler]
    rfl

theorem runLines_fillers {m : Mode} (fs : List Filler) (h : m = .settings ∨ m = .users) :
    runLines m (fs.map fillerLine) = (m, []) := by
  induction fs with
  | nil => rfl
  | cons f fs ih =>
    rw [List.map_cons, runLines_cons _ (step_filler f h), ih]
    rfl

theorem reduce_space_cons {t : Bytes} (h : Reduced t) : reduce (32 :: t) = t := by
  have hb := reduce_blank_append t blank_fill
  rwa [reduce_reduced h] at hb

theorem reduce_append_space {t : Bytes} (h : Reduced t) : reduce (t ++ [32]) = t := by
  have hb := reduce_append_blank t blank_fill
  rwa [reduce_reduced h] at hb

theorem step_setting {tag value : Bytes} (ht : Plain [35, 13, 10, 123, 61] tag)
    (hv : Plain [35, 13, 10, 123] value) (hlen : (settingLine tag value).length < 2 ^ 32 - 1) :
    step .settings (settingLine tag value) = (.settings, some (.setting tag value)) := by
  have hfree (c : UInt8) (h₁ : c ∉ tag) (h₂ : c ∉ value) (h₃ : c ≠ 32 ∧ c ≠ 61) :
      c ∉ settingLine tag value := by
    simp [settingLine, h₁, h₂, h₃.1, h₃.2]
  have hopen : 123 ∉ settingLine tag value :=
    hfree 123 (ht.free 123 (by decide)) (hv.free 123 (by decide)) (by decide)
  have hdata : configData (settingLine tag value) = settingLine tag value :=
    configData_plain (hfree 35 (ht.free 35 (by decide)) (hv.free 35 (by decide)) (by decide))
      (hfree 13 (ht.free 13 (by decide)) (hv.free 13 (by decide)) (by decide))
  have hkey : 61 ∉ tag ++ [32] := by
    have h₁ : 61 ∉ tag := ht.free 61 (by decide)
    simp [h₁]
  have hshort : (tag ++ [32]).length < 2 ^ 32 - 1 := by
    simp only [settingLine, List.length_append, List.length_cons] at hlen ⊢
    omega
  have htv : tagValue 61 (settingLine tag value) = (tag, value) := by
    rw [settingLine, tagValue_found hkey hshort, reduce_append_space ht.reduced,
      reduce_space_cons hv.reduced]
  rw [step, hdata, settingStep, if_neg (by simp [settingLine]), if_neg hopen, htv,
    if_neg (by simp [ht.ne_nil, hv.ne_nil])]

theorem tagValue_keyed {key value : Bytes} (hk : Reduced key) (hcolon : 58 ∉ key)
    (hlen : key.length < 2 ^ 32 - 1) (hv : Reduced value) :
    tagValue 58 (key ++ 58 :: 32 :: value) = (key, value) := by
  rw [tagValue_found hcolon hlen, reduce_reduced hk, reduce_space_cons hv]

theorem not_mem_keyed {key value : Bytes} {c : UInt8} (hk : c ∉ key) (hv : c ∉ value)
    (h : c ≠ 58 ∧ c ≠ 32) : c ∉ key ++ 58 :: 32 :: value := by
  simp [hk, hv, h.1, h.2]

theorem step_login {login : Bytes} (h : Plain [35, 13, 10, 125] login) :
    step .users (loginLine login) = (.password login, none) := by
  have hdata : configData (loginLine login) = loginLine login :=
    configData_plain (not_mem_keyed (by decide) (h.free 35 (by decide)) (by decide))
      (not_mem_keyed (by decide) (h.free 13 (by decide)) (by decide))
  have hopen : 125 ∉ loginLine login :=
    not_mem_keyed (by decide) (h.free 125 (by decide)) (by decide)
  have htv : tagValue 58 (loginLine login) = (loginTag, login) :=
    tagValue_keyed ⟨by decide, by decide, by decide, by decide⟩ (by decide) (by decide) h.reduced
  rw [step, hdata, loginStep, if_neg (by simp [loginLine]), if_neg hopen, htv,
    if_neg (by simp [loginTag, h.ne_nil]), if_neg (by simp)]

theorem step_password {login password : Bytes} (h : Plain [35, 13, 10, 125] password) :
    step (.password login) (passwordLine password) =
      (.users, some (.account login password)) := by
  have hdata : configData (passwordLine password) = passwordLine password :=
    configData_plain (not_mem_keyed (by decide) (h.free 35 (by decide)) (by decide))
      (not_mem_keyed (by decide) (h.free 13 (by decide)) (by decide))
  have hopen : 125 ∉ passwordLine password :=
    not_mem_keyed (by decide) (h.free 125 (by decide)) (by decide)
  have htv : tagValue 58 (passwordLine password) = (passwordKey, password) :=
    tagValue_keyed ⟨by decide, by decide, by decide, by decide⟩ (by decide) (by decide) h.reduced
  rw [step, passwordStep, hdata, if_neg hopen, if_neg (by simp [passwordLine]), if_neg hopen, htv,
    if_neg (by simp [passwordKey, h.ne_nil])]

theorem runLines_pair {p : Pair} (h : p.Valid) :
    runLines .users p.lines = (.users, [.account p.login p.password]) := by
  rw [Pair.lines, runLines_append, runLines_fillers p.above (.inr rfl)]
  simp only
  rw [runLines_cons _ (step_login h.login), runLines_cons _ (step_password h.password)]
  rfl

theorem runLines_pairs {pairs : List Pair} (h : ∀ p ∈ pairs, p.Valid) :
    runLines .users (pairs.flatMap Pair.lines) =
      (.users, pairs.map fun p => .account p.login p.password) := by
  induction pairs with
  | nil => rfl
  | cons p pairs ih =>
    have hp := runLines_pair (h p List.mem_cons_self)
    have hps := ih fun q hq => h q (List.mem_cons_of_mem p hq)
    rw [List.flatMap_cons, runLines_append, hp]
    simp only
    rw [hps]
    rfl

theorem runLines_item {i : Item} (h : i.Valid) (hlen : ∀ l ∈ i.lines, l.length < 2 ^ 32 - 1) :
    runLines .settings i.lines = (.settings, i.entries) := by
  cases i with
  | setting tag value =>
    have hl := hlen (settingLine tag value) (List.mem_singleton_self _)
    rw [Item.lines, runLines_cons _ (step_setting h.1 h.2 hl)]
    rfl
  | filler f => exact runLines_fillers [f] (.inl rfl)
  | block pairs below =>
    have hopen : step .settings [123] = (.users, none) := by decide
    have hclose : step .users [125] = (.settings, none) := by decide
    rw [Item.lines, runLines_cons _ hopen, List.append_assoc, runLines_append, runLines_pairs h.1]
    simp only
    rw [runLines_append, runLines_fillers below (.inr rfl)]
    simp only
    rw [runLines_cons _ hclose]
    simp [Item.entries]

theorem runLines_items {items : List Item} (h : ∀ i ∈ items, i.Valid)
    (hlen : ∀ l ∈ items.flatMap Item.lines, l.length < 2 ^ 32 - 1) :
    runLines .settings (items.flatMap Item.lines) = (.settings, items.flatMap Item.entries) := by
  induction items with
  | nil => rfl
  | cons i items ih =>
    rw [List.flatMap_cons] at hlen
    have hi := runLines_item (h i List.mem_cons_self) fun l hl => hlen l (List.mem_append_left _ hl)
    have his := ih (fun j hj => h j (List.mem_cons_of_mem i hj))
      fun l hl => hlen l (List.mem_append_right _ hl)
    rw [List.flatMap_cons, runLines_append, hi]
    simp only
    rw [his]
    rfl

theorem fillerLine_newline {f : Filler} (h : Filler.Valid f) : 10 ∉ fillerLine f := by
  cases f with
  | none => simp [fillerLine]
  | some text => simp [fillerLine, h text rfl]

theorem pair_newline {p : Pair} (h : p.Valid) : ∀ l ∈ p.lines, 10 ∉ l := by
  intro l hl
  rcases List.mem_append.mp hl with hl | hl
  · obtain ⟨f, hf, rfl⟩ := List.mem_map.mp hl
    exact fillerLine_newline (h.above f hf)
  · rcases List.mem_cons.mp hl with rfl | hl
    · exact not_mem_keyed (by decide) (h.login.free 10 (by decide)) (by decide)
    · rw [List.mem_singleton.mp hl]
      exact not_mem_keyed (by decide) (h.password.free 10 (by decide)) (by decide)

theorem item_newline {i : Item} (h : i.Valid) : ∀ l ∈ i.lines, 10 ∉ l := by
  intro l hl
  cases i with
  | setting tag value =>
    have ht : 10 ∉ tag := h.1.free 10 (by decide)
    have hv : 10 ∉ value := h.2.free 10 (by decide)
    rw [List.mem_singleton.mp hl]
    simp [settingLine, ht, hv]
  | filler f =>
    rw [List.mem_singleton.mp hl]
    exact fillerLine_newline h
  | block pairs below =>
    rcases List.mem_cons.mp hl with rfl | hl
    · decide
    rcases List.mem_append.mp hl with hl | hl
    · rcases List.mem_append.mp hl with hl | hl
      · obtain ⟨p, hp, hl⟩ := List.mem_flatMap.mp hl
        exact pair_newline (h.1 p hp) l hl
      · obtain ⟨f, hf, rfl⟩ := List.mem_map.mp hl
        exact fillerLine_newline (h.2 f hf)
    · rw [List.mem_singleton.mp hl]
      decide

def Item.tagValue : Item → Option (Bytes × Bytes)
  | .setting tag value => some (tag, value)
  | _ => none

def Item.credentials : Item → List (Bytes × Bytes)
  | .block pairs _ => pairs.map fun p => (p.login, p.password)
  | _ => []

theorem filterMap_setting (items : List Item) :
    (items.flatMap Item.entries).filterMap setting = items.filterMap Item.tagValue := by
  induction items with
  | nil => rfl
  | cons i items ih =>
    rw [List.flatMap_cons, List.filterMap_append, ih]
    cases i with
    | setting => rfl
    | filler => rfl
    | block pairs below =>
      have hnone : (Item.block pairs below).tagValue = none := rfl
      simp [Item.entries, setting, hnone, Function.comp_def]

theorem filterMap_account (items : List Item) :
    (items.flatMap Item.entries).filterMap account = items.flatMap Item.credentials := by
  induction items with
  | nil => rfl
  | cons i items ih =>
    rw [List.flatMap_cons, List.filterMap_append, ih, List.flatMap_cons]
    cases i with
    | setting => rfl
    | filler => rfl
    | block pairs below => simp [Item.entries, account, Item.credentials, Function.comp_def]

theorem parseFile_render (items : List Item) (crlf : ℕ → Bool) (final : Bool)
    (h : ∀ i ∈ items, i.Valid) (hlen : ∀ l ∈ items.flatMap Item.lines, l.length < 2 ^ 32 - 1) :
    parseFile (some (render crlf final (items.flatMap Item.lines))) {} =
      (true, ⟨lastWins ∅ (items.filterMap Item.tagValue), lastWins ∅ (items.flatMap Item.credentials)⟩) := by
  have hnl : ∀ l ∈ items.flatMap Item.lines, 10 ∉ l := by
    intro l hl
    obtain ⟨i, hi, hl⟩ := List.mem_flatMap.mp hl
    exact item_newline (h i hi) l hl
  rw [parseFile_eq, foldl_record, runLines_render _ _ _ _ hnl, runLines_items h hlen,
    filterMap_setting, filterMap_account]

def sampleItems : List Item :=
  [.setting [97] [49], .block [⟨[some [32, 120]], [117, 58, 118], [112, 32, 113]⟩] [none],
    .setting [97] [50]]

theorem parseFile_render_sample :
    parseFile (some (render (fun n => n % 2 == 0) false (sampleItems.flatMap Item.lines))) {} =
      (true, ⟨lastWins ∅ (sampleItems.filterMap Item.tagValue),
        lastWins ∅ (sampleItems.flatMap Item.credentials)⟩) := by
  apply parseFile_render
  · have ha : Plain [35, 13, 10, 123, 61] [97] :=
      ⟨by decide, ⟨by decide, by decide, by decide, by decide⟩, by simp⟩
    have hone : Plain [35, 13, 10, 123] [49] :=
      ⟨by decide, ⟨by decide, by decide, by decide, by decide⟩, by simp⟩
    have htwo : Plain [35, 13, 10, 123] [50] :=
      ⟨by decide, ⟨by decide, by decide, by decide, by decide⟩, by simp⟩
    have hlogin : Plain [35, 13, 10, 125] [117, 58, 118] :=
      ⟨by decide, ⟨by decide, by decide, by decide, by decide⟩, by simp⟩
    have hpassword : Plain [35, 13, 10, 125] [112, 32, 113] :=
      ⟨by decide, ⟨by decide, by decide, by decide, by decide⟩, by simp⟩
    intro i hi
    simp only [sampleItems, List.mem_cons, List.not_mem_nil, or_false] at hi
    rcases hi with rfl | rfl | rfl
    · exact ⟨ha, hone⟩
    · refine ⟨?_, by simp [Filler.Valid]⟩
      intro p hp
      rw [List.mem_singleton.mp hp]
      exact ⟨by simp [Filler.Valid], hlogin, hpassword⟩
    · exact ⟨ha, htwo⟩
  · decide

end SocksProxy.ConfigRoundTrip
