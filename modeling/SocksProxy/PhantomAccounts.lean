import SocksProxy.ConfigLines
import SocksProxy.ReducedText

namespace SocksProxy.PhantomAccounts

open ConfigReader ConfigLines ReducedText WordSeparation

def passwordTag : Bytes := [112, 97, 115, 115, 119, 111, 114, 100]

def Says (line tag value : Bytes) : Prop :=
  ∃ k v, configData line = k ++ 58 :: v ∧ 58 ∉ k ∧ reduce k = tag ∧ reduce v = value

structure Declared (ls : List Bytes) (i : ℕ) (u p : Bytes) : Prop where
  block : ∃ o < i, (∃ l, ls[o]? = some l ∧ 123 ∈ configData l) ∧
    ∀ k, o < k → k ≤ i + 1 → ∀ l, ls[k]? = some l → 125 ∉ configData l
  login : ∃ l, ls[i]? = some l ∧ Says l loginTag u
  password : ∃ l, ls[i + 1]? = some l ∧ Says l passwordTag p

structure PairAt (ls : List Bytes) (i : ℕ) (line1 line2 u p : Bytes) : Prop where
  first : ls[i]? = some line1
  second : ls[i + 1]? = some line2
  mode : modeAt ls i = .users
  login : (step .users line1).1 = .password u
  password : (step (.password u) line2).2 = some (.account u p)

def NoPhantoms (content : Bytes) : Prop :=
  (∀ u p, (parseFile (some content) {}).2.users.lookup u = some p →
    ∃ i, Declared (TextLines.lines 10 content) i u p) ∧
  ∀ i line1 line2 u p, PairAt (TextLines.lines 10 content) i line1 line2 u p →
    Declared (TextLines.lines 10 content) i u p

def Labelled (line tag : Bytes) : Prop :=
  ∃ k v, configData line = k ++ 58 :: v ∧ 58 ∉ k ∧ k.length < 2 ^ 32 - 1 ∧ reduce k = tag

def WellLabelled (content : Bytes) : Prop :=
  ∀ i line1 line2 u p, PairAt (TextLines.lines 10 content) i line1 line2 u p →
    Labelled line1 loginTag ∧ Labelled line2 passwordTag

theorem says_iff_labelled {line tag : Bytes} :
    Says line tag (tagValue 58 (configData line)).2 ↔ Labelled line tag := by
  constructor
  · rintro ⟨k, v, hdata, hk, htag, hvalue⟩
    refine ⟨k, v, hdata, hk, ?_, htag⟩
    by_contra hlen
    apply tagValue_far rfl hk (by omega)
    rw [hvalue, hdata]
  · rintro ⟨k, v, hdata, hk, hlen, htag⟩
    refine ⟨k, v, hdata, hk, htag, ?_⟩
    rw [hdata, tagValue_found hk hlen]

theorem mem_of_mem_configData {line : Bytes} {c : UInt8} (h : c ∈ configData line) : c ∈ line :=
  (List.takeWhile_prefix _).subset (List.mem_of_mem_filter h)

theorem login_taken {line u : Bytes} (h : (step .users line).1 = .password u) :
    125 ∉ configData line ∧ u = (tagValue 58 (configData line)).2 := by
  simp only [step, loginStep] at h
  split_ifs at h with h₁ h₂ h₃ h₄
  exact ⟨h₂, (Mode.password.inj h).symm⟩

theorem password_taken {line u v p : Bytes} (h : (step (.password u) line).2 = some (.account v p)) :
    125 ∉ configData line ∧ v = u ∧ p = (tagValue 58 (configData line)).2 := by
  simp only [step, passwordStep] at h
  split_ifs at h with h₁ h₂ h₃ h₄
  obtain ⟨rfl, rfl⟩ := Entry.account.inj (Option.some.inj h)
  exact ⟨h₃, rfl, rfl⟩

def OpenSince (ls : List Bytes) (o i : ℕ) : Prop :=
  o < i ∧ (∃ l, ls[o]? = some l ∧ 123 ∈ configData l) ∧
    ∀ k, o < k → k < i → ∀ l, ls[k]? = some l → 125 ∉ configData l

theorem OpenSince.succ {ls : List Bytes} {o i : ℕ} {line : Bytes} (h : OpenSince ls o i)
    (hl : ls[i]? = some line) (hc : 125 ∉ configData line) : OpenSince ls o (i + 1) := by
  obtain ⟨hlt, hopen, hno⟩ := h
  refine ⟨by omega, hopen, ?_⟩
  intro k hk hki l hkl
  by_cases he : k = i
  · subst he
    rw [hl, Option.some.injEq] at hkl
    exact hkl ▸ hc
  · exact hno k hk (by omega) l hkl

theorem step_open {m : Mode} {line : Bytes} (h : (step m line).1 ≠ .settings) :
    (m = .settings ∧ 123 ∈ configData line) ∨ (m ≠ .settings ∧ 125 ∉ configData line) := by
  cases m with
  | settings =>
    simp only [step, settingStep] at h
    split_ifs at h with h₁ h₂
    · exact absurd rfl h
    · exact .inl ⟨rfl, h₂⟩
    · exact absurd rfl h
    · exact absurd rfl h
  | users =>
    refine .inr ⟨by simp, fun hc => h ?_⟩
    have hne : ¬configData line = [] := List.ne_nil_of_mem hc
    rw [step, loginStep, if_neg hne, if_pos hc]
  | password u =>
    refine .inr ⟨by simp, fun hc => h ?_⟩
    rw [step, passwordStep, if_pos (mem_of_mem_configData hc)]

theorem openSince_of_mode {ls : List Bytes} {i : ℕ} (hi : i ≤ ls.length)
    (h : modeAt ls i ≠ .settings) : ∃ o, OpenSince ls o i := by
  induction i with
  | zero => exact absurd rfl h
  | succ i ih =>
    obtain ⟨line, hl⟩ : ∃ line, ls[i]? = some line := ⟨ls[i], List.getElem?_eq_getElem (by omega)⟩
    rw [modeAt_succ hl] at h
    rcases step_open h with ⟨-, hc⟩ | ⟨hm, hc⟩
    · refine ⟨i, by omega, ⟨line, hl, hc⟩, ?_⟩
      intro k hk hki
      omega
    · obtain ⟨o, ho⟩ := ih (by omega) hm
      exact ⟨o, ho.succ hl hc⟩

theorem PairAt.declared_iff {ls : List Bytes} {i : ℕ} {line1 line2 u p : Bytes}
    (h : PairAt ls i line1 line2 u p) :
    Declared ls i u p ↔ Labelled line1 loginTag ∧ Labelled line2 passwordTag := by
  obtain ⟨hc₁, hu⟩ := login_taken h.login
  obtain ⟨hc₂, -, hp⟩ := password_taken h.password
  rw [← says_iff_labelled, ← says_iff_labelled, ← hu, ← hp]
  constructor
  · rintro ⟨-, ⟨l₁, hl₁, hs₁⟩, ⟨l₂, hl₂, hs₂⟩⟩
    rw [h.first, Option.some.injEq] at hl₁
    rw [h.second, Option.some.injEq] at hl₂
    exact ⟨hl₁ ▸ hs₁, hl₂ ▸ hs₂⟩
  · rintro ⟨hs₁, hs₂⟩
    have hi : i ≤ ls.length := Nat.le_of_lt (List.getElem?_eq_some_iff.mp h.first).1
    obtain ⟨o, ho⟩ := openSince_of_mode hi (by simp [h.mode])
    obtain ⟨-, hopen, hno⟩ := (ho.succ h.first hc₁).succ h.second hc₂
    refine ⟨⟨o, ho.1, hopen, ?_⟩, ⟨line1, h.first, hs₁⟩, ⟨line2, h.second, hs₂⟩⟩
    intro k hk hki
    exact hno k hk (by omega)

theorem users_of_password {m : Mode} {line u : Bytes} (h : (step m line).1 = .password u) :
    m = .users := by
  cases m with
  | users => rfl
  | settings =>
    simp only [step, settingStep] at h
    split_ifs at h
  | password v =>
    simp only [step, passwordStep] at h
    split_ifs at h

theorem pairAt_of_account {ls : List Bytes} {u p : Bytes}
    (h : .account u p ∈ (runLines .settings ls).2) :
    ∃ i line1 line2, PairAt ls i line1 line2 u p := by
  obtain ⟨j, line2, hl₂, he⟩ := mem_runLines h
  have hm : modeAt ls j = .password u := by
    cases hm : modeAt ls j with
    | settings =>
      simp only [hm, step, settingStep] at he
      split_ifs at he
      cases Option.some.inj he
    | users =>
      simp only [hm, step, loginStep] at he
      split_ifs at he
    | password v =>
      rw [hm] at he
      rw [(password_taken he).2.1]
  rw [hm] at he
  cases j with
  | zero => cases hm
  | succ i =>
    have hlt : i + 1 < ls.length := (List.getElem?_eq_some_iff.mp hl₂).1
    have hl₁ : ls[i]? = some ls[i] := List.getElem?_eq_getElem (by omega)
    rw [modeAt_succ hl₁] at hm
    have hu := users_of_password hm
    rw [hu] at hm
    exact ⟨i, ls[i], line2, hl₁, hl₂, hu, hm, he⟩

theorem noPhantoms_iff (content : Bytes) : NoPhantoms content ↔ WellLabelled content := by
  constructor
  · intro h i line1 line2 u p hpair
    exact hpair.declared_iff.mp (h.2 i line1 line2 u p hpair)
  · intro h
    have hpairs : ∀ i line1 line2 u p, PairAt (TextLines.lines 10 content) i line1 line2 u p →
        Declared (TextLines.lines 10 content) i u p :=
      fun i line1 line2 u p hpair => hpair.declared_iff.mpr (h i line1 line2 u p hpair)
    refine ⟨?_, hpairs⟩
    intro u p hlookup
    rw [parseFile_eq, foldl_record] at hlookup
    rcases mem_of_lookup_lastWins hlookup with hempty | hmem
    · simp at hempty
    · obtain ⟨e, he, hacc⟩ := List.mem_filterMap.mp hmem
      cases e with
      | setting => cases hacc
      | account v q =>
        obtain ⟨rfl, rfl⟩ := Prod.mk.inj (Option.some.inj hacc)
        obtain ⟨i, line1, line2, hpair⟩ := pairAt_of_account he
        exact ⟨i, hpairs i line1 line2 v q hpair⟩

/-- An opening brace, `login: bob`, `login: eve`, and no password line at all. -/
def twoLogins : Bytes :=
  [123] ++ [10] ++ [108, 111, 103, 105, 110, 58, 32, 98, 111, 98] ++ [10] ++
    [108, 111, 103, 105, 110, 58, 32, 101, 118, 101] ++ [10]

theorem twoLogins_phantom : (parseFile (some twoLogins) {}).2.users.lookup [98, 111, 98] =
    some [101, 118, 101] ∧ ¬NoPhantoms twoLogins := by
  refine ⟨by decide, ?_⟩
  rintro ⟨-, hpairs⟩
  have hpair : PairAt (TextLines.lines 10 twoLogins) 1 [108, 111, 103, 105, 110, 58, 32, 98, 111, 98]
      [108, 111, 103, 105, 110, 58, 32, 101, 118, 101] [98, 111, 98] [101, 118, 101] :=
    ⟨by decide, by decide, by decide, by decide, by decide⟩
  obtain ⟨-, k, v, hdata, hk, hlen, htag⟩ := hpair.declared_iff.mp (hpairs 1 _ _ _ _ hpair)
  have htv := tagValue_found (v := v) hk hlen
  rw [← hdata, htag] at htv
  have hlogin : (tagValue 58 (configData [108, 111, 103, 105, 110, 58, 32, 101, 118, 101])).1 = loginTag := by
    decide
  rw [htv] at hlogin
  cases hlogin

end SocksProxy.PhantomAccounts
