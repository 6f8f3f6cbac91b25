import SocksProxy.ConfigLines
import SocksProxy.LastEntries
import SocksProxy.ReducedText

namespace SocksProxy.SettingLines

open ConfigReader ConfigLines LastEntries ReducedText

def declared (data : Bytes) : Option (Bytes × Bytes) :=
  if 61 ∈ data then
    let tag := reduce (data.takeWhile (· != 61))
    let value := reduce (data.dropWhile (· != 61)).tail
    if tag = [] ∨ value = [] then none else some (tag, value)
  else none

def stored (data : Bytes) : Option (Bytes × Bytes) :=
  if (tagValue 61 data).1 = [] ∨ (tagValue 61 data).2 = [] then none else some (tagValue 61 data)

def fileData (content : Bytes) : List Bytes := (TextLines.lines 10 content).map configData

def Unblocked (content : Bytes) : Prop := ∀ data ∈ fileData content, 123 ∉ data

def SettingsExact (content : Bytes) : Prop :=
  (parseFile (some content) {}).2.settings = lastWins ∅ ((fileData content).filterMap declared)

/-- A line without a `=`, or with one that a 32-bit position does not tell from `npos` or misplaces. -/
def Misread (data : Bytes) : Prop := 61 ∉ data.take (2 ^ 32 - 1)

/-- How a line is cut in two: at the place of its first `=` modulo `2^32`, at `2^32 - 1` where it has none. -/
def cut (data : Bytes) : ℕ := if 61 ∈ data then data.idxOf 61 % 2 ^ 32 else 2 ^ 32 - 1

def filed (data : Bytes) : Option (Bytes × Bytes) :=
  let tag := reduce (data.take (cut data))
  let value := reduce (data.drop ((cut data + 1) % 2 ^ 32))
  if tag = [] ∨ value = [] then none else some (tag, value)

def Concerns (tag data : Bytes) : Prop := Touches filed declared tag data

def Confirmed (tag : Bytes) (before : List Bytes) (data : Bytes) : Prop :=
  (∃ value, filed data = some (tag, value) ∧ ¬FiledUnder tag (declared data) ∧ LastFiled declared tag value before) ∨
  (∃ value, declared data = some (tag, value) ∧ ¬FiledUnder tag (filed data) ∧ LastFiled filed tag value before)

def Overruled (content : Bytes) : Prop :=
  ∀ before data after, fileData content = before ++ data :: after → Misread data →
    ∀ tag, Concerns tag data → (∃ x ∈ after, Concerns tag x) ∨ Confirmed tag before data

theorem declared_split {k v : Bytes} (h : 61 ∉ k) : declared (k ++ 61 :: v) =
    if reduce k = [] ∨ reduce v = [] then none else some (reduce k, reduce v) := by
  have hk : ∀ c ∈ k, (c != 61) = true := by
    intro c hc
    rw [bne_iff_ne]
    rintro rfl
    exact h hc
  have htake : (k ++ 61 :: v).takeWhile (· != 61) = k := by
    rw [List.takeWhile_append_of_pos hk]
    simp
  have hdrop : (k ++ 61 :: v).dropWhile (· != 61) = 61 :: v := by
    rw [List.dropWhile_append_of_pos hk]
    simp
  rw [declared, if_pos (by simp), htake, hdrop]
  rfl

theorem stored_declared {data : Bytes} (h : ¬Misread data) : stored data = declared data := by
  obtain ⟨k, v, hsplit, hk⟩ := List.eq_append_cons_of_mem (not_not.mp h)
  have hdata : data = k ++ 61 :: (v ++ data.drop (2 ^ 32 - 1)) := by
    have hjoin := List.take_append_drop (2 ^ 32 - 1) data
    rw [hsplit] at hjoin
    simpa using hjoin.symm
  have hlen : k.length < 2 ^ 32 - 1 := by
    have htake := congrArg List.length hsplit
    rw [List.length_take, List.length_append, List.length_cons] at htake
    omega
  rw [hdata, declared_split hk, stored, tagValue_found hk hlen]

theorem delimiterPos_cut (data : Bytes) : (delimiterPos 61 data).toNat = cut data := by
  rw [cut]
  split_ifs with h
  · obtain ⟨k, v, rfl, hk⟩ := List.eq_append_cons_of_mem h
    rw [delimiterPos_found hk, UInt32.toNat_ofNat', List.idxOf_append_of_notMem hk, List.idxOf_cons_self, Nat.add_zero]
  · have habsent : findFirst (· == 61) data 0 = none := by
      apply findFirst_absent [] data
      intro b hb
      rw [beq_eq_false_iff_ne]
      rintro rfl
      exact h hb
    rw [delimiterPos, habsent, Option.getD_none]
    rfl

theorem stored_filed (data : Bytes) : stored data = filed data := by
  have hnext : (delimiterPos 61 data + 1).toNat = (cut data + 1) % 2 ^ 32 := by
    rw [UInt32.toNat_add, delimiterPos_cut]
    rfl
  rw [stored, filed, tagValue_eq, delimiterPos_cut, hnext]

theorem misread_split {data : Bytes} {tag value : Bytes} (h : Misread data) (hd : declared data = some (tag, value)) :
    ∃ k v, data = k ++ 61 :: v ∧ 61 ∉ k ∧ 2 ^ 32 - 1 ≤ k.length ∧ value = reduce v := by
  have hmem : 61 ∈ data := by
    by_contra hno
    rw [declared, if_neg hno] at hd
    cases hd
  obtain ⟨k, v, rfl, hk⟩ := List.eq_append_cons_of_mem hmem
  refine ⟨k, v, rfl, hk, ?_, ?_⟩
  · by_contra hlt
    obtain ⟨m, hm⟩ : ∃ m, 2 ^ 32 - 1 - k.length = m + 1 := ⟨2 ^ 32 - 1 - k.length - 1, by omega⟩
    apply h
    rw [List.take_append, hm, List.take_succ_cons]
    simp
  · rw [declared_split hk] at hd
    split_ifs at hd
    cases hd
    rfl

theorem misread_differs {data tag value value' : Bytes} (h : Misread data) (hf : filed data = some (tag, value))
    (hd : declared data = some (tag, value')) : value ≠ value' := by
  obtain ⟨k, v, rfl, hk, hlen, rfl⟩ := misread_split h hd
  rw [← stored_filed, stored] at hf
  split_ifs at hf
  have hvalue : (tagValue 61 (k ++ 61 :: v)).2 = value := congrArg Prod.snd (Option.some.inj hf)
  rw [← hvalue]
  exact tagValue_far rfl hk hlen

theorem confirmed_iff {tag data : Bytes} (before : List Bytes) (h : Misread data) (hc : Concerns tag data) :
    lastValue tag ((before ++ [data]).filterMap filed) = lastValue tag ((before ++ [data]).filterMap declared) ↔
      Confirmed tag before data := by
  rw [lastValue_concat, lastValue_concat]
  by_cases hf : FiledUnder tag (filed data)
  · obtain ⟨value, hvalue⟩ := hf
    by_cases hd : FiledUnder tag (declared data)
    · obtain ⟨value', hvalue'⟩ := hd
      rw [lastValue_filed hvalue, lastValue_filed hvalue', Option.some_or, Option.some_or, Option.some.injEq]
      constructor
      · intro he
        exact absurd he (misread_differs h hvalue hvalue')
      · rintro (⟨_, -, hno, -⟩ | ⟨_, -, hno, -⟩)
        · exact absurd ⟨value', hvalue'⟩ hno
        · exact absurd ⟨value, hvalue⟩ hno
    · rw [lastValue_filed hvalue, lastValue_not_filed _ hd, Option.some_or, Option.none_or]
      constructor
      · intro he
        exact .inl ⟨value, hvalue, hd, lastFiled_iff.mpr he.symm⟩
      · rintro (⟨value', hvalue', -, hlast⟩ | ⟨_, -, hno, -⟩)
        · rw [hvalue, Option.some.injEq, Prod.mk.injEq] at hvalue'
          rw [lastFiled_iff.mp hlast, hvalue'.2]
        · exact absurd ⟨value, hvalue⟩ hno
  · obtain ⟨value, hvalue⟩ := hc.resolve_left hf
    rw [lastValue_not_filed _ hf, lastValue_filed hvalue, Option.some_or, Option.none_or]
    constructor
    · intro he
      exact .inr ⟨value, hvalue, hf, lastFiled_iff.mpr he⟩
    · rintro (⟨value', hvalue', -⟩ | ⟨value', hvalue', -, hlast⟩)
      · exact absurd ⟨value', hvalue'⟩ hf
      · rw [hvalue, Option.some.injEq, Prod.mk.injEq] at hvalue'
        rw [lastFiled_iff.mp hlast, hvalue'.2]

theorem stored_empty : stored [] = none := by decide

theorem settings_step {line : Bytes} (h : 123 ∉ configData line) :
    step .settings line = (.settings, (stored (configData line)).map fun e => .setting e.1 e.2) := by
  rw [step, settingStep]
  split_ifs with h₁ h₂
  · rw [h₁, stored_empty]
    rfl
  · rw [stored, if_pos h₂]
    rfl
  · rw [stored, if_neg h₂]
    rfl

theorem settings_run {ls : List Bytes} (h : ∀ line ∈ ls, 123 ∉ configData line) :
    (runLines .settings ls).2.filterMap setting = (ls.map configData).filterMap stored := by
  induction ls with
  | nil => rfl
  | cons line ls ih =>
    have hls := ih fun l hl => h l (List.mem_cons_of_mem line hl)
    rw [runLines_cons ls (settings_step (h line List.mem_cons_self)), List.filterMap_append, hls,
      List.map_cons, List.filterMap_cons]
    cases stored (configData line) <;> rfl

theorem settings_stored {content : Bytes} (h : Unblocked content) :
    (parseFile (some content) {}).2.settings = lastWins ∅ ((fileData content).filterMap stored) := by
  have hlines : ∀ line ∈ TextLines.lines 10 content, 123 ∉ configData line := by
    intro line hl
    exact h _ (List.mem_map_of_mem hl)
  rw [parseFile_eq, foldl_record, settings_run hlines]
  rfl

theorem settings_iff (content : Bytes) (h : Unblocked content) :
    SettingsExact content ↔ Overruled content := by
  rw [SettingsExact, settings_stored h, funext stored_filed]
  refine (foldl_insert_eq_iff _ _).trans ⟨fun hall before data after hsplit hmis tag hc => ?_, fun hover tag => ?_⟩
  · rcases (lastValue_eq_iff filed declared tag _).mp (hall tag) before data after hsplit hc with hlater | heq
    · exact .inl hlater
    · exact .inr ((confirmed_iff before hmis hc).mp heq)
  · apply (lastValue_eq_iff filed declared tag _).mpr
    intro before data after hsplit hc
    by_cases hmis : Misread data
    · rcases hover before data after hsplit hmis tag hc with hlater | hconfirmed
      · exact .inl hlater
      · exact .inr ((confirmed_iff before hmis hc).mpr hconfirmed)
    · right
      have hsame : filed data = declared data := by rw [← stored_filed, stored_declared hmis]
      obtain ⟨value, hvalue⟩ : FiledUnder tag (declared data) := hc.elim (fun hf => hsame ▸ hf) id
      rw [lastValue_concat, lastValue_concat, hsame, lastValue_filed hvalue, Option.some_or, Option.some_or]

theorem filed_bare {data : Bytes} (h : 61 ∉ data) (hlen : data.length < 2 ^ 32 - 1) :
    filed data = if reduce data = [] then none else some (reduce data, reduce data) := by
  have hcut : cut data = 2 ^ 32 - 1 := if_neg h
  have hdrop : (2 ^ 32 - 1 + 1) % 2 ^ 32 = 0 := rfl
  rw [filed, hcut, hdrop, List.take_of_length_le (by omega), List.drop_zero]
  simp only [or_self]

theorem filed_delimited {data : Bytes} (h : 61 ∈ data) (hlen : data.length < 2 ^ 32 - 1) :
    filed data = declared data := by
  rw [← stored_filed]
  apply stored_declared
  rw [Misread, List.take_of_length_le (by omega), not_not]
  exact h

theorem concerns_short {tag x : Bytes} (hlen : x.length < 2 ^ 32 - 1) : Concerns tag x ↔
    (61 ∉ x ∧ reduce x ≠ [] ∧ reduce x = tag) ∨ FiledUnder tag (declared x) := by
  rw [Concerns, Touches]
  by_cases h : 61 ∈ x
  · rw [filed_delimited h hlen, or_self]
    exact ⟨.inr, fun hx => hx.elim (fun hb => absurd h hb.1) id⟩
  · have hnone : ¬FiledUnder tag (declared x) := by
      rintro ⟨v, hv⟩
      rw [declared, if_neg h] at hv
      cases hv
    rw [filed_bare h hlen]
    split_ifs with hblank
    · exact ⟨fun hx => hx.elim (fun ⟨_, hv⟩ => by cases hv) .inr, fun hx => hx.elim (fun hb => absurd hblank hb.2.1) .inr⟩
    · constructor
      · rintro (⟨v, hv⟩ | hx)
        · cases hv
          exact .inl ⟨h, hblank, rfl⟩
        · exact absurd hx hnone
      · rintro (⟨-, -, rfl⟩ | hx)
        · exact .inl ⟨_, rfl⟩
        · exact absurd hx hnone

theorem overruled_short {content : Bytes} (hshort : ∀ data ∈ fileData content, data.length < 2 ^ 32 - 1) :
    Overruled content ↔ ∀ before data after, fileData content = before ++ data :: after → 61 ∉ data →
      reduce data ≠ [] →
      (∃ x ∈ after, (61 ∉ x ∧ reduce x = reduce data) ∨ FiledUnder (reduce data) (declared x)) ∨
        LastFiled declared (reduce data) (reduce data) before := by
  have hmisread : ∀ data ∈ fileData content, Misread data ↔ 61 ∉ data := by
    intro data hmem
    rw [Misread, List.take_of_length_le (Nat.le_of_lt (hshort data hmem))]
  constructor
  · intro h before data after hsplit hbare hne
    have hlater : ∀ x ∈ after, x ∈ fileData content := fun x hx => by simp [hsplit, hx]
    have hdata : data ∈ fileData content := by simp [hsplit]
    have hfiled : filed data = some (reduce data, reduce data) := by
      rw [filed_bare hbare (hshort data hdata), if_neg hne]
    rcases h before data after hsplit ((hmisread data hdata).mpr hbare) (reduce data) (.inl ⟨_, hfiled⟩) with
      ⟨x, hx, hconcerns⟩ | ⟨value, hvalue, -, hlast⟩ | ⟨value, -, hno, -⟩
    · refine .inl ⟨x, hx, ?_⟩
      rcases (concerns_short (hshort x (hlater x hx))).mp hconcerns with ⟨hx', -, hred⟩ | hd
      · exact .inl ⟨hx', hred⟩
      · exact .inr hd
    · rw [hfiled, Option.some.injEq, Prod.mk.injEq] at hvalue
      rw [← hvalue.2] at hlast
      exact .inr hlast
    · exact absurd ⟨_, hfiled⟩ hno
  · intro h before data after hsplit hmis tag hconcerns
    have hlater : ∀ x ∈ after, x ∈ fileData content := fun x hx => by simp [hsplit, hx]
    have hdata : data ∈ fileData content := by simp [hsplit]
    have hbare : 61 ∉ data := (hmisread data hdata).mp hmis
    have hnone : ¬FiledUnder tag (declared data) := by
      rintro ⟨v, hv⟩
      rw [declared, if_neg hbare] at hv
      cases hv
    rcases (concerns_short (hshort data hdata)).mp hconcerns with ⟨-, hne, rfl⟩ | hd
    · rcases h before data after hsplit hbare hne with ⟨x, hx, hsays⟩ | hlast
      · refine .inl ⟨x, hx, (concerns_short (hshort x (hlater x hx))).mpr ?_⟩
        rcases hsays with ⟨hx', hred⟩ | hd
        · exact .inl ⟨hx', hred ▸ hne, hred⟩
        · exact .inr hd
      · refine .inr (.inl ⟨reduce data, ?_, hnone, hlast⟩)
        rw [filed_bare hbare (hshort data hdata), if_neg hne]
    · exact absurd hd hnone

def proper : Bytes := [97, 61, 98]

theorem settings_iff_proper : SettingsExact proper := by
  apply (settings_iff proper (show ∀ data ∈ fileData proper, 123 ∉ data by decide)).mpr
  apply (overruled_short (show ∀ data ∈ fileData proper, data.length < 2 ^ 32 - 1 by decide)).mpr
  intro before data after hsplit hbare
  have hread : ∀ data ∈ fileData proper, 61 ∈ data := by decide
  exact absurd (hread data (by simp [hsplit])) hbare

/-- The lines `a=b` and `a`. -/
def repeated : Bytes := [97, 61, 98, 10, 97]

theorem repeated_not_exact : Unblocked repeated ∧
    (parseFile (some repeated) {}).2.settings.lookup [97] = some [97] ∧ ¬SettingsExact repeated := by
  refine ⟨show ∀ data ∈ fileData repeated, 123 ∉ data by decide, by decide, fun h => ?_⟩
  have hlookup := congrArg (Finmap.lookup [97]) h
  exact absurd hlookup (by decide)

end SocksProxy.SettingLines
