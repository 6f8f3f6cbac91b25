import SocksProxy.PhantomAccounts
import SocksProxy.ServerStart
import SocksProxy.WhitespaceReduction
import Mathlib.Data.Finset.Sort

namespace SocksProxy

namespace ConfigReader

/-- A `std::map` goes through its keys in ascending order. -/
def dumpFileValues (c : Config) : Bytes :=
  (c.settings.keys.sort (· ≤ ·)).flatMap fun tag =>
    tag ++ [32, 61, 32] ++ (c.settings.lookup tag).getD [] ++ [10]

end ConfigReader

namespace ConfigDump

open ConfigReader ConfigLines ConfigRoundTrip ReducedText WhitespaceReduction WordSeparation LastEntries ServerStart

theorem mem_reduce {s : Bytes} {c : UInt8} (h : c ∈ reduce s) : c = 32 ∨ c ∈ s := by
  by_cases hblank : blank whitespace c = true
  · rcases (blank_iff c).mp hblank with rfl | rfl
    · exact .inl rfl
    · exact absurd h (reduced_reduce s).noTab
  · have hsolid : blank whitespace c = false := Bool.eq_false_iff.mpr hblank
    have hmem : c ∈ (reduce s).filter fun c => !blank whitespace c := List.mem_filter.mpr ⟨h, by rw [hsolid]; rfl⟩
    rw [reduce_filter] at hmem
    exact .inr (List.mem_filter.mp hmem).1

theorem length_intercalate_cons (w : Bytes) (ws : List Bytes) :
    (fill.intercalate (w :: ws)).length ≤ w.length + 1 + (fill.intercalate ws).length := by
  cases ws with
  | nil => simp
  | cons v ws =>
    rw [List.intercalate_cons_cons, List.length_append, List.length_append]
    exact Nat.le_refl _

theorem length_reduce (s : Bytes) : (reduce s).length ≤ s.length := by
  rw [reduce_eq]
  induction s using word_induction (blank whitespace) with
  | nil => simp
  | blank a l ha ih =>
    rw [words_cons_sep _ ha, List.length_cons]
    omega
  | last w hw hs => simp [words_solid hw hs]
  | word w a l hw hs ha ih =>
    rw [words_solid_append _ hw hs ha, List.length_append, List.length_cons]
    have hlen := length_intercalate_cons w (words (blank whitespace) l)
    omega

theorem take_delimiterPos (data : Bytes) : 61 ∉ data.take (delimiterPos 61 data).toNat := by
  by_cases h : 61 ∈ data
  · obtain ⟨k, v, rfl, hk⟩ := List.eq_append_cons_of_mem h
    have hle : (UInt32.ofNat k.length).toNat ≤ k.length := by
      rw [UInt32.toNat_ofNat']
      exact Nat.mod_le _ _
    rw [delimiterPos_found hk, List.take_append_of_le_length hle]
    exact fun hmem => hk (List.mem_of_mem_take hmem)
  · exact fun hmem => h (List.mem_of_mem_take hmem)

theorem plain_reduce {excluded s : Bytes} (hne : reduce s ≠ []) (hspace : 32 ∉ excluded)
    (h : ∀ c ∈ excluded, c ∉ s) : Plain excluded (reduce s) := by
  refine ⟨hne, reduced_reduce s, fun c hc hmem => ?_⟩
  rcases mem_reduce hmem with rfl | hmem
  · exact hspace hc
  · exact h c hc hmem

theorem length_configData (line : Bytes) : (configData line).length ≤ line.length := by
  rw [configData]
  exact (List.length_filter_le _ _).trans (List.takeWhile_prefix _).length_le

theorem not_mem_configData (line : Bytes) : 35 ∉ configData line ∧ 13 ∉ configData line := by
  constructor
  · intro h
    simpa using List.mem_takeWhile_imp (List.mem_filter.mp h).1
  · intro h
    simpa using (List.mem_filter.mp h).2

theorem setting_plain {m : Mode} {line tag value : Bytes} (hline : 10 ∉ line)
    (h : (step m line).2 = some (.setting tag value)) : (Item.setting tag value).Valid ∧
      (settingLine tag value).length ≤ 2 * line.length + 3 := by
  have hmode : m = .settings := by
    cases m with
    | settings => rfl
    | users =>
      simp only [step, loginStep] at h
      split_ifs at h
    | password login =>
      simp only [step, passwordStep] at h
      split_ifs at h
      cases h
  subst hmode
  simp only [step, settingStep] at h
  split_ifs at h with hnil hopen hempty
  rw [not_or] at hempty
  cases h
  rw [tagValue_eq] at hempty ⊢
  obtain ⟨hhash, hcr⟩ := not_mem_configData line
  have hlf : 10 ∉ configData line := fun hmem => hline (PhantomAccounts.mem_of_mem_configData hmem)
  have hfree : ∀ c ∈ [35, 13, 10, 123], c ∉ configData line := by
    intro c hc
    simp only [List.mem_cons, List.not_mem_nil, or_false] at hc
    rcases hc with rfl | rfl | rfl | rfl
    · exact hhash
    · exact hcr
    · exact hlf
    · exact hopen
  refine ⟨⟨plain_reduce hempty.1 (by decide) fun c hc hmem => ?_, plain_reduce hempty.2 (by decide) fun c hc hmem => ?_⟩,
    ?_⟩
  · by_cases hdelimiter : c = 61
    · exact take_delimiterPos _ (hdelimiter ▸ hmem)
    · refine hfree c ?_ (List.mem_of_mem_take hmem)
      simpa [hdelimiter] using hc
  · exact hfree c hc (List.mem_of_mem_drop hmem)
  · have htag := length_reduce ((configData line).take (delimiterPos 61 (configData line)).toNat)
    have hvalue := length_reduce ((configData line).drop (delimiterPos 61 (configData line) + 1).toNat)
    have hdata := length_configData line
    rw [List.length_take] at htag
    rw [List.length_drop] at hvalue
    simp only [settingLine, List.length_append, List.length_cons, List.length_nil]
    omega

theorem render_final (ls : List Bytes) : render (fun _ => false) true ls = ls.flatMap fun l => l ++ [10] := by
  induction ls with
  | nil => rfl
  | cons l ls ih =>
    cases ls with
    | nil => simp [render, lineEnd]
    | cons k ls => exact congrArg (l ++ [10] ++ ·) ih

theorem lastValue_keys {f : Bytes → Bytes} (tag : Bytes) (tags : List Bytes) :
    lastValue tag (tags.map fun t => (t, f t)) = if tag ∈ tags then some (f tag) else none := by
  induction tags with
  | nil => rfl
  | cons t tags ih =>
    rw [List.map_cons, lastValue, ih]
    by_cases hmem : tag ∈ tags
    · simp [hmem]
    · by_cases ht : t = tag
      · simp [hmem, ht]
      · simp [hmem, ht, Ne.symm ht]

def dumped (c : Config) : List Item :=
  (c.settings.keys.sort (· ≤ ·)).map fun tag => .setting tag ((c.settings.lookup tag).getD [])

theorem dumpFileValues_eq (c : Config) :
    dumpFileValues c = render (fun _ => false) true ((dumped c).flatMap Item.lines) := by
  rw [render_final, dumped, List.flatMap_map, List.flatMap_assoc]
  apply List.flatMap_congr
  intro tag _
  simp [Item.lines, settingLine]

theorem not_mem_lines (text : Bytes) : ∀ l ∈ TextLines.lines 10 text, 10 ∉ l := by
  induction text with
  | nil => simp [TextLines.lines]
  | cons a text ih =>
    intro l hl
    rw [TextLines.lines] at hl
    split_ifs at hl with ha
    · rcases List.mem_cons.mp hl with rfl | hl
      · simp
      · exact ih l hl
    · split at hl
      · rw [List.mem_singleton.mp hl, List.mem_singleton]
        exact Ne.symm ha
      · rename_i k ks hks
        rw [hks] at ih
        rcases List.mem_cons.mp hl with rfl | hl
        · rw [List.mem_cons, not_or]
          exact ⟨Ne.symm ha, ih k List.mem_cons_self⟩
        · exact ih l (List.mem_cons_of_mem k hl)

theorem documented_dumped {content : Bytes}
    (hshort : ∀ line ∈ TextLines.lines 10 content, line.length < 2 ^ 31 - 2) :
    Documented (dumped (parseFile (some content) {}).2) := by
  have hentry : ∀ tag ∈ (parseFile (some content) {}).2.settings.keys.sort (· ≤ ·), ∃ value,
      (parseFile (some content) {}).2.settings.lookup tag = some value ∧ (Item.setting tag value).Valid ∧
        (settingLine tag value).length < 2 ^ 32 - 1 := by
    intro tag htag
    rw [Finset.mem_sort, Finmap.mem_keys, ← Finmap.lookup_isSome, Option.isSome_iff_exists] at htag
    obtain ⟨value, hvalue⟩ := htag
    refine ⟨value, hvalue, ?_⟩
    rw [parseFile_eq, foldl_record] at hvalue
    have hmem : (tag, value) ∈ (runLines .settings (TextLines.lines 10 content)).2.filterMap setting := by
      rcases mem_of_lookup_lastWins hvalue with hnone | hmem
      · rw [Finmap.lookup_empty] at hnone
        cases hnone
      · exact hmem
    obtain ⟨entry, hentry, hset⟩ := List.mem_filterMap.mp hmem
    obtain ⟨i, line, hline, hstep⟩ := mem_runLines hentry
    have hin : line ∈ TextLines.lines 10 content := List.mem_of_getElem? hline
    cases entry with
    | account login password => cases hset
    | setting t v =>
      cases hset
      obtain ⟨hvalid, hlen⟩ := setting_plain (not_mem_lines content line hin) hstep
      have hbound := hshort line hin
      exact ⟨hvalid, by omega⟩
  constructor
  · intro i hi
    obtain ⟨tag, htag, rfl⟩ := List.mem_map.mp hi
    obtain ⟨value, hvalue, hvalid, -⟩ := hentry tag htag
    rw [hvalue]
    exact hvalid
  · intro l hl
    obtain ⟨i, hi, hl⟩ := List.mem_flatMap.mp hl
    obtain ⟨tag, htag, rfl⟩ := List.mem_map.mp hi
    obtain ⟨value, hvalue, -, hlen⟩ := hentry tag htag
    rw [hvalue] at hl
    rw [List.mem_singleton.mp hl]
    exact hlen

theorem dump_reads_back {content : Bytes}
    (hshort : ∀ line ∈ TextLines.lines 10 content, line.length < 2 ^ 31 - 2) :
    (parseFile (some (dumpFileValues (parseFile (some content) {}).2)) {}).2 =
      ⟨(parseFile (some content) {}).2.settings, ∅⟩ := by
  generalize hc : (parseFile (some content) {}).2 = c
  have hdocumented := documented_dumped hshort
  rw [hc] at hdocumented
  obtain ⟨hsettings, husers⟩ := lookups hdocumented (fun _ => false) true
  rw [← dumpFileValues_eq] at hsettings husers
  have hvalues : (parseFile (some (dumpFileValues c)) {}).2.settings = c.settings := by
    apply Finmap.ext_lookup
    intro tag
    have hitems : (dumped c).filterMap Item.tagValue =
        (c.settings.keys.sort (· ≤ ·)).map fun t => (t, (c.settings.lookup t).getD []) := by
      rw [dumped, List.filterMap_map, ← List.filterMap_eq_map]
      rfl
    have hsorted : tag ∈ c.settings.keys.sort (· ≤ ·) ↔ tag ∈ c.settings := by
      rw [Finset.mem_sort, Finmap.mem_keys]
    rw [hsettings, valueOf, hitems, lastValue_keys]
    by_cases hmem : tag ∈ c.settings
    · obtain ⟨value, hvalue⟩ := Option.isSome_iff_exists.mp (Finmap.lookup_isSome.mpr hmem)
      rw [if_pos (hsorted.mpr hmem), hvalue, Option.getD_some]
    · rw [if_neg (mt hsorted.mp hmem), Finmap.lookup_eq_none.mpr hmem]
  have hnone : (parseFile (some (dumpFileValues c)) {}).2.users = ∅ := by
    apply Finmap.ext_lookup
    intro login
    have hitems : (dumped c).flatMap Item.credentials = [] := by
      rw [dumped, List.flatMap_map]
      exact List.flatMap_eq_nil_iff.mpr fun _ _ => rfl
    rw [husers, passwordOf, hitems, lastValue_nil, Finmap.lookup_empty]
  have hext : ∀ d : Config, d.settings = c.settings → d.users = ∅ → d = ⟨c.settings, ∅⟩ := by
    rintro ⟨settings, users⟩ rfl rfl
    rfl
  exact hext _ hvalues hnone

/-- `b = 1`, a block, `a = x=y` in loose spelling, and `b` once more. -/
def looseText : Bytes :=
  [98, 61, 49, 10, 123, 10, 108, 111, 103, 105, 110, 58, 117, 10, 112, 58, 112, 10, 125, 10, 9, 97, 32, 32, 61,
    32, 120, 61, 121, 9, 35, 35, 13, 10, 98, 32, 61, 32, 50]

theorem dump_reads_back_loose : (parseFile (some (dumpFileValues (parseFile (some looseText) {}).2)) {}).2 =
    ⟨(parseFile (some looseText) {}).2.settings, ∅⟩ := dump_reads_back (by decide)

end ConfigDump

end SocksProxy
