import SocksProxy.ReducedText

namespace SocksProxy.WhitespaceReduction

open ConfigReader WhileLoops WordSeparation ReducedText

theorem solid_ne {w : Bytes} (hs : Solid (blank whitespace) w) {c : UInt8} (hc : c ∈ w) :
    c ≠ 32 ∧ c ≠ 9 := by
  have hb := hs c hc
  rw [← Bool.not_eq_true, blank_iff, not_or] at hb
  exact hb

theorem reduced_word {w t : Bytes} (hs : Solid (blank whitespace) w) (hw : w ≠ []) (ht : Reduced t)
    (hne : t ≠ []) : Reduced (w ++ 32 :: t) := by
  refine ⟨?_, ?_, ?_, ?_⟩
  · intro h
    rcases List.mem_append.mp h with h | h
    · exact (solid_ne hs h).2 rfl
    · rcases List.mem_cons.mp h with h | h
      · cases h
      · exact ht.noTab h
  · obtain ⟨a, u, rfl⟩ := List.exists_cons_of_ne_nil hw
    intro h
    exact (solid_ne hs List.mem_cons_self).1 (Option.some.inj h)
  · rw [List.append_cons, List.getLast?_append_of_ne_nil _ hne]
    exact ht.last
  · rintro ⟨p, q, he⟩
    rw [List.append_assoc, List.append_eq_append_iff] at he
    rcases he with ⟨v, rfl, hv⟩ | ⟨v, rfl, hv⟩
    · -- the two spaces start in the word or right behind it
      cases v with
      | nil =>
        have htail := (List.cons.inj hv).2
        exact ht.head (by rw [← htail]; rfl)
      | cons b v =>
        have hb : 32 = b := (List.cons.inj hv).1
        exact (solid_ne hs (by simp)).1 hb.symm
    · cases v with
      | nil =>
        have htail := (List.cons.inj hv).2
        exact ht.head (by rw [htail]; rfl)
      | cons b v =>
        have htail : t = v ++ ([32, 32] ++ q) := (List.cons.inj hv).2
        exact ht.single ⟨v, q, by rw [htail, List.append_assoc]⟩

theorem reduced_solid {w : Bytes} (hs : Solid (blank whitespace) w) : Reduced w := by
  refine ⟨fun h => (solid_ne hs h).2 rfl, ?_, ?_, ?_⟩
  · intro h
    exact (solid_ne hs (List.mem_of_mem_head? h)).1 rfl
  · intro h
    exact (solid_ne hs (List.mem_of_getLast? h)).1 rfl
  · intro h
    exact (solid_ne hs (h.subset List.mem_cons_self)).1 rfl

theorem reduced_intercalate {ws : List Bytes} (h : ∀ w ∈ ws, w ≠ [] ∧ Solid (blank whitespace) w) :
    Reduced (fill.intercalate ws) := by
  induction ws with
  | nil => exact reduced_solid (by simp [Solid])
  | cons w ws ih =>
    obtain ⟨hw, hs⟩ := h w List.mem_cons_self
    have hws : ∀ v ∈ ws, v ≠ [] ∧ Solid (blank whitespace) v :=
      fun v hv => h v (List.mem_cons_of_mem w hv)
    cases ws with
    | nil => simpa using reduced_solid hs
    | cons v ws =>
      have hne : fill.intercalate (v :: ws) ≠ [] := by
        intro he
        have hwords := words_intercalate blank_fill (List.cons_ne_nil 32 []) hws
        rw [he, words_nil] at hwords
        cases hwords
      rw [List.intercalate_cons_cons, List.append_assoc]
      exact reduced_word hs hw (ih hws) hne

theorem mem_words {s w : Bytes} (h : w ∈ words (blank whitespace) s) :
    w ≠ [] ∧ Solid (blank whitespace) w := ⟨ne_nil_of_mem_words h, solid_of_mem_words h⟩

theorem reduced_reduce (s : Bytes) : Reduced (reduce s) := by
  rw [reduce_eq]
  apply reduced_intercalate
  intro w hw
  exact mem_words hw

theorem words_reduce (s : Bytes) : words (blank whitespace) (reduce s) = words (blank whitespace) s := by
  rw [reduce_eq]
  apply words_intercalate blank_fill (List.cons_ne_nil 32 [])
  intro w hw
  exact mem_words hw

theorem reduce_runs (s : Bytes) : ∃ calls, Runs (reducePass fill whitespace)
    (trim whitespace s, findFirst (fun c => whitespace.contains c) (trim whitespace s) 0) calls
      (reduce s, none) ∧ ∀ call ∈ calls, InRange call := by
  obtain ⟨calls, hrun, hcalls, -⟩ := (scanned_trim fill whitespace s).runs
  exact ⟨calls, hrun, hcalls⟩

theorem whitespace_reduced (s : Bytes) : (∃ calls, Runs (reducePass fill whitespace)
    (trim whitespace s, findFirst (fun c => whitespace.contains c) (trim whitespace s) 0) calls
      (reduce s, none) ∧ ∀ call ∈ calls, InRange call) ∧
    Reduced (reduce s) ∧ words (blank whitespace) (reduce s) = words (blank whitespace) s ∧
    reduce (reduce s) = reduce s :=
  ⟨reduce_runs s, reduced_reduce s, words_reduce s, reduce_reduced (reduced_reduce s)⟩

end SocksProxy.WhitespaceReduction
