import Mathlib.Data.List.Basic

namespace SocksProxy.WordSeparation

variable {α : Type} {sep : α → Bool}

def words (sep : α → Bool) (l : List α) : List (List α) := (l.splitOnP sep).filter fun w => !w.isEmpty

def Solid (sep : α → Bool) (l : List α) : Prop := ∀ a ∈ l, sep a = false

def Blank (sep : α → Bool) (l : List α) : Prop := ∀ a ∈ l, sep a = true

@[simp] theorem words_nil : words sep ([] : List α) = [] := by simp [words]

theorem words_cons_sep {a : α} (l : List α) (h : sep a = true) : words sep (a :: l) = words sep l := by
  simp [words, List.splitOnP_cons_eq_if_modifyHead, h]

theorem words_solid {w : List α} (hw : w ≠ []) (h : Solid sep w) : words sep w = [w] := by
  rw [words, List.splitOnP_eq_singleton h]
  simp [hw]

theorem words_solid_append {w : List α} {a : α} (l : List α) (hw : w ≠ []) (h : Solid sep w)
    (ha : sep a = true) : words sep (w ++ a :: l) = w :: words sep l := by
  rw [words, List.splitOnP_append_cons_of_forall_mem h a ha]
  simp [words, hw]

theorem Solid.cons {b : α} {l : List α} (hb : sep b = false) (h : Solid sep l) :
    Solid sep (b :: l) := by
  intro c hc
  rcases List.mem_cons.mp hc with rfl | hc
  · exact hb
  · exact h c hc

theorem Blank.cons {b : α} {l : List α} (hb : sep b = true) (h : Blank sep l) :
    Blank sep (b :: l) := by
  intro c hc
  rcases List.mem_cons.mp hc with rfl | hc
  · exact hb
  · exact h c hc

theorem solid_or_split (sep : α → Bool) (l : List α) :
    Solid sep l ∨ ∃ w a tail, l = w ++ a :: tail ∧ Solid sep w ∧ sep a = true := by
  induction l with
  | nil => exact .inl (by simp [Solid])
  | cons b l ih =>
    by_cases hb : sep b = true
    · exact .inr ⟨[], b, l, rfl, by simp [Solid], hb⟩
    · have hb' : sep b = false := by simpa using hb
      rcases ih with h | ⟨w, a, tail, rfl, hw, ha⟩
      · exact .inl (h.cons hb')
      · exact .inr ⟨b :: w, a, tail, rfl, hw.cons hb', ha⟩

theorem blank_or_split (sep : α → Bool) (l : List α) :
    Blank sep l ∨ ∃ bs a tail, l = bs ++ a :: tail ∧ Blank sep bs ∧ sep a = false := by
  rcases solid_or_split (fun a => !sep a) l with h | ⟨w, a, tail, rfl, hw, ha⟩
  · exact .inl fun a ha => by simpa using h a ha
  · exact .inr ⟨w, a, tail, rfl, fun b hb => by simpa using hw b hb, by simpa using ha⟩

theorem word_induction (sep : α → Bool) {motive : List α → Prop} (nil : motive [])
    (blank : ∀ a l, sep a = true → motive l → motive (a :: l))
    (last : ∀ w, w ≠ [] → Solid sep w → motive w)
    (word : ∀ w a l, w ≠ [] → Solid sep w → sep a = true → motive l → motive (w ++ a :: l))
    (l : List α) : motive l := by
  generalize hn : l.length = n
  induction n using Nat.strongRecOn generalizing l with
  | ind n ih =>
    rcases solid_or_split sep l with h | ⟨w, a, tail, rfl, hw, ha⟩
    · by_cases he : l = []
      · exact he ▸ nil
      · exact last l he h
    · have ht : motive tail := by
        apply ih tail.length _ tail rfl
        simp only [List.length_append, List.length_cons] at hn
        omega
      by_cases he : w = []
      · subst he
        exact blank a tail ha ht
      · exact word w a tail he hw ha ht

theorem words_blank_append {bs : List α} (l : List α) (h : Blank sep bs) :
    words sep (bs ++ l) = words sep l := by
  induction bs with
  | nil => rfl
  | cons b bs ih =>
    rw [List.cons_append, words_cons_sep _ (h b List.mem_cons_self)]
    exact ih fun a ha => h a (List.mem_cons_of_mem b ha)

theorem words_blank {bs : List α} (h : Blank sep bs) : words sep bs = [] := by
  have hw := words_blank_append [] h
  rwa [List.append_nil, words_nil] at hw

theorem words_append_blank {bs : List α} (l : List α) (h : Blank sep bs) :
    words sep (l ++ bs) = words sep l := by
  induction l using word_induction sep with
  | nil => rw [List.nil_append, words_blank h, words_nil]
  | blank a l ha ih => rw [List.cons_append, words_cons_sep _ ha, words_cons_sep _ ha, ih]
  | last w hw hs =>
    cases bs with
    | nil => rw [List.append_nil]
    | cons b bs =>
      have hbs : Blank sep bs := fun c hc => h c (List.mem_cons_of_mem b hc)
      rw [words_solid_append bs hw hs (h b List.mem_cons_self), words_solid hw hs, words_blank hbs]
  | word w a l hw hs ha ih =>
    rw [List.append_assoc, List.cons_append, words_solid_append _ hw hs ha,
      words_solid_append _ hw hs ha, ih]

theorem words_ne_nil {a : α} (l : List α) (h : sep a = false) : words sep (a :: l) ≠ [] := by
  rcases solid_or_split sep (a :: l) with hs | ⟨w, b, tail, he, hs, hb⟩
  · rw [words_solid (List.cons_ne_nil a l) hs]
    exact List.cons_ne_nil _ _
  · have hw : w ≠ [] := by
      rintro rfl
      rw [← (List.cons.inj he).1, h] at hb
      cases hb
    rw [he, words_solid_append tail hw hs hb]
    exact List.cons_ne_nil _ _

theorem solid_of_mem_words {l w : List α} (h : w ∈ words sep l) : Solid sep w := by
  induction l using word_induction sep with
  | nil => simp at h
  | blank a l ha ih =>
    rw [words_cons_sep _ ha] at h
    exact ih h
  | last v hv hs =>
    rw [words_solid hv hs, List.mem_singleton] at h
    exact h ▸ hs
  | word v a l hv hs ha ih =>
    rw [words_solid_append _ hv hs ha] at h
    rcases List.mem_cons.mp h with rfl | h
    · exact hs
    · exact ih h

theorem ne_nil_of_mem_words {l w : List α} (h : w ∈ words sep l) : w ≠ [] := by
  have hw := (List.mem_filter.mp h).2
  rintro rfl
  cases hw

theorem words_intercalate {fill : List α} {ws : List (List α)} (hf : Blank sep fill) (hne : fill ≠ [])
    (h : ∀ w ∈ ws, w ≠ [] ∧ Solid sep w) : words sep (fill.intercalate ws) = ws := by
  obtain ⟨a, fill', rfl⟩ := List.exists_cons_of_ne_nil hne
  have ha : sep a = true := hf a List.mem_cons_self
  have hf' : Blank sep fill' := fun b hb => hf b (List.mem_cons_of_mem a hb)
  induction ws with
  | nil => simp
  | cons w ws ih =>
    obtain ⟨hw, hs⟩ := h w List.mem_cons_self
    have hws : ∀ v ∈ ws, v ≠ [] ∧ Solid sep v := fun v hv => h v (List.mem_cons_of_mem w hv)
    cases ws with
    | nil => simpa using words_solid hw hs
    | cons v ws =>
      rw [List.intercalate_cons_cons, List.append_assoc, List.cons_append,
        words_solid_append _ hw hs ha, words_blank_append _ hf', ih hws]

theorem filter_solid {l : List α} (h : Solid sep l) : (l.filter fun a => !sep a) = l :=
  List.filter_eq_self.mpr fun a ha => by simp [h a ha]

theorem filter_blank {l : List α} (h : Blank sep l) : (l.filter fun a => !sep a) = [] :=
  List.filter_eq_nil_iff.mpr fun a ha => by simp [h a ha]

theorem words_flatten (l : List α) : (words sep l).flatten = l.filter fun a => !sep a := by
  induction l using word_induction sep with
  | nil => simp
  | blank a l ha ih => rw [words_cons_sep _ ha, ih, List.filter_cons_of_neg (by simp [ha])]
  | last w hw hs => rw [words_solid hw hs, filter_solid hs, List.flatten_singleton]
  | word w a l hw hs ha ih =>
    rw [words_solid_append _ hw hs ha, List.flatten_cons, ih, List.filter_append, filter_solid hs,
      List.filter_cons_of_neg (by simp [ha])]

theorem filter_intercalate {fill : List α} {ws : List (List α)} (hf : Blank sep fill)
    (h : ∀ w ∈ ws, Solid sep w) :
    ((fill.intercalate ws).filter fun a => !sep a) = ws.flatten := by
  induction ws with
  | nil => rfl
  | cons w ws ih =>
    have hw := filter_solid (h w List.mem_cons_self)
    have hws : ∀ v ∈ ws, Solid sep v := fun v hv => h v (List.mem_cons_of_mem w hv)
    cases ws with
    | nil => simp [hw]
    | cons v ws =>
      rw [List.intercalate_cons_cons, List.filter_append, List.filter_append, hw, filter_blank hf,
        ih hws, List.append_nil, List.flatten_cons (L := v :: ws)]

end SocksProxy.WordSeparation
