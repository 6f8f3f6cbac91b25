import Mathlib.Data.Finmap

namespace SocksProxy.LastEntries

variable {κ β ι : Type} [DecidableEq κ]

def lastValue (k : κ) : List (κ × β) → Option β
  | [] => none
  | e :: es => (lastValue k es).or (if e.1 = k then some e.2 else none)

def FiledUnder (k : κ) (e : Option (κ × β)) : Prop := ∃ v, e = some (k, v)

@[simp] theorem lastValue_nil (k : κ) : lastValue k ([] : List (κ × β)) = none := rfl

theorem lastValue_cons_of_ne {k : κ} {e : κ × β} (es : List (κ × β)) (h : e.1 ≠ k) :
    lastValue k (e :: es) = lastValue k es := by
  rw [lastValue, if_neg h, Option.or_none]

theorem lastValue_append (k : κ) (xs ys : List (κ × β)) :
    lastValue k (xs ++ ys) = (lastValue k ys).or (lastValue k xs) := by
  induction xs with
  | nil => rw [List.nil_append, lastValue_nil, Option.or_none]
  | cons x xs ih => rw [List.cons_append, lastValue, ih, lastValue, Option.or_assoc]

theorem lastValue_not_filed {k : κ} (e : Option (κ × β)) (h : ¬FiledUnder k e) :
    lastValue k e.toList = none := by
  cases e with
  | none => rfl
  | some e =>
    have hne : e.1 ≠ k := fun he => h ⟨e.2, by rw [← he]⟩
    rw [Option.toList_some, lastValue_cons_of_ne [] hne, lastValue_nil]

theorem lastValue_filed {k : κ} {v : β} {e : Option (κ × β)} (h : e = some (k, v)) : lastValue k e.toList = some v := by
  rw [h, Option.toList_some, lastValue, if_pos rfl]
  rfl

section Readings

variable {f g : ι → Option (κ × β)} {k : κ}

theorem lastValue_concat (f : ι → Option (κ × β)) (k : κ) (xs : List ι) (x : ι) :
    lastValue k ((xs ++ [x]).filterMap f) = (lastValue k (f x).toList).or (lastValue k (xs.filterMap f)) := by
  have hx : [x].filterMap f = (f x).toList := by
    rw [List.filterMap_cons]
    cases f x <;> rfl
  rw [List.filterMap_append, lastValue_append, hx]

theorem lastValue_untouched {ys : List ι} (xs : List ι) (h : ∀ y ∈ ys, ¬FiledUnder k (f y)) :
    lastValue k ((xs ++ ys).filterMap f) = lastValue k (xs.filterMap f) := by
  induction ys using List.reverseRecOn with
  | nil => rw [List.append_nil]
  | append_singleton ys y ih =>
    rw [← List.append_assoc, lastValue_concat, lastValue_not_filed _ (h y (by simp)), Option.none_or]
    exact ih fun z hz => h z (List.mem_append_left _ hz)

def LastFiled (f : ι → Option (κ × β)) (k : κ) (v : β) (xs : List ι) : Prop :=
  ∃ before x after, xs = before ++ x :: after ∧ f x = some (k, v) ∧ ∀ y ∈ after, ¬FiledUnder k (f y)

theorem lastFiled_iff {v : β} {xs : List ι} : LastFiled f k v xs ↔ lastValue k (xs.filterMap f) = some v := by
  constructor
  · rintro ⟨before, x, after, rfl, hx, hafter⟩
    rw [← List.singleton_append, ← List.append_assoc, lastValue_untouched _ hafter, lastValue_concat,
      lastValue_filed hx, Option.some_or]
  · intro h
    induction xs using List.reverseRecOn with
    | nil => cases h
    | append_singleton xs x ih =>
      rw [lastValue_concat] at h
      by_cases hx : FiledUnder k (f x)
      · obtain ⟨w, hw⟩ := hx
        rw [lastValue_filed hw, Option.some_or, Option.some.injEq] at h
        exact ⟨xs, x, [], rfl, h ▸ hw, by simp⟩
      · rw [lastValue_not_filed _ hx, Option.none_or] at h
        obtain ⟨before, y, after, rfl, hy, hafter⟩ := ih h
        refine ⟨before, y, after ++ [x], by simp, hy, fun z hz => ?_⟩
        rcases List.mem_append.mp hz with hz | hz
        · exact hafter z hz
        · obtain rfl := List.mem_singleton.mp hz
          exact hx

def Touches (f g : ι → Option (κ × β)) (k : κ) (x : ι) : Prop := FiledUnder k (f x) ∨ FiledUnder k (g x)

theorem lastValue_eq_iff (f g : ι → Option (κ × β)) (k : κ) (xs : List ι) :
    lastValue k (xs.filterMap f) = lastValue k (xs.filterMap g) ↔
      ∀ before x after, xs = before ++ x :: after → Touches f g k x → (∃ y ∈ after, Touches f g k y) ∨
        lastValue k ((before ++ [x]).filterMap f) = lastValue k ((before ++ [x]).filterMap g) := by
  constructor
  · rintro h before x after rfl -
    by_cases hlater : ∃ y ∈ after, Touches f g k y
    · exact .inl hlater
    · right
      rw [← List.singleton_append, ← List.append_assoc] at h
      rwa [lastValue_untouched _ fun y hy hf => hlater ⟨y, hy, .inl hf⟩,
        lastValue_untouched _ fun y hy hg => hlater ⟨y, hy, .inr hg⟩] at h
  · intro h
    induction xs using List.reverseRecOn with
    | nil => rfl
    | append_singleton xs x ih =>
      by_cases hx : Touches f g k x
      · rcases h xs x [] rfl hx with ⟨y, hy, -⟩ | heq
        · cases hy
        · exact heq
      · have hsame : lastValue k (xs.filterMap f) = lastValue k (xs.filterMap g) := by
          apply ih
          rintro before y after rfl hy
          rcases h before y (after ++ [x]) (by simp) hy with ⟨z, hz, ht⟩ | heq
          · rcases List.mem_append.mp hz with hz | hz
            · exact .inl ⟨z, hz, ht⟩
            · obtain rfl := List.mem_singleton.mp hz
              exact absurd ht hx
          · exact .inr heq
        rw [lastValue_untouched xs (by simpa using fun hf => hx (.inl hf)),
          lastValue_untouched xs (by simpa using fun hg => hx (.inr hg)), hsame]

end Readings

theorem lookup_foldl_insert (k : κ) (m : Finmap (fun _ : κ => β)) (es : List (κ × β)) :
    (es.foldl (fun m e => m.insert e.1 e.2) m).lookup k = (lastValue k es).or (m.lookup k) := by
  induction es generalizing m with
  | nil => rfl
  | cons e es ih =>
    rw [List.foldl_cons, ih, lastValue, Option.or_assoc]
    congr 1
    by_cases hk : e.1 = k
    · rw [if_pos hk, ← hk, Finmap.lookup_insert]
      rfl
    · rw [if_neg hk, Finmap.lookup_insert_of_ne _ (Ne.symm hk)]
      rfl

theorem foldl_insert_eq_iff (xs ys : List (κ × β)) :
    xs.foldl (fun m e => m.insert e.1 e.2) (∅ : Finmap (fun _ : κ => β)) =
      ys.foldl (fun m e => m.insert e.1 e.2) ∅ ↔ ∀ k, lastValue k xs = lastValue k ys := by
  constructor
  · intro h k
    have hlookup := congrArg (Finmap.lookup k) h
    simpa only [lookup_foldl_insert, Finmap.lookup_empty, Option.or_none] using hlookup
  · intro h
    apply Finmap.ext_lookup
    intro k
    rw [lookup_foldl_insert, lookup_foldl_insert, h]

end SocksProxy.LastEntries
