import Mathlib.Data.List.Basic

namespace SocksProxy.AttemptSequences

variable {α ε : Type}

def tried : List (α × Option ε) → List (α × Option ε)
  | [] => []
  | x :: xs => if x.2.isSome then x :: tried xs else [x]

structure FirstSuccess (xs ys : List (α × Option ε)) : Prop where
  order : ys <+: xs
  stops : ∀ y ∈ ys.dropLast, y.2 ≠ none
  complete : ys = xs ∨ ∃ a, ys.getLast? = some (a, none)

def Succeeds (xs : List (α × Option ε)) : Prop := ∃ a, (a, none) ∈ xs

def reported (d : ε) (xs : List (α × Option ε)) : Option ε := ((tried xs).getLast?.map Prod.snd).getD (some d)

def winner (xs : List (α × Option ε)) : Option α := (xs.find? fun x => x.2.isNone).map Prod.fst

theorem tried_success (a : α) (xs : List (α × Option ε)) : tried ((a, none) :: xs) = [(a, none)] := rfl

theorem tried_failure (a : α) (err : ε) (xs : List (α × Option ε)) :
    tried ((a, some err) :: xs) = (a, some err) :: tried xs := rfl

theorem reported_success (d : ε) (a : α) (xs : List (α × Option ε)) : reported d ((a, none) :: xs) = none := rfl

theorem reported_failure (d : ε) (a : α) (err : ε) (xs : List (α × Option ε)) :
    reported d ((a, some err) :: xs) = reported err xs := by
  rw [reported, tried_failure, List.getLast?_cons]
  rw [reported]
  cases (tried xs).getLast? <;> rfl

theorem firstSuccess_tried (xs : List (α × Option ε)) : FirstSuccess xs (tried xs) := by
  induction xs with
  | nil => exact ⟨List.prefix_rfl, by simp [tried], .inl rfl⟩
  | cons x xs ih =>
    obtain ⟨a, _ | err⟩ := x
    · rw [tried_success]
      exact ⟨⟨xs, rfl⟩, by simp, .inr ⟨a, rfl⟩⟩
    · rw [tried_failure]
      refine ⟨(List.prefix_cons_inj _).mpr ih.order, ?_, ?_⟩
      · intro y hy
        rcases htried : tried xs with _ | ⟨z, zs⟩
        · simp [htried] at hy
        · rw [htried, List.dropLast_cons_cons] at hy
          rcases List.mem_cons.mp hy with rfl | hy
          · simp
          · exact ih.stops y (htried ▸ hy)
      · rcases ih.complete with h | ⟨b, h⟩
        · exact .inl (by rw [h])
        · exact .inr ⟨b, by rw [List.getLast?_cons, h]; rfl⟩

theorem reported_eq_none {d : ε} {xs : List (α × Option ε)} : reported d xs = none ↔ Succeeds xs := by
  induction xs generalizing d with
  | nil => simp [reported, tried, Succeeds]
  | cons x xs ih =>
    obtain ⟨a, _ | err⟩ := x
    · exact iff_of_true (reported_success d a xs) ⟨a, List.mem_cons_self⟩
    · rw [reported_failure, ih]
      simp [Succeeds]

theorem reported_last {d : ε} {xs : List (α × Option ε)} (h : ¬Succeeds xs) :
    reported d xs = some ((xs.getLast?.bind Prod.snd).getD d) := by
  have hall : tried xs = xs := by
    rcases (firstSuccess_tried xs).complete with hall | ⟨a, ha⟩
    · exact hall
    · exact absurd ⟨a, (firstSuccess_tried xs).order.subset (List.mem_of_getLast? ha)⟩ h
  rw [reported, hall]
  rcases hlast : xs.getLast? with _ | ⟨a, _ | err⟩
  · rfl
  · exact absurd ⟨a, List.mem_of_getLast? hlast⟩ h
  · rfl

theorem winner_of_succeeds {xs : List (α × Option ε)} (h : Succeeds xs) :
    ∃ a, winner xs = some a ∧ (tried xs).getLast? = some (a, none) := by
  induction xs with
  | nil => simp [Succeeds] at h
  | cons x xs ih =>
    obtain ⟨a, _ | err⟩ := x
    · exact ⟨a, rfl, rfl⟩
    · obtain ⟨b, hwinner, hlast⟩ := ih (by simpa [Succeeds] using h)
      refine ⟨b, hwinner, ?_⟩
      rw [tried_failure, List.getLast?_cons, hlast]
      rfl

end SocksProxy.AttemptSequences
