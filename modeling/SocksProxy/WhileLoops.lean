import Mathlib.Data.List.Basic

namespace SocksProxy.WhileLoops

variable {σ ε : Type}

inductive Runs (body : σ → Option (ε × σ)) : σ → List ε → σ → Prop
  | done {s : σ} (h : body s = none) : Runs body s [] s
  | pass {s t u : σ} {e : ε} {es : List ε} (h : body s = some (e, t)) (rest : Runs body t es u) :
      Runs body s (e :: es) u

structure Progress (body : σ → Option (ε × σ)) (inv : σ → Prop) (good : ε → Prop) (variant : σ → ℕ) :
    Prop where
  keeps : ∀ s e t, inv s → body s = some (e, t) → inv t
  allows : ∀ s e t, inv s → body s = some (e, t) → good e
  drops : ∀ s e t, inv s → body s = some (e, t) → variant t < variant s

variable {body : σ → Option (ε × σ)} {inv : σ → Prop} {good : ε → Prop} {variant : σ → ℕ} {s u : σ}
  {es : List ε}

theorem Runs.ended (h : Runs body s es u) : body u = none := by
  induction h with
  | done h => exact h
  | pass _ _ ih => exact ih

theorem Runs.keeps (h : Runs body s es u) (hp : Progress body inv good variant) (hs : inv s) : inv u := by
  induction h with
  | done _ => exact hs
  | pass hpass _ ih =>
    apply ih
    exact hp.keeps _ _ _ hs hpass

theorem Runs.allows (h : Runs body s es u) (hp : Progress body inv good variant) (hs : inv s) :
    ∀ e ∈ es, good e := by
  induction h with
  | done _ => simp
  | pass hpass _ ih =>
    intro e he
    rcases List.mem_cons.mp he with rfl | he
    · exact hp.allows _ _ _ hs hpass
    · exact ih (hp.keeps _ _ _ hs hpass) e he

theorem Runs.length_le (h : Runs body s es u) (hp : Progress body inv good variant) (hs : inv s) :
    es.length ≤ variant s := by
  induction h with
  | done _ => exact Nat.zero_le _
  | pass hpass _ ih =>
    have hrest := ih (hp.keeps _ _ _ hs hpass)
    have hdrop := hp.drops _ _ _ hs hpass
    rw [List.length_cons]
    omega

theorem Progress.runs (hp : Progress body inv good variant) {s : σ} (hs : inv s) :
    ∃ es u, Runs body s es u := by
  generalize hn : variant s = n
  induction n using Nat.strongRecOn generalizing s with
  | ind n ih =>
    cases hbody : body s with
    | none => exact ⟨[], s, .done hbody⟩
    | some p =>
      obtain ⟨e, t⟩ := p
      have hdrop := hp.drops s e t hs hbody
      rw [hn] at hdrop
      obtain ⟨es, u, hrun⟩ := ih (variant t) hdrop (hp.keeps s e t hs hbody) rfl
      exact ⟨e :: es, u, .pass hbody hrun⟩

end SocksProxy.WhileLoops
