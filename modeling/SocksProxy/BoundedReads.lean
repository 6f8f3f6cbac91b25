import SocksProxy.StatefulPrograms

namespace SocksProxy.BoundedReads

open StatefulPrograms

variable {σ ε α β τ : Type} {input : σ → List τ}

def Takes (input : σ → List τ) (n : ℕ) (x : Proc σ ε α) : Prop :=
  ∀ s, ∃ taken, input s = taken ++ input (x.run s).2 ∧ taken.length ≤ n

theorem takes_of_kept {n : ℕ} {x : Proc σ ε α} (h : ∀ s, input (x.run s).2 = input s) : Takes input n x := by
  intro s
  exact ⟨[], (h s).symm, Nat.zero_le n⟩

theorem takes_pure (n : ℕ) (a : α) : Takes input n (pure a : Proc σ ε α) := takes_of_kept fun _ => rfl

theorem takes_read (n : ℕ) (f : σ → α) : Takes input n (Proc.read f : Proc σ ε α) := takes_of_kept fun _ => rfl

theorem takes_modify {f : σ → σ} (n : ℕ) (h : ∀ s, input (f s) = input s) :
    Takes input n (Proc.modify f : Proc σ ε Unit) := takes_of_kept h

theorem Takes.mono {m n : ℕ} {x : Proc σ ε α} (h : Takes input m x) (hmn : m ≤ n) : Takes input n x := by
  intro s
  obtain ⟨taken, htaken, hlength⟩ := h s
  exact ⟨taken, htaken, by omega⟩

theorem takes_ite {n : ℕ} {c : Prop} [Decidable c] {x y : Proc σ ε α} (hx : Takes input n x)
    (hy : Takes input n y) : Takes input n (if c then x else y) := by
  split_ifs
  · exact hx
  · exact hy

theorem Takes.bind {m n : ℕ} {x : Proc σ ε α} {f : α → Proc σ ε β} (hx : Takes input m x) (hmn : m ≤ n)
    (hf : ∀ a, Takes input (n - m) (f a)) : Takes input n (x >>= f) := by
  intro s
  obtain ⟨first, hfirst, hm⟩ := hx s
  rcases hrun : x.run s with ⟨err | a, t⟩
  · rw [Proc.bind_error hrun]
    rw [hrun] at hfirst
    exact ⟨first, hfirst, by omega⟩
  · rw [Proc.bind_ok hrun]
    rw [hrun] at hfirst
    obtain ⟨second, hsecond, hn⟩ := hf a t
    refine ⟨first ++ second, ?_, ?_⟩
    · rw [hfirst, List.append_assoc, ← hsecond]
    · rw [List.length_append]
      omega

end SocksProxy.BoundedReads
