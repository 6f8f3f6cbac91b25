import Mathlib.Tactic.Common

namespace SocksProxy.StatefulPrograms

structure Proc (σ ε α : Type) where
  run : σ → Except ε α × σ

namespace Proc

variable {σ ε α β : Type}

instance : Monad (Proc σ ε) where
  pure a := ⟨fun s => (.ok a, s)⟩
  bind x f := ⟨fun s => match x.run s with
    | (.ok a, t) => (f a).run t
    | (.error err, t) => (.error err, t)⟩

def modify (f : σ → σ) : Proc σ ε Unit := ⟨fun s => (.ok (), f s)⟩

def read (f : σ → α) : Proc σ ε α := ⟨fun s => (.ok (f s), s)⟩

def throw (err : ε) : Proc σ ε α := ⟨fun s => (.error err, s)⟩

def catchAll (x : Proc σ ε α) (handler : ε → Proc σ ε α) : Proc σ ε α := ⟨fun s =>
  match x.run s with
  | (.ok a, t) => (.ok a, t)
  | (.error err, t) => (handler err).run t⟩

@[simp] theorem run_pure (a : α) (s : σ) : (pure a : Proc σ ε α).run s = (.ok a, s) := rfl

@[simp] theorem run_modify (f : σ → σ) (s : σ) :
    (modify f : Proc σ ε Unit).run s = (.ok (), f s) := rfl

@[simp] theorem run_read (f : σ → α) (s : σ) :
    (read f : Proc σ ε α).run s = (.ok (f s), s) := rfl

@[simp] theorem run_throw (err : ε) (s : σ) :
    (throw err : Proc σ ε α).run s = (.error err, s) := rfl

theorem run_bind (x : Proc σ ε α) (f : α → Proc σ ε β) (s : σ) :
    (x >>= f).run s = match x.run s with
      | (.ok a, t) => (f a).run t
      | (.error err, t) => (.error err, t) := rfl

theorem eq_of_run {x y : Proc σ ε α} (h : ∀ s, x.run s = y.run s) : x = y := by
  cases x
  cases y
  congr 1
  funext s
  exact h s

theorem bind_assoc {γ : Type} (x : Proc σ ε α) (f : α → Proc σ ε β) (g : β → Proc σ ε γ) :
    x >>= f >>= g = x >>= fun a => f a >>= g := by
  apply eq_of_run
  intro s
  simp only [run_bind]
  rcases x.run s with ⟨_ | _, _⟩ <;> rfl

theorem bind_ok {x : Proc σ ε α} {f : α → Proc σ ε β} {s t : σ} {a : α}
    (h : x.run s = (.ok a, t)) : (x >>= f).run s = (f a).run t := by
  rw [run_bind, h]

theorem bind_error {x : Proc σ ε α} {f : α → Proc σ ε β} {s t : σ} {err : ε}
    (h : x.run s = (.error err, t)) : (x >>= f).run s = (.error err, t) := by
  rw [run_bind, h]

theorem ok_of_bind {x : Proc σ ε α} {f : α → Proc σ ε β} {s u : σ} {b : β}
    (h : (x >>= f).run s = (.ok b, u)) : ∃ a t, x.run s = (.ok a, t) ∧ (f a).run t = (.ok b, u) := by
  rw [run_bind] at h
  rcases hx : x.run s with ⟨_ | a, t⟩
  · rw [hx] at h
    cases h
  · rw [hx] at h
    exact ⟨a, t, rfl, h⟩

theorem catchAll_state (x : Proc σ ε α) (a : α) (s : σ) :
    ((catchAll x fun _ => pure a).run s).2 = (x.run s).2 := by
  simp only [catchAll]
  rcases x.run s with ⟨_ | _, _⟩ <;> rfl

@[simp] theorem run_ite (c : Prop) [Decidable c] (x y : Proc σ ε α) (s : σ) :
    (if c then x else y).run s = if c then x.run s else y.run s := by
  split_ifs <;> rfl

def Throws (x : Proc σ ε α) (s : σ) : Prop := ∃ err, x.run s = (.error err, s)

theorem throws_throw (err : ε) (s : σ) : Throws (throw err : Proc σ ε α) s := ⟨err, rfl⟩

theorem Throws.bind {x : Proc σ ε α} {f : α → Proc σ ε β} {s : σ} (h : Throws x s) : Throws (x >>= f) s := by
  obtain ⟨err, hx⟩ := h
  exact ⟨err, bind_error hx⟩

theorem throws_bind_ok {x : Proc σ ε α} {f : α → Proc σ ε β} {s : σ} {a : α} (h : x.run s = (.ok a, s))
    (hf : Throws (f a) s) : Throws (x >>= f) s := by
  obtain ⟨err, hf⟩ := hf
  exact ⟨err, (bind_ok h).trans hf⟩

def FailsOr (x : Proc σ ε α) (s : σ) (a : α) (t : σ) : Prop := Throws x s ∨ x.run s = (.ok a, t)

theorem failsOr_ite_throw {c : Prop} [Decidable c] {x : Proc σ ε α} {err : ε} {s t : σ} {a : α}
    (h : x.run s = (.ok a, t)) : FailsOr (if c then x else throw err) s a t := by
  split_ifs
  · exact .inr h
  · exact .inl (throws_throw err s)

theorem FailsOr.bind_throws {x : Proc σ ε α} {f : α → Proc σ ε β} {s : σ} {a : α} (hx : FailsOr x s a s)
    (hf : Throws (f a) s) : Throws (x >>= f) s := by
  rcases hx with hx | hx
  · exact hx.bind
  · exact throws_bind_ok hx hf

theorem FailsOr.bind {x : Proc σ ε α} {f : α → Proc σ ε β} {s u : σ} {a : α} {b : β}
    (hx : FailsOr x s a s) (hf : FailsOr (f a) s b u) : FailsOr (x >>= f) s b u := by
  rcases hf with hf | hf
  · exact .inl (hx.bind_throws hf)
  rcases hx with hx | hx
  · exact .inl hx.bind
  · exact .inr ((bind_ok hx).trans hf)

theorem FailsOr.ok {x : Proc σ ε α} {s t u : σ} {a b : α} (h : FailsOr x s a t) (hb : x.run s = (.ok b, u)) :
    u = t := by
  rcases h with ⟨err, h⟩ | h
  · cases h.symm.trans hb
  · exact (congrArg Prod.snd (h.symm.trans hb)).symm

def Atomic (x : Proc σ ε α) : Prop := ∀ s err t, x.run s = (.error err, t) → t = s

theorem atomic_of_failsOr {x : Proc σ ε α} (h : ∀ s, Throws x s ∨ ∃ a t, FailsOr x s a t) : Atomic x := by
  intro s err t ht
  have hs : Throws x s ∨ ∃ a u, x.run s = (.ok a, u) := by
    rcases h s with h | ⟨a, u, h | h⟩
    · exact .inl h
    · exact .inl h
    · exact .inr ⟨a, u, h⟩
  rcases hs with ⟨err', hs⟩ | ⟨a, u, hs⟩
  · exact (congrArg Prod.snd (hs.symm.trans ht)).symm
  · cases hs.symm.trans ht

def Follows (R : σ → σ → Prop) (x : Proc σ ε α) : Prop := ∀ s, R s (x.run s).2

section Follows

variable {R : σ → σ → Prop}

theorem follows_pure (hrefl : ∀ s, R s s) (a : α) : Follows R (pure a : Proc σ ε α) := hrefl

theorem follows_read (hrefl : ∀ s, R s s) (f : σ → α) : Follows R (read f : Proc σ ε α) := hrefl

theorem follows_throw (hrefl : ∀ s, R s s) (err : ε) : Follows R (throw err : Proc σ ε α) := hrefl

theorem follows_bind (htrans : ∀ s t u, R s t → R t u → R s u) {x : Proc σ ε α} {f : α → Proc σ ε β}
    (hx : Follows R x) (hf : ∀ a, Follows R (f a)) : Follows R (x >>= f) := by
  intro s
  have h := hx s
  rw [run_bind]
  rcases hr : x.run s with ⟨a | a, t⟩
  · rw [hr] at h
    exact h
  · rw [hr] at h
    exact htrans s t _ h (hf a t)

theorem follows_ite {c : Prop} [Decidable c] {x y : Proc σ ε α} (hx : Follows R x) (hy : Follows R y) :
    Follows R (if c then x else y) := by
  split_ifs
  · exact hx
  · exact hy

end Follows

end Proc

end SocksProxy.StatefulPrograms
