import SocksProxy.StatefulPrograms

namespace SocksProxy.AccessScripts

open StatefulPrograms

inductive Script (σ ε α : Type)
  | done (r : Except ε α)
  | access (write : σ → σ) (next : σ → Script σ ε α)

namespace Script

variable {σ τ ν ε α β : Type}

def andThen : Script σ ε α → (α → Script σ ε β) → Script σ ε β
  | done (.ok a), f => f a
  | done (.error err), _ => done (.error err)
  | access write next, f => access write fun s => (next s).andThen f

instance : Monad (Script σ ε) where
  pure a := done (.ok a)
  bind := andThen

def throw (err : ε) : Script σ ε α := done (.error err)

def call (x : Proc σ ε α) : Script σ ε α := access (fun s => (x.run s).2) fun s => done (x.run s).1

def exec : Script σ ε α → Proc σ ε α
  | done r => ⟨fun s => (r, s)⟩
  | access write next => ⟨fun s => (next s).exec.run (write s)⟩

def zoom (get : σ → τ) (set : σ → τ → σ) : Script τ ε α → Script σ ε α
  | done r => done r
  | access write next => access (fun s => set s (write (get s))) fun s => (next (get s)).zoom get set

@[simp] theorem exec_done (r : Except ε α) (s : σ) : (done r).exec.run s = (r, s) := rfl

@[simp] theorem exec_pure (a : α) : (pure a : Script σ ε α).exec = pure a := rfl

@[simp] theorem exec_throw (err : ε) : (throw err : Script σ ε α).exec = Proc.throw err := rfl

@[simp] theorem exec_call (x : Proc σ ε α) : (call x).exec = x := rfl

theorem exec_access (write : σ → σ) (next : σ → Script σ ε α) (s : σ) :
    (access write next).exec.run s = (next s).exec.run (write s) := rfl

@[simp] theorem exec_bind (x : Script σ ε α) (f : α → Script σ ε β) :
    (x >>= f).exec = x.exec >>= fun a => (f a).exec := by
  have hrun : ∀ s, (x >>= f).exec.run s = (x.exec >>= fun a => (f a).exec).run s := by
    induction x with
    | done r => intro s; cases r <;> rfl
    | access write next ih => exact fun s => ih s (write s)
  exact congrArg Proc.mk (funext hrun)

@[simp] theorem exec_ite (c : Prop) [Decidable c] (x y : Script σ ε α) :
    (if c then x else y).exec = if c then x.exec else y.exec := by
  split_ifs <;> rfl

theorem exec_zoom {get : σ → τ} {set : σ → τ → σ} (hget : ∀ s t, get (set s t) = t)
    (hset : ∀ s t u, set (set s t) u = set s u) (hid : ∀ s, set s (get s) = s) (x : Script τ ε α) (s : σ) :
    (x.zoom get set).exec.run s = ((x.exec.run (get s)).1, set s (x.exec.run (get s)).2) := by
  induction x generalizing s with
  | done r => rw [exec_done, zoom, exec_done, hid]
  | access write next ih => rw [zoom, exec_access, ih, hget, hset, exec_access]

def Silent (view : σ → ν) : Script σ ε α → Prop
  | done _ => True
  | access write next => (∀ s, view (write s) = view s) ∧ ∀ s, (next s).Silent view

def Single (view : σ → ν) : Script σ ε α → Prop
  | done _ => True
  | access write next =>
    ((∀ s, view (write s) = view s) ∧ ∀ s, (next s).Single view) ∨ ∀ s, (next s).Silent view

variable {view : σ → ν}

theorem Silent.exec {x : Script σ ε α} (h : x.Silent view) (s : σ) : view (x.exec.run s).2 = view s := by
  induction x generalizing s with
  | done r => rfl
  | access write next ih => rw [exec_access, ih s (h.2 s), h.1]

theorem silent_call {x : Proc σ ε α} (h : ∀ s, view (x.run s).2 = view s) : (call x).Silent view :=
  ⟨h, fun _ => trivial⟩

theorem single_call (x : Proc σ ε α) : (call x).Single view := .inr fun _ => trivial

theorem Silent.single {x : Script σ ε α} (h : x.Silent view) : x.Single view := by
  cases x with
  | done r => trivial
  | access write next => exact .inr h.2

theorem Silent.bind {x : Script σ ε α} {f : α → Script σ ε β} (hx : x.Silent view)
    (hf : ∀ a, (f a).Silent view) : (x >>= f).Silent view := by
  induction x with
  | done r =>
    cases r with
    | error err => trivial
    | ok a => exact hf a
  | access write next ih => exact ⟨hx.1, fun s => ih s (hx.2 s)⟩

theorem Silent.bind_single {x : Script σ ε α} {f : α → Script σ ε β} (hx : x.Silent view)
    (hf : ∀ a, (f a).Single view) : (x >>= f).Single view := by
  induction x with
  | done r =>
    cases r with
    | error err => trivial
    | ok a => exact hf a
  | access write next ih => exact .inl ⟨hx.1, fun s => ih s (hx.2 s)⟩

theorem Single.bind {x : Script σ ε α} {f : α → Script σ ε β} (hx : x.Single view)
    (hf : ∀ a, (f a).Silent view) : (x >>= f).Single view := by
  induction x with
  | done r =>
    cases r with
    | error err => trivial
    | ok a => exact (hf a).single
  | access write next ih =>
    rcases hx with ⟨hw, hn⟩ | hn
    · exact .inl ⟨hw, fun s => ih s (hn s)⟩
    · exact .inr fun s => (hn s).bind hf

theorem single_ite {c : Prop} [Decidable c] {x y : Script σ ε α} (hx : x.Single view) (hy : y.Single view) :
    (if c then x else y).Single view := by
  split_ifs
  · exact hx
  · exact hy

theorem Silent.zoom {get : σ → τ} {set : σ → τ → σ} {part : τ → ν} (hget : ∀ s t, get (set s t) = t)
    {x : Script τ ε α} (h : x.Silent part) : (x.zoom get set).Silent fun s => part (get s) := by
  induction x with
  | done r => trivial
  | access write next ih =>
    refine ⟨fun s => ?_, fun s => ih (get s) (h.2 (get s))⟩
    change part (get (set s (write (get s)))) = part (get s)
    rw [hget, h.1]

theorem Single.zoom {get : σ → τ} {set : σ → τ → σ} {part : τ → ν} (hget : ∀ s t, get (set s t) = t)
    {x : Script τ ε α} (h : x.Single part) : (x.zoom get set).Single fun s => part (get s) := by
  induction x with
  | done r => trivial
  | access write next ih =>
    rcases h with ⟨hw, hn⟩ | hn
    · refine .inl ⟨fun s => ?_, fun s => ih (get s) (hn (get s))⟩
      change part (get (set s (write (get s)))) = part (get s)
      rw [hget, hw]
    · exact .inr fun s => (hn (get s)).zoom hget

end Script

end SocksProxy.AccessScripts
