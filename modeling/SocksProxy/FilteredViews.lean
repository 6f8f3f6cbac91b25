import Mathlib.Data.List.Range
import Mathlib.Tactic.Common

namespace SocksProxy.FilteredViews

structure View (φ ρ : Type) where
  filter : φ
  rows : List ρ
  accepted : List ℕ

structure Part (φ α : Type) where
  get : φ → α
  set : α → φ → φ
  set_get : ∀ f, set (get f) f = f

namespace View

variable {φ ρ α : Type} (accepts : φ → List ρ → ℕ → Bool)

def reevaluate (v : View φ ρ) : View φ ρ :=
  { v with accepted := (List.range v.rows.length).filter (accepts v.filter v.rows) }

def reload (rows : List ρ) (v : View φ ρ) : View φ ρ := { v with rows := rows }.reevaluate accepts

def setPart [DecidableEq α] (p : Part φ α) (a : α) (v : View φ ρ) : View φ ρ :=
  if p.get v.filter = a then v else { v with filter := p.set a v.filter }.reevaluate accepts

def Fresh (v : View φ ρ) : Prop := v.reevaluate accepts = v

variable {accepts}

theorem fresh_reevaluate (v : View φ ρ) : Fresh accepts (v.reevaluate accepts) := rfl

theorem fresh_reload (rows : List ρ) (v : View φ ρ) : Fresh accepts (v.reload accepts rows) := rfl

theorem Fresh.setPart [DecidableEq α] {v : View φ ρ} (h : Fresh accepts v) (p : Part φ α) (a : α) :
    Fresh accepts (v.setPart accepts p a) := by
  rw [View.setPart]
  split_ifs
  · exact h
  · exact fresh_reevaluate _

theorem filter_setPart [DecidableEq α] (p : Part φ α) (a : α) (v : View φ ρ) :
    (v.setPart accepts p a).filter = p.set a v.filter := by
  rw [View.setPart]
  split_ifs with h
  · rw [← h, p.set_get]
  · rfl

theorem rows_setPart [DecidableEq α] (p : Part φ α) (a : α) (v : View φ ρ) :
    (v.setPart accepts p a).rows = v.rows := by
  rw [View.setPart]
  split_ifs <;> rfl

theorem Fresh.mem_accepted {v : View φ ρ} (h : Fresh accepts v) (i : ℕ) :
    i ∈ v.accepted ↔ i < v.rows.length ∧ accepts v.filter v.rows i = true := by
  rw [← congrArg View.accepted h]
  simp [reevaluate]

end View

end SocksProxy.FilteredViews
