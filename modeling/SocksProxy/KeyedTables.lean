import Mathlib.Data.List.Nodup
import Mathlib.Tactic.Common

namespace SocksProxy.KeyedTables

structure KeyedTable {α κ : Type} (key : α → κ) where
  rows : List α
  nodup : (rows.map key).Nodup

namespace KeyedTable

variable {α κ : Type} {key : α → κ}

theorem eq_of_key {t : KeyedTable key} {a b : α} (ha : a ∈ t.rows) (hb : b ∈ t.rows)
    (h : key a = key b) : a = b := List.inj_on_of_nodup_map t.nodup ha hb h

structure Change (key : α → κ) where
  apply : α → α
  key_apply : ∀ a, key (apply a) = key a

def alter (t : KeyedTable key) (p : κ → Bool) (c : Change key) : KeyedTable key where
  rows := t.rows.map fun a => if p (key a) then c.apply a else a
  nodup := by
    have hk : (key ∘ fun a => if p (key a) then c.apply a else a) = key := by
      funext a
      simp only [Function.comp_apply]
      split_ifs
      · exact c.key_apply a
      · rfl
    rw [List.map_map, hk]
    exact t.nodup

theorem keys_alter (t : KeyedTable key) (p : κ → Bool) (c : Change key) :
    (t.alter p c).rows.map key = t.rows.map key := by
  simp only [alter, List.map_map]
  apply List.map_congr_left
  intro a _
  simp only [Function.comp_apply]
  split_ifs
  · exact c.key_apply a
  · rfl

def insert (t : KeyedTable key) (a : α) (h : ∀ b ∈ t.rows, key b ≠ key a) : KeyedTable key where
  rows := t.rows ++ [a]
  nodup := by
    rw [List.map_append, List.nodup_append]
    refine ⟨t.nodup, by simp, ?_⟩
    simpa using h

variable [DecidableEq κ]

def get? (t : KeyedTable key) (k : κ) : Option α := t.rows.find? fun a => key a = k

theorem get?_eq_some {t : KeyedTable key} {k : κ} {a : α} :
    t.get? k = some a ↔ a ∈ t.rows ∧ key a = k := by
  constructor
  · intro h
    exact ⟨List.mem_of_find?_eq_some h, by simpa using List.find?_some h⟩
  · rintro ⟨ha, rfl⟩
    have hs : (t.rows.find? fun b => key b = key a).isSome := by
      rw [List.find?_isSome]
      exact ⟨a, ha, by simp⟩
    obtain ⟨b, hb⟩ := Option.isSome_iff_exists.mp hs
    have hk : key b = key a := by simpa using List.find?_some hb
    rw [get?, hb, eq_of_key (List.mem_of_find?_eq_some hb) ha hk]

theorem get?_of_mem {t : KeyedTable key} {a : α} (h : a ∈ t.rows) : t.get? (key a) = some a :=
  get?_eq_some.mpr ⟨h, rfl⟩

theorem get?_eq_none {t : KeyedTable key} {k : κ} : t.get? k = none ↔ ∀ a ∈ t.rows, key a ≠ k := by
  simp [get?]

theorem get?_alter (t : KeyedTable key) (p : κ → Bool) (c : Change key) (k : κ) :
    (t.alter p c).get? k = (t.get? k).map fun a => if p k then c.apply a else a := by
  have hk : ∀ a, key (if p (key a) then c.apply a else a) = key a := by
    intro a
    split_ifs
    · exact c.key_apply a
    · rfl
  rcases hg : t.get? k with _ | a
  · simp only [Option.map_none, get?_eq_none, alter, List.mem_map, forall_exists_index, and_imp]
    rintro b a ha rfl
    rw [hk a]
    exact get?_eq_none.mp hg a ha
  · obtain ⟨ha, rfl⟩ := get?_eq_some.mp hg
    apply get?_eq_some.mpr
    exact ⟨List.mem_map_of_mem ha, hk a⟩

theorem get?_insert (t : KeyedTable key) (a : α) (h : ∀ b ∈ t.rows, key b ≠ key a) (k : κ) :
    (t.insert a h).get? k = if k = key a then some a else t.get? k := by
  split_ifs with hk
  · subst hk
    apply get?_of_mem
    exact List.mem_append_right _ (List.mem_singleton_self a)
  · rw [get?, insert, List.find?_append, List.find?_singleton]
    simp [Ne.symm hk, get?]

end KeyedTable

end SocksProxy.KeyedTables
