import Mathlib.Tactic.Common

namespace SocksProxy.TransitionSystems

structure Machine (S E : Type) where
  step : S → E → Option S

namespace Machine

variable {S E : Type} (M : Machine S E)

def run : S → List E → Option S
  | s, [] => some s
  | s, e :: es => (M.step s e).bind fun t => run t es

@[simp] theorem run_nil (s : S) : M.run s [] = some s := rfl

theorem run_cons (s : S) (e : E) (es : List E) :
    M.run s (e :: es) = (M.step s e).bind fun t => M.run t es := rfl

theorem run_cons_of {s t : S} {e : E} {es : List E} (h : M.step s e = some t) :
    M.run s (e :: es) = M.run t es := by
  rw [run_cons, h, Option.bind_some]

theorem run_append (s : S) (xs ys : List E) :
    M.run s (xs ++ ys) = (M.run s xs).bind fun t => M.run t ys := by
  induction xs generalizing s with
  | nil => rfl
  | cons e xs ih =>
    rw [List.cons_append, run_cons, run_cons, Option.bind_assoc]
    congr 1
    funext t
    exact ih t

theorem run_append_of {s t : S} {xs ys : List E} (h : M.run s xs = some t) : M.run s (xs ++ ys) = M.run t ys := by
  rw [run_append, h, Option.bind_some]

theorem run_concat_of {s t u : S} {es : List E} {e : E} (h : M.run s es = some t) (hs : M.step t e = some u) :
    M.run s (es ++ [e]) = some u := by
  rw [run_append_of M h, run_cons_of M hs, run_nil]

def Along (P : S → E → Prop) : S → List E → Prop
  | _, [] => True
  | s, e :: es => P s e ∧ ∀ t, M.step s e = some t → Along P t es

variable {M}

theorem along_cons_of {P : S → E → Prop} {s t : S} {e : E} {es : List E} (hP : P s e)
    (hs : M.step s e = some t) (h : M.Along P t es) : M.Along P s (e :: es) := by
  refine ⟨hP, fun u hu => ?_⟩
  rw [hs, Option.some.injEq] at hu
  rwa [← hu]

theorem invariant_along {I : S → Prop} {P : S → E → Prop}
    (hstep : ∀ s e t, I s → P s e → M.step s e = some t → I t) {s t : S} {es : List E} (hs : I s)
    (hP : M.Along P s es) (hrun : M.run s es = some t) : I t := by
  induction es generalizing s with
  | nil =>
    cases hrun
    exact hs
  | cons e es ih =>
    rw [run_cons] at hrun
    obtain ⟨u, hu, hrun⟩ := Option.bind_eq_some_iff.mp hrun
    exact ih (hstep s e u hs hP.1 hu) (hP.2 u hu) hrun

theorem invariant {I : S → Prop} (hstep : ∀ s e t, I s → M.step s e = some t → I t) {s t : S}
    {es : List E} (hs : I s) (hrun : M.run s es = some t) : I t := by
  have hP : M.Along (fun _ _ => True) s es := by
    clear hrun hs
    induction es generalizing s with
    | nil => trivial
    | cons e es ih => exact ⟨trivial, fun t _ => ih⟩
  exact invariant_along (fun s e t hs _ h => hstep s e t hs h) hs hP hrun

theorem invariant_events {I : S → Prop} {P : E → Prop}
    (hstep : ∀ s e t, I s → P e → M.step s e = some t → I t) {s t : S} {es : List E} (hs : I s)
    (hP : ∀ e ∈ es, P e) (hrun : M.run s es = some t) : I t := by
  refine invariant_along (P := fun _ e => P e) hstep hs ?_ hrun
  clear hrun hs
  induction es generalizing s with
  | nil => trivial
  | cons e es ih =>
    exact ⟨hP e List.mem_cons_self, fun t _ => ih fun f hf => hP f (List.mem_cons_of_mem e hf)⟩

theorem invariant_history {I : List E → S → Prop}
    (hstep : ∀ past s e t, I past s → M.step s e = some t → I (past ++ [e]) t) {s t : S} {es : List E}
    (hs : I [] s) (hrun : M.run s es = some t) : I es t := by
  have hfrom : ∀ past s, I past s → M.run s es = some t → I (past ++ es) t := by
    clear hs hrun
    induction es with
    | nil =>
      intro past s hs hrun
      cases hrun
      rwa [List.append_nil]
    | cons e es ih =>
      intro past s hs hrun
      rw [run_cons] at hrun
      obtain ⟨u, hu, hrun⟩ := Option.bind_eq_some_iff.mp hrun
      rw [List.append_cons]
      exact ih (past ++ [e]) u (hstep past s e u hs hu) hrun
  exact hfrom [] s hs hrun

theorem entry {p : S → Prop} {s t : S} {es : List E} (hs : ¬p s) (ht : p t) (hrun : M.run s es = some t) :
    ∃ pre e post u v, es = pre ++ e :: post ∧ M.run s pre = some u ∧ ¬p u ∧ M.step u e = some v ∧ p v ∧
      M.run v post = some t := by
  induction es generalizing s with
  | nil =>
    cases hrun
    exact absurd ht hs
  | cons e es ih =>
    rw [run_cons] at hrun
    obtain ⟨v, hv, hrun⟩ := Option.bind_eq_some_iff.mp hrun
    by_cases hp : p v
    · exact ⟨[], e, es, s, v, rfl, rfl, hs, hv, hp, hrun⟩
    · obtain ⟨pre, f, post, u, w, rfl, hpre, hu, hf, hw, hpost⟩ := ih hp hrun
      exact ⟨e :: pre, f, post, u, w, rfl, by rw [run_cons_of M hv, hpre], hu, hf, hw, hpost⟩

end Machine

end SocksProxy.TransitionSystems
