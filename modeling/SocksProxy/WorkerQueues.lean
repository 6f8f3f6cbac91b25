import SocksProxy.TransitionSystems
import Mathlib.Data.List.Basic

/-! A queue of tasks with one worker behind it: any number of threads make calls, a call may post
tasks, and the worker runs the tasks one at a time in the order they were posted. -/

namespace SocksProxy.WorkerQueues

open TransitionSystems

structure Protocol (σ τ κ ι : Type) where
  posts : κ → List τ
  call : κ → List τ → σ → Option σ
  exec : ι → τ → σ → Option σ

structure Pool (σ τ : Type) where
  state : σ
  queue : List τ := []

inductive Event (κ ι : Type)
  | call (k : κ)
  | work (i : ι)

namespace Event

variable {κ ι : Type}

def isWork : Event κ ι → Bool
  | .work _ => true
  | .call _ => false

end Event

namespace Protocol

variable {σ τ κ ι : Type} (P : Protocol σ τ κ ι)

def step (s : Pool σ τ) : Event κ ι → Option (Pool σ τ)
  | .call k => (P.call k s.queue s.state).map fun t => ⟨t, s.queue ++ P.posts k⟩
  | .work i => match s.queue with
    | [] => none
    | task :: rest => (P.exec i task s.state).map fun t => ⟨t, rest⟩

def machine : Machine (Pool σ τ) (Event κ ι) := ⟨P.step⟩

def posted (es : List (Event κ ι)) : List τ := es.flatMap fun
  | .call k => P.posts k
  | .work _ => []

def worked (es : List (Event κ ι)) : ℕ := es.countP Event.isWork

def taken (es : List (Event κ ι)) : List τ := (P.posted es).take (worked es)

variable {P}

theorem step_call {s t : Pool σ τ} {k : κ} (h : P.step s (.call k) = some t) :
    P.call k s.queue s.state = some t.state ∧ t.queue = s.queue ++ P.posts k := by
  obtain ⟨u, hu, rfl⟩ := Option.map_eq_some_iff.mp h
  exact ⟨hu, rfl⟩

theorem step_work {s t : Pool σ τ} {i : ι} (h : P.step s (.work i) = some t) :
    ∃ task, s.queue = task :: t.queue ∧ P.exec i task s.state = some t.state := by
  rw [step] at h
  cases hq : s.queue with
  | nil =>
    rw [hq] at h
    cases h
  | cons task rest =>
    rw [hq] at h
    obtain ⟨u, hu, rfl⟩ := Option.map_eq_some_iff.mp h
    exact ⟨task, rfl, hu⟩

theorem posted_append (es fs : List (Event κ ι)) : P.posted (es ++ fs) = P.posted es ++ P.posted fs :=
  List.flatMap_append

theorem worked_append (es fs : List (Event κ ι)) : worked (es ++ fs) = worked es + worked fs :=
  List.countP_append

structure Invariant (P : Protocol σ τ κ ι) (I : List τ → List τ → σ → Prop) : Prop where
  call : ∀ past queue s k t, I past queue s → P.call k queue s = some t → I past (queue ++ P.posts k) t
  exec : ∀ past task rest s i t, I past (task :: rest) s → P.exec i task s = some t →
    I (past ++ [task]) rest t

theorem Invariant.run {I : List τ → List τ → σ → Prop} (hI : P.Invariant I) {s : σ} {t : Pool σ τ}
    {es : List (Event κ ι)} (hs : I [] [] s) (hrun : P.machine.run ⟨s, []⟩ es = some t) :
    P.taken es ++ t.queue = P.posted es ∧ (P.taken es).length = worked es ∧ I (P.taken es) t.queue t.state := by
  have hall : ∃ past, past ++ t.queue = P.posted es ∧ past.length = worked es ∧ I past t.queue t.state := by
    apply Machine.invariant_history
      (I := fun es t => ∃ past, past ++ t.queue = P.posted es ∧ past.length = worked es ∧ I past t.queue t.state)
      _ ⟨[], rfl, rfl, hs⟩ hrun
    rintro es u e v ⟨past, hpast, hlength, hi⟩ hstep
    cases e with
    | call k =>
      obtain ⟨hcall, hqueue⟩ := step_call hstep
      refine ⟨past, ?_, ?_, ?_⟩
      · rw [hqueue, ← List.append_assoc, hpast, posted_append]
        simp [posted]
      · rw [hlength, worked_append]
        rfl
      · rw [hqueue]
        exact hI.call past u.queue u.state k v.state hi hcall
    | work i =>
      obtain ⟨task, hqueue, hexec⟩ := step_work hstep
      refine ⟨past ++ [task], ?_, ?_, ?_⟩
      · rw [posted_append, ← hpast, hqueue]
        simp [posted]
      · rw [List.length_append, hlength, worked_append]
        rfl
      · rw [hqueue] at hi
        exact hI.exec past task v.queue u.state i v.state hi hexec
  obtain ⟨past, hpast, hlength, hi⟩ := hall
  have htaken : P.taken es = past := by
    rw [taken, ← hpast, ← hlength, List.take_left]
  rw [htaken]
  exact ⟨hpast, hlength, hi⟩

theorem drains {I : List τ → σ → Prop}
    (hexec : ∀ task rest s, I (task :: rest) s → ∃ i t, P.exec i task s = some t ∧ I rest t) {queue : List τ}
    {s : σ} (hs : I queue s) :
    ∃ (is : List ι) (t : σ), P.machine.run ⟨s, queue⟩ (is.map .work) = some ⟨t, []⟩ ∧ I [] t := by
  induction queue generalizing s with
  | nil => exact ⟨[], s, rfl, hs⟩
  | cons task rest ih =>
    obtain ⟨i, t, ht, hi⟩ := hexec task rest s hs
    obtain ⟨is, u, hrun, hu⟩ := ih hi
    have hstep : P.machine.step ⟨s, task :: rest⟩ (.work i) = some ⟨t, rest⟩ := by
      simp only [machine, step, ht, Option.map_some]
    refine ⟨i :: is, u, ?_, hu⟩
    rw [List.map_cons, Machine.run_cons_of P.machine hstep, hrun]

end Protocol

end SocksProxy.WorkerQueues
