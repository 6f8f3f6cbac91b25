import SocksProxy.AccessScripts
import SocksProxy.TransitionSystems
import Mathlib.Data.List.Infix

namespace SocksProxy.LockedCalls

open StatefulPrograms TransitionSystems AccessScripts

/-- Operations that hold one mutex from before their first access to behind their last. A thread
makes a call only where its last one has left it `ready`. -/
structure Protocol (σ ε α ω : Type) where
  script : ω → Script σ ε α
  ready : Option (ω × Except ε α) → ω → Bool

inductive Phase (σ ε α ω : Type)
  | outside (last : Option (ω × Except ε α))
  | blocked (n : ℕ) (op : ω)
  | holding (n : ℕ) (op : ω) (rest : Script σ ε α)
  | leaving (n : ℕ) (op : ω) (r : Except ε α)

structure Entry (ε α ω : Type) where
  number : ℕ
  op : ω
  result : Except ε α

/-- Calls are numbered as they are made; `order` has those that have given the mutex back and
`replies` those that have returned. -/
structure World (σ ε α ω : Type) where
  memory : σ
  mutex : Option ℕ := none
  threads : ℕ → Phase σ ε α ω := fun _ => .outside none
  calls : List ω := []
  order : List (Entry ε α ω) := []
  replies : List (Entry ε α ω) := []

inductive Event (ω : Type)
  | call (t : ℕ) (op : ω)
  | lock (t : ℕ)
  | access (t : ℕ)
  | unlock (t : ℕ)
  | reply (t : ℕ)

variable {σ ε α ω ν : Type}

namespace World

def setThread (s : World σ ε α ω) (t : ℕ) (p : Phase σ ε α ω) : World σ ε α ω :=
  { s with threads := Function.update s.threads t p }

def ops (s : World σ ε α ω) : List ω := s.order.map Entry.op

end World

namespace Protocol

variable (P : Protocol σ ε α ω)

def step (s : World σ ε α ω) : Event ω → Option (World σ ε α ω)
  | .call t op => match s.threads t with
    | .outside last => if P.ready last op then
        some { s.setThread t (.blocked s.calls.length op) with calls := s.calls ++ [op] }
      else none
    | _ => none
  | .lock t => match s.threads t, s.mutex with
    | .blocked n op, none => some { s.setThread t (.holding n op (P.script op)) with mutex := some t }
    | _, _ => none
  | .access t => match s.threads t with
    | .holding n op (.access write next) =>
      some { s.setThread t (.holding n op (next s.memory)) with memory := write s.memory }
    | _ => none
  | .unlock t => match s.threads t with
    | .holding n op (.done r) =>
      some { s.setThread t (.leaving n op r) with mutex := none, order := s.order ++ [⟨n, op, r⟩] }
    | _ => none
  | .reply t => match s.threads t with
    | .leaving n op r =>
      some { s.setThread t (.outside (some (op, r))) with replies := s.replies ++ [⟨n, op, r⟩] }
    | _ => none

def machine : Machine (World σ ε α ω) (Event ω) := ⟨P.step⟩

def spec (op : ω) : Proc σ ε α := (P.script op).exec

def after (memory : σ) (ops : List ω) : σ := ops.foldl (fun s op => ((P.spec op).run s).2) memory

def Answers : σ → List (Entry ε α ω) → Prop
  | _, [] => True
  | s, e :: es => ((P.spec e.op).run s).1 = e.result ∧ Answers ((P.spec e.op).run s).2 es

end Protocol

section Sequential

variable (P : Protocol σ ε α ω)

theorem after_append (memory : σ) (xs ys : List ω) :
    P.after memory (xs ++ ys) = P.after (P.after memory xs) ys := List.foldl_append

theorem after_concat (memory : σ) (xs : List ω) (op : ω) :
    P.after memory (xs ++ [op]) = ((P.spec op).run (P.after memory xs)).2 := after_append P memory xs [op]

theorem answers_append (memory : σ) (xs ys : List (Entry ε α ω)) : P.Answers memory (xs ++ ys) ↔
    P.Answers memory xs ∧ P.Answers (P.after memory (xs.map Entry.op)) ys := by
  induction xs generalizing memory with
  | nil => simp [Protocol.Answers, Protocol.after]
  | cons e xs ih =>
    rw [List.cons_append, Protocol.Answers, ih, Protocol.Answers, and_assoc]
    rfl

end Sequential

variable {P : Protocol σ ε α ω} {s s₁ s₂ : World σ ε α ω} {memory : σ}

theorem step_cases {e : Event ω} (h : P.step s e = some s₂) :
    (∃ t op last, e = .call t op ∧ s.threads t = .outside last ∧ P.ready last op ∧
      s₂ = { s.setThread t (.blocked s.calls.length op) with calls := s.calls ++ [op] }) ∨
    (∃ t n op, e = .lock t ∧ s.threads t = .blocked n op ∧ s.mutex = none ∧
      s₂ = { s.setThread t (.holding n op (P.script op)) with mutex := some t }) ∨
    (∃ t n op write next, e = .access t ∧ s.threads t = .holding n op (.access write next) ∧
      s₂ = { s.setThread t (.holding n op (next s.memory)) with memory := write s.memory }) ∨
    (∃ t n op r, e = .unlock t ∧ s.threads t = .holding n op (.done r) ∧
      s₂ = { s.setThread t (.leaving n op r) with mutex := none, order := s.order ++ [⟨n, op, r⟩] }) ∨
    (∃ t n op r, e = .reply t ∧ s.threads t = .leaving n op r ∧
      s₂ = { s.setThread t (.outside (some (op, r))) with replies := s.replies ++ [⟨n, op, r⟩] }) := by
  cases e with
  | call t op =>
    simp only [Protocol.step] at h
    split at h
    · rename_i last hp
      split_ifs at h with hr
      exact .inl ⟨t, op, last, rfl, hp, hr, (Option.some.inj h).symm⟩
    · cases h
  | lock t =>
    simp only [Protocol.step] at h
    split at h
    · rename_i n op hp hm
      exact .inr (.inl ⟨t, n, op, rfl, hp, hm, (Option.some.inj h).symm⟩)
    · cases h
  | access t =>
    simp only [Protocol.step] at h
    split at h
    · rename_i n op write next hp
      exact .inr (.inr (.inl ⟨t, n, op, write, next, rfl, hp, (Option.some.inj h).symm⟩))
    · cases h
  | unlock t =>
    simp only [Protocol.step] at h
    split at h
    · rename_i n op r hp
      exact .inr (.inr (.inr (.inl ⟨t, n, op, r, rfl, hp, (Option.some.inj h).symm⟩)))
    · cases h
  | reply t =>
    simp only [Protocol.step] at h
    split at h
    · rename_i n op r hp
      exact .inr (.inr (.inr (.inr ⟨t, n, op, r, rfl, hp, (Option.some.inj h).symm⟩)))
    · cases h

structure Locked (P : Protocol σ ε α ω) (memory : σ) (s : World σ ε α ω) : Prop where
  answers : P.Answers memory s.order
  free : s.mutex = none → s.memory = P.after memory s.ops
  holder : ∀ t, s.mutex = some t → ∃ n op rest, s.threads t = .holding n op rest ∧
    rest.exec.run s.memory = (P.spec op).run (P.after memory s.ops)
  exclusive : ∀ t n op rest, s.threads t = .holding n op rest → s.mutex = some t

@[simp] theorem threads_setThread (s : World σ ε α ω) (t u : ℕ) (p : Phase σ ε α ω) :
    (s.setThread t p).threads u = if u = t then p else s.threads u := by
  simp [World.setThread, Function.update_apply]

theorem Locked.move (h : Locked P memory s) {t : ℕ} {p : Phase σ ε α ω}
    (hs : ∀ n op rest, s.threads t ≠ .holding n op rest) (hp : ∀ n op rest, p ≠ .holding n op rest)
    (calls : List ω) (replies : List (Entry ε α ω)) :
    Locked P memory { s.setThread t p with calls := calls, replies := replies } := by
  refine ⟨h.answers, h.free, fun u hu => ?_, fun u n op rest hu => ?_⟩
  · obtain ⟨n, op, rest, hrest, hrun⟩ := h.holder u hu
    have hne : u ≠ t := by
      rintro rfl
      exact hs n op rest hrest
    exact ⟨n, op, rest, by simp [hne, hrest], hrun⟩
  · simp only [threads_setThread] at hu
    split_ifs at hu
    · exact absurd hu (hp n op rest)
    · exact h.exclusive u n op rest hu

theorem locked_of_step (h : Locked P memory s) {e : Event ω} (hs : P.step s e = some s₂) :
    Locked P memory s₂ := by
  rcases step_cases hs with ⟨t, op, last, -, hp, -, rfl⟩ | ⟨t, n, op, -, hp, hm, rfl⟩ |
    ⟨t, n, op, write, next, -, hp, rfl⟩ | ⟨t, n, op, r, -, hp, rfl⟩ | ⟨t, n, op, r, -, hp, rfl⟩
  · apply h.move (by simp [hp]) (by simp)
  · refine ⟨h.answers, (fun hn => by cases hn), fun u hu => ?_, fun u n' op' rest hu => ?_⟩
    · cases hu
      refine ⟨n, op, P.script op, by simp, ?_⟩
      change (P.script op).exec.run s.memory = (P.spec op).run (P.after memory s.ops)
      rw [← h.free hm, Protocol.spec]
    · simp only [threads_setThread] at hu
      split_ifs at hu with hut
      · rw [hut]
      · cases hm.symm.trans (h.exclusive u n' op' rest hu)
  · have hmutex := h.exclusive t n op _ hp
    refine ⟨h.answers, fun hn => ?_, fun u hu => ?_, fun u n' op' rest hu => ?_⟩
    · cases hmutex.symm.trans hn
    · obtain rfl : t = u := Option.some.inj (hmutex.symm.trans hu)
      obtain ⟨n', op', rest, hrest, hrun⟩ := h.holder t hmutex
      cases hp.symm.trans hrest
      exact ⟨n, op, next s.memory, by simp, hrun⟩
    · simp only [threads_setThread] at hu
      split_ifs at hu with hut
      · rw [hut]
        exact hmutex
      · exact h.exclusive u n' op' rest hu
  · have hmutex := h.exclusive t n op _ hp
    obtain ⟨n', op', rest, hrest, hrun⟩ := h.holder t hmutex
    cases hp.symm.trans hrest
    refine ⟨?_, fun _ => ?_, (fun u hu => by cases hu), fun u n' op' rest hu => ?_⟩
    · apply (answers_append P memory _ _).mpr
      exact ⟨h.answers, (congrArg Prod.fst hrun).symm, trivial⟩
    · rw [World.ops, List.map_append, List.map_cons, List.map_nil, after_concat]
      exact congrArg Prod.snd hrun
    · simp only [threads_setThread] at hu
      split_ifs at hu with hut
      exact absurd (Option.some.inj (hmutex.symm.trans (h.exclusive u n' op' rest hu))) (Ne.symm hut)
  · apply h.move (by simp [hp]) (by simp)

namespace Phase

def current : Phase σ ε α ω → Option (ℕ × ω)
  | outside _ => none
  | blocked n op | holding n op _ | leaving n op _ => some (n, op)

def pending : Phase σ ε α ω → Option (ℕ × ω)
  | outside _ | leaving _ _ _ => none
  | blocked n op | holding n op _ => some (n, op)

theorem current_of_pending {p : Phase σ ε α ω} {c : ℕ × ω} (h : p.pending = some c) : p.current = some c := by
  cases p with
  | outside last => cases h
  | leaving n op r => cases h
  | blocked n op => exact h
  | holding n op rest => exact h

end Phase

structure Booked (s : World σ ε α ω) : Prop where
  called : ∀ t n op, (s.threads t).current = some (n, op) → s.calls[n]? = some op
  distinct : ∀ t u n op op', (s.threads t).current = some (n, op) → (s.threads u).current = some (n, op') → t = u
  awaited : ∀ t n op, (s.threads t).pending = some (n, op) → ∀ e ∈ s.order, e.number ≠ n
  left : ∀ t n op r, s.threads t = .leaving n op r → ⟨n, op, r⟩ ∈ s.order
  replied : ∀ e ∈ s.replies, e ∈ s.order
  ordered : ∀ e ∈ s.order, s.calls[e.number]? = some e.op
  nodup : (s.order.map Entry.number).Nodup
  covered : ∀ n < s.calls.length, (∃ e ∈ s.replies, e.number = n) ∨ ∃ t op, (s.threads t).current = some (n, op)
  bounded : ∃ m, ∀ t, m ≤ t → (s.threads t).current = none

theorem Booked.lt (h : Booked s) {t n : ℕ} {op : ω} (ht : (s.threads t).current = some (n, op)) :
    n < s.calls.length := (List.getElem?_eq_some_iff.mp (h.called t n op ht)).1

theorem Booked.number_lt (h : Booked s) {e : Entry ε α ω} (he : e ∈ s.order) : e.number < s.calls.length :=
  (List.getElem?_eq_some_iff.mp (h.ordered e he)).1

theorem Booked.advance (h : Booked s) {t : ℕ} {p : Phase σ ε α ω} (hc : p.current = (s.threads t).current)
    (hp : p.pending = (s.threads t).pending) (hl : ∀ n op r, p ≠ .leaving n op r) (memory : σ)
    (mutex : Option ℕ) : Booked { s.setThread t p with memory := memory, mutex := mutex } := by
  have hcurrent : ∀ u, ((s.setThread t p).threads u).current = (s.threads u).current := by
    intro u
    rw [threads_setThread]
    split_ifs with hu
    · rw [hu, hc]
    · rfl
  have hpending : ∀ u, ((s.setThread t p).threads u).pending = (s.threads u).pending := by
    intro u
    rw [threads_setThread]
    split_ifs with hu
    · rw [hu, hp]
    · rfl
  refine ⟨fun u n op hu => ?_, fun u v n op op' hu hv => ?_, fun u n op hu => ?_, fun u n op r hu => ?_,
    h.replied, h.ordered, h.nodup, fun n hn => ?_, ?_⟩
  · exact h.called u n op (hcurrent u ▸ hu)
  · exact h.distinct u v n op op' (hcurrent u ▸ hu) (hcurrent v ▸ hv)
  · exact h.awaited u n op (hpending u ▸ hu)
  · simp only [threads_setThread] at hu
    split_ifs at hu
    · exact absurd hu (hl n op r)
    · exact h.left u n op r hu
  · rcases h.covered n hn with hr | ⟨u, op, hu⟩
    · exact .inl hr
    · exact .inr ⟨u, op, (hcurrent u).trans hu⟩
  · obtain ⟨m, hm⟩ := h.bounded
    exact ⟨m, fun u hu => (hcurrent u).trans (hm u hu)⟩

theorem Booked.call (h : Booked s) {t : ℕ} {last : Option (ω × Except ε α)} (ht : s.threads t = .outside last)
    (op : ω) : Booked { s.setThread t (.blocked s.calls.length op) with calls := s.calls ++ [op] } := by
  have hcurrent : ∀ u n op', ((s.setThread t (.blocked s.calls.length op)).threads u).current = some (n, op') →
      (u = t ∧ n = s.calls.length ∧ op' = op) ∨ (u ≠ t ∧ (s.threads u).current = some (n, op')) := by
    intro u n op' hu
    rw [threads_setThread] at hu
    split_ifs at hu with hut
    · cases hu
      exact .inl ⟨hut, rfl, rfl⟩
    · exact .inr ⟨hut, hu⟩
  refine ⟨fun u n op' hu => ?_, fun u v n op₁ op₂ hu hv => ?_, fun u n op' hu e he => ?_, fun u n op' r hu => ?_,
    h.replied, fun e he => ?_, h.nodup, fun n hn => ?_, ?_⟩
  · rcases hcurrent u n op' hu with ⟨-, rfl, rfl⟩ | ⟨-, hu⟩
    · exact List.getElem?_concat_length
    · change (s.calls ++ [op])[n]? = some op'
      rw [List.getElem?_append_left (h.lt hu), h.called u n op' hu]
  · rcases hcurrent u n op₁ hu with ⟨hut, hn, -⟩ | ⟨-, hu'⟩
    · rcases hcurrent v n op₂ hv with ⟨hvt, -, -⟩ | ⟨-, hv'⟩
      · rw [hut, hvt]
      · exact absurd hn (h.lt hv').ne
    · rcases hcurrent v n op₂ hv with ⟨-, hn, -⟩ | ⟨-, hv'⟩
      · exact absurd hn (h.lt hu').ne
      · exact h.distinct u v n op₁ op₂ hu' hv'
  · rcases hcurrent u n op' (Phase.current_of_pending hu) with ⟨-, rfl, -⟩ | ⟨hne, -⟩
    · exact (h.number_lt he).ne
    · simp only [threads_setThread, if_neg hne] at hu
      exact h.awaited u n op' hu e he
  · simp only [threads_setThread] at hu
    split_ifs at hu
    exact h.left u n op' r hu
  · change (s.calls ++ [op])[e.number]? = some e.op
    rw [List.getElem?_append_left (h.number_lt he), h.ordered e he]
  · simp only [List.length_append, List.length_singleton] at hn
    by_cases hlast : n = s.calls.length
    · exact .inr ⟨t, op, by simp [hlast, Phase.current]⟩
    · rcases h.covered n (by omega) with hr | ⟨u, op', hu⟩
      · exact .inl hr
      · have hne : u ≠ t := by
          rintro rfl
          rw [ht] at hu
          cases hu
        exact .inr ⟨u, op', by simp [hne, hu]⟩
  · obtain ⟨m, hm⟩ := h.bounded
    refine ⟨max m (t + 1), fun u hu => ?_⟩
    have hne : u ≠ t := by omega
    simp only [threads_setThread, if_neg hne]
    exact hm u (by omega)

theorem Booked.unlock (h : Booked s) {t n : ℕ} {op : ω} {r : Except ε α}
    (ht : s.threads t = .holding n op (.done r)) :
    Booked { s.setThread t (.leaving n op r) with mutex := none, order := s.order ++ [⟨n, op, r⟩] } := by
  have hpending : (s.threads t).pending = some (n, op) := by rw [ht]; rfl
  have hcurrent : ∀ u, ((s.setThread t (.leaving n op r)).threads u).current = (s.threads u).current := by
    intro u
    rw [threads_setThread]
    split_ifs with hu
    · rw [hu, ht]
      rfl
    · rfl
  refine ⟨fun u n op hu => ?_, fun u v n op op' hu hv => ?_, fun u m op' hu e he => ?_, fun u m op' r' hu => ?_,
    fun e he => ?_, fun e he => ?_, ?_, fun n hn => ?_, ?_⟩
  · exact h.called u n op (hcurrent u ▸ hu)
  · exact h.distinct u v n op op' (hcurrent u ▸ hu) (hcurrent v ▸ hv)
  · simp only [threads_setThread] at hu
    split_ifs at hu with hut
    · cases hu
    · rcases List.mem_append.mp he with he | he
      · exact h.awaited u m op' hu e he
      · rw [List.mem_singleton.mp he]
        rintro rfl
        exact hut (h.distinct u t _ op' op (Phase.current_of_pending hu) (Phase.current_of_pending hpending))
  · simp only [threads_setThread] at hu
    split_ifs at hu
    · cases hu
      exact List.mem_append_right _ List.mem_cons_self
    · exact List.mem_append_left _ (h.left u m op' r' hu)
  · exact List.mem_append_left _ (h.replied e he)
  · rcases List.mem_append.mp he with he | he
    · exact h.ordered e he
    · rw [List.mem_singleton.mp he]
      exact h.called t n op (Phase.current_of_pending hpending)
  · rw [List.map_append, List.nodup_append]
    refine ⟨h.nodup, by simp, ?_⟩
    intro m hm k hk
    obtain ⟨e, he, rfl⟩ := List.mem_map.mp hm
    rw [List.mem_singleton.mp hk]
    exact h.awaited t n op hpending e he
  · rcases h.covered n hn with hr | ⟨u, op, hu⟩
    · exact .inl hr
    · exact .inr ⟨u, op, (hcurrent u).trans hu⟩
  · obtain ⟨m, hm⟩ := h.bounded
    exact ⟨m, fun u hu => (hcurrent u).trans (hm u hu)⟩

theorem Booked.reply (h : Booked s) {t n : ℕ} {op : ω} {r : Except ε α} (ht : s.threads t = .leaving n op r) :
    Booked { s.setThread t (.outside (some (op, r))) with replies := s.replies ++ [⟨n, op, r⟩] } := by
  have hcurrent : ∀ u c, ((s.setThread t (.outside (some (op, r)))).threads u).current = some c →
      (s.threads u).current = some c := by
    intro u c hu
    rw [threads_setThread] at hu
    split_ifs at hu
    · cases hu
    · exact hu
  refine ⟨fun u n op hu => ?_, fun u v n op op' hu hv => ?_, fun u m op' hu e he => ?_, fun u m op' r' hu => ?_,
    fun e he => ?_, h.ordered, h.nodup, fun m hm => ?_, ?_⟩
  · exact h.called u n op (hcurrent u _ hu)
  · exact h.distinct u v n op op' (hcurrent u _ hu) (hcurrent v _ hv)
  · simp only [threads_setThread] at hu
    split_ifs at hu
    · cases hu
    · exact h.awaited u m op' hu e he
  · simp only [threads_setThread] at hu
    split_ifs at hu
    exact h.left u m op' r' hu
  · rcases List.mem_append.mp he with he | he
    · exact h.replied e he
    · rw [List.mem_singleton.mp he]
      exact h.left t n op r ht
  · rcases h.covered m hm with ⟨e, he, hem⟩ | ⟨u, op', hu⟩
    · exact .inl ⟨e, List.mem_append_left _ he, hem⟩
    · by_cases hut : u = t
      · rw [hut, ht] at hu
        cases hu
        exact .inl ⟨⟨n, op, r⟩, List.mem_append_right _ List.mem_cons_self, rfl⟩
      · exact .inr ⟨u, op', by simp [hut, hu]⟩
  · obtain ⟨m, hm⟩ := h.bounded
    refine ⟨m, fun u hu => ?_⟩
    rw [threads_setThread]
    split_ifs
    · rfl
    · exact hm u hu

theorem booked_of_step (h : Booked s) {e : Event ω} (hs : P.step s e = some s₂) : Booked s₂ := by
  rcases step_cases hs with ⟨t, op, last, -, hp, -, rfl⟩ | ⟨t, n, op, -, hp, hm, rfl⟩ |
    ⟨t, n, op, write, next, -, hp, rfl⟩ | ⟨t, n, op, r, -, hp, rfl⟩ | ⟨t, n, op, r, -, hp, rfl⟩
  · exact h.call hp op
  · exact h.advance (by rw [hp]; rfl) (by rw [hp]; rfl) (by simp) s.memory (some t)
  · exact h.advance (by rw [hp]; rfl) (by rw [hp]; rfl) (by simp) (write s.memory) s.mutex
  · exact h.unlock hp
  · exact h.reply hp

end SocksProxy.LockedCalls
