import SocksProxy.LockedCalls

namespace SocksProxy.LockedCalls

open StatefulPrograms TransitionSystems AccessScripts

variable {σ ε α ω ν : Type} {P : Protocol σ ε α ω} {s s₁ s₂ : World σ ε α ω} {memory : σ}

theorem locked_start (P : Protocol σ ε α ω) (memory : σ) : Locked P memory { memory := memory } := by
  refine ⟨trivial, fun _ => rfl, ?_, ?_⟩
  · intro t ht
    cases ht
  · intro t n op rest ht
    cases ht

theorem booked_start (memory : σ) : Booked ({ memory := memory } : World σ ε α ω) := by
  refine ⟨?_, ?_, ?_, ?_, ?_, ?_, List.nodup_nil, ?_, 0, fun _ _ => rfl⟩
  · intro t n op ht
    cases ht
  · intro t u n op op' ht
    cases ht
  · intro t n op ht
    cases ht
  · intro t n op r ht
    cases ht
  · intro e he
    cases he
  · intro e he
    cases he
  · intro n hn
    cases hn

theorem locked_run (h : Locked P memory s) {es : List (Event ω)} (hrun : P.machine.run s es = some s₂) :
    Locked P memory s₂ := by
  apply Machine.invariant (M := P.machine) (I := Locked P memory) ?_ h hrun
  exact fun u e v h hs => locked_of_step h hs

theorem booked_run (h : Booked s) {es : List (Event ω)} (hrun : P.machine.run s es = some s₂) :
    Booked s₂ := by
  apply Machine.invariant (M := P.machine) (I := Booked) ?_ h hrun
  exact fun u e v h hs => booked_of_step h hs

theorem order_prefix {es : List (Event ω)} (hrun : P.machine.run s es = some s₂) : s.order <+: s₂.order := by
  apply Machine.invariant (M := P.machine) (I := fun u => s.order <+: u.order) ?_ List.prefix_rfl hrun
  intro u e v h hs
  refine h.trans ?_
  rcases step_cases hs with ⟨t, op, last, -, -, -, rfl⟩ | ⟨t, n, op, -, -, -, rfl⟩ |
    ⟨t, n, op, write, next, -, -, rfl⟩ | ⟨t, n, op, r, -, -, rfl⟩ | ⟨t, n, op, r, -, -, rfl⟩
  all_goals first | exact List.prefix_append _ _ | exact List.prefix_rfl

def Glimpse (P : Protocol σ ε α ω) (view : σ → ν) (memory : σ) (s : World σ ε α ω) : Prop :=
  ∀ t n op rest, s.threads t = .holding n op rest →
    (view s.memory = view (P.after memory s.ops) ∧ rest.Single view) ∨ rest.Silent view

theorem glimpse_of_step {view : σ → ν} (hview : ∀ op, (P.script op).Single view) (hl : Locked P memory s)
    (h : Glimpse P view memory s) {e : Event ω} (hs : P.step s e = some s₂) : Glimpse P view memory s₂ := by
  rcases step_cases hs with ⟨t, op, last, -, -, -, rfl⟩ | ⟨t, n, op, -, -, hm, rfl⟩ |
    ⟨t, n, op, write, next, -, hp, rfl⟩ | ⟨t, n, op, r, -, hp, rfl⟩ | ⟨t, n, op, r, -, -, rfl⟩
  all_goals
    intro u n' op' rest hu
    simp only [threads_setThread] at hu
    split_ifs at hu with hut
  · exact h u n' op' rest hu
  · cases hu
    refine .inl ⟨?_, hview op⟩
    exact congrArg view (hl.free hm)
  · exact h u n' op' rest hu
  · cases hu
    rcases h t n op _ hp with ⟨hv, ⟨hw, hn⟩ | hn⟩ | hsilent
    · exact .inl ⟨(hw s.memory).trans hv, hn s.memory⟩
    · exact .inr (hn s.memory)
    · exact .inr (hsilent.2 s.memory)
  · have ht := (hl.exclusive t n op _ hp).symm.trans (hl.exclusive u n' op' rest hu)
    exact absurd (Option.some.inj ht).symm hut
  · have ht := (hl.exclusive t n op _ hp).symm.trans (hl.exclusive u n' op' rest hu)
    exact absurd (Option.some.inj ht).symm hut
  · exact h u n' op' rest hu

structure Linearized (P : Protocol σ ε α ω) (view : σ → ν) (memory : σ) (s₁ s₂ : World σ ε α ω) : Prop where
  answers : P.Answers memory s₂.order
  calls : ∀ e ∈ s₂.order, s₂.calls[e.number]? = some e.op
  once : (s₂.order.map Entry.number).Nodup
  replies : ∀ e ∈ s₂.replies, e ∈ s₂.order
  realtime : ∀ a ∈ s₁.replies, ∀ b ∈ s₂.order, s₁.calls.length ≤ b.number →
    ∃ xs ys, s₂.order = xs ++ ys ∧ a ∈ xs ∧ b ∈ ys
  unlocked : s₂.mutex = none → s₂.memory = P.after memory s₂.ops
  seen : view s₂.memory = view (P.after memory s₂.ops) ∨ ∃ t n op rest,
    s₂.threads t = .holding n op rest ∧ view s₂.memory = view (P.after memory (s₂.ops ++ [op]))

theorem seen_of_glimpse {view : σ → ν} (hl : Locked P memory s) (h : Glimpse P view memory s) :
    view s.memory = view (P.after memory s.ops) ∨ ∃ t n op rest,
      s.threads t = .holding n op rest ∧ view s.memory = view (P.after memory (s.ops ++ [op])) := by
  cases hm : s.mutex with
  | none => exact .inl (congrArg view (hl.free hm))
  | some t =>
    obtain ⟨n, op, rest, ht, hrun⟩ := hl.holder t hm
    rcases h t n op rest ht with ⟨hv, -⟩ | hsilent
    · exact .inl hv
    · refine .inr ⟨t, n, op, rest, ht, ?_⟩
      rw [after_concat, ← hrun, hsilent.exec]

theorem linearized {view : σ → ν} (hview : ∀ op, (P.script op).Single view) {es₁ es₂ : List (Event ω)}
    (h₁ : P.machine.run { memory := memory } es₁ = some s₁) (h₂ : P.machine.run s₁ es₂ = some s₂) :
    Linearized P view memory s₁ s₂ := by
  have hl₁ := locked_run (locked_start P memory) h₁
  have hl₂ := locked_run hl₁ h₂
  have hb₁ := booked_run (booked_start memory) h₁
  have hb₂ := booked_run hb₁ h₂
  have hall : P.machine.run { memory := memory } (es₁ ++ es₂) = some s₂ := by
    rw [Machine.run_append_of _ h₁, h₂]
  have hglimpse : Locked P memory s₂ ∧ Glimpse P view memory s₂ := by
    apply Machine.invariant (M := P.machine) (I := fun u => Locked P memory u ∧ Glimpse P view memory u) ?_ ?_ hall
    · exact fun u e v h hs => ⟨locked_of_step h.1 hs, glimpse_of_step hview h.1 h.2 hs⟩
    · refine ⟨locked_start P memory, ?_⟩
      intro t n op rest ht
      cases ht
  refine ⟨hl₂.answers, hb₂.ordered, hb₂.nodup, hb₂.replied, ?_, hl₂.free, seen_of_glimpse hl₂ hglimpse.2⟩
  intro a ha b hb hlt
  obtain ⟨ys, hys⟩ := order_prefix h₂
  refine ⟨s₁.order, ys, hys.symm, hb₁.replied a ha, ?_⟩
  rw [← hys] at hb
  rcases List.mem_append.mp hb with hb | hb
  · exact absurd (hb₁.number_lt hb) (by omega)
  · exact hb

def Event.isCall : Event ω → Bool
  | .call _ _ => true
  | _ => false

def Settles (P : Protocol σ ε α ω) (s s₂ : World σ ε α ω) : Prop :=
  ∃ es, (∀ e ∈ es, e.isCall = false) ∧ P.machine.run s es = some s₂

theorem settles_refl (s : World σ ε α ω) : Settles P s s := ⟨[], by simp, rfl⟩

theorem Settles.trans (h : Settles P s s₁) (h₁ : Settles P s₁ s₂) : Settles P s s₂ := by
  obtain ⟨es, hes, hrun⟩ := h
  obtain ⟨es₁, hes₁, hrun₁⟩ := h₁
  refine ⟨es ++ es₁, ?_, by rw [Machine.run_append_of _ hrun, hrun₁]⟩
  intro e he
  rcases List.mem_append.mp he with he | he
  · exact hes e he
  · exact hes₁ e he

theorem settles_step {e : Event ω} (he : e.isCall = false) (hs : P.step s e = some s₂) : Settles P s s₂ := by
  refine ⟨[e], by simpa using he, ?_⟩
  rw [Machine.run_cons_of P.machine hs, Machine.run_nil]

theorem Settles.calls (h : Settles P s s₂) : s₂.calls = s.calls := by
  obtain ⟨es, hes, hrun⟩ := h
  apply Machine.invariant_events (M := P.machine) (I := fun u => u.calls = s.calls) ?_ rfl hes hrun
  intro u e v hu he hs
  rw [← hu]
  rcases step_cases hs with ⟨t, op, last, rfl, -, -, rfl⟩ | ⟨t, n, op, -, -, -, rfl⟩ |
    ⟨t, n, op, write, next, -, -, rfl⟩ | ⟨t, n, op, r, -, -, rfl⟩ | ⟨t, n, op, r, -, -, rfl⟩
  · cases he
  all_goals rfl

theorem holder_leaves {t n : ℕ} {op : ω} {rest : Script σ ε α} (ht : s.threads t = .holding n op rest) :
    ∃ s₂ r, Settles P s s₂ ∧ s₂.threads t = .leaving n op r ∧ s₂.mutex = none ∧
      ∀ u, u ≠ t → s₂.threads u = s.threads u := by
  induction rest generalizing s with
  | done r =>
    let s' : World σ ε α ω :=
      { s.setThread t (.leaving n op r) with mutex := none, order := s.order ++ [⟨n, op, r⟩] }
    have hstep : Settles P s s' := by
      apply settles_step (e := .unlock t) rfl
      simp only [Protocol.step, ht, s']
    exact ⟨s', r, hstep, by simp [s'], rfl, fun u hu => by simp [s', hu]⟩
  | access write next ih =>
    let s' : World σ ε α ω := { s.setThread t (.holding n op (next s.memory)) with memory := write s.memory }
    have hstep : Settles P s s' := by
      apply settles_step (e := .access t) rfl
      simp only [Protocol.step, ht, s']
    obtain ⟨s₂, r, hsettles, hleft, hmutex, hothers⟩ := ih s.memory (s := s') (by simp [s'])
    refine ⟨s₂, r, hstep.trans hsettles, hleft, hmutex, fun u hu => ?_⟩
    rw [hothers u hu]
    simp [s', hu]

theorem leaving_returns {t n : ℕ} {op : ω} {r : Except ε α} (ht : s.threads t = .leaving n op r) :
    ∃ s₂, Settles P s s₂ ∧ (s₂.threads t).current = none ∧ s₂.mutex = s.mutex ∧
      ∀ u, u ≠ t → s₂.threads u = s.threads u := by
  let s' : World σ ε α ω := { s.setThread t (.outside (some (op, r))) with replies := s.replies ++ [⟨n, op, r⟩] }
  have hstep : Settles P s s' := by
    apply settles_step (e := .reply t) rfl
    simp only [Protocol.step, ht, s']
  exact ⟨s', hstep, by simp [s', Phase.current], rfl, fun u hu => by simp [s', hu]⟩

theorem holder_returns {t n : ℕ} {op : ω} {rest : Script σ ε α} (ht : s.threads t = .holding n op rest) :
    ∃ s₂, Settles P s s₂ ∧ (s₂.threads t).current = none ∧ s₂.mutex = none ∧
      ∀ u, u ≠ t → s₂.threads u = s.threads u := by
  obtain ⟨s₁, r, h₁, hleft, hmutex₁, hothers₁⟩ := holder_leaves (P := P) ht
  obtain ⟨s₂, h₂, hnone, hmutex₂, hothers₂⟩ := leaving_returns (P := P) hleft
  refine ⟨s₂, h₁.trans h₂, hnone, hmutex₂.trans hmutex₁, fun u hu => ?_⟩
  rw [hothers₂ u hu, hothers₁ u hu]

theorem thread_returns (h : Locked P memory s) (hm : s.mutex = none) (t : ℕ) :
    ∃ s₂, Settles P s s₂ ∧ (s₂.threads t).current = none ∧ s₂.mutex = none ∧
      ∀ u, u ≠ t → s₂.threads u = s.threads u := by
  cases ht : s.threads t with
  | outside last => exact ⟨s, settles_refl s, by rw [ht]; rfl, hm, fun _ _ => rfl⟩
  | holding n op rest => cases hm.symm.trans (h.exclusive t n op rest ht)
  | leaving n op r =>
    obtain ⟨s₂, hs, hnone, hmutex, hothers⟩ := leaving_returns (P := P) ht
    exact ⟨s₂, hs, hnone, hmutex.trans hm, hothers⟩
  | blocked n op =>
    let s' : World σ ε α ω := { s.setThread t (.holding n op (P.script op)) with mutex := some t }
    have hlock : Settles P s s' := by
      apply settles_step (e := .lock t) rfl
      simp only [Protocol.step, ht, hm, s']
    have hheld : s'.threads t = .holding n op (P.script op) := by simp [s']
    obtain ⟨s₂, hs, hnone, hmutex, hothers⟩ := holder_returns (P := P) hheld
    refine ⟨s₂, hlock.trans hs, hnone, hmutex, fun u hu => ?_⟩
    rw [hothers u hu]
    simp [s', hu]

theorem Settles.locked (h : Settles P s s₂) (hl : Locked P memory s) : Locked P memory s₂ := by
  obtain ⟨es, -, hrun⟩ := h
  exact locked_run hl hrun

theorem Settles.booked (h : Settles P s s₂) (hb : Booked s) : Booked s₂ := by
  obtain ⟨es, -, hrun⟩ := h
  exact booked_run hb hrun

theorem mutex_released (h : Locked P memory s) : ∃ s₂, Settles P s s₂ ∧ s₂.mutex = none ∧
    ∀ t, (s.threads t).current = none → (s₂.threads t).current = none := by
  cases hm : s.mutex with
  | none => exact ⟨s, settles_refl s, hm, fun _ => id⟩
  | some t =>
    obtain ⟨n, op, rest, ht, -⟩ := h.holder t hm
    obtain ⟨s₂, hs, hnone, hmutex, hothers⟩ := holder_returns (P := P) ht
    refine ⟨s₂, hs, hmutex, fun u hu => ?_⟩
    by_cases hut : u = t
    · rw [hut, hnone]
    · rw [hothers u hut, hu]

theorem threads_return (h : Locked P memory s) (hm : s.mutex = none) (m : ℕ) : ∃ s₂, Settles P s s₂ ∧
    s₂.mutex = none ∧ (∀ t, t < m → (s₂.threads t).current = none) ∧
      ∀ t, (s.threads t).current = none → (s₂.threads t).current = none := by
  induction m with
  | zero => exact ⟨s, settles_refl s, hm, by simp, fun _ => id⟩
  | succ m ih =>
    obtain ⟨s₁, h₁, hm₁, hlow, hkept⟩ := ih
    obtain ⟨s₂, h₂, hnone, hm₂, hothers⟩ := thread_returns (h₁.locked h) hm₁ m
    have hquiet : ∀ t, (s₁.threads t).current = none → (s₂.threads t).current = none := by
      intro t ht
      by_cases htm : t = m
      · rw [htm, hnone]
      · rw [hothers t htm, ht]
    refine ⟨s₂, h₁.trans h₂, hm₂, fun t ht => ?_, fun t ht => hquiet t (hkept t ht)⟩
    by_cases htm : t = m
    · rw [htm, hnone]
    · exact hquiet t (hlow t (by omega))

theorem calls_return {es : List (Event ω)} (hrun : P.machine.run { memory := memory } es = some s) :
    ∃ s₂, Settles P s s₂ ∧ ∀ n, n < s.calls.length → ∃ e ∈ s₂.replies, e.number = n := by
  have hl := locked_run (locked_start P memory) hrun
  have hb := booked_run (booked_start memory) hrun
  obtain ⟨s₁, h₁, hm₁, hkept₁⟩ := mutex_released hl
  obtain ⟨m, hm⟩ := hb.bounded
  obtain ⟨s₂, h₂, -, hlow, hkept₂⟩ := threads_return (h₁.locked hl) hm₁ m
  have hs := h₁.trans h₂
  refine ⟨s₂, hs, fun n hn => ?_⟩
  rcases (hs.booked hb).covered n (by rw [hs.calls]; exact hn) with hr | ⟨t, op, ht⟩
  · exact hr
  · have hnone : (s₂.threads t).current = none := by
      by_cases htm : t < m
      · exact hlow t htm
      · exact hkept₂ t (hkept₁ t (hm t (by omega)))
    cases hnone.symm.trans ht

end SocksProxy.LockedCalls
