import SocksProxy.AtomicOperations
import SocksProxy.ConcurrentService

namespace SocksProxy.ConcurrentService

open StatefulPrograms AccessScripts LockedCalls TransitionSystems KeyedTables AtomicOperations

abbrev ServiceWorld := World Service DatabaseException (Option Int64) Request

abbrev Answer := Entry DatabaseException (Option Int64) Request

def isGetInstance : Request → Bool
  | (.getInstance, _) => true
  | _ => false

variable {store : Service} {s s₁ s₂ : ServiceWorld}

theorem getInstance_again (h : store.hasInstance = true) {r : Request} (hr : isGetInstance r = true) :
    (serve r).run store = (.ok none, store) := by
  rcases r with ⟨_ | session | ⟨session_id, bytes, dest⟩ | session_id, q⟩
  · exact if_pos h
  all_goals cases hr

theorem hasInstance_serve (h : store.hasInstance = true) (r : Request) :
    ((serve r).run store).2.hasInstance = true := by
  rcases r with ⟨_ | session | ⟨session_id, bytes, dest⟩ | session_id, q⟩
  · rw [getInstance_again h rfl]
    exact h
  · simp only [serve]
    rcases (DatabaseService.create q session).run store.table with ⟨err | id, table⟩ <;> exact h
  · simp only [serve]
    rcases (DatabaseService.update q session_id bytes dest).run store.table with ⟨err | _, table⟩ <;> exact h
  · simp only [serve]
    rcases (DatabaseService.close q session_id).run store.table with ⟨err | _, table⟩ <;> exact h

theorem construct_failsOr (q : Sqlite) (t : SessionTable) :
    Proc.FailsOr (DatabaseService.openConnection q 0 >>= fun _ => DatabaseService.createTable (behindOpen q)) t ()
      (t.alter (fun _ => true) DatabaseService.set_all_inactive) := by
  apply (openConnection_failsOr q t 0).bind
  apply (openConnection_failsOr (behindOpen q) t 0).bind
  split_ifs
  · exact .inl (Proc.throws_throw _ t)
  · exact stepUpdate_failsOr (behindOpen q) t 1 _ _ _

def constructed (store : Service) : Service :=
  ⟨true, store.table.alter (fun _ => true) DatabaseService.set_all_inactive⟩

theorem getInstance_first (h : store.hasInstance = false) {r : Request} (hr : isGetInstance r = true) :
    (serve r).run store = (.ok none, constructed store) ∨ ∃ err, (serve r).run store = (.error err, store) := by
  rcases r with ⟨_ | session | ⟨session_id, bytes, dest⟩ | session_id, q⟩
  · rcases construct_failsOr q store.table with ⟨err, hrun⟩ | hrun
    · refine .inr ⟨err, ?_⟩
      simp only [serve, h, hrun]
      rfl
    · refine .inl ?_
      simp only [serve, h, hrun]
      rfl
  all_goals cases hr

theorem hasInstance_of_ok {r : Request} (hr : isGetInstance r = true) {a : Option Int64}
    (ha : ((serve r).run store).1 = .ok a) : ((serve r).run store).2.hasInstance = true := by
  cases h : store.hasInstance with
  | true => exact hasInstance_serve h r
  | false =>
    rcases getInstance_first h hr with hrun | ⟨err, hrun⟩
    · rw [hrun]
      rfl
    · rw [hrun] at ha
      cases ha

theorem hasInstance_concat {ops : List Request} (h : (service.after store ops).hasInstance = true)
    (r : Request) : (service.after store (ops ++ [r])).hasInstance = true := by
  rw [after_concat, spec_service]
  exact hasInstance_serve h r

structure Founded (store : Service) (s : ServiceWorld) : Prop where
  returned : ∀ t r a, s.threads t = .outside (some (r, .ok a)) → isGetInstance r = true →
    (service.after store s.ops).hasInstance = true
  leaving : ∀ t n r a, s.threads t = .leaving n r (.ok a) → isGetInstance r = true →
    (service.after store s.ops).hasInstance = true
  pending : ∀ t n r, (s.threads t).pending = some (n, r) → isGetInstance r = false →
    (service.after store s.ops).hasInstance = true
  ordered : ∀ xs e ys, s.order = xs ++ e :: ys → isGetInstance e.op = false →
    (service.after store (xs.map Entry.op)).hasInstance = true

theorem ready_method {last : Option (Request × Except DatabaseException (Option Int64))} {r : Request}
    (h : ready last r = true) (hr : isGetInstance r = false) :
    ∃ q a, last = some ((.getInstance, q), .ok a) := by
  rcases r with ⟨_ | session | ⟨session_id, bytes, dest⟩ | session_id, q⟩
  · cases hr
  all_goals
    simp only [ready] at h
    split at h
    · exact ⟨_, _, rfl⟩
    · cases h

theorem Founded.move (h : Founded store s) {t : ℕ} {p : Phase Service DatabaseException (Option Int64) Request}
    (hout : ∀ r a, p = .outside (some (r, .ok a)) → isGetInstance r = true →
      (service.after store s.ops).hasInstance = true)
    (hleave : ∀ n r a, p ≠ .leaving n r a)
    (hp : ∀ n r, p.pending = some (n, r) → isGetInstance r = false →
      (service.after store s.ops).hasInstance = true)
    (memory : Service) (mutex : Option ℕ) (calls : List Request) (replies : List Answer) :
    Founded store { s.setThread t p with memory := memory, mutex := mutex, calls := calls, replies := replies } := by
  refine ⟨fun u r a hu hr => ?_, fun u n r a hu hr => ?_, fun u n r hu hr => ?_, h.ordered⟩
  all_goals
    simp only [threads_setThread] at hu
    split_ifs at hu
  · exact hout r a hu hr
  · exact h.returned u r a hu hr
  · exact absurd hu (hleave n r _)
  · exact h.leaving u n r a hu hr
  · exact hp n r hu hr
  · exact h.pending u n r hu hr

theorem Founded.unlock (hl : Locked service store s) (h : Founded store s) {t n : ℕ} {r : Request}
    {a : Except DatabaseException (Option Int64)} (ht : s.threads t = .holding n r (.done a)) :
    Founded store { s.setThread t (.leaving n r a) with mutex := none, order := s.order ++ [⟨n, r, a⟩] } := by
  obtain ⟨n', r', rest, hrest, hrun⟩ := hl.holder t (hl.exclusive t n r _ ht)
  cases ht.symm.trans hrest
  have hresult : ((serve r).run (service.after store s.ops)).1 = a := by
    rw [← spec_service, ← hrun, Script.exec_done]
  have hops : ∀ xs : List Answer, (xs ++ [(⟨n, r, a⟩ : Answer)]).map Entry.op = xs.map Entry.op ++ [r] := by
    simp
  refine ⟨fun u r' a' hu hr => ?_, fun u n' r' a' hu hr => ?_, fun u n' r' hu hr => ?_, fun xs e ys he hr => ?_⟩
  · simp only [threads_setThread] at hu
    split_ifs at hu
    rw [World.ops, hops]
    exact hasInstance_concat (h.returned u r' a' hu hr) r
  · rw [World.ops, hops]
    simp only [threads_setThread] at hu
    split_ifs at hu
    · cases hu
      rw [after_concat, spec_service]
      exact hasInstance_of_ok hr hresult
    · exact hasInstance_concat (h.leaving u n' r' a' hu hr) r
  · rw [World.ops, hops]
    simp only [threads_setThread] at hu
    split_ifs at hu
    · cases hu
    · exact hasInstance_concat (h.pending u n' r' hu hr) r
  · rcases List.eq_nil_or_concat ys with rfl | ⟨zs, z, rfl⟩
    · obtain ⟨hxs, hlast⟩ := List.append_inj' he rfl
      cases hxs
      cases hlast
      exact h.pending t n r (by rw [ht]; rfl) hr
    · have hsplit : s.order ++ [⟨n, r, a⟩] = (xs ++ e :: zs) ++ [z] := by simpa using he
      obtain ⟨hold, -⟩ := List.append_inj' hsplit rfl
      exact h.ordered xs e zs hold hr

theorem founded_of_step (hl : Locked service store s) (h : Founded store s) {e : Event Request}
    (hs : service.step s e = some s₂) : Founded store s₂ := by
  rcases step_cases hs with ⟨t, r, last, -, hp, hready, rfl⟩ | ⟨t, n, r, -, hp, hm, rfl⟩ |
    ⟨t, n, r, write, next, -, hp, rfl⟩ | ⟨t, n, r, a, -, hp, rfl⟩ | ⟨t, n, r, a, -, hp, rfl⟩
  · apply h.move (by simp) (by simp)
    intro n r' hr' hr
    cases hr'
    obtain ⟨q, a, rfl⟩ := ready_method hready hr
    exact h.returned t _ a hp rfl
  · apply h.move (by simp) (by simp)
    intro n' r' hr'
    exact h.pending t n' r' (by rw [hp]; exact hr')
  · apply h.move (by simp) (by simp)
    intro n' r' hr'
    exact h.pending t n' r' (by rw [hp]; exact hr')
  · exact h.unlock hl hp
  · apply h.move ?_ (by simp) (by simp [Phase.pending])
    intro r' a' hr' hr
    cases hr'
    exact h.leaving t n r a' hp hr

theorem founded_run {es : List (Event Request)}
    (hrun : service.machine.run (launched store) es = some s) : Founded store s := by
  have hboth : Locked service store s ∧ Founded store s := by
    apply Machine.invariant (M := service.machine) (I := fun u => Locked service store u ∧ Founded store u) ?_ ?_ hrun
    · exact fun u e v h hs => ⟨locked_of_step h.1 hs, founded_of_step h.1 h.2 hs⟩
    · refine ⟨locked_start service store, ?_, ?_, ?_, ?_⟩
      · intro t r a ht
        cases ht
      · intro t n r a ht
        cases ht
      · intro t n r ht
        cases ht
      · intro xs e ys he
        simp at he
  exact hboth.2

theorem order_splits (entries : List Answer) (hno : store.hasInstance = false)
    (ha : service.Answers store entries)
    (hfounded : ∀ xs e ys, entries = xs ++ e :: ys → isGetInstance e.op = false →
      (service.after store (xs.map Entry.op)).hasInstance = true) :
    ∃ failed rest, entries = failed ++ rest ∧
      (∀ e ∈ failed, isGetInstance e.op = true ∧ ∃ err, e.result = .error err) ∧
      service.after store (failed.map Entry.op) = store ∧
      ∀ first later, rest = first :: later → isGetInstance first.op = true ∧ first.result = .ok none ∧
        service.after store ((failed ++ [first]).map Entry.op) = constructed store := by
  induction entries with
  | nil => exact ⟨[], [], rfl, by simp, rfl, by simp⟩
  | cons e entries ih =>
    have hget : isGetInstance e.op = true := by
      by_contra hmethod
      have hi := hfounded [] e entries rfl (Bool.eq_false_iff.mpr hmethod)
      cases hno.symm.trans hi
    have hresult : ((serve e.op).run store).1 = e.result := by
      rw [← spec_service]
      exact ha.1
    have hafter : ∀ ops, service.after store (e.op :: ops) = service.after ((serve e.op).run store).2 ops := by
      intro ops
      rw [← spec_service]
      rfl
    rcases getInstance_first hno hget with hrun | ⟨err, hrun⟩
    · refine ⟨[], e :: entries, rfl, by simp, rfl, ?_⟩
      rintro first later ⟨rfl, rfl⟩
      rw [hrun] at hresult
      refine ⟨hget, hresult.symm, (hafter []).trans ?_⟩
      rw [hrun]
      rfl
    · -- a failed call leaves the store as the next one finds it
      rw [hrun] at hresult hafter
      have ha' : service.Answers store entries := by
        have htail := ha.2
        rw [spec_service, hrun] at htail
        exact htail
      obtain ⟨failed, rest, hsplit, hfailed, hkept, hfirst⟩ := ih ha' (by
        intro xs d ys hxs hd
        rw [← hafter]
        exact hfounded (e :: xs) d ys (by rw [hxs, List.cons_append]) hd)
      refine ⟨e :: failed, rest, by rw [hsplit, List.cons_append], ?_, (hafter _).trans hkept, ?_⟩
      · intro d hd
        rcases List.mem_cons.mp hd with rfl | hd
        · exact ⟨hget, err, hresult.symm⟩
        · exact hfailed d hd
      · intro first later hrest
        obtain ⟨hg, hok, hstarted⟩ := hfirst first later hrest
        exact ⟨hg, hok, (hafter _).trans hstarted⟩

theorem hasInstance_after (h : store.hasInstance = true) (ops : List Request) :
    (service.after store ops).hasInstance = true := by
  induction ops using List.reverseRecOn with
  | nil => exact h
  | append_singleton ops r ih => exact hasInstance_concat ih r

/-- Only failed starts, which change nothing, stand before the call that has constructed the instance
and set all records inactive, and no later `getInstance` touches the table. -/
def StartsOnce (store : Service) (s : ServiceWorld) : Prop :=
  ∃ failed rest, s.order = failed ++ rest ∧
    (∀ e ∈ failed, isGetInstance e.op = true ∧ ∃ err, e.result = .error err) ∧
    service.after store (failed.map Entry.op) = store ∧
    ∀ first later, rest = first :: later → isGetInstance first.op = true ∧ first.result = .ok none ∧
      service.after store ((failed ++ [first]).map Entry.op) = constructed store ∧
      ∀ xs e ys, later = xs ++ e :: ys → isGetInstance e.op = true →
        e.result = .ok none ∧ (serve e.op).run (service.after store ((failed ++ first :: xs).map Entry.op)) =
          (.ok none, service.after store ((failed ++ first :: xs).map Entry.op))

theorem starts_once {es : List (Event Request)} (hno : store.hasInstance = false)
    (hrun : service.machine.run (launched store) es = some s) : StartsOnce store s := by
  have hl := locked_run (locked_start service store) hrun
  have hf := founded_run hrun
  obtain ⟨failed, rest, hsplit, hfailed, hkept, hfirst⟩ := order_splits s.order hno hl.answers hf.ordered
  refine ⟨failed, rest, hsplit, hfailed, hkept, ?_⟩
  intro first later hrest
  obtain ⟨hg, hok, hstarted⟩ := hfirst first later hrest
  refine ⟨hg, hok, hstarted, ?_⟩
  intro xs e ys hlater he
  have hfound : (service.after store ((failed ++ first :: xs).map Entry.op)).hasInstance = true := by
    have hops : (failed ++ first :: xs).map Entry.op = (failed ++ [first]).map Entry.op ++ xs.map Entry.op := by simp
    rw [hops, after_append, hstarted]
    exact hasInstance_after rfl _
  have hagain := getInstance_again hfound he
  have horder : s.order = (failed ++ first :: xs) ++ e :: ys := by
    rw [hsplit, hrest, hlater, List.append_assoc, List.cons_append]
  have hanswers := hl.answers
  rw [horder, answers_append, Protocol.Answers, spec_service, hagain] at hanswers
  exact ⟨hanswers.2.1.symm, hagain⟩

theorem starts_once_racing : ∃ s, service.machine.run (launched ⟨false, .empty⟩) opening = some s ∧
    StartsOnce ⟨false, .empty⟩ s := by
  have hall : (service.machine.run (launched ⟨false, .empty⟩) opening).isSome := by decide
  obtain ⟨s, hs⟩ := Option.isSome_iff_exists.mp hall
  exact ⟨s, hs, starts_once rfl hs⟩

theorem calls_end {es : List (Event Request)} (hrun : service.machine.run (launched store) es = some s) :
    ∃ s₂, Settles service s s₂ ∧ ∀ n, n < s.calls.length → ∃ e ∈ s₂.replies, e.number = n :=
  calls_return hrun

theorem calls_end_racing : ∃ s s₂, service.machine.run (launched ⟨false, .empty⟩) (opening ++ racing) = some s ∧
    Settles service s s₂ ∧ ∀ n, n < s.calls.length → ∃ e ∈ s₂.replies, e.number = n := by
  have hall : (service.machine.run (launched ⟨false, .empty⟩) (opening ++ racing)).isSome := by decide
  obtain ⟨s, hs⟩ := Option.isSome_iff_exists.mp hall
  obtain ⟨s₂, hs₂⟩ := calls_end hs
  exact ⟨s, s₂, hs, hs₂⟩

end SocksProxy.ConcurrentService
