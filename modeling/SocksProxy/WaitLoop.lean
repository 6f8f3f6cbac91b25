import SocksProxy.ServerInvariants

namespace SocksProxy.WaitLoop

open TransitionSystems RelaySession TcpServer ServerFrames ServerInvariants

def CanLeave (s : TcpServer) : Prop := ∃ es t, machine.run s es = some t ∧ t.io = .idle

def Unstarted (s : TcpServer) (f : ℕ) : Prop :=
  ∃ k c, k ≠ f ∧ s.connections[k]? = some c ∧ c.job.early = true

theorem CanLeave.of_step {s t : TcpServer} {q : Sqlite} {e : ServerEvent} (hs : s.step q e = some t)
    (h : CanLeave t) : CanLeave s := by
  obtain ⟨es, u, hrun, hio⟩ := h
  have hstep : machine.step s (e, q) = some t := hs
  exact ⟨(e, q) :: es, u, by rw [Machine.run_cons_of machine hstep, hrun], hio⟩

theorem converted_inj {a b : Int32} (h : a.toInt64.toUInt64 = b.toInt64.toUInt64) : a = b := by
  have h64 : a.toInt64 = b.toInt64 := by
    rw [← Int64.toInt64_toUInt64 a.toInt64, h, Int64.toInt64_toUInt64]
  rw [← Int32.toInt_inj, ← Int32.toInt_toInt64, h64, Int32.toInt_toInt64]

theorem decrement_ne (a : Int32) : a - 1 ≠ a := by
  intro h
  grind

theorem limitReached_eq {s : TcpServer} (h : s.limitReached = true) :
    s.sessions.toInt64.toUInt64 = s.settings.maxSessions := by
  simp only [limitReached, Bool.and_eq_true, beq_iff_eq] at h
  exact h.2

theorem limitReached_congr {s t : TcpServer} (hm : t.settings = s.settings) (hs : t.sessions = s.sessions) :
    t.limitReached = s.limitReached := by
  rw [limitReached, limitReached, hm, hs]

theorem limitReached_decrement {s t : TcpServer} (h : s.limitReached = true)
    (hm : t.settings = s.settings) (hs : t.sessions = s.sessions - 1) : t.limitReached = false := by
  cases ht : t.limitReached with
  | false => rfl
  | true =>
    have heq := limitReached_eq ht
    rw [hm, hs, ← limitReached_eq h] at heq
    exact absurd (converted_inj heq) (decrement_ne s.sessions)

theorem release_same {s : TcpServer} {k : ℕ} {c : Connection} (q : Sqlite)
    (hk : s.connections[k]? = some c) (h : s.referenced k c = true ∨ c.relay.isClosed = true) :
    s.release q k = s := by
  rw [release_of q hk]
  split_ifs with href
  · rfl
  · rcases h with h | h
    · exact absurd h href
    · exact closeConnection_closed q hk h

theorem referenced_waiting {s : TcpServer} {f : ℕ} (h : s.io = .waiting f) (c : Connection) :
    s.referenced f c = true := by
  rw [referenced, h]
  simp

theorem release_closes {s : TcpServer} {k f : ℕ} {c : Connection} (q : Sqlite) (h : Inv s)
    (hw : s.io = .waiting f) (hkf : k ≠ f) (hk : s.connections[k]? = some c) (hearly : c.job.early = true) :
    ((s.setConnection k { c with job := .done }).release q k).sessions = s.sessions - 1 ∧
    ((s.setConnection k { c with job := .done }).release q k).settings = s.settings ∧
    ((s.setConnection k { c with job := .done }).release q k).io = s.io := by
  obtain ⟨hclosed, hreads⟩ := (h.each k c hk).early hearly
  have hk' := setConnection_same hk { c with job := .done }
  have hclient : c.relay.client.read = .idle := hreads .client
  have hserver : c.relay.server.read = .idle := hreads .server
  have hacc := h.unaccepting hw
  have href : (s.setConnection k { c with job := .done }).referenced k { c with job := .done } = false := by
    simp [referenced, Connection.held, hw, hclient, hserver, hacc, hkf.symm, Job.early, Job.running]
  rw [release_of q hk', href, if_neg (by simp), closeConnection_open q hk' hclosed]
  exact ⟨rfl, rfl, rfl⟩

theorem canLeave_of_spin {s : TcpServer} {f : ℕ} (q : Sqlite) (hw : s.io = .waiting f)
    (hl : s.limitReached = false) : CanLeave s := by
  have hstep : s.step q .spin = some (s.awaitClient.release q f) := by
    simp only [step, hw, hl]
    rfl
  apply CanLeave.of_step hstep
  refine ⟨[], _, rfl, ?_⟩
  cases hk : s.awaitClient.connections[f]? with
  | none =>
    rw [release, hk]
    rfl
  | some c =>
    rw [release_of q hk]
    split_ifs
    · rfl
    · cases hc : c.relay.isClosed with
      | true =>
        rw [closeConnection_closed q hk hc]
        rfl
      | false =>
        rw [closeConnection_open q hk hc]
        rfl

theorem canLeave_of_stop {s : TcpServer} {k f : ℕ} {c : Connection} (q : Sqlite) (h : Inv s)
    (hw : s.io = .waiting f) (hl : s.limitReached = true) (hkf : k ≠ f)
    (hk : s.connections[k]? = some c) (hj : c.job = .negotiating ∨ c.job = .initialised) : CanLeave s := by
  have hearly : c.job.early = true := by
    rcases hj with hj | hj
    · rw [hj]
      rfl
    · rw [hj]
      rfl
  have hstep : s.step q (.stop k) = some ((s.setConnection k { c with job := .done }).release q k) := by
    rw [step, upon_eq_some]
    exact ⟨c, hk, by simpa using hj, rfl⟩
  obtain ⟨hsessions, hsettings, hio⟩ := release_closes q h hw hkf hk hearly
  exact (canLeave_of_spin q (hio.trans hw) (limitReached_decrement hl hsettings hsessions)).of_step hstep

theorem canLeave_of_begin {s : TcpServer} {k f : ℕ} {c : Connection} (q : Sqlite) (h : Inv s)
    (hw : s.io = .waiting f) (hl : s.limitReached = true) (hkf : k ≠ f)
    (hk : s.connections[k]? = some c) (hj : c.job = .posted) (hfree : s.running < s.settings.poolThreads) :
    CanLeave s := by
  have hstep : s.step q (.begin k) = some (s.setConnection k { c with job := .negotiating }) := by
    rw [step, upon_eq_some]
    exact ⟨c, hk, by simp [hj, hfree], rfl⟩
  apply CanLeave.of_step hstep
  exact canLeave_of_stop q (inv_step h hstep) hw (by rw [← hl]; exact limitReached_congr rfl rfl) hkf
    (setConnection_same hk _) (.inl rfl)

theorem canLeave_of_end {s t : TcpServer} {j k f : ℕ} {b c x : Connection} {q : Sqlite} {e : ServerEvent}
    (h : Inv s) (hw : s.io = .waiting f) (hl : s.limitReached = true) (hkf : k ≠ f)
    (hk : s.connections[k]? = some c) (hj : c.job = .posted) (hb : s.connections[j]? = some b)
    (hrun : b.job.running = true) (hdone : x.job = .done) (hstep : s.step q e = some t)
    (ht : t = s.setConnection j x) : CanLeave s := by
  apply CanLeave.of_step hstep
  have hjk : k ≠ j := by
    rintro rfl
    rw [hk, Option.some.injEq] at hb
    rw [← hb, hj] at hrun
    cases hrun
  have hinv := inv_step h hstep
  subst ht
  have hrunning := running_setConnection hb x
  rw [if_pos hrun, hdone, if_neg (by decide)] at hrunning
  have hthreads := h.threads
  apply canLeave_of_begin q hinv hw (by rw [← hl]; exact limitReached_congr rfl rfl) hkf (k := k) (c := c)
  · rw [setConnection_other hb x hjk, hk]
  · exact hj
  · rw [setConnection_settings]
    omega

theorem release_reading {s : TcpServer} {k : ℕ} {c : Connection} (q : Sqlite) (h : Inv s)
    (hk : s.connections[k]? = some c) (hj : c.job = .reading) :
    (s.setConnection k { c with relay := c.relay.serverRead, job := .done }).release q k =
      s.setConnection k { c with relay := c.relay.serverRead, job := .done } := by
  apply release_same q (setConnection_same hk _)
  rcases (h.each k c hk).reading hj with hclosed | hread
  · exact .inr ((kept_startRead c.relay .server).isClosed.trans hclosed)
  · have hclient : c.relay.serverRead.client.read = c.relay.client.read :=
      congrArg Peer.read (startRead_server c.relay)
    left
    simp [referenced, Connection.held, hclient, hread]

theorem canLeave_of_unstarted {s : TcpServer} {f : ℕ} (q : Sqlite) (h : Inv s) (hw : s.io = .waiting f)
    (hl : s.limitReached = true) (hpool : 0 < s.settings.poolThreads) (hu : Unstarted s f) : CanLeave s := by
  obtain ⟨k, c, hkf, hk, hearly⟩ := hu
  by_cases hj : c.job = .posted
  · by_cases hfree : s.running < s.settings.poolThreads
    · exact canLeave_of_begin q h hw hl hkf hk hj hfree
    · -- all threads are busy: one of them is made to end its job first
      have hbusy : 0 < s.running := by omega
      obtain ⟨b, hmem, hrun⟩ := List.countP_pos_iff.mp hbusy
      obtain ⟨j, hb⟩ := List.getElem?_of_mem hmem
      by_cases hreading : b.job = .reading
      · have hstep : s.step q (.serverRead j) = some ((s.setConnection j
            { b with relay := b.relay.serverRead, job := .done }).release q j) := by
          rw [step, upon_eq_some]
          exact ⟨b, hb, by simp [hreading], rfl⟩
        exact canLeave_of_end h hw hl hkf hk hj hb hrun
          (x := { b with relay := b.relay.serverRead, job := .done }) rfl hstep (release_reading q h hb hreading)
      · have hj' : b.job = .negotiating ∨ b.job = .initialised := by
          cases hbj : b.job <;> simp_all [Job.running]
        by_cases hjf : j = f
        · subst hjf
          have hstep : s.step q (.stop j) = some ((s.setConnection j { b with job := .done }).release q j) := by
            rw [step, upon_eq_some]
            exact ⟨b, hb, by simpa using hj', rfl⟩
          apply canLeave_of_end h hw hl hkf hk hj hb hrun (x := { b with job := .done }) rfl hstep
          apply release_same q (setConnection_same hb _)
          exact .inl (referenced_waiting hw _)
        · exact canLeave_of_stop q h hw hl hjf hb hj'
  · have hj' : c.job = .negotiating ∨ c.job = .initialised := by
      cases hcj : c.job <;> simp_all [Job.early]
    exact canLeave_of_stop q h hw hl hkf hk hj'

structure Stuck (f : ℕ) (s : TcpServer) : Prop where
  inv : Inv s
  io : s.io = .waiting f
  limit : s.limitReached = true
  unstarted : ¬(0 < s.settings.poolThreads ∧ Unstarted s f)

theorem Stuck.set {f k : ℕ} {s t : TcpServer} {c x : Connection} (h : Stuck f s) (hinv : Inv t)
    (hk : s.connections[k]? = some c) (ht : t.connections = (s.setConnection k x).connections)
    (hm : t.settings = s.settings) (hs : t.sessions = s.sessions) (hio : t.io = s.io)
    (hj : k = f ∨ (x.job.early = true → c.job.early = true)) : Stuck f t where
  inv := hinv
  io := hio.trans h.io
  limit := by
    rw [limitReached_congr hm hs]
    exact h.limit
  unstarted := by
    rintro ⟨hpool, j, d, hjf, hd, hearly⟩
    rw [hm] at hpool
    rw [ht] at hd
    apply h.unstarted
    rcases setConnection_cases hk hd with ⟨rfl, rfl⟩ | ⟨-, hd⟩
    · rcases hj with hj | hj
      · exact absurd hj hjf
      · exact ⟨hpool, j, c, hjf, hk, hj hearly⟩
    · exact ⟨hpool, j, d, hjf, hd, hearly⟩

theorem Stuck.held {f k : ℕ} {s : TcpServer} {c : Connection} (h : Stuck f s)
    (hk : s.connections[k]? = some c) (hearly : c.job.early = true)
    (hpool : c.job.running = true ∨ s.running < s.settings.poolThreads) : k = f := by
  by_contra hkf
  apply h.unstarted
  refine ⟨?_, k, c, hkf, hk, hearly⟩
  rcases hpool with hrun | hfree
  · have hpos : 0 < s.running := List.countP_pos_iff.mpr ⟨c, List.mem_of_getElem? hk, hrun⟩
    exact Nat.lt_of_lt_of_le hpos h.inv.threads
  · omega

theorem stuck_step {f : ℕ} {s t : TcpServer} {q : Sqlite} {e : ServerEvent} (h : Stuck f s)
    (ht : s.step q e = some t) : Stuck f t := by
  have hinv := inv_step h.inv ht
  cases e with
  | accept error =>
    obtain ⟨k, c, hidle, -⟩ := step_accept ht
    rw [h.io] at hidle
    cases hidle
  | spin =>
    obtain ⟨k, -, hl, -⟩ := step_spin ht
    rw [h.limit] at hl
    cases hl
  | begin k =>
    obtain ⟨c, hk, hp, rfl⟩ := upon_eq_some.mp ht
    simp only [Bool.and_eq_true, beq_iff_eq, decide_eq_true_eq] at hp
    exact h.set hinv hk rfl rfl rfl rfl (.inl (h.held hk (by rw [hp.1]; rfl) (.inr hp.2)))
  | createProxy k =>
    obtain ⟨c, hk, hp, rfl⟩ := upon_eq_some.mp ht
    exact h.set hinv hk rfl rfl rfl rfl (.inr id)
  | init k record =>
    obtain ⟨c, hk, hp, rfl⟩ := upon_eq_some.mp ht
    simp only [Bool.and_eq_true, beq_iff_eq] at hp
    have hkf := h.held hk (by rw [hp.1]; rfl) (.inl (by rw [hp.1]; rfl))
    revert hinv
    rw [initialise]
    split
    · intro hinv
      exact h.set hinv hk rfl rfl rfl rfl (.inl hkf)
    · intro hinv
      exact h.set hinv hk rfl rfl rfl rfl (.inl hkf)
  | clientRead k =>
    obtain ⟨c, hk, hp, rfl⟩ := upon_eq_some.mp ht
    exact h.set hinv hk rfl rfl rfl rfl (.inr fun he => by cases he)
  | serverRead k =>
    obtain ⟨c, hk, hp, rfl⟩ := upon_eq_some.mp ht
    simp only [beq_iff_eq] at hp
    rw [release_reading q h.inv hk hp] at hinv ⊢
    exact h.set hinv hk rfl rfl rfl rfl (.inr fun he => by cases he)
  | stop k =>
    obtain ⟨c, hk, hp, rfl⟩ := upon_eq_some.mp ht
    simp only [Bool.or_eq_true, beq_iff_eq] at hp
    have hkf : k = f := by
      rcases hp with hp | hp
      · exact h.held hk (by rw [hp]; rfl) (.inl (by rw [hp]; rfl))
      · exact h.held hk (by rw [hp]; rfl) (.inl (by rw [hp]; rfl))
    subst hkf
    have hsame : (s.setConnection k { c with job := .done }).release q k =
        s.setConnection k { c with job := .done } := by
      apply release_same q (setConnection_same hk _)
      exact .inl (referenced_waiting h.io _)
    rw [hsame] at hinv ⊢
    exact h.set hinv hk rfl rfl rfl rfl (.inl rfl)
  | socket k e =>
    obtain ⟨c, r, hk, -, rfl⟩ := step_socket ht
    exact h.set hinv hk rfl rfl rfl rfl (.inr id)
  | dispatch k d o =>
    have hidle := (step_dispatch ht).1
    rw [h.io] at hidle
    cases hidle

theorem not_canLeave {f : ℕ} {s : TcpServer} (h : Stuck f s) : ¬CanLeave s := by
  rintro ⟨es, t, hrun, hidle⟩
  have hstep : ∀ s e t, Stuck f s → machine.step s e = some t → Stuck f t := by
    intro s e t hs ht
    exact stuck_step hs ht
  have hstuck := Machine.invariant hstep h hrun
  rw [hstuck.io] at hidle
  cases hidle

theorem loop_ends_iff {settings : Settings} {table : SessionTable} {issued : List Int64}
    {es : List (ServerEvent × Sqlite)} {s : TcpServer} {f : ℕ}
    (hrun : machine.run (launch settings table issued) es = some s) (hw : s.io = .waiting f)
    (hl : s.limitReached = true) : CanLeave s ↔ 0 < s.settings.poolThreads ∧ Unstarted s f := by
  have hinv := inv_run (inv_launch settings table issued) hrun
  constructor
  · intro hleave
    by_contra hu
    exact not_canLeave ⟨hinv, hw, hl, hu⟩ hleave
  · rintro ⟨hpool, hu⟩
    exact canLeave_of_unstarted .quiet hinv hw hl hpool hu

theorem loop_ends_iff_two : ∃ s, machine.run (launch ⟨2, 4, 8⟩ .empty [])
    [(.accept none, .quiet), (.accept none, .quiet)] = some s ∧ s.limitReached = true ∧ CanLeave s := by
  obtain ⟨s, hrun, hw, hl, hpool, hc⟩ : ∃ s, machine.run (launch ⟨2, 4, 8⟩ .empty [])
      [(.accept none, .quiet), (.accept none, .quiet)] = some s ∧ s.io = .waiting 1 ∧ s.limitReached = true ∧
      0 < s.settings.poolThreads ∧ ∃ c, s.connections[0]? = some c ∧ c.job.early = true :=
    ⟨_, rfl, rfl, by decide, by decide, _, rfl, rfl⟩
  obtain ⟨c, hc, hearly⟩ := hc
  exact ⟨s, hrun, hl, (loop_ends_iff hrun hw hl).mpr ⟨hpool, 0, c, by decide, hc, hearly⟩⟩

theorem single_session_hangs : ∃ s, machine.run (launch ⟨1, 4, 8⟩ .empty []) [(.accept none, .quiet)] = some s ∧
    s.io = .waiting 0 ∧ s.limitReached = true ∧ ¬CanLeave s := by
  obtain ⟨s, hrun, hw, hl, hlen⟩ : ∃ s, machine.run (launch ⟨1, 4, 8⟩ .empty []) [(.accept none, .quiet)] = some s ∧
      s.io = .waiting 0 ∧ s.limitReached = true ∧ s.connections.length = 1 := ⟨_, rfl, rfl, by decide, rfl⟩
  refine ⟨s, hrun, hw, hl, not_canLeave ⟨inv_run (inv_launch _ _ _) hrun, hw, hl, ?_⟩⟩
  rintro ⟨-, k, c, hkf, hk, -⟩
  have hlt := (List.getElem?_eq_some_iff.mp hk).1
  omega

end SocksProxy.WaitLoop
