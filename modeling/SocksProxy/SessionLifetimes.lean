import SocksProxy.ServerFrames
import SocksProxy.DatabaseRuns

namespace SocksProxy

open StatefulPrograms TransitionSystems RelaySession

inductive Call
  | create (record : Session) (id : Option Int64)
  | effect (e : Effect)
  deriving DecidableEq

structure Lifetime where
  connection : Connection
  destroyed : Bool := false
  log : List Call := []

inductive LifetimeEvent
  | accept
  | begin
  | createProxy
  | init (record : Session) (q : Sqlite) (table : SessionTable)
  | clientRead
  | serverRead
  | stop
  | socket (e : SocketEvent)
  | dispatch (d : Side) (o : WriteOutcome)
  | destroy

namespace Lifetime

def constructed (bufferSize : ℕ) : Lifetime :=
  let buffer := List.replicate bufferSize 0
  { connection := { relay := { client := { buffer := buffer }, server := { buffer := buffer } } } }

def setConnection (l : Lifetime) (c : Connection) : Lifetime := { l with connection := c }

def handled (l : Lifetime) (x : RelaySession × List Effect) : Lifetime :=
  { l with
    connection := { l.connection with relay := x.1 }
    log := l.log ++ x.2.map .effect }

def upon (l : Lifetime) (p : Connection → Bool) (f : Connection → Lifetime) : Option Lifetime :=
  if !l.destroyed && p l.connection then some (f l.connection) else none

def initialise (q : Sqlite) (table : SessionTable) (record : Session) (l : Lifetime) (c : Connection) : Lifetime :=
  let relay := c.relay.opened .server
  match ((DatabaseService.create q record).run table).1 with
  | .ok id =>
    { l with
      connection := { c with relay := { relay with socks := some id }, job := .initialised, returned := some id }
      log := l.log ++ [.create record (some id)] }
  | .error _ =>
    { l with
      connection := { c with relay := relay, job := .initialised }
      log := l.log ++ [.create record none] }

def step (bufferSize : ℕ) (l : Lifetime) : LifetimeEvent → Option Lifetime
  | .accept => l.upon (fun c => c.job == .absent) fun c =>
    l.setConnection { c with relay := c.relay.opened .client, job := .posted, accepted := true }
  | .begin => l.upon (fun c => c.job == .posted) fun c => l.setConnection { c with job := .negotiating }
  | .createProxy => l.upon (fun c => c.job == .negotiating && c.relay.socks == none) fun c =>
    l.setConnection { c with relay := { c.relay with socks := some 0 } }
  | .init record q table => l.upon (fun c => c.job == .negotiating && c.relay.socks == some 0) fun c =>
    l.initialise q table record c
  | .clientRead => l.upon (fun c => c.job == .initialised) fun c =>
    l.setConnection { c with relay := c.relay.clientRead, job := .reading }
  | .serverRead => l.upon (fun c => c.job == .reading) fun c =>
    l.setConnection { c with relay := c.relay.serverRead, job := .done }
  | .stop => l.upon (fun c => c.job == .negotiating || c.job == .initialised) fun c =>
    l.setConnection { c with job := .done }
  | .socket e => (l.connection.relay.socketStep bufferSize e).map fun r =>
    l.setConnection { l.connection with relay := r }
  | .dispatch d o => if l.destroyed then none else (l.connection.relay.dispatch d o).map l.handled
  | .destroy => l.upon (fun c => !c.held) fun c => { l.handled c.relay.close with destroyed := true }

def machine (bufferSize : ℕ) : Machine Lifetime LifetimeEvent := ⟨step bufferSize⟩

end Lifetime

namespace SessionLifetimes

open Lifetime DatabaseRuns ServerFrames

def IsDatabaseCall : Call → Bool
  | .create _ _ | .effect (.update _ _ _) | .effect (.closeRecord _) => true
  | .effect (.wrote _ _ _) | .effect (.writeStat _ _) | .effect .decrement => false

def databaseCalls (log : List Call) : List Call := log.filter IsDatabaseCall

def decrements (log : List Call) : ℕ := log.count (.effect .decrement)

def Closes (a : Call) : Prop := a = .effect .decrement ∨ ∃ id, a = .effect (.closeRecord id)

def Payload (a : Call) : Prop := ∃ d bytes completed, a = .effect (.wrote d bytes completed) ∧ bytes ≠ []

def IsUpdate (id : Int64) (a : Call) : Prop := ∃ bytes dest, a = .effect (.update id bytes dest)

inductive DatabaseCalls : List Call → Prop
  | none : DatabaseCalls []
  | failed (record : Session) : DatabaseCalls [.create record .none]
  | recorded (record : Session) (id : Int64) (updates : List Call) (h : ∀ a ∈ updates, IsUpdate id a) :
    DatabaseCalls (.create record (some id) :: updates ++ [.effect (.closeRecord id)])

def Unrecorded (socks : Option Int64) : Prop := ∀ id, socks = some id → id = 0

inductive Active : Option Int64 → List Call → Prop
  | none {socks : Option Int64} (h : Unrecorded socks) : Active socks []
  | failed {socks : Option Int64} (record : Session) (h : Unrecorded socks) : Active socks [.create record .none]
  | recorded (record : Session) (id : Int64) (updates : List Call) (hid : id ≠ 0)
    (h : ∀ a ∈ updates, IsUpdate id a) : Active (some id) (.create record (some id) :: updates)

structure Open (r : RelaySession) (log : List Call) : Prop where
  calls : Active r.socks (databaseCalls log)
  unclosed : ∀ a ∈ log, ¬Closes a

structure Shut (r : RelaySession) (log : List Call) : Prop where
  sockets : ∀ d, (r.peer d).isOpen = false
  calls : DatabaseCalls (databaseCalls log)
  decremented : decrements log = 1
  quiet : log.Pairwise fun a b => Closes a → ¬Payload b

structure Conduct (r : RelaySession) (log : List Call) : Prop where
  live : r.isClosed = false → Open r log
  closed : r.isClosed = true → Shut r log

@[simp] theorem databaseCalls_append (xs ys : List Call) :
    databaseCalls (xs ++ ys) = databaseCalls xs ++ databaseCalls ys := List.filter_append xs ys

@[simp] theorem decrements_append (xs ys : List Call) :
    decrements (xs ++ ys) = decrements xs + decrements ys := List.count_append

theorem not_closes_create (record : Session) (id : Option Int64) : ¬Closes (.create record id) := by
  rintro (h | ⟨i, h⟩) <;> cases h

theorem not_closes_wrote (d : Side) (bytes : Bytes) (completed : Bool) :
    ¬Closes (.effect (.wrote d bytes completed)) := by
  rintro (h | ⟨i, h⟩) <;> cases h

theorem closeSocks_unrecorded {socks : Option Int64} (h : Unrecorded socks) : closeSocks socks = [] := by
  cases socks with
  | none => rfl
  | some id => rw [closeSocks, if_pos (h id rfl)]

theorem closeSocks_recorded {id : Int64} (h : id ≠ 0) : closeSocks (some id) = [.closeRecord id] := by
  rw [closeSocks, if_neg h]

theorem Active.written {r : RelaySession} {calls : List Call} (h : Active r.socks calls) (n : ℕ) (b : Bool) :
    Active r.socks (calls ++ databaseCalls ((r.writeStat n b).map .effect)) := by
  have hunrecorded : Unrecorded r.socks → databaseCalls ((r.writeStat n b).map .effect) = [] := by
    intro hz
    rw [writeStat]
    cases hs : r.socks with
    | none => rfl
    | some id =>
      simp only [hz id hs]
      rfl
  generalize hsocks : r.socks = socks at h hunrecorded
  cases h with
  | none hz =>
    rw [hunrecorded hz]
    exact .none hz
  | failed record hz =>
    rw [hunrecorded hz]
    exact .failed record hz
  | recorded record id updates hid hupdates =>
    rw [writeStat, hsocks]
    simp only [if_neg hid]
    refine .recorded record id _ hid fun a ha => ?_
    rcases List.mem_append.mp ha with ha | ha
    · exact hupdates a ha
    · exact ⟨_, _, List.mem_singleton.mp ha⟩

theorem writeStat_unclosing {r : RelaySession} {n : ℕ} {b : Bool} {e : Effect} (h : e ∈ r.writeStat n b) :
    ¬Closes (.effect e) := by
  have hcases : e = .writeStat n b ∨ ∃ id dest, e = .update id (.ofNat n) dest := by
    rw [writeStat] at h
    rcases List.mem_cons.mp h with rfl | h
    · exact .inl rfl
    cases hs : r.socks with
    | none =>
      rw [hs] at h
      cases h
    | some id =>
      simp only [hs] at h
      by_cases hid : id = 0
      · rw [if_pos hid] at h
        cases h
      · rw [if_neg hid] at h
        exact .inr ⟨id, _, List.mem_singleton.mp h⟩
  rintro (hd | ⟨i, hi⟩)
  · rcases hcases with rfl | ⟨id, dest, rfl⟩ <;> cases hd
  · rcases hcases with rfl | ⟨id, dest, rfl⟩ <;> cases hi

theorem Active.closed {socks : Option Int64} {calls : List Call} (h : Active socks calls) :
    DatabaseCalls (calls ++ databaseCalls ((closeSocks socks ++ [Effect.decrement]).map .effect)) := by
  cases h with
  | none hz =>
    rw [closeSocks_unrecorded hz]
    exact .none
  | failed record hz =>
    rw [closeSocks_unrecorded hz]
    exact .failed record
  | recorded record id updates hid hupdates =>
    rw [closeSocks_recorded hid]
    exact .recorded record id updates hupdates

theorem Open.append {r r' : RelaySession} {log es : List Call} (h : Open r log)
    (hcalls : Active r'.socks (databaseCalls log ++ databaseCalls es)) (hes : ∀ a ∈ es, ¬Closes a) :
    Open r' (log ++ es) where
  calls := by
    rw [databaseCalls_append]
    exact hcalls
  unclosed a ha := by
    rcases List.mem_append.mp ha with ha | ha
    · exact h.unclosed a ha
    · exact hes a ha

theorem closing_calls {socks : Option Int64} {a : Call}
    (ha : a ∈ (closeSocks socks ++ [Effect.decrement]).map .effect) : Closes a := by
  rw [List.map_append, List.mem_append] at ha
  rcases ha with ha | ha
  · cases socks with
    | none => cases ha
    | some id =>
      rw [closeSocks] at ha
      split_ifs at ha
      · cases ha
      · exact .inr ⟨id, List.mem_singleton.mp ha⟩
  · exact .inl (List.mem_singleton.mp ha)

theorem decrements_closing (socks : Option Int64) :
    decrements ((closeSocks socks ++ [Effect.decrement]).map .effect) = 1 := by
  cases socks with
  | none => rfl
  | some id =>
    rw [closeSocks]
    split_ifs
    · rfl
    · rfl

theorem Open.close {r : RelaySession} {log : List Call} (h : Open r log) :
    Shut r.shut (log ++ (closeSocks r.socks ++ [Effect.decrement]).map .effect) where
  sockets d := by
    rw [peer_shut]
    rfl
  calls := by
    rw [databaseCalls_append]
    exact h.calls.closed
  decremented := by
    have hnone : decrements log = 0 := by
      apply List.count_eq_zero.mpr
      intro ha
      exact h.unclosed _ ha (.inl rfl)
    rw [decrements_append, hnone, decrements_closing]
  quiet := by
    refine List.pairwise_append.mpr ⟨?_, ?_, ?_⟩
    · apply List.pairwise_of_forall_mem_list
      intro a ha b hb hcloses
      exact absurd hcloses (h.unclosed a ha)
    · apply List.pairwise_of_forall_mem_list
      rintro a ha b hb - ⟨d, bytes, completed, rfl, -⟩
      rcases closing_calls hb with hb | ⟨id, hb⟩
      · cases hb
      · cases hb
    · intro a ha b hb hcloses
      exact absurd hcloses (h.unclosed a ha)

theorem Shut.append {r r' : RelaySession} {log es : List Call} (h : Shut r log)
    (hsockets : ∀ d, (r'.peer d).isOpen = (r.peer d).isOpen)
    (hes : ∀ b ∈ es, ∃ d, b = .effect (.wrote d [] false)) : Shut r' (log ++ es) where
  sockets d := (hsockets d).trans (h.sockets d)
  calls := by
    have hnone : databaseCalls es = [] := by
      apply List.filter_eq_nil_iff.mpr
      intro b hb
      obtain ⟨d, rfl⟩ := hes b hb
      exact Bool.false_ne_true
    rw [databaseCalls_append, hnone, List.append_nil]
    exact h.calls
  decremented := by
    have hnone : decrements es = 0 := by
      apply List.count_eq_zero.mpr
      intro hb
      obtain ⟨d, hd⟩ := hes _ hb
      cases hd
    rw [decrements_append, hnone, h.decremented]
  quiet := by
    have hsilent : ∀ b ∈ es, ¬Payload b := by
      rintro b hb ⟨d, bytes, completed, rfl, hbytes⟩
      obtain ⟨e, he⟩ := hes _ hb
      cases he
      exact hbytes rfl
    refine List.pairwise_append.mpr ⟨h.quiet, ?_, ?_⟩
    · apply List.pairwise_of_forall_mem_list
      intro a _ b hb _
      exact hsilent b hb
    · intro a _ b hb _
      exact hsilent b hb

theorem Conduct.kept {r r' : RelaySession} {log : List Call} (h : Conduct r log) (hr : Kept r r') :
    Conduct r' log where
  live hopen := by
    have hlive := h.live (hr.isClosed.symm.trans hopen)
    refine ⟨?_, hlive.unclosed⟩
    rw [hr.socks]
    exact hlive.calls
  closed hclosed := by
    have hshut : Shut r' (log ++ []) :=
      (h.closed (hr.isClosed.symm.trans hclosed)).append hr.isOpen fun b hb => (by cases hb)
    rwa [List.append_nil] at hshut

theorem Conduct.close {r : RelaySession} {log : List Call} (h : Conduct r log) :
    Conduct r.close.1 (log ++ r.close.2.map .effect) := by
  cases hc : r.isClosed with
  | true =>
    rw [close_closed hc, List.map_nil, List.append_nil]
    exact h
  | false =>
    rw [close_open hc]
    exact ⟨fun hopen => (by cases hopen), fun _ => (h.live hc).close⟩

theorem Conduct.handled {r r' : RelaySession} {log : List Call} {d : Side} {comp : Completion}
    {effects : List Effect} (h : Conduct r log) (hd : Handled d comp r r' effects) :
    Conduct r' (log ++ effects.map .effect) := by
  cases hd with
  | ended hend => exact h.close
  | forwarded bytes hc hn hopen hb =>
    have hkept := (kept_delivered r d.other bytes).trans (kept_startRead _ d)
    refine ⟨fun hlive => ?_, fun hclosed => ?_⟩
    · have hlive := h.live (hkept.isClosed.symm.trans hlive)
      apply hlive.append
      · rw [hkept.socks]
        exact hlive.calls.written _ _
      · intro a ha hcloses
        obtain ⟨e, he, rfl⟩ := List.mem_map.mp ha
        rcases List.mem_cons.mp he with rfl | he
        · exact not_closes_wrote _ _ _ hcloses
        · exact writeStat_unclosing he hcloses
    -- a queued handler of a closed session finds the socket it would write to closed
    · have hshut := (h.closed (hkept.isClosed.symm.trans hclosed)).sockets d.other
      rw [hopen] at hshut
      cases hshut
  | lost bytes hc hn hb hnone =>
    rw [List.map_cons, List.append_cons]
    -- the failed write first, then the `close` that follows it
    apply Conduct.close
    have hkept := kept_delivered r d.other bytes
    refine ⟨fun hlive => ?_, fun hclosed => ?_⟩
    · have hlive := h.live (hkept.isClosed.symm.trans hlive)
      apply hlive.append
      · rw [hkept.socks]
        exact (List.append_nil _).symm ▸ hlive.calls
      · intro a ha
        rw [List.mem_singleton.mp ha]
        exact not_closes_wrote _ _ _
    · have hshut := h.closed (hkept.isClosed.symm.trans hclosed)
      apply hshut.append hkept.isOpen
      intro b hb
      rw [List.mem_singleton.mp hb, hnone (hshut.sockets d.other)]
      exact ⟨_, rfl⟩

def Uncreated (j : Job) : Prop := j = .absent ∨ j = .posted ∨ j = .negotiating

structure Starting (c : Connection) (log : List Call) : Prop where
  reads : ∀ d, (c.relay.peer d).read = .idle
  socks : Unrecorded c.relay.socks
  calls : databaseCalls log = []

structure Inv (l : Lifetime) : Prop where
  conduct : Conduct l.connection.relay l.log
  starting : Uncreated l.connection.job → Starting l.connection l.log
  live : Uncreated l.connection.job → l.destroyed = false → l.connection.relay.isClosed = false
  destroyed : l.destroyed = true → l.connection.relay.isClosed = true

theorem upon_eq_some {l l' : Lifetime} {p : Connection → Bool} {f : Connection → Lifetime} :
    l.upon p f = some l' ↔ l.destroyed = false ∧ p l.connection = true ∧ f l.connection = l' := by
  rw [upon]
  cases hd : l.destroyed <;> simp

theorem inv_constructed (bufferSize : ℕ) : Inv (constructed bufferSize) where
  conduct := ⟨fun _ => ⟨.none fun id hid => (by cases hid), fun a ha => (by cases ha)⟩, fun h => by cases h⟩
  starting _ := ⟨fun d => by cases d <;> rfl, fun id hid => (by cases hid), rfl⟩
  live _ _ := rfl
  destroyed h := by cases h

theorem Inv.job {l : Lifetime} {r : RelaySession} {j : Job} (h : Inv l) (hr : Kept l.connection.relay r)
    (hreads : Uncreated j → Uncreated l.connection.job ∧ ∀ d, (r.peer d).read = (l.connection.relay.peer d).read) :
    Inv (l.setConnection { l.connection with relay := r, job := j }) where
  conduct := h.conduct.kept hr
  starting hj := by
    have hstart := h.starting (hreads hj).1
    have hsocks : Unrecorded r.socks := by
      rw [hr.socks]
      exact hstart.socks
    exact ⟨fun d => ((hreads hj).2 d).trans (hstart.reads d), hsocks, hstart.calls⟩
  live hj hd := hr.isClosed.trans (h.live (hreads hj).1 hd)
  destroyed hd := hr.isClosed.trans (h.destroyed hd)

theorem Inv.opening {l : Lifetime} {c : Connection} {es : List Call} (h : Inv l)
    (hj : Uncreated l.connection.job) (hd : l.destroyed = false)
    (hclosed : c.relay.isClosed = l.connection.relay.isClosed)
    (hcalls : Active c.relay.socks (databaseCalls es)) (hes : ∀ a ∈ es, ¬Closes a)
    (hstart : Uncreated c.job → Starting c (l.log ++ es)) :
    Inv { l with connection := c, log := l.log ++ es } := by
  have hlive := h.live hj hd
  refine ⟨⟨fun _ => ?_, fun hc => ?_⟩, hstart, fun _ _ => hclosed.trans hlive, fun hd' => ?_⟩
  · apply (h.conduct.live hlive).append _ hes
    rw [(h.starting hj).calls, List.nil_append]
    exact hcalls
  · rw [hclosed, hlive] at hc
    cases hc
  · rw [hd] at hd'
    cases hd'

theorem Inv.connecting {l : Lifetime} {c : Connection} (h : Inv l) (hj : Uncreated l.connection.job)
    (hd : l.destroyed = false) (hclosed : c.relay.isClosed = l.connection.relay.isClosed)
    (hreads : ∀ d, (c.relay.peer d).read = (l.connection.relay.peer d).read) (hsocks : Unrecorded c.relay.socks) :
    Inv (l.setConnection c) := by
  have hstart := h.starting hj
  have hinv : Inv { l with connection := c, log := l.log ++ [] } := by
    apply h.opening hj hd hclosed
    · exact .none hsocks
    · intro a ha
      cases ha
    · intro _
      refine ⟨fun d => (hreads d).trans (hstart.reads d), hsocks, ?_⟩
      rw [List.append_nil, hstart.calls]
  rwa [List.append_nil] at hinv

theorem Inv.initialise {l : Lifetime} {q : Sqlite} {table : SessionTable} {record : Session} (h : Inv l)
    (hj : Uncreated l.connection.job) (hd : l.destroyed = false) (hsocks : l.connection.relay.socks = some 0) :
    Inv (l.initialise q table record l.connection) := by
  have hcreated : ∀ id, ∀ a ∈ [Call.create record id], ¬Closes a := by
    intro id a ha
    rw [List.mem_singleton.mp ha]
    exact not_closes_create record id
  have hdone : ¬Uncreated .initialised := by
    rintro (hj | hj | hj) <;> cases hj
  rw [Lifetime.initialise]
  split
  case h_1 id hid =>
    refine h.opening hj hd rfl ?_ (hcreated _) fun hj => absurd hj hdone
    exact .recorded record id [] (create_ne_zero hid) fun a ha => (by cases ha)
  case h_2 =>
    refine h.opening hj hd rfl ?_ (hcreated _) fun hj => absurd hj hdone
    apply Active.failed
    intro id hid
    rw [opened, setPeer_socks, hsocks, Option.some.injEq] at hid
    exact hid.symm

theorem Inv.dispatch {l : Lifetime} {d : Side} {o : WriteOutcome} {x : RelaySession × List Effect} (h : Inv l)
    (hd : l.destroyed = false) (hx : l.connection.relay.dispatch d o = some x) : Inv (l.handled x) := by
  obtain ⟨comp, hready, hcases⟩ := dispatch_cases hx
  -- no read has been started before `createRecord`
  have hcreated : ¬Uncreated l.connection.job := by
    intro hj
    rw [(h.starting hj).reads d] at hready
    cases hready
  refine ⟨(h.conduct.kept (kept_popped _ d)).handled hcases, fun hj => absurd hj hcreated, fun hj => absurd hj hcreated,
    fun hd' => ?_⟩
  rw [show l.destroyed = true from hd'] at hd
  cases hd

theorem Inv.destroy {l : Lifetime} (h : Inv l) (hd : l.destroyed = false) :
    Inv { l.handled l.connection.relay.close with destroyed := true } where
  conduct := h.conduct.close
  starting hj := by
    have hstart := h.starting hj
    have hopen := h.live hj hd
    refine ⟨fun d => close_idle (hstart.reads d), ?_, ?_⟩
    · intro id hid
      change l.connection.relay.close.1.socks = some id at hid
      rw [close_open hopen] at hid
      obtain ⟨-, -, rfl⟩ := Option.map_eq_some_iff.mp hid
      rfl
    · change databaseCalls (l.log ++ l.connection.relay.close.2.map .effect) = []
      rw [databaseCalls_append, hstart.calls, close_open hopen, closeSocks_unrecorded hstart.socks]
      rfl
  live _ hd' := by cases hd'
  destroyed _ := close_isClosed _

theorem inv_step {bufferSize : ℕ} {l l' : Lifetime} {e : LifetimeEvent} (h : Inv l)
    (hs : l.step bufferSize e = some l') : Inv l' := by
  cases e with
  | accept =>
    rw [step] at hs
    obtain ⟨hd, hp, rfl⟩ := upon_eq_some.mp hs
    have hj : Uncreated l.connection.job := .inl (by simpa using hp)
    apply h.connecting hj hd
    · rfl
    · intro d
      cases d <;> rfl
    · exact (h.starting hj).socks
  | begin =>
    rw [step] at hs
    obtain ⟨hd, hp, rfl⟩ := upon_eq_some.mp hs
    exact h.job (.refl _) fun _ => ⟨.inr (.inl (by simpa using hp)), fun _ => rfl⟩
  | createProxy =>
    rw [step] at hs
    obtain ⟨hd, hp, rfl⟩ := upon_eq_some.mp hs
    simp only [Bool.and_eq_true, beq_iff_eq] at hp
    have hj : Uncreated l.connection.job := .inr (.inr hp.1)
    apply h.connecting hj hd
    · rfl
    · intro d
      cases d <;> rfl
    · intro id hid
      exact (Option.some.inj hid).symm
  | init record q table =>
    rw [step] at hs
    obtain ⟨hd, hp, rfl⟩ := upon_eq_some.mp hs
    simp only [Bool.and_eq_true, beq_iff_eq] at hp
    exact h.initialise (.inr (.inr hp.1)) hd hp.2
  | clientRead =>
    rw [step] at hs
    obtain ⟨hd, hp, rfl⟩ := upon_eq_some.mp hs
    apply h.job (kept_startRead _ .client)
    rintro (hj | hj | hj) <;> cases hj
  | serverRead =>
    rw [step] at hs
    obtain ⟨hd, hp, rfl⟩ := upon_eq_some.mp hs
    apply h.job (kept_startRead _ .server)
    rintro (hj | hj | hj) <;> cases hj
  | stop =>
    rw [step] at hs
    obtain ⟨hd, hp, rfl⟩ := upon_eq_some.mp hs
    apply h.job (.refl _)
    rintro (hj | hj | hj) <;> cases hj
  | socket e =>
    obtain ⟨r, hr, rfl⟩ := Option.map_eq_some_iff.mp hs
    obtain ⟨hkept, hread⟩ := socketStep_kept hr
    apply h.job hkept
    intro hj
    refine ⟨hj, fun d => ?_⟩
    have hidle := (h.starting hj).reads d
    rw [hidle, (hread d).mpr hidle]
  | dispatch d o =>
    simp only [step] at hs
    split_ifs at hs with hd
    obtain ⟨x, hx, rfl⟩ := Option.map_eq_some_iff.mp hs
    exact h.dispatch (by simpa using hd) hx
  | destroy =>
    rw [step] at hs
    obtain ⟨hd, hp, rfl⟩ := upon_eq_some.mp hs
    exact h.destroy hd

theorem inv_run {bufferSize : ℕ} {es : List LifetimeEvent} {l : Lifetime}
    (hrun : (machine bufferSize).run (constructed bufferSize) es = some l) : Inv l := by
  have hstep : ∀ l e l', Inv l → (machine bufferSize).step l e = some l' → Inv l' := by
    intro l e l' hl hs
    exact inv_step hl hs
  exact Machine.invariant hstep (inv_constructed bufferSize) hrun

theorem closes_once {bufferSize : ℕ} {es : List LifetimeEvent} {l : Lifetime}
    (hrun : (machine bufferSize).run (constructed bufferSize) es = some l) (hd : l.destroyed = true) :
    decrements l.log = 1 ∧ DatabaseCalls (databaseCalls l.log) ∧
      l.log.Pairwise fun a b => Closes a → ¬Payload b := by
  have h := inv_run hrun
  have hshut := h.conduct.closed (h.destroyed hd)
  exact ⟨hshut.decremented, hshut.calls, hshut.quiet⟩

def visit : List LifetimeEvent :=
  [.accept, .begin, .createProxy, .init {} .quiet .empty, .clientRead, .serverRead,
    .socket (.arrive .client [5]), .socket (.transfer .client 1), .dispatch .client .whole,
    .socket (.arrive .server [7]), .socket (.transfer .server 1), .socket (.readError .client .eof),
    .dispatch .client .whole, .dispatch .server .whole, .destroy]

theorem closes_once_visit : ∃ l, (machine 2).run (constructed 2) visit = some l ∧
    l.log = [.create {} (some 1), .effect (.wrote .server [5] true), .effect (.writeStat 1 true),
      .effect (.update 1 1 .toServer), .effect (.closeRecord 1), .effect .decrement,
      .effect (.wrote .client [] false)] ∧
    decrements l.log = 1 ∧ DatabaseCalls (databaseCalls l.log) ∧
    l.log.Pairwise fun a b => Closes a → ¬Payload b := by
  obtain ⟨l, hrun, hlog, hd⟩ : ∃ l, (machine 2).run (constructed 2) visit = some l ∧
      l.log = [.create {} (some 1), .effect (.wrote .server [5] true), .effect (.writeStat 1 true),
        .effect (.update 1 1 .toServer), .effect (.closeRecord 1), .effect .decrement,
        .effect (.wrote .client [] false)] ∧ l.destroyed = true := ⟨_, rfl, rfl, rfl⟩
  exact ⟨l, hrun, hlog, closes_once hrun hd⟩

end SessionLifetimes

end SocksProxy
