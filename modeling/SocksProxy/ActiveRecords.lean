import SocksProxy.SequenceGrowth
import SocksProxy.SessionBooks

namespace SocksProxy.ActiveRecords

open TransitionSystems TcpServer DatabaseService ActiveRows SequenceGrowth ServerInvariants SessionBooks

inductive Deployment
  | down (table : SessionTable) (issued : List Int64)
  | up (server : TcpServer)

inductive DeploymentEvent
  | start (settings : Settings) (q : Sqlite)
  | server (e : ServerEvent) (q : Sqlite)
  | crash

/-- `main` gives up when `createTable` throws; a crash leaves the file as it is. -/
def deploymentStep : Deployment → DeploymentEvent → Option Deployment
  | .down table issued, .start settings q => match (createTable q).run table with
    | (.ok _, table) => some (.up (launch settings table issued))
    | (.error _, table) => some (.down table issued)
  | .up s, .server e q => (s.step q e).map .up
  | .up s, .crash => some (.down s.table s.issued)
  | _, _ => none

def deployment : Machine Deployment DeploymentEvent := ⟨deploymentStep⟩

def Sound (_ : Deployment) : DeploymentEvent → Prop
  | .start _ q => ∃ errstr now, q = .sound errstr now
  | .server _ q => ∃ errstr now, q = .sound errstr now
  | .crash => True

def Owns (c : Connection) (id : Int64) : Prop :=
  c.returned = some id ∨ (c.relay.socks = some id ∧ id ≠ 0)

structure Given (seq : ℕ) (issued : List Int64) : Prop where
  bounded : ∀ id ∈ issued, 0 < id.toInt ∧ id.toInt ≤ seq
  nodup : issued.Nodup

def Recorded : Deployment → Prop
  | .down table issued => table.seq < 2 ^ 31 → Given table.seq issued
  | .up s => Inv s ∧ (s.table.seq < 2 ^ 31 → Books s)

theorem books_launch {settings : Settings} {table : SessionTable} {issued : List Int64}
    (h : Given table.seq issued) (hactive : ∀ id, ¬Active table id) :
    Books (launch settings table issued) := by
  apply Books.awaitClient
  refine ⟨fun k c hk => ?_, h.bounded, h.nodup, fun k c id hk => ?_, fun j k c d id hj => ?_, fun id => ?_⟩
  · simp at hk
  · simp at hk
  · simp at hj
  · refine ⟨fun ha => absurd ha (hactive id), ?_⟩
    rintro ⟨k, c, hk, -⟩
    simp at hk

theorem recorded_step {d d' : Deployment} {e : DeploymentEvent} (h : Recorded d) (he : Sound d e)
    (hd : deploymentStep d e = some d') : Recorded d' := by
  cases d with
  | down table issued =>
    cases e with
    | start settings q =>
      obtain ⟨errstr, now, rfl⟩ := he
      obtain ⟨t, hrun, hseq, hactive⟩ := createTable_active errstr now table
      simp only [deploymentStep, hrun, Option.some.injEq] at hd
      subst hd
      refine ⟨inv_launch settings t issued, fun hsmall => ?_⟩
      have hsmall' : t.seq < 2 ^ 31 := hsmall
      rw [hseq] at hsmall'
      exact books_launch (hseq ▸ h hsmall') hactive
    | server e q => cases hd
    | crash => cases hd
  | up s =>
    cases e with
    | start settings q => cases hd
    | server e q =>
      obtain ⟨errstr, now, rfl⟩ := he
      obtain ⟨t, ht, rfl⟩ := Option.map_eq_some_iff.mp hd
      refine ⟨inv_step h.1 ht, fun hsmall => ?_⟩
      have hsmall' : s.table.seq < 2 ^ 31 := Nat.lt_of_le_of_lt (seq_step _ ht) hsmall
      exact books_step (h.2 hsmall') h.1 hsmall' ht
    | crash =>
      cases hd
      intro hsmall
      have hbooks := h.2 hsmall
      exact ⟨hbooks.issued, hbooks.nodup⟩

theorem active_iff_held {table : SessionTable} {es : List DeploymentEvent} {s : TcpServer}
    (hsound : deployment.Along Sound (.down table []) es)
    (hrun : deployment.run (.down table []) es = some (.up s)) (hsmall : s.table.seq < 2 ^ 31) :
    (∀ id, Active s.table id ↔ Held s id) ∧ s.issued.Nodup ∧
      ∀ (j k : ℕ) (c d : Connection) (id : Int64), s.connections[j]? = some c → s.connections[k]? = some d →
        Owns c id → Owns d id → j = k := by
  have hstep : ∀ d e d', Recorded d → Sound d e → deployment.step d e = some d' → Recorded d' := by
    intro d e d' h he hd
    exact recorded_step h he hd
  have hinit : Recorded (.down table []) := fun _ => ⟨fun id hid => (by cases hid), List.nodup_nil⟩
  have hbooks : Books s := (Machine.invariant_along hstep hinit hsound hrun).2 hsmall
  have hreturned : ∀ (k : ℕ) (c : Connection) (id : Int64), s.connections[k]? = some c → Owns c id →
      c.returned = some id := by
    intro k c id hk howns
    rcases howns with hid | ⟨hid, hne⟩
    · exact hid
    · have hb := hbooks.each k c hk
      cases hclosed : c.relay.isClosed with
      | true => exact absurd (hb.closed hclosed id hid) hne
      | false => exact (hb.holds hclosed id).mpr ⟨hid, hne⟩
  refine ⟨hbooks.active, hbooks.nodup, fun j k c d id hj hk hc hd => ?_⟩
  exact hbooks.distinct j k c d id hj hk (hreturned j c id hj hc) (hreturned k d id hk hd)

def guest : Session := ⟨0, [], [], [], 0, [49], [50], [51], [52], 0, 0⟩

def restarted : List DeploymentEvent :=
  [.start ⟨0, 4, 8⟩ .quiet, .server (.accept none) .quiet, .server (.begin 0) .quiet,
    .server (.createProxy 0) .quiet, .server (.init 0 guest) .quiet, .crash,
    .start ⟨0, 4, 8⟩ .quiet, .server (.accept none) .quiet, .server (.begin 0) .quiet,
    .server (.createProxy 0) .quiet, .server (.init 0 guest) .quiet]

theorem active_iff_held_restarted : ∃ s,
    deployment.run (.down .empty []) restarted = some (.up s) ∧ s.issued = [1, 2] ∧
    ∀ id, Active s.table id ↔ Held s id := by
  obtain ⟨s, hrun, hissued, hsmall⟩ : ∃ s, deployment.run (.down .empty []) restarted = some (.up s) ∧
      s.issued = [1, 2] ∧ s.table.seq < 2 ^ 31 := ⟨_, rfl, rfl, by decide⟩
  refine ⟨s, hrun, hissued, (active_iff_held ?_ hrun hsmall).1⟩
  have hquiet : ∃ errstr now, Sqlite.quiet = .sound errstr now := ⟨_, _, rfl⟩
  apply Machine.along_cons_of hquiet rfl
  apply Machine.along_cons_of hquiet rfl
  apply Machine.along_cons_of hquiet rfl
  apply Machine.along_cons_of hquiet rfl
  apply Machine.along_cons_of hquiet rfl
  apply Machine.along_cons_of trivial rfl
  apply Machine.along_cons_of hquiet rfl
  apply Machine.along_cons_of hquiet rfl
  apply Machine.along_cons_of hquiet rfl
  apply Machine.along_cons_of hquiet rfl
  exact Machine.along_cons_of hquiet rfl trivial

end SocksProxy.ActiveRecords
