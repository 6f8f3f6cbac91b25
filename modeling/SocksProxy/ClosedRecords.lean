import SocksProxy.DatabaseRuns

namespace SocksProxy.ClosedRecords

open KeyedTables DatabaseService DatabaseRuns SessionTable

def closedRow (now : Bytes) (r : Row) : Row := { r with is_active := 0, update_date := now }

structure ClosesOnly (t u : SessionTable) (id : Int64) (now : Bytes) : Prop where
  seq : u.seq = t.seq
  row : u.get? id = (t.get? id).map (closedRow now)
  frame : ∀ i, i ≠ id → u.get? i = t.get? i

def ClosesRecord (errstr : ℕ → String) (now : Bytes) (t : SessionTable) (id : Int64) : Prop :=
  ∃ u, (close (.sound errstr now) id).run t = (.ok (), u) ∧ ClosesOnly t u id now

def Settled (t : SessionTable) (id : Int64) (now : Bytes) : Prop :=
  ∀ r, t.get? id = some r → closedRow now r = r

theorem get?_closed (t : SessionTable) (id i : Int64) (now : Bytes) :
    (t.alter (· == id) (update_inactive now)).get? i =
      if i = id then (t.get? i).map (closedRow now) else t.get? i := by
  rw [get?_alter]
  by_cases hi : i = id
  · simp only [hi, beq_self_eq_true, if_true]
    rfl
  · simp [hi]

theorem closesOnly_alter (t : SessionTable) (id : Int64) (now : Bytes) :
    ClosesOnly t (t.alter (· == id) (update_inactive now)) id now := by
  refine ⟨rfl, ?_, fun i hi => ?_⟩
  · rw [get?_closed, if_pos rfl]
  · rw [get?_closed, if_neg hi]

theorem closesOnly_other_iff {t : SessionTable} {id i : Int64} {now : Bytes} (hi : i ≠ id) :
    ClosesOnly t (t.alter (· == i) (update_inactive now)) id now ↔
      Settled t id now ∧ Settled t i now := by
  constructor
  · intro h
    refine ⟨fun r hr => ?_, fun r hr => ?_⟩
    · have hrow := h.row
      rw [get?_closed, if_neg hi.symm, hr, Option.map_some, Option.some.injEq] at hrow
      exact hrow.symm
    · have hframe := h.frame i hi
      rw [get?_closed, if_pos rfl, hr, Option.map_some, Option.some.injEq] at hframe
      exact hframe
  · rintro ⟨hid, hother⟩
    refine ⟨rfl, ?_, fun j hj => ?_⟩
    · rw [get?_closed, if_neg hi.symm]
      cases hr : t.get? id with
      | none => rfl
      | some r => rw [Option.map_some, hid r hr]
    · rw [get?_closed]
      split_ifs with hji
      · subst hji
        cases hr : t.get? j with
        | none => rfl
        | some r => rw [Option.map_some, hother r hr]
      · rfl

theorem columnInt_eq_self_iff {id : Int64} (hpos : 0 < id.toInt) : columnInt id = id ↔ id.toInt < 2 ^ 31 := by
  constructor
  · intro h
    have hbmod := congrArg Int64.toInt h
    rw [toInt_columnInt] at hbmod
    have hlt := Int.bmod_lt (x := id.toInt) (m := 2 ^ 32) (by decide)
    omega
  · intro h
    exact columnInt_of_small (by omega) h

theorem closesRecord_iff (errstr : ℕ → String) (now : Bytes) (t : SessionTable) (id : Int64)
    (h : (t.get? id).isSome) : ClosesRecord errstr now t id ↔
      id.toInt < 2 ^ 31 ∨ (columnInt id ≠ 0 ∧ Settled t id now ∧ Settled t (columnInt id) now) := by
  obtain ⟨r, hr⟩ := Option.isSome_iff_exists.mp h
  obtain ⟨hmem, hrid⟩ := get?_eq_some.mp hr
  have hpos : 0 < id.toInt := hrid ▸ t.positive r hmem
  by_cases hz : columnInt id = 0
  · constructor
    · rintro ⟨u, hrun, -⟩
      cases hrun.symm.trans (close_throws errstr now hr hz)
    · rintro (hsmall | ⟨hne, -⟩)
      · rw [(columnInt_eq_self_iff hpos).mpr hsmall] at hz
        rw [hz] at hpos
        exact absurd hpos (by decide)
      · exact absurd hz hne
  have hrun := close_run errstr now hr hz
  by_cases hsame : columnInt id = id
  · refine iff_of_true ⟨_, hrun, ?_⟩ (.inl ((columnInt_eq_self_iff hpos).mp hsame))
    rw [hsame]
    exact closesOnly_alter t id now
  · have hlarge : ¬id.toInt < 2 ^ 31 := fun hsmall => hsame ((columnInt_eq_self_iff hpos).mpr hsmall)
    constructor
    · rintro ⟨u, hrun', honly⟩
      obtain ⟨-, rfl⟩ := Prod.mk.inj (hrun.symm.trans hrun')
      exact .inr ⟨hz, (closesOnly_other_iff hsame).mp honly⟩
    · rintro (hsmall | ⟨-, hsettled⟩)
      · exact absurd hsmall hlarge
      · exact ⟨_, hrun, (closesOnly_other_iff hsame).mpr hsettled⟩

def agedRow (id : Int64) : Row := ⟨id, some [98], [], [], 1, [49], [50], [51], [52], 0, 0⟩

def agedTable : SessionTable where
  sessions := ⟨[agedRow 1, agedRow 4294967297], by decide⟩
  seq := 4294967297
  positive := by decide
  bounded := by decide

theorem closesRecord_first : ClosesRecord (fun _ => "") [50] agedTable 1 :=
  (closesRecord_iff (fun _ => "") [50] agedTable 1 (by decide)).mpr (.inl (by decide))

theorem aged_closes_first : (agedTable.get? 4294967297).isSome ∧
    (((close (.sound (fun _ => "") [50]) 4294967297).run agedTable).2.get? 1).map Row.is_active = some 0 ∧
    ¬ClosesRecord (fun _ => "") [50] agedTable 4294967297 := by
  refine ⟨by decide, by decide, ?_⟩
  rintro ⟨u, hrun, honly⟩
  have hframe := honly.frame 1 (by decide)
  have hfirst : (((close (.sound (fun _ => "") [50]) 4294967297).run agedTable).2.get? 1) =
      some (closedRow [50] (agedRow 1)) := by decide
  rw [hrun] at hfirst
  rw [hfirst] at hframe
  exact absurd hframe (by decide)

end SocksProxy.ClosedRecords
