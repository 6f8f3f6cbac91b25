import SocksProxy.DatabaseRuns

namespace SocksProxy.ActiveRows

open KeyedTables DatabaseService DatabaseRuns

def Active (t : SessionTable) (id : Int64) : Prop := ∃ r, t.get? id = some r ∧ r.is_active ≠ 0

section Rows

variable (errstr : ℕ → String) (now : Bytes)

theorem not_active_of_none {t : SessionTable} {id : Int64} (h : t.get? id = none) : ¬Active t id := by
  rintro ⟨r, hr, -⟩
  rw [h] at hr
  cases hr

theorem active_alter {t : SessionTable} {p : Int64 → Bool} {c : KeyedTable.Change Row.id}
    (hc : ∀ r, (c.apply r).is_active = r.is_active) (id : Int64) :
    Active (t.alter p c) id ↔ Active t id := by
  rw [Active, Active, SessionTable.get?_alter]
  cases t.get? id with
  | none => simp
  | some r =>
    by_cases hp : p id
    · simp [hp, hc]
    · simp [hp]

theorem active_deactivate {t : SessionTable} {p : Int64 → Bool} {c : KeyedTable.Change Row.id}
    (hc : ∀ r, (c.apply r).is_active = 0) (id : Int64) :
    Active (t.alter p c) id ↔ Active t id ∧ p id = false := by
  rw [Active, Active, SessionTable.get?_alter]
  cases t.get? id with
  | none => simp
  | some r =>
    by_cases hp : p id
    · simp [hp, hc]
    · simp [hp]

theorem update_active (t : SessionTable) (id : Int64) (bytes : UInt64) (dest : Dest) :
    (∀ i, Active ((update (.sound errstr now) id bytes dest).run t).2 i ↔ Active t i) ∧
      ((update (.sound errstr now) id bytes dest).run t).2.seq = t.seq := by
  cases hr : t.get? id with
  | none =>
    rw [update_misses errstr now hr]
    exact ⟨fun _ => Iff.rfl, rfl⟩
  | some r =>
    by_cases hid : columnInt id = 0
    · rw [update_throws errstr now hr hid]
      exact ⟨fun _ => Iff.rfl, rfl⟩
    · rw [update_run errstr now hr hid]
      refine ⟨active_alter fun r' => ?_, rfl⟩
      cases dest <;> rfl

theorem close_active {t : SessionTable} {id : Int64} (hpos : 0 < id.toInt) (hlt : id.toInt < 2 ^ 31) :
    (∀ i, Active ((close (.sound errstr now) id).run t).2 i ↔ Active t i ∧ i ≠ id) ∧
      ((close (.sound errstr now) id).run t).2.seq = t.seq := by
  have hcolumn : columnInt id = id := columnInt_of_small (by omega) hlt
  have hid : columnInt id ≠ 0 := by
    rw [hcolumn]
    rintro rfl
    exact absurd hpos (by decide)
  cases hr : t.get? id with
  | none =>
    rw [close_misses errstr now hr]
    refine ⟨fun i => ⟨fun h => ⟨h, ?_⟩, And.left⟩, rfl⟩
    rintro rfl
    exact not_active_of_none hr h
  | some r =>
    rw [close_run errstr now hr hid, hcolumn]
    refine ⟨fun i => ?_, rfl⟩
    rw [active_deactivate fun _ => rfl]
    simp

theorem create_active {t : SessionTable} (h : t.seq + 1 < 2 ^ 63) (session : Session) : ∃ t',
    (create (.sound errstr now) session).run t = (.ok t.nextId, t') ∧ t'.seq = t.seq + 1 ∧
      ∀ i, Active t' i ↔ i = t.nextId ∨ Active t i := by
  refine ⟨_, create_run errstr now h session, rfl, fun i => ?_⟩
  rw [Active, Active, SessionTable.get?_insert]
  by_cases hi : i = t.nextId
  · simp [hi]
  · simp [hi]

theorem createTable_active (t : SessionTable) : ∃ t',
    (createTable (.sound errstr now)).run t = (.ok (), t') ∧ t'.seq = t.seq ∧ ∀ i, ¬Active t' i := by
  refine ⟨_, createTable_run errstr now t, rfl, fun i => ?_⟩
  rw [active_deactivate fun _ => rfl]
  simp

end Rows

end SocksProxy.ActiveRows
