import SocksProxy.DatabaseRuns
import Mathlib.Data.List.Induction

namespace SocksProxy.ByteCounters

open StatefulPrograms KeyedTables DatabaseService DatabaseRuns

structure Update where
  session_id : Int64
  bytes : UInt64
  dest : Dest
  now : Bytes
  deriving DecidableEq

def updates (errstr : ℕ → String) : List Update → Database Unit
  | [] => pure ()
  | c :: calls => do
    update (.sound errstr c.now) c.session_id c.bytes c.dest
    updates errstr calls

def counter (r : Row) : Dest → Int64
  | .toServer => r.bytes_sent
  | .toClient => r.bytes_recv

def passed (calls : List Update) (id : Int64) (dest : Dest) : List UInt64 :=
  calls.filterMap fun c => if c.session_id = id ∧ c.dest = dest then some c.bytes else none

def total (bytes : List UInt64) : ℕ := (bytes.map UInt64.toNat).sum

def ExactSums (errstr : ℕ → String) (t : SessionTable) (calls : List Update) : Prop :=
  ∃ t', (updates errstr calls).run t = (.ok (), t') ∧ ∀ r ∈ t.sessions.rows, ∃ r',
    t'.get? r.id = some r' ∧ ∀ dest, (counter r' dest).toInt =
      (counter r dest).toInt + total (passed calls r.id dest)

def FitsInt (n : Int) : Prop := -2 ^ 31 ≤ n ∧ n < 2 ^ 31

def Decodable (t : SessionTable) (calls : List Update) : Prop :=
  (∀ c ∈ calls, columnInt c.session_id ≠ 0) ∧
  ∀ r ∈ t.sessions.rows, ∀ dest, passed calls r.id dest ≠ [] →
    FitsInt ((counter r dest).toInt + total (passed calls r.id dest).dropLast)

def grow (v : Int64) (bytes : UInt64) : Int64 := newBytes (columnInt v) bytes

theorem toInt_newBytes (v : Int64) (bytes : UInt64) :
    (newBytes v bytes).toInt = (v.toInt + bytes.toNat).bmod (2 ^ 64) := by
  have h : (newBytes v bytes).toInt = (v.toBitVec + bytes.toBitVec).toInt := rfl
  rw [h, BitVec.toInt_add, BitVec.toInt_eq_toNat_bmod bytes.toBitVec, Int.add_bmod_bmod]
  rfl

theorem columnInt_eq_iff {v : Int64} {n : ℤ} (h : v.toInt.bmod (2 ^ 32) = n.bmod (2 ^ 32)) :
    (columnInt v).toInt = n ↔ FitsInt n := by
  rw [toInt_columnInt, h, FitsInt]
  simp only [Int.bmod]
  constructor
  · intro he
    split_ifs at he <;> omega
  · intro he
    split_ifs <;> omega

theorem grow_bmod {v : Int64} {n : ℤ} (h : v.toInt.bmod (2 ^ 32) = n.bmod (2 ^ 32)) (bytes : UInt64) :
    (grow v bytes).toInt.bmod (2 ^ 32) = (n + bytes.toNat).bmod (2 ^ 32) := by
  have hd : 2 ^ 32 ∣ 2 ^ 64 := by decide
  rw [grow, toInt_newBytes, Int.bmod_bmod_of_dvd hd, toInt_columnInt, Int.bmod_add_bmod,
    ← Int.bmod_add_bmod, h, Int.bmod_add_bmod]

theorem grow_eq_iff {v : Int64} {n : ℤ} {bytes : UInt64}
    (h : v.toInt.bmod (2 ^ 32) = n.bmod (2 ^ 32)) (hlow : -2 ^ 63 ≤ n) (hfit : n + bytes.toNat < 2 ^ 63) :
    (grow v bytes).toInt = n + bytes.toNat ↔ FitsInt n := by
  rw [← columnInt_eq_iff h, grow, toInt_newBytes]
  have hc := toInt_columnInt v
  have hle : -2 ^ 31 ≤ (columnInt v).toInt := by
    rw [hc]
    exact Int.le_bmod (by omega)
  have hlt : (columnInt v).toInt < 2 ^ 31 := by
    rw [hc]
    exact Int.bmod_lt (by omega)
  constructor
  · intro he
    simp only [Int.bmod] at he
    split_ifs at he <;> omega
  · intro he
    rw [he]
    apply Int.bmod_eq_of_le
    all_goals omega

theorem total_append (xs ys : List UInt64) : total (xs ++ ys) = total xs + total ys := by
  simp [total]

theorem foldl_grow_bmod (v : Int64) (bytes : List UInt64) :
    (bytes.foldl grow v).toInt.bmod (2 ^ 32) = (v.toInt + total bytes).bmod (2 ^ 32) := by
  induction bytes using List.reverseRecOn with
  | nil => simp [total]
  | append_singleton bytes b ih =>
    rw [List.foldl_append, List.foldl_cons, List.foldl_nil, grow_bmod ih, total_append]
    simp [total, add_assoc]

theorem foldl_grow_eq_iff {v : Int64} {bytes : List UInt64} (hfit : v.toInt + total bytes < 2 ^ 63) :
    (bytes.foldl grow v).toInt = v.toInt + total bytes ↔
      (bytes ≠ [] → FitsInt (v.toInt + total bytes.dropLast)) := by
  induction bytes using List.reverseRecOn with
  | nil => simp [total]
  | append_singleton bytes b _ =>
    have hlow := Int64.le_toInt v
    have hsum : (v.toInt + total (bytes ++ [b])) = v.toInt + total bytes + b.toNat := by
      rw [total_append]
      simp [total, add_assoc]
    rw [hsum] at hfit ⊢
    rw [List.foldl_append, List.foldl_cons, List.foldl_nil,
      grow_eq_iff (foldl_grow_bmod v bytes) (by omega) hfit, List.dropLast_concat]
    simp

theorem counter_counted (now : Bytes) (r : Row) (bytes : UInt64) (dest other : Dest) :
    counter ((counted now r bytes dest).apply r) other =
      if dest = other then grow (counter r other) bytes else counter r other := by
  cases dest <;> cases other <;> rfl

theorem passed_cons (c : Update) (calls : List Update) (id : Int64) (dest : Dest) :
    passed (c :: calls) id dest = if c.session_id = id ∧ c.dest = dest then
      c.bytes :: passed calls id dest else passed calls id dest := by
  simp only [passed, List.filterMap_cons]
  split_ifs <;> rfl

theorem get?_counted {t : SessionTable} {c : Update} {r s : Row} (hr : t.get? c.session_id = some r)
    (hs : t.get? s.id = some s) : ∃ s',
    (t.alter (· == c.session_id) (counted c.now r c.bytes c.dest)).get? s.id = some s' ∧ s'.id = s.id ∧
      ∀ dest, counter s' dest = (passed [c] s.id dest).foldl grow (counter s dest) := by
  rw [SessionTable.get?_alter, hs]
  by_cases h : s.id = c.session_id
  · rw [h, hr, Option.some.injEq] at hs
    subst hs
    refine ⟨_, rfl, ?_, ?_⟩
    · simp only [h, beq_self_eq_true, ↓reduceIte]
      exact ((counted c.now r c.bytes c.dest).key_apply r).trans h
    · intro dest
      simp only [h, beq_self_eq_true, ↓reduceIte, counter_counted, passed_cons, true_and]
      split_ifs <;> rfl
  · refine ⟨s, by simp [h], rfl, ?_⟩
    intro dest
    simp [passed, Ne.symm h]

theorem passed_append (xs ys : List Update) (id : Int64) (dest : Dest) :
    passed (xs ++ ys) id dest = passed xs id dest ++ passed ys id dest := List.filterMap_append

theorem updates_run (errstr : ℕ → String) (calls : List Update) (t : SessionTable)
    (hex : ∀ c ∈ calls, ∃ r, t.get? c.session_id = some r)
    (hid : ∀ c ∈ calls, columnInt c.session_id ≠ 0) :
    ∃ t', (updates errstr calls).run t = (.ok (), t') ∧ ∀ r, t.get? r.id = some r →
      ∃ r', t'.get? r.id = some r' ∧
        ∀ dest, counter r' dest = (passed calls r.id dest).foldl grow (counter r dest) := by
  induction calls generalizing t with
  | nil => exact ⟨t, rfl, fun r hr => ⟨r, hr, fun _ => rfl⟩⟩
  | cons c calls ih =>
    obtain ⟨r, hr⟩ := hex c List.mem_cons_self
    have hrun := update_run errstr c.now hr (hid c List.mem_cons_self) c.bytes c.dest
    obtain ⟨t', hrun', hrows⟩ := ih (t.alter (· == c.session_id) (counted c.now r c.bytes c.dest))
      (by
        intro d hd
        obtain ⟨s, hs⟩ := hex d (List.mem_cons_of_mem c hd)
        rw [SessionTable.get?_alter, hs]
        exact ⟨_, rfl⟩)
      (fun d hd => hid d (List.mem_cons_of_mem c hd))
    refine ⟨t', by rw [updates, Proc.bind_ok hrun, hrun'], ?_⟩
    intro s hs
    obtain ⟨s', hs', hkey, hcount⟩ := get?_counted hr hs
    obtain ⟨s'', hs'', hcount'⟩ := hrows s' (by rw [hkey]; exact hs')
    rw [hkey] at hs''
    refine ⟨s'', hs'', fun dest => ?_⟩
    have hsplit := passed_append [c] calls s.id dest
    rw [List.singleton_append] at hsplit
    rw [hcount', hkey, hcount, hsplit, List.foldl_append]

theorem updates_throw (errstr : ℕ → String) (calls : List Update) (t : SessionTable)
    (hex : ∀ c ∈ calls, ∃ r, t.get? c.session_id = some r)
    (hid : ∃ c ∈ calls, columnInt c.session_id = 0) :
    ∃ err t', (updates errstr calls).run t = (.error err, t') := by
  induction calls generalizing t with
  | nil => simp at hid
  | cons c calls ih =>
    obtain ⟨r, hr⟩ := hex c List.mem_cons_self
    by_cases hc : columnInt c.session_id = 0
    · exact ⟨_, t, Proc.bind_error (update_throws errstr c.now hr hc c.bytes c.dest)⟩
    · have hrun := update_run errstr c.now hr hc c.bytes c.dest
      obtain ⟨err, t', hrun'⟩ := ih (t.alter (· == c.session_id) (counted c.now r c.bytes c.dest))
        (by
          intro d hd
          obtain ⟨s, hs⟩ := hex d (List.mem_cons_of_mem c hd)
          rw [SessionTable.get?_alter, hs]
          exact ⟨_, rfl⟩)
        (by
          obtain ⟨d, hd, hz⟩ := hid
          rcases List.mem_cons.mp hd with rfl | hd
          · exact absurd hz hc
          · exact ⟨d, hd, hz⟩)
      exact ⟨err, t', by rw [updates, Proc.bind_ok hrun, hrun']⟩

theorem exactSums_iff (errstr : ℕ → String) (t : SessionTable) (calls : List Update)
    (hex : ∀ c ∈ calls, (t.get? c.session_id).isSome)
    (hfit : ∀ r ∈ t.sessions.rows, ∀ dest,
      (counter r dest).toInt + total (passed calls r.id dest) < 2 ^ 63) :
    ExactSums errstr t calls ↔ Decodable t calls := by
  simp only [Option.isSome_iff_exists] at hex
  by_cases hid : ∀ c ∈ calls, columnInt c.session_id ≠ 0
  · obtain ⟨t', hrun, hrows⟩ := updates_run errstr calls t hex hid
    have hrow : ∀ r ∈ t.sessions.rows, t.get? r.id = some r := fun r hr => KeyedTable.get?_of_mem hr
    constructor
    · rintro ⟨t'', hrun', hsums⟩
      obtain ⟨-, rfl⟩ := Prod.mk.inj (hrun.symm.trans hrun')
      refine ⟨hid, fun r hr dest => ?_⟩
      apply (foldl_grow_eq_iff (hfit r hr dest)).mp
      obtain ⟨r', hr', hsum⟩ := hsums r hr
      obtain ⟨r'', hr'', hcount⟩ := hrows r (hrow r hr)
      obtain rfl : r' = r'' := Option.some.inj (hr'.symm.trans hr'')
      rw [← hcount, hsum]
    · rintro ⟨-, hdec⟩
      refine ⟨t', hrun, fun r hr => ?_⟩
      obtain ⟨r', hr', hcount⟩ := hrows r (hrow r hr)
      refine ⟨r', hr', fun dest => ?_⟩
      rw [hcount]
      exact (foldl_grow_eq_iff (hfit r hr dest)).mpr (hdec r hr dest)
  · constructor
    · rintro ⟨t', hrun, -⟩
      push Not at hid
      obtain ⟨err, t'', hthrow⟩ := updates_throw errstr calls t hex hid
      cases hrun.symm.trans hthrow
    · exact fun h => absurd h.1 hid

def oneSession : SessionTable :=
  SessionTable.empty.insert (by decide) [] (some [98]) [49] [50] [51] [52]

theorem exactSums_iff_small :
    ExactSums (fun _ => "") oneSession [⟨1, 10, .toServer, []⟩, ⟨1, 5, .toClient, []⟩] ↔
      Decodable oneSession [⟨1, 10, .toServer, []⟩, ⟨1, 5, .toClient, []⟩] := by
  apply exactSums_iff
  · decide
  · intro r hr dest
    cases dest
    all_goals
      revert r
      decide

def twoGibibytes : List Update := [⟨1, 2147483648, .toServer, []⟩, ⟨1, 1, .toServer, []⟩]

theorem twoGibibytes_not_exact : (∀ c ∈ twoGibibytes, (oneSession.get? c.session_id).isSome) ∧
    (∀ r ∈ oneSession.sessions.rows, ∀ dest,
      (counter r dest).toInt + total (passed twoGibibytes r.id dest) < 2 ^ 63) ∧
    ¬ExactSums (fun _ => "") oneSession twoGibibytes := by
  refine ⟨by decide, ?_, ?_⟩
  · intro r hr dest
    cases dest
    all_goals
      revert r
      decide
  rintro ⟨t, hrun, hsums⟩
  have hstored : (((updates (fun _ => "") twoGibibytes).run oneSession).2.get? 1).map
      (fun r => (counter r .toServer).toInt) = some (-2147483647) := by decide
  have hrows : ∀ r ∈ oneSession.sessions.rows, r.id = 1 ∧ (counter r .toServer).toInt +
      total (passed twoGibibytes r.id .toServer) = 2147483649 := by decide
  obtain ⟨r, hr⟩ := List.exists_mem_of_ne_nil oneSession.sessions.rows (by decide)
  obtain ⟨hid, hsum⟩ := hrows r hr
  obtain ⟨r', hr', hcount⟩ := hsums r hr
  rw [hrun, ← hid, hr', Option.map_some, hcount, hsum] at hstored
  cases hstored

end SocksProxy.ByteCounters
