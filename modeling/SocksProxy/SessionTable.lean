import SocksProxy.KeyedTables
import SocksProxy.SessionRecords

namespace SocksProxy

open KeyedTables ByteStrings

/-- A stored row of `sessions`; only `user` may be NULL. -/
structure Row where
  id : Int64
  user : Option Bytes
  create_date : Bytes
  update_date : Bytes
  is_active : Int64
  src_addr : Bytes
  src_port : Bytes
  dst_addr : Bytes
  dst_port : Bytes
  bytes_sent : Int64
  bytes_recv : Int64
  deriving DecidableEq

/-- The table with its AUTOINCREMENT sequence: `seq` is the largest id ever given. -/
structure SessionTable where
  sessions : KeyedTable Row.id
  seq : ℕ
  positive : ∀ r ∈ sessions.rows, 0 < r.id.toInt
  bounded : ∀ r ∈ sessions.rows, r.id.toInt ≤ seq

namespace SessionTable

def empty : SessionTable := ⟨⟨[], by simp⟩, 0, by simp, by simp⟩

def get? (t : SessionTable) (id : Int64) : Option Row := t.sessions.get? id

theorem mem_keys {t : KeyedTable Row.id} {p : Int64 → Bool} {c : KeyedTable.Change Row.id} {r : Row}
    (h : r ∈ (t.alter p c).rows) : ∃ s ∈ t.rows, s.id = r.id := by
  have hk : r.id ∈ (t.alter p c).rows.map Row.id := List.mem_map_of_mem h
  rw [KeyedTable.keys_alter] at hk
  exact List.mem_map.mp hk

def alter (t : SessionTable) (p : Int64 → Bool) (c : KeyedTable.Change Row.id) : SessionTable where
  sessions := t.sessions.alter p c
  seq := t.seq
  positive r hr := by
    obtain ⟨s, hs, he⟩ := mem_keys hr
    exact he ▸ t.positive s hs
  bounded r hr := by
    obtain ⟨s, hs, he⟩ := mem_keys hr
    exact he ▸ t.bounded s hs

@[simp] theorem alter_seq (t : SessionTable) (p : Int64 → Bool) (c : KeyedTable.Change Row.id) :
    (t.alter p c).seq = t.seq := rfl

theorem get?_alter (t : SessionTable) (p : Int64 → Bool) (c : KeyedTable.Change Row.id) (id : Int64) :
    (t.alter p c).get? id = (t.get? id).map fun r => if p id then c.apply r else r :=
  KeyedTable.get?_alter t.sessions p c id

theorem get?_eq_some {t : SessionTable} {id : Int64} {r : Row} :
    t.get? id = some r ↔ r ∈ t.sessions.rows ∧ r.id = id := KeyedTable.get?_eq_some

def nextId (t : SessionTable) : Int64 := Int64.ofNat (t.seq + 1)

theorem toInt_nextId {t : SessionTable} (h : t.seq + 1 < 2 ^ 63) : t.nextId.toInt = t.seq + 1 := by
  rw [nextId, Int64.toInt_ofNat']
  apply Int.bmod_eq_of_le
  all_goals
    simp only [Int64.size]
    omega

theorem nextId_fresh {t : SessionTable} (h : t.seq + 1 < 2 ^ 63) : ∀ r ∈ t.sessions.rows, r.id ≠ t.nextId := by
  intro r hr he
  have hb := t.bounded r hr
  rw [he, toInt_nextId h] at hb
  omega

def insert (t : SessionTable) (h : t.seq + 1 < 2 ^ 63) (now : Bytes) (user : Option Bytes)
    (src_addr src_port dst_addr dst_port : Bytes) : SessionTable where
  sessions := t.sessions.insert ⟨t.nextId, user, now, now, 1, src_addr, src_port, dst_addr, dst_port, 0, 0⟩
    (nextId_fresh h)
  seq := t.seq + 1
  positive r hr := by
    rcases List.mem_append.mp hr with hr | hr
    · exact t.positive r hr
    · rw [List.mem_singleton.mp hr]
      simp only [toInt_nextId h]
      omega
  bounded r hr := by
    rcases List.mem_append.mp hr with hr | hr
    · have hb := t.bounded r hr
      push_cast
      omega
    · rw [List.mem_singleton.mp hr]
      simp only [toInt_nextId h]
      push_cast
      omega

theorem get?_insert (t : SessionTable) (h : t.seq + 1 < 2 ^ 63) (now : Bytes) (user : Option Bytes)
    (src_addr src_port dst_addr dst_port : Bytes) (id : Int64) :
    (t.insert h now user src_addr src_port dst_addr dst_port).get? id =
      if id = t.nextId then
        some ⟨t.nextId, user, now, now, 1, src_addr, src_port, dst_addr, dst_port, 0, 0⟩
      else t.get? id := by
  rw [get?, insert]
  exact KeyedTable.get?_insert t.sessions _ (nextId_fresh h) id

end SessionTable

end SocksProxy
