import SocksProxy.SessionViews
import SocksProxy.AddressNotation

namespace SocksProxy.ViewedSessions

open ByteStrings FilteredViews AddressNotation SortFilterSessionModel

def daysIn (year month : ℕ) : ℕ :=
  if month = 2 then if year % 4 = 0 ∧ (year % 100 ≠ 0 ∨ year % 400 = 0) then 29 else 28
  else if month ∈ [4, 6, 9, 11] then 30 else 31

def dateOf (text : Bytes) : Option CalendarDate :=
  if text.length = 19 ∧ text[4]? = some 45 ∧ text[7]? = some 45 ∧ text[10]? = some 32 then do
    let year ← decimalDigits.read (text.take 4)
    let month ← decimalDigits.read ((text.drop 5).take 2)
    let day ← decimalDigits.read ((text.drop 8).take 2)
    if 1 ≤ year ∧ 1 ≤ month ∧ month ≤ 12 ∧ 1 ≤ day ∧ day ≤ daysIn year month then
      some (toLex ((year : ℤ), toLex (month, day)))
    else none
  else none

structure StoredSession where
  row : Row
  created : CalendarDate
  updated : CalendarDate
  created_eq : dateOf row.create_date = some created
  updated_eq : dateOf row.update_date = some updated
  sent_nonneg : 0 ≤ row.bytes_sent.toInt
  recv_nonneg : 0 ≤ row.bytes_recv.toInt

inductive Cell
  | text (s : QString)
  | count (n : Int64)

namespace StoredSession

def userText (qt : Qt) (s : StoredSession) : QString :=
  match s.row.user with
  | some user => qt.text user
  | none => []

def srcText (qt : Qt) (s : StoredSession) : QString :=
  qt.text s.row.src_addr ++ SessionDao.colon ++ qt.text s.row.src_port

def dstText (qt : Qt) (s : StoredSession) : QString :=
  qt.text s.row.dst_addr ++ SessionDao.colon ++ qt.text s.row.dst_port

def cell (qt : Qt) (s : StoredSession) : Fields → Cell
  | .user => .text (s.userText qt)
  | .createDate => .text (qt.text s.row.create_date)
  | .updateDate => .text (qt.text s.row.update_date)
  | .isActive => .text (QString.number s.row.is_active.toInt)
  | .srcEndpoint => .text (s.srcText qt)
  | .dstEndpoint => .text (s.dstText qt)
  | .bytesSent => .count s.row.bytes_sent
  | .bytesRecv => .count s.row.bytes_recv

end StoredSession

def Shows : QVariant → Cell → Prop
  | .string s, .text t => s = t
  | .int n, .count v => n.toInt = v.toInt
  | _, _ => False

inductive Call
  | setUserFilter (filterText : QString)
  | setCreateDateFilter (createDate : QDate)
  | setUpdateDateFilter (updateDate : QDate)
  | setFromDateFilter (fromDate : QDate)
  | setToDateFilter (toDate : QDate)
  | setIsActiveFilter (isActive : QString)
  | setSrcEndpointFilter (srcEndpoint : QString)
  | setDstEndpointFilter (dstEndpoint : QString)
  | setBytesSentFilter (bytesSent : Int32)
  | setBytesRecvFilter (bytesRecv : Int32)
  | update (table : List StoredSession)

structure Viewing where
  model : SortFilterSessionModel
  wanted : Filters
  stored : List StoredSession

def Viewing.step (qt : Qt) (v : Viewing) : Call → Viewing
  | .setUserFilter t => ⟨setUserFilter qt t v.model, { v.wanted with userFilter := t }, v.stored⟩
  | .setCreateDateFilter d => ⟨setCreateDateFilter qt d v.model, { v.wanted with createDateFilter := d }, v.stored⟩
  | .setUpdateDateFilter d => ⟨setUpdateDateFilter qt d v.model, { v.wanted with updateDateFilter := d }, v.stored⟩
  | .setFromDateFilter d => ⟨setFromDateFilter qt d v.model, { v.wanted with fromDateFilter := d }, v.stored⟩
  | .setToDateFilter d => ⟨setToDateFilter qt d v.model, { v.wanted with toDateFilter := d }, v.stored⟩
  | .setIsActiveFilter t => ⟨setIsActiveFilter qt t v.model, { v.wanted with isActiveFilter := t }, v.stored⟩
  | .setSrcEndpointFilter t => ⟨setSrcEndpointFilter qt t v.model, { v.wanted with srcEndpointFilter := t }, v.stored⟩
  | .setDstEndpointFilter t => ⟨setDstEndpointFilter qt t v.model, { v.wanted with dstEndpointFilter := t }, v.stored⟩
  | .setBytesSentFilter n => ⟨setBytesSentFilter qt n v.model, { v.wanted with bytesSentFilter := n }, v.stored⟩
  | .setBytesRecvFilter n => ⟨setBytesRecvFilter qt n v.model, { v.wanted with bytesRecvFilter := n }, v.stored⟩
  | .update table => ⟨SortFilterSessionModel.update qt (table.map StoredSession.row) v.model, v.wanted, table⟩

def lastRead (table : List StoredSession) (calls : List Call) : List StoredSession :=
  calls.foldl (fun read c => match c with
    | .update table => table
    | _ => read) table

def opened (qt : Qt) (table : List StoredSession) : Viewing :=
  ⟨construct qt (table.map StoredSession.row), {}, table⟩

def viewed (qt : Qt) (table : List StoredSession) (calls : List Call) : Viewing :=
  calls.foldl (Viewing.step qt) (opened qt table)

/-- An unset date, or one before 1970, filters nothing. -/
def OnDate (d : QDate) (P : CalendarDate → Prop) : Prop := ∀ x : CalendarDate, d = x → 1970 ≤ (ofLex x).1 → P x

structure Satisfies (qt : Qt) (f : Filters) (s : StoredSession) : Prop where
  user : f.userFilter <:+: s.userText qt
  createDate : OnDate f.createDateFilter fun d => s.created = d
  updateDate : OnDate f.updateDateFilter fun d => s.updated = d
  fromDate : OnDate f.fromDateFilter fun d => d ≤ s.updated
  toDate : OnDate f.toDateFilter fun d => s.updated ≤ d
  isActive : f.isActiveFilter <:+: QString.number s.row.is_active.toInt
  srcEndpoint : f.srcEndpointFilter <:+: s.srcText qt
  dstEndpoint : f.dstEndpointFilter <:+: s.dstText qt
  bytesSent : f.bytesSentFilter = -1 ∨ s.row.bytes_sent.toInt = f.bytesSentFilter.toInt
  bytesRecv : f.bytesRecvFilter = -1 ∨ s.row.bytes_recv.toInt = f.bytesRecvFilter.toInt

structure ViewsStored (qt : Qt) (v : Viewing) : Prop where
  shown : ∀ i s, v.stored[i]? = some s → ∀ column field, Fields.ofColumn column = some field →
    Shows (SessionModel.data qt v.model.rows i column .display) (s.cell qt field)
  length : v.model.rows.length = v.stored.length
  accepted : ∀ i, i ∈ v.model.accepted ↔ ∃ s, v.stored[i]? = some s ∧ Satisfies qt v.wanted s

def ReadsInts (qt : Qt) : Prop :=
  ∀ n : ℤ, -2 ^ 31 ≤ n → n < 2 ^ 31 → (qt.toInt (QString.number n)).toInt = n

def ReadsDates (qt : Qt) : Prop := ∀ text d, dateOf text = some d → qt.toDate (qt.text text) = d

def Narrow (s : StoredSession) : Prop := s.row.bytes_sent.toInt < 2 ^ 31 ∧ s.row.bytes_recv.toInt < 2 ^ 31

def known (d : QDate) : QDate := if d.year < 1970 then ⊥ else d

def effective (f : Filters) : Filters :=
  { f with
    createDateFilter := known f.createDateFilter
    updateDateFilter := known f.updateDateFilter
    fromDateFilter := known f.fromDateFilter
    toDateFilter := known f.toDateFilter }

structure Inv (qt : Qt) (v : Viewing) : Prop where
  rows : v.model.rows = v.stored.map fun s => SessionDao.readRow qt s.row
  fresh : View.Fresh (filterAcceptsRow qt) v.model
  filters : v.model.filter = effective v.wanted

theorem inv_setFilter {α : Type} [DecidableEq α] {qt : Qt} {v : Viewing} (h : Inv qt v) {p : Part Filters α}
    {a : α} {f : Filters} (hf : p.set a (effective v.wanted) = effective f) :
    Inv qt ⟨setFilter qt p a v.model, f, v.stored⟩ := by
  refine ⟨?_, h.fresh.setPart p a, ?_⟩
  · exact (View.rows_setPart p a v.model).trans h.rows
  · refine (View.filter_setPart p a v.model).trans ?_
    rw [h.filters, hf]

theorem inv_load (qt : Qt) (table : List StoredSession) {m : SortFilterSessionModel} {f : Filters}
    (hf : m.filter = effective f) :
    Inv qt ⟨SortFilterSessionModel.update qt (table.map StoredSession.row) m, f, table⟩ := by
  refine ⟨?_, View.fresh_reload _ _, hf⟩
  exact List.map_map

theorem inv_step {qt : Qt} {v : Viewing} (h : Inv qt v) (c : Call) : Inv qt (v.step qt c) := by
  cases c with
  | setUserFilter t => exact inv_setFilter h rfl
  | setCreateDateFilter d => exact inv_setFilter h rfl
  | setUpdateDateFilter d => exact inv_setFilter h rfl
  | setFromDateFilter d => exact inv_setFilter h rfl
  | setToDateFilter d => exact inv_setFilter h rfl
  | setIsActiveFilter t => exact inv_setFilter h rfl
  | setSrcEndpointFilter t => exact inv_setFilter h rfl
  | setDstEndpointFilter t => exact inv_setFilter h rfl
  | setBytesSentFilter n => exact inv_setFilter h rfl
  | setBytesRecvFilter n => exact inv_setFilter h rfl
  | update table => exact inv_load qt table h.filters

theorem inv_viewed (qt : Qt) (table : List StoredSession) (calls : List Call) : Inv qt (viewed qt table calls) := by
  have hopened : Inv qt (opened qt table) := inv_load qt table (m := ⟨{}, [], []⟩) rfl
  rw [viewed]
  generalize opened qt table = v at hopened
  induction calls generalizing v with
  | nil => exact hopened
  | cons c calls ih => exact ih (v.step qt c) (inv_step hopened c)

theorem stored_viewed (qt : Qt) (table : List StoredSession) (calls : List Call) :
    (viewed qt table calls).stored = lastRead table calls := by
  have hopened : (opened qt table).stored = table := rfl
  rw [viewed, lastRead]
  generalize opened qt table = v at hopened
  induction calls generalizing v table with
  | nil => exact hopened
  | cons c calls ih =>
    rw [List.foldl_cons, List.foldl_cons]
    apply ih
    cases c with
    | update new => rfl
    | _ => exact hopened

theorem get_row {qt : Qt} {table : List StoredSession} {i : ℕ} {s : StoredSession} (h : table[i]? = some s)
    (column : ℕ) : SessionDao.get (table.map fun s => SessionDao.readRow qt s.row) i column =
      (SessionDao.readRow qt s.row).getD column [] := by
  have hrow : (table.map fun s => SessionDao.readRow qt s.row).getD i [] = SessionDao.readRow qt s.row := by
    rw [List.getD_eq_getElem?_getD, List.getElem?_map, h]
    rfl
  rw [SessionDao.get, hrow]

theorem user_text (qt : Qt) (s : StoredSession) : (s.row.value qt 1).toString = s.userText qt := by
  rw [Row.value, StoredSession.userText]
  cases s.row.user <;> rfl

theorem readRow_eq (qt : Qt) (s : StoredSession) : SessionDao.readRow qt s.row =
    [s.userText qt, qt.text s.row.create_date, qt.text s.row.update_date,
      QString.number s.row.is_active.toInt, s.srcText qt, s.dstText qt,
      QString.number s.row.bytes_sent.toInt, QString.number s.row.bytes_recv.toInt] := by
  rw [← user_text]
  rfl

theorem filterAcceptsRow_eq {qt : Qt} {table : List StoredSession} {i : ℕ} {s : StoredSession}
    (h : table[i]? = some s) (f : Filters) :
    filterAcceptsRow qt f (table.map fun s => SessionDao.readRow qt s.row) i = true ↔
      f.userFilter <:+: s.userText qt ∧
      (!f.createDateFilter.isValid || qt.toDate (qt.text s.row.create_date) == f.createDateFilter) = true ∧
      (!f.updateDateFilter.isValid || qt.toDate (qt.text s.row.update_date) == f.updateDateFilter) = true ∧
      (!f.fromDateFilter.isValid || decide (qt.toDate (qt.text s.row.update_date) ≥ f.fromDateFilter)) = true ∧
      (!f.toDateFilter.isValid || decide (qt.toDate (qt.text s.row.update_date) ≤ f.toDateFilter)) = true ∧
      f.isActiveFilter <:+: QString.number s.row.is_active.toInt ∧
      f.srcEndpointFilter <:+: s.srcText qt ∧ f.dstEndpointFilter <:+: s.dstText qt ∧
      (f.bytesSentFilter == -1 || qt.toInt (QString.number s.row.bytes_sent.toInt) == f.bytesSentFilter) = true ∧
      (f.bytesRecvFilter == -1 || qt.toInt (QString.number s.row.bytes_recv.toInt) == f.bytesRecvFilter) = true := by
  simp only [filterAcceptsRow, SessionModel.data, get_row h]
  simp only [readRow_eq, if_true, Fields.ofColumn, List.getD_cons_zero, List.getD_cons_succ, QVariant.toString,
    QVariant.toInt, QVariant.toDate, QString.contains, Bool.and_eq_true, decide_eq_true_eq, and_assoc]

theorem onDate_coe (x : CalendarDate) (P : CalendarDate → Prop) :
    OnDate x P ↔ (1970 ≤ (ofLex x).1 → P x) := by
  constructor
  · intro h
    exact h x rfl
  · rintro h y hy
    obtain rfl := WithBot.coe_injective hy
    exact h

theorem onDate_iff (d : QDate) (Q : QDate → Bool) :
    (!(known d).isValid || Q (known d)) = true ↔ OnDate d fun x => Q x = true := by
  induction d using WithBot.recBotCoe with
  | bot => simp [known, OnDate]
  | coe x =>
    rw [onDate_coe, known, QDate.year_coe]
    split_ifs with hold
    · simp [not_le.mpr hold]
    · simp [not_lt.mp hold]

theorem toInt_number {qt : Qt} (hInt : ReadsInts qt) {v : Int64} (hnonneg : 0 ≤ v.toInt)
    (hsmall : v.toInt < 2 ^ 31) : (qt.toInt (QString.number v.toInt)).toInt = v.toInt := by
  apply hInt
  · omega
  · exact hsmall

theorem count_iff {qt : Qt} (hInt : ReadsInts qt) {v : Int64} (hnonneg : 0 ≤ v.toInt)
    (hsmall : v.toInt < 2 ^ 31) (f : Int32) :
    (f == -1 || qt.toInt (QString.number v.toInt) == f) = true ↔ f = -1 ∨ v.toInt = f.toInt := by
  rw [Bool.or_eq_true, beq_iff_eq, beq_iff_eq, ← Int32.toInt_inj (y := f),
    toInt_number hInt hnonneg hsmall]

theorem accepts_iff {qt : Qt} (hInt : ReadsInts qt) (hDate : ReadsDates qt) {table : List StoredSession} {i : ℕ}
    {s : StoredSession} (h : table[i]? = some s) (hnarrow : Narrow s) (f : Filters) :
    filterAcceptsRow qt (effective f) (table.map fun s => SessionDao.readRow qt s.row) i = true ↔
      Satisfies qt f s := by
  rw [filterAcceptsRow_eq h, hDate _ _ s.created_eq, hDate _ _ s.updated_eq,
    count_iff hInt s.sent_nonneg hnarrow.1, count_iff hInt s.recv_nonneg hnarrow.2]
  have hcreated := onDate_iff f.createDateFilter fun d => (s.created : QDate) == d
  have hupdated := onDate_iff f.updateDateFilter fun d => (s.updated : QDate) == d
  have hfrom := onDate_iff f.fromDateFilter fun d => decide ((s.updated : QDate) ≥ d)
  have hto := onDate_iff f.toDateFilter fun d => decide ((s.updated : QDate) ≤ d)
  simp only [beq_iff_eq, decide_eq_true_eq, ge_iff_le, WithBot.coe_inj, WithBot.coe_le_coe] at hcreated hupdated hfrom hto
  constructor
  · rintro ⟨huser, hc, hu, hf, ht, hactive, hsrc, hdst, hsent, hrecv⟩
    exact ⟨huser, hcreated.mp hc, hupdated.mp hu, hfrom.mp hf, hto.mp ht, hactive, hsrc, hdst, hsent, hrecv⟩
  · rintro ⟨huser, hc, hu, hf, ht, hactive, hsrc, hdst, hsent, hrecv⟩
    exact ⟨huser, hcreated.mpr hc, hupdated.mpr hu, hfrom.mpr hf, hto.mpr ht, hactive, hsrc, hdst, hsent, hrecv⟩

theorem shows_iff {qt : Qt} {table : List StoredSession} {i : ℕ} {s : StoredSession} (h : table[i]? = some s)
    {column : ℕ} {field : Fields} (hfield : Fields.ofColumn column = some field) :
    Shows (SessionModel.data qt (table.map fun s => SessionDao.readRow qt s.row) i column .display)
        (s.cell qt field) ↔
      (field = .bytesSent → (qt.toInt (QString.number s.row.bytes_sent.toInt)).toInt = s.row.bytes_sent.toInt) ∧
      (field = .bytesRecv → (qt.toInt (QString.number s.row.bytes_recv.toInt)).toInt = s.row.bytes_recv.toInt) := by
  rw [SessionModel.data, get_row h, readRow_eq, hfield]
  match column, hfield with
  | 0, rfl | 1, rfl | 2, rfl | 3, rfl | 4, rfl | 5, rfl | 6, rfl | 7, rfl =>
    simp [Shows, StoredSession.cell, QVariant.toInt]

theorem narrow_of_shown {qt : Qt} {v : Viewing} (hinv : Inv qt v) (h : ViewsStored qt v) {s : StoredSession}
    (hs : s ∈ v.stored) : Narrow s := by
  obtain ⟨i, hi⟩ := List.getElem?_of_mem hs
  have hsent := h.shown i s hi 6 .bytesSent rfl
  have hrecv := h.shown i s hi 7 .bytesRecv rfl
  rw [hinv.rows, shows_iff hi rfl] at hsent hrecv
  rw [Narrow, ← hsent.1 rfl, ← hrecv.2 rfl]
  exact ⟨Int32.toInt_lt _, Int32.toInt_lt _⟩

theorem viewsStored_of_narrow {qt : Qt} (hInt : ReadsInts qt) (hDate : ReadsDates qt) {v : Viewing}
    (hinv : Inv qt v) (h : ∀ s ∈ v.stored, Narrow s) : ViewsStored qt v := by
  refine ⟨?_, by rw [hinv.rows, List.length_map], ?_⟩
  · intro i s hi column field hfield
    have hs := h s (List.mem_of_getElem? hi)
    rw [hinv.rows, shows_iff hi hfield]
    exact ⟨fun _ => toInt_number hInt s.sent_nonneg hs.1, fun _ => toInt_number hInt s.recv_nonneg hs.2⟩
  · intro i
    rw [hinv.fresh.mem_accepted, hinv.rows, hinv.filters, List.length_map]
    constructor
    · rintro ⟨hi, haccepts⟩
      have hs := List.getElem?_eq_getElem hi
      exact ⟨_, hs, (accepts_iff hInt hDate hs (h _ (List.getElem_mem hi)) v.wanted).mp haccepts⟩
    · rintro ⟨s, hs, hsatisfies⟩
      refine ⟨(List.getElem?_eq_some_iff.mp hs).1, ?_⟩
      exact (accepts_iff hInt hDate hs (h s (List.mem_of_getElem? hs)) v.wanted).mpr hsatisfies

theorem viewsStored_iff (qt : Qt) (hInt : ReadsInts qt) (hDate : ReadsDates qt) (table : List StoredSession)
    (calls : List Call) :
    ViewsStored qt (viewed qt table calls) ↔ ∀ s ∈ lastRead table calls, Narrow s := by
  have hinv := inv_viewed qt table calls
  rw [← stored_viewed qt table calls]
  constructor
  · intro h s hs
    exact narrow_of_shown hinv h hs
  · intro h
    exact viewsStored_of_narrow hInt hDate hinv h

def plainQt (overflow : ℕ → Int32) : Qt where
  text bytes := bytes.map UInt8.toUInt16
  toInt s :=
    let text := s.map UInt16.toUInt8
    if text.head? = some 45 then Int32.ofInt (-((decimalDigits.read text.tail).getD 0 : ℕ))
    else
      let n := (decimalDigits.read text).getD 0
      if n < 2 ^ 31 then Int32.ofNat n else overflow n
  toDate s := dateOf (s.map UInt16.toUInt8)

theorem narrowed_widened (bytes : Bytes) : (bytes.map UInt8.toUInt16).map UInt16.toUInt8 = bytes := by
  rw [List.map_map]
  apply List.map_id''
  intro b
  simp

theorem plainQt_readsDates (overflow : ℕ → Int32) : ReadsDates (plainQt overflow) := by
  intro text d h
  have htext := narrowed_widened text
  simp only [plainQt]
  rw [htext, h]
  rfl

theorem plainQt_readsInts (overflow : ℕ → Int32) : ReadsInts (plainQt overflow) := by
  intro n hlow hhigh
  simp only [plainQt, QString.number, narrowed_widened]
  have hdigits : decimalDigits.read (decimal n.natAbs) = some n.natAbs := by
    rw [decimal_eq, decimalDigits.read_write (by decide)]
  split_ifs with hneg hhead hsmall hhead' hsmall'
  · rw [List.tail_cons, hdigits, Option.getD_some, Int32.toInt_ofInt_of_le (by omega) (by omega)]
    omega
  · simp at hhead
  · simp at hhead
  · have hmem := List.mem_of_head? hhead'
    rw [decimal_eq] at hmem
    exact absurd hmem (decimalDigits.not_mem_write (by decide) (by decide) _)
  · rw [hdigits, Option.getD_some, Int32.toInt_ofNat_of_lt (by omega)]
    omega
  · rw [hdigits, Option.getD_some] at hsmall'
    omega

def julyStamp : Bytes := [50, 48, 50, 50, 45, 48, 55, 45, 48, 49, 32, 49, 48, 58, 48, 48, 58, 48, 48]

theorem julyStamp_date : dateOf julyStamp = some (toLex (2022, toLex (7, 1))) := by decide

def bobSession (sent : Int64) (h : 0 ≤ sent.toInt) : StoredSession where
  row := ⟨1, some [98, 111, 98], julyStamp, julyStamp, 1, [49], [50], [51], [52], sent, 0⟩
  created := toLex (2022, toLex (7, 1))
  updated := toLex (2022, toLex (7, 1))
  created_eq := julyStamp_date
  updated_eq := julyStamp_date
  sent_nonneg := h
  recv_nonneg := le_refl 0

theorem viewsStored_filtered : (ReadsInts (plainQt fun _ => 0) ∧ ReadsDates (plainQt fun _ => 0)) ∧
    ViewsStored (plainQt fun _ => 0) (viewed (plainQt fun _ => 0) []
      [.setUserFilter [98], .update [bobSession 5 (by decide)], .setBytesSentFilter 5]) := by
  refine ⟨⟨plainQt_readsInts _, plainQt_readsDates _⟩, ?_⟩
  refine (viewsStored_iff _ (plainQt_readsInts _) (plainQt_readsDates _) _ _).mpr ?_
  intro s hs
  obtain rfl := List.mem_singleton.mp hs
  exact ⟨by decide, by decide⟩

theorem bobSession_misread (overflow : ℕ → Int32) : ¬ViewsStored (plainQt overflow)
    (viewed (plainQt overflow) [bobSession 2147483648 (by decide)] []) := by
  intro h
  have hnarrow := narrow_of_shown (inv_viewed _ _ _) h (List.mem_singleton_self _)
  exact absurd hnarrow.1 (by decide)

theorem large_count_misread :
    ¬ViewsStored (plainQt fun _ => 0) (viewed (plainQt fun _ => 0) [bobSession 2147483648 (by decide)] []) ∧
    ¬ViewsStored (plainQt Int32.ofNat) (viewed (plainQt Int32.ofNat) [bobSession 2147483648 (by decide)] []) :=
  ⟨bobSession_misread _, bobSession_misread _⟩

end SocksProxy.ViewedSessions
