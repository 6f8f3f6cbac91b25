import SocksProxy.FilteredViews
import SocksProxy.SessionTable
import Mathlib.Data.List.Infix
import Mathlib.Data.Prod.Lex
import Mathlib.Order.WithBot

namespace SocksProxy

open ByteStrings FilteredViews

abbrev QString := List UInt16

abbrev CalendarDate := ℤ ×ₗ ℕ ×ₗ ℕ

-- the orders of the components are named, since an order found by search need not compute
instance calendarOrder : LinearOrder CalendarDate :=
  @Prod.Lex.instLinearOrder ℤ (ℕ ×ₗ ℕ) Int.instLinearOrder
    (@Prod.Lex.instLinearOrder ℕ ℕ Nat.instLinearOrder Nat.instLinearOrder)

instance : Preorder CalendarDate := calendarOrder.toPreorder

abbrev QDate := WithBot CalendarDate

namespace QDate

def isValid (d : QDate) : Bool := d.isSome

def year : QDate → ℤ
  | none => 0
  | some d => (ofLex d).1

@[simp] theorem isValid_bot : isValid ⊥ = false := rfl

@[simp] theorem isValid_coe (d : CalendarDate) : isValid d = true := rfl

@[simp] theorem year_coe (d : CalendarDate) : year d = (ofLex d).1 := rfl

end QDate

namespace QString

def contains (s part : QString) : Bool := decide (part <:+: s)

def number (n : ℤ) : QString :=
  (if n < 0 then 45 :: decimal n.natAbs else decimal n.natAbs).map UInt8.toUInt16

end QString

structure Qt where
  text : Bytes → QString
  toInt : QString → Int32
  toDate : QString → QDate

inductive QVariant
  | invalid
  | string (s : QString)
  | int (n : Int32)
  | longlong (n : Int64)
  deriving DecidableEq

namespace QVariant

def toString : QVariant → QString
  | invalid => []
  | string s => s
  | int n => QString.number n.toInt
  | longlong n => QString.number n.toInt

def toInt (qt : Qt) : QVariant → Int32
  | invalid => 0
  | string s => qt.toInt s
  | int n => n
  | longlong n => n.toInt32

def toDate (qt : Qt) : QVariant → QDate
  | string s => qt.toDate s
  | _ => ⊥

end QVariant

def Row.value (qt : Qt) (r : Row) : ℕ → QVariant
  | 0 => .longlong r.id
  | 1 => match r.user with
    | some user => .string (qt.text user)
    | none => .invalid
  | 2 => .string (qt.text r.create_date)
  | 3 => .string (qt.text r.update_date)
  | 4 => .longlong r.is_active
  | 5 => .string (qt.text r.src_addr)
  | 6 => .string (qt.text r.src_port)
  | 7 => .string (qt.text r.dst_addr)
  | 8 => .string (qt.text r.dst_port)
  | 9 => .longlong r.bytes_sent
  | 10 => .longlong r.bytes_recv
  | _ => .invalid

namespace SessionDao

def colon : QString := [58]

def readRow (qt : Qt) (r : Row) : List QString :=
  let user := (r.value qt 1).toString
  let create_date := (r.value qt 2).toString
  let update_date := (r.value qt 3).toString
  let is_active := (r.value qt 4).toString
  let src_addr := (r.value qt 5).toString
  let src_port := (r.value qt 6).toString
  let dst_addr := (r.value qt 7).toString
  let dst_port := (r.value qt 8).toString
  let bytes_sent := (r.value qt 9).toString
  let bytes_recv := (r.value qt 10).toString
  [user, create_date, update_date, is_active, src_addr ++ colon ++ src_port,
    dst_addr ++ colon ++ dst_port, bytes_sent, bytes_recv]

def update (qt : Qt) (query : List Row) : List (List QString) := query.map (readRow qt)

def get (data : List (List QString)) (row column : ℕ) : QString := (data.getD row []).getD column []

end SessionDao

inductive Fields
  | user
  | createDate
  | updateDate
  | isActive
  | srcEndpoint
  | dstEndpoint
  | bytesSent
  | bytesRecv
  deriving DecidableEq

def Fields.ofColumn : ℕ → Option Fields
  | 0 => some .user
  | 1 => some .createDate
  | 2 => some .updateDate
  | 3 => some .isActive
  | 4 => some .srcEndpoint
  | 5 => some .dstEndpoint
  | 6 => some .bytesSent
  | 7 => some .bytesRecv
  | _ => none

inductive Role
  | display
  | other
  deriving DecidableEq

namespace SessionModel

def data (qt : Qt) (sessions : List (List QString)) (row column : ℕ) (role : Role) : QVariant :=
  if role = .display then
    let ret := QVariant.string (SessionDao.get sessions row column)
    match Fields.ofColumn column with
    | some .user => ret
    | some .isActive => ret
    | some .srcEndpoint => ret
    | some .dstEndpoint => ret
    | some .createDate => ret
    | some .updateDate => ret
    | some .bytesSent => .int (ret.toInt qt)
    | some .bytesRecv => .int (ret.toInt qt)
    | none => .invalid
  else .invalid

end SessionModel

structure Filters where
  userFilter : QString := []
  createDateFilter : QDate := ⊥
  updateDateFilter : QDate := ⊥
  fromDateFilter : QDate := ⊥
  toDateFilter : QDate := ⊥
  isActiveFilter : QString := []
  srcEndpointFilter : QString := []
  dstEndpointFilter : QString := []
  bytesSentFilter : Int32 := -1
  bytesRecvFilter : Int32 := -1
  deriving DecidableEq

abbrev SortFilterSessionModel := View Filters (List QString)

namespace SortFilterSessionModel

def filterAcceptsRow (qt : Qt) (f : Filters) (sessions : List (List QString)) (sourceRow : ℕ) : Bool :=
  let data (column : ℕ) := SessionModel.data qt sessions sourceRow column .display
  let username := (data 0).toString
  let createDate := (data 1).toDate qt
  let updateDate := (data 2).toDate qt
  let isActive := (data 3).toString
  let srcEndpoint := (data 4).toString
  let dstEndpoint := (data 5).toString
  let bytesSent := (data 6).toInt qt
  let bytesRecv := (data 7).toInt qt
  username.contains f.userFilter &&
    (!f.createDateFilter.isValid || createDate == f.createDateFilter) &&
    (!f.updateDateFilter.isValid || updateDate == f.updateDateFilter) &&
    (!f.fromDateFilter.isValid || decide (updateDate ≥ f.fromDateFilter)) &&
    (!f.toDateFilter.isValid || decide (updateDate ≤ f.toDateFilter)) &&
    isActive.contains f.isActiveFilter &&
    srcEndpoint.contains f.srcEndpointFilter &&
    dstEndpoint.contains f.dstEndpointFilter &&
    (f.bytesSentFilter == -1 || bytesSent == f.bytesSentFilter) &&
    (f.bytesRecvFilter == -1 || bytesRecv == f.bytesRecvFilter)

def construct (qt : Qt) (query : List Row) : SortFilterSessionModel :=
  View.reload (filterAcceptsRow qt) (SessionDao.update qt query) ⟨{}, [], []⟩

def update (qt : Qt) (query : List Row) (m : SortFilterSessionModel) : SortFilterSessionModel :=
  m.reload (filterAcceptsRow qt) (SessionDao.update qt query)

/-- The setters compare, store, invalidate the filter and emit `filterChanged`. -/
def setFilter {α : Type} [DecidableEq α] (qt : Qt) (p : Part Filters α) (a : α)
    (m : SortFilterSessionModel) : SortFilterSessionModel :=
  m.setPart (filterAcceptsRow qt) p a

def setDateFilter (qt : Qt) (p : Part Filters QDate) (d : QDate) (m : SortFilterSessionModel) :
    SortFilterSessionModel :=
  setFilter qt p (if d.year < 1970 then ⊥ else d) m

def userPart : Part Filters QString := ⟨Filters.userFilter, fun t f => { f with userFilter := t }, fun _ => rfl⟩

def createDatePart : Part Filters QDate :=
  ⟨Filters.createDateFilter, fun d f => { f with createDateFilter := d }, fun _ => rfl⟩

def updateDatePart : Part Filters QDate :=
  ⟨Filters.updateDateFilter, fun d f => { f with updateDateFilter := d }, fun _ => rfl⟩

def fromDatePart : Part Filters QDate :=
  ⟨Filters.fromDateFilter, fun d f => { f with fromDateFilter := d }, fun _ => rfl⟩

def toDatePart : Part Filters QDate :=
  ⟨Filters.toDateFilter, fun d f => { f with toDateFilter := d }, fun _ => rfl⟩

def isActivePart : Part Filters QString :=
  ⟨Filters.isActiveFilter, fun t f => { f with isActiveFilter := t }, fun _ => rfl⟩

def srcEndpointPart : Part Filters QString :=
  ⟨Filters.srcEndpointFilter, fun t f => { f with srcEndpointFilter := t }, fun _ => rfl⟩

def dstEndpointPart : Part Filters QString :=
  ⟨Filters.dstEndpointFilter, fun t f => { f with dstEndpointFilter := t }, fun _ => rfl⟩

def bytesSentPart : Part Filters Int32 :=
  ⟨Filters.bytesSentFilter, fun n f => { f with bytesSentFilter := n }, fun _ => rfl⟩

def bytesRecvPart : Part Filters Int32 :=
  ⟨Filters.bytesRecvFilter, fun n f => { f with bytesRecvFilter := n }, fun _ => rfl⟩

def setUserFilter (qt : Qt) (filterText : QString) := setFilter qt userPart filterText

def setCreateDateFilter (qt : Qt) (createDate : QDate) := setDateFilter qt createDatePart createDate

def setUpdateDateFilter (qt : Qt) (updateDate : QDate) := setDateFilter qt updateDatePart updateDate

def setFromDateFilter (qt : Qt) (fromDate : QDate) := setDateFilter qt fromDatePart fromDate

def setToDateFilter (qt : Qt) (toDate : QDate) := setDateFilter qt toDatePart toDate

def setIsActiveFilter (qt : Qt) (isActive : QString) := setFilter qt isActivePart isActive

def setSrcEndpointFilter (qt : Qt) (srcEndpoint : QString) := setFilter qt srcEndpointPart srcEndpoint

def setDstEndpointFilter (qt : Qt) (dstEndpoint : QString) := setFilter qt dstEndpointPart dstEndpoint

def setBytesSentFilter (qt : Qt) (bytesSent : Int32) := setFilter qt bytesSentPart bytesSent

def setBytesRecvFilter (qt : Qt) (bytesRecv : Int32) := setFilter qt bytesRecvPart bytesRecv

end SortFilterSessionModel

end SocksProxy
