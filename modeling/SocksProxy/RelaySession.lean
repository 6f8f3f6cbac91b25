import SocksProxy.SessionSockets

namespace SocksProxy

inductive Side
  | client
  | server
  deriving DecidableEq

def Side.other : Side → Side
  | .client => .server
  | .server => .client

structure Completion where
  error : Option ErrorCode
  bytes_transferred : ℕ
  deriving DecidableEq

inductive ReadOp
  | idle
  | pending
  | ready (completion : Completion)
  deriving DecidableEq

structure Peer where
  isOpen : Bool := false
  incoming : Bytes := []
  buffer : Bytes := []
  read : ReadOp := .idle
  outgoing : Bytes := []
  deriving DecidableEq

inductive WriteOutcome
  | whole
  | failed (sent : ℕ)
  deriving DecidableEq

inductive Effect
  | wrote (target : Side) (bytes : Bytes) (completed : Bool)
  | writeStat (bytes : ℕ) (isServer : Bool)
  | update (id : Int64) (bytes : UInt64) (dest : Dest)
  | closeRecord (id : Int64)
  | decrement
  deriving DecidableEq

structure RelaySession where
  client : Peer := {}
  server : Peer := {}
  socks : Option Int64 := none
  isClosed : Bool := false
  deriving DecidableEq

namespace RelaySession

def peer (s : RelaySession) : Side → Peer
  | .client => s.client
  | .server => s.server

def setPeer (s : RelaySession) : Side → Peer → RelaySession
  | .client, p => { s with client := p }
  | .server, p => { s with server := p }

@[simp] theorem peer_setPeer (s : RelaySession) (d : Side) (p : Peer) : (s.setPeer d p).peer d = p := by
  cases d <;> rfl

@[simp] theorem peer_setPeer_other (s : RelaySession) (d : Side) (p : Peer) :
    (s.setPeer d p).peer d.other = s.peer d.other := by
  cases d <;> rfl

@[simp] theorem peer_setPeer_of_other (s : RelaySession) (d : Side) (p : Peer) :
    (s.setPeer d.other p).peer d = s.peer d := by
  cases d <;> rfl

@[simp] theorem setPeer_socks (s : RelaySession) (d : Side) (p : Peer) :
    (s.setPeer d p).socks = s.socks := by
  cases d <;> rfl

@[simp] theorem setPeer_isClosed (s : RelaySession) (d : Side) (p : Peer) :
    (s.setPeer d p).isClosed = s.isClosed := by
  cases d <;> rfl

def startRead (d : Side) (s : RelaySession) : RelaySession :=
  if (s.peer d).isOpen then s.setPeer d { s.peer d with read := .pending } else s

def clientRead : RelaySession → RelaySession := startRead .client

def serverRead : RelaySession → RelaySession := startRead .server

def writeStat (s : RelaySession) (bytes : ℕ) (isServer : Bool) : List Effect :=
  .writeStat bytes isServer :: match s.socks with
    | none => []
    | some id => if id = 0 then [] else
      [.update id (.ofNat bytes) (if isServer then .toServer else .toClient)]

def sent (p : Peer) (bytes : Bytes) : WriteOutcome → Bytes × Bool
  | .whole => if p.isOpen then (bytes, true) else ([], false)
  | .failed n => if p.isOpen then (bytes.take n, false) else ([], false)

def writeToSocket (target : Side) (buffer : Bytes) (len : ℕ) (isServer : Bool) (o : WriteOutcome)
    (s : RelaySession) : Bool × RelaySession × List Effect :=
  let p := s.peer target
  let (bytes, completed) := sent p (buffer.take len) o
  let s := s.setPeer target { p with outgoing := p.outgoing ++ bytes }
  let effects := [.wrote target bytes completed]
  if completed then (true, s, effects ++ s.writeStat len isServer) else (false, s, effects)

/-- Closing a socket ends its read in progress; a handler already queued stays queued. -/
def closeSocket (p : Peer) : Peer :=
  { p with isOpen := false, read := match p.read with
    | .pending => .ready ⟨some .operationAborted, 0⟩
    | r => r }

def closeSocks : Option Int64 → List Effect
  | none => []
  | some id => if id = 0 then [] else [.closeRecord id]

def close (s : RelaySession) : RelaySession × List Effect :=
  if s.isClosed then (s, []) else
    ({ client := closeSocket s.client, server := closeSocket s.server,
       socks := s.socks.map fun _ => 0, isClosed := true }, closeSocks s.socks ++ [.decrement])

def handle (d : Side) (c : Completion) (o : WriteOutcome) (s : RelaySession) :
    RelaySession × List Effect :=
  if c.error.isSome then s.close
  else if c.bytes_transferred > 0 then
    let (ok, s, effects) :=
      s.writeToSocket d.other (s.peer d).buffer c.bytes_transferred (d == .client) o
    if ok then (s.startRead d, effects)
    else
      let (s, effects') := s.close
      (s, effects ++ effects')
  else s.close

def clientHandle : Completion → WriteOutcome → RelaySession → RelaySession × List Effect :=
  handle .client

def serverHandle : Completion → WriteOutcome → RelaySession → RelaySession × List Effect :=
  handle .server

def handler : Side → Completion → WriteOutcome → RelaySession → RelaySession × List Effect
  | .client => clientHandle
  | .server => serverHandle

theorem handler_eq (d : Side) : handler d = handle d := by
  cases d <;> rfl

/-- A read in progress gets `size` bytes; without room in the buffer it ends at once. -/
def transfer (bufferSize : ℕ) (d : Side) (size : ℕ) (s : RelaySession) : Option RelaySession :=
  let p := s.peer d
  if p.read = .pending ∧ size ≤ bufferSize ∧ size ≤ p.incoming.length ∧ (size = 0 → bufferSize = 0) then
    some (s.setPeer d { p with
      incoming := p.incoming.drop size
      buffer := p.incoming.take size ++ p.buffer.drop size
      read := .ready ⟨none, size⟩ })
  else none

/-- A read in progress fails; it meets the end of the stream only behind all of it. -/
def readError (d : Side) (err : ErrorCode) (s : RelaySession) : Option RelaySession :=
  let p := s.peer d
  if p.read = .pending ∧ (err = .eof → p.incoming = []) then
    some (s.setPeer d { p with read := .ready ⟨some err, 0⟩ })
  else none

theorem transfer_eq_some {bufferSize size : ℕ} {d : Side} {s t : RelaySession} :
    s.transfer bufferSize d size = some t ↔
      ((s.peer d).read = .pending ∧ size ≤ bufferSize ∧ size ≤ (s.peer d).incoming.length ∧
        (size = 0 → bufferSize = 0)) ∧
      s.setPeer d { s.peer d with
        incoming := (s.peer d).incoming.drop size
        buffer := (s.peer d).incoming.take size ++ (s.peer d).buffer.drop size
        read := .ready ⟨none, size⟩ } = t := by
  simp only [transfer, Option.ite_none_right_eq_some, Option.some.injEq]

theorem readError_eq_some {d : Side} {err : ErrorCode} {s t : RelaySession} :
    s.readError d err = some t ↔
      ((s.peer d).read = .pending ∧ (err = .eof → (s.peer d).incoming = [])) ∧
      s.setPeer d { s.peer d with read := .ready ⟨some err, 0⟩ } = t := by
  simp only [readError, Option.ite_none_right_eq_some, Option.some.injEq]

def dispatch (d : Side) (o : WriteOutcome) (s : RelaySession) : Option (RelaySession × List Effect) :=
  match (s.peer d).read with
  | .ready c => some (handler d c o (s.setPeer d { s.peer d with read := .idle }))
  | _ => none

theorem close_closed {s : RelaySession} (h : s.isClosed = true) : s.close = (s, []) := by
  rw [close, if_pos h]

def shut (s : RelaySession) : RelaySession where
  client := closeSocket s.client
  server := closeSocket s.server
  socks := s.socks.map fun _ => 0
  isClosed := true

theorem close_open {s : RelaySession} (h : s.isClosed = false) :
    s.close = (s.shut, closeSocks s.socks ++ [.decrement]) := by
  rw [close, if_neg (by simp [h])]
  rfl

@[simp] theorem peer_shut (s : RelaySession) (d : Side) : s.shut.peer d = closeSocket (s.peer d) := by
  cases d <;> rfl

theorem close_isClosed (s : RelaySession) : s.close.1.isClosed = true := by
  cases hc : s.isClosed with
  | true => rw [close_closed hc, hc]
  | false =>
    rw [close_open hc]
    rfl

theorem close_peer (s : RelaySession) (d : Side) :
    s.close.1.peer d = s.peer d ∨ s.close.1.peer d = closeSocket (s.peer d) := by
  cases hc : s.isClosed with
  | true => exact .inl (by rw [close_closed hc])
  | false => exact .inr (by rw [close_open hc, peer_shut])

theorem close_idle {s : RelaySession} {d : Side} (h : (s.peer d).read = .idle) :
    (s.close.1.peer d).read = .idle := by
  rcases close_peer s d with hp | hp
  · rw [hp, h]
  · rw [hp, closeSocket, h]

def popped (s : RelaySession) (d : Side) : RelaySession :=
  s.setPeer d { s.peer d with read := .idle }

def delivered (s : RelaySession) (d : Side) (bytes : Bytes) : RelaySession :=
  s.setPeer d { s.peer d with outgoing := (s.peer d).outgoing ++ bytes }

inductive Handled (d : Side) (c : Completion) (s : RelaySession) : RelaySession → List Effect → Prop
  | ended (h : c.error.isSome ∨ c.bytes_transferred = 0) : Handled d c s s.close.1 s.close.2
  | forwarded (bytes : Bytes) (hc : c.error = none) (hn : 0 < c.bytes_transferred)
    (hopen : (s.peer d.other).isOpen = true)
    (hb : bytes = (s.peer d).buffer.take c.bytes_transferred) :
    Handled d c s ((s.delivered d.other bytes).startRead d)
      (.wrote d.other bytes true :: s.writeStat c.bytes_transferred (d == .client))
  | lost (bytes : Bytes) (hc : c.error = none) (hn : 0 < c.bytes_transferred)
    (hb : bytes <+: (s.peer d).buffer.take c.bytes_transferred)
    (hshut : (s.peer d.other).isOpen = false → bytes = []) :
    Handled d c s (s.delivered d.other bytes).close.1
      (.wrote d.other bytes false :: (s.delivered d.other bytes).close.2)

structure Kept (r r' : RelaySession) : Prop where
  isClosed : r'.isClosed = r.isClosed
  socks : r'.socks = r.socks
  isOpen : ∀ d, (r'.peer d).isOpen = (r.peer d).isOpen

theorem Kept.refl (r : RelaySession) : Kept r r := ⟨rfl, rfl, fun _ => rfl⟩

theorem Kept.trans {r r' r'' : RelaySession} (h : Kept r r') (k : Kept r' r'') : Kept r r'' where
  isClosed := k.isClosed.trans h.isClosed
  socks := k.socks.trans h.socks
  isOpen d := (k.isOpen d).trans (h.isOpen d)

theorem kept_setPeer {r : RelaySession} {d : Side} {p : Peer} (h : p.isOpen = (r.peer d).isOpen) :
    Kept r (r.setPeer d p) := by
  refine ⟨by simp, by simp, fun e => ?_⟩
  cases d <;> cases e <;> first | exact h | rfl

theorem kept_transfer {bufferSize size : ℕ} {d : Side} {r r' : RelaySession}
    (h : r.transfer bufferSize d size = some r') : Kept r r' := by
  obtain ⟨-, rfl⟩ := transfer_eq_some.mp h
  exact kept_setPeer rfl

theorem kept_readError {d : Side} {err : ErrorCode} {r r' : RelaySession} (h : r.readError d err = some r') :
    Kept r r' := by
  obtain ⟨-, rfl⟩ := readError_eq_some.mp h
  exact kept_setPeer rfl

theorem kept_popped (r : RelaySession) (d : Side) : Kept r (r.popped d) := kept_setPeer rfl

theorem kept_startRead (r : RelaySession) (d : Side) : Kept r (r.startRead d) := by
  rw [startRead]
  split_ifs
  · exact kept_setPeer rfl
  · exact .refl r

theorem startRead_server (r : RelaySession) : (r.startRead .server).client = r.client := by
  rw [startRead]
  split_ifs <;> rfl

theorem startRead_client {r : RelaySession} (h : (r.peer .client).isOpen = true) :
    (r.startRead .client).client.read = .pending := by
  rw [startRead, if_pos h]
  rfl

theorem kept_delivered (r : RelaySession) (d : Side) (bytes : Bytes) : Kept r (r.delivered d bytes) :=
  kept_setPeer rfl

theorem read_setPeer {r : RelaySession} {d : Side} {p : Peer}
    (h : p.read = .idle ↔ (r.peer d).read = .idle) (e : Side) :
    ((r.setPeer d p).peer e).read = .idle ↔ (r.peer e).read = .idle := by
  cases d <;> cases e <;> first | exact h | rfl

theorem writeStat_congr {r r' : RelaySession} (h : r'.socks = r.socks) (n : ℕ) (b : Bool) :
    r'.writeStat n b = r.writeStat n b := by
  rw [writeStat, writeStat, h]

theorem writeStat_delivered (s : RelaySession) (d : Side) (bytes : Bytes) (n : ℕ) (b : Bool) :
    (s.delivered d bytes).writeStat n b = s.writeStat n b := by
  exact writeStat_congr (kept_delivered s d bytes).socks n b

theorem handle_cases (d : Side) (c : Completion) (o : WriteOutcome) (s : RelaySession) :
    Handled d c s (s.handle d c o).1 (s.handle d c o).2 := by
  by_cases he : c.error.isSome
  · rw [handle, if_pos he]
    exact .ended (.inl he)
  have hc : c.error = none := by simpa using he
  by_cases hn : c.bytes_transferred > 0
  · have hlost : ∀ bytes, sent (s.peer d.other) ((s.peer d).buffer.take c.bytes_transferred) o =
        (bytes, false) → s.handle d c o = ((s.delivered d.other bytes).close.1,
          .wrote d.other bytes false :: (s.delivered d.other bytes).close.2) := by
      intro bytes hsent
      rw [handle, if_neg he, if_pos hn, writeToSocket, hsent]
      rfl
    by_cases hopen : (s.peer d.other).isOpen = true
    · cases o with
      | whole =>
        have hwhole : s.handle d c .whole = ((s.delivered d.other
            ((s.peer d).buffer.take c.bytes_transferred)).startRead d,
            .wrote d.other ((s.peer d).buffer.take c.bytes_transferred) true ::
              s.writeStat c.bytes_transferred (d == .client)) := by
          rw [handle, if_neg he, if_pos hn, writeToSocket, sent, if_pos hopen,
            ← writeStat_delivered s d.other]
          rfl
        rw [hwhole]
        exact .forwarded _ hc hn hopen rfl
      | failed n =>
        rw [hlost _ (by rw [sent, if_pos hopen])]
        refine .lost _ hc hn (List.take_prefix _ _) fun h => ?_
        rw [hopen] at h
        cases h
    · have hsent : sent (s.peer d.other) ((s.peer d).buffer.take c.bytes_transferred) o = ([], false) := by
        cases o <;> rw [sent, if_neg hopen]
      rw [hlost [] hsent]
      exact .lost [] hc hn List.nil_prefix fun _ => rfl
  · rw [handle, if_neg he, if_neg hn]
    exact .ended (.inr (by omega))

theorem dispatch_cases {d : Side} {o : WriteOutcome} {s r : RelaySession} {effects : List Effect}
    (h : s.dispatch d o = some (r, effects)) :
    ∃ c, (s.peer d).read = .ready c ∧ Handled d c (s.popped d) r effects := by
  rw [dispatch] at h
  split at h
  case h_1 c hready =>
    rw [handler_eq, Option.some.injEq] at h
    refine ⟨c, hready, ?_⟩
    have hcases := handle_cases d c o (s.popped d)
    rwa [popped, h, ← popped] at hcases
  case h_2 => cases h

end RelaySession

end SocksProxy
