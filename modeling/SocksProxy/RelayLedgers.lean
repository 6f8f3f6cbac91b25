import SocksProxy.RelaySession
import SocksProxy.TransitionSystems
import Mathlib.Algebra.BigOperators.Group.List.Basic

namespace SocksProxy.RelayLedgers

open TransitionSystems RelaySession

inductive RelayEvent
  | transfer (d : Side) (size : ℕ)
  | readError (d : Side) (err : ErrorCode)
  | dispatch (d : Side) (o : WriteOutcome)
  | serverRead
  deriving DecidableEq

/-- A session that relays, with what it has done: `chunks` are the bytes of the reads whose
handler ran before the session was closed. -/
structure Relay where
  session : RelaySession
  serverStarted : Bool := false
  trace : List Effect := []
  chunks : List (Side × Bytes) := []
  deriving DecidableEq

def arrived (p : Peer) : Bytes :=
  match p.read with
  | .ready c => if c.error.isSome then [] else p.buffer.take c.bytes_transferred
  | _ => []

def relayStep (bufferSize : ℕ) (r : Relay) : RelayEvent → Option Relay
  | .transfer d size => (r.session.transfer bufferSize d size).map fun s => { r with session := s }
  | .readError d err => (r.session.readError d err).map fun s => { r with session := s }
  | .dispatch d o => (r.session.dispatch d o).map fun (s, effects) =>
    { r with
      session := s
      trace := r.trace ++ effects
      chunks := if r.session.isClosed then r.chunks
        else r.chunks ++ [(d, arrived (r.session.peer d))] }
  | .serverRead => if r.serverStarted then none else
    some { r with session := r.session.serverRead, serverStarted := true }

theorem relayStep_cases {bufferSize : ℕ} {r r' : Relay} {e : RelayEvent}
    (hs : relayStep bufferSize r e = some r') :
    (∃ d o effects, e = .dispatch d o ∧ r.session.dispatch d o = some (r'.session, effects) ∧
      r'.trace = r.trace ++ effects) ∨ (Kept r.session r'.session ∧ r'.trace = r.trace) := by
  cases e with
  | transfer d size =>
    obtain ⟨s, ht, rfl⟩ := Option.map_eq_some_iff.mp hs
    exact .inr ⟨kept_transfer ht, rfl⟩
  | readError d err =>
    obtain ⟨s, ht, rfl⟩ := Option.map_eq_some_iff.mp hs
    exact .inr ⟨kept_readError ht, rfl⟩
  | serverRead =>
    rw [relayStep] at hs
    split_ifs at hs
    cases hs
    exact .inr ⟨kept_startRead _ _, rfl⟩
  | dispatch d o =>
    obtain ⟨⟨s, effects⟩, hd, rfl⟩ := Option.map_eq_some_iff.mp hs
    exact .inl ⟨d, o, effects, rfl, hd, rfl⟩

def machine (bufferSize : ℕ) : Machine Relay RelayEvent := ⟨relayStep bufferSize⟩

def relaying (bufferSize : ℕ) (id : Int64) (payload : Side → Bytes) : Relay where
  session :=
    { client := { isOpen := true, incoming := payload .client, buffer := List.replicate bufferSize 0,
                  read := .pending }
      server := { isOpen := true, incoming := payload .server, buffer := List.replicate bufferSize 0 }
      socks := some id }

def handled (chunks : List (Side × Bytes)) (d : Side) : Bytes :=
  chunks.flatMap fun c => if c.1 = d then c.2 else []

def written (trace : List Effect) (d : Side) : Bytes :=
  trace.flatMap fun
    | .wrote target bytes _ => if target = d then bytes else []
    | _ => []

def completed (trace : List Effect) (d : Side) : ℕ :=
  (trace.map fun
    | .wrote target bytes true => if target = d then bytes.length else 0
    | _ => 0).sum

def counted (trace : List Effect) (d : Side) : ℕ :=
  (trace.map fun
    | .writeStat bytes isServer => if isServer = (d == .server) then bytes else 0
    | _ => 0).sum

def WriteFailed (trace : List Effect) : Prop := ∃ d bytes, Effect.wrote d bytes false ∈ trace

structure Ledger (payload : Bytes) (chunks : List (Side × Bytes)) (trace : List Effect) (d : Side) :
    Prop where
  input : handled chunks d <+: payload
  output : written trace d.other <+: handled chunks d
  exact : ¬WriteFailed trace → written trace d.other = handled chunks d
  stats : counted trace d.other = completed trace d.other

structure Flow (payload : Bytes) (r : Relay) (d : Side) : Prop where
  ledger : Ledger payload r.chunks r.trace d
  socket : (r.session.peer d).isOpen = !r.session.isClosed
  sized : ∀ c, (r.session.peer d).read = .ready c → c.bytes_transferred ≤ (r.session.peer d).buffer.length
  live : r.session.isClosed = false →
    handled r.chunks d ++ arrived (r.session.peer d) ++ (r.session.peer d).incoming = payload
  outgoing : (r.session.peer d).outgoing = written r.trace d

structure Inv (payload : Side → Bytes) (r : Relay) : Prop where
  flow : ∀ d, Flow (payload d) r d
  unfailed : r.session.isClosed = false → ¬WriteFailed r.trace
  fresh : r.serverStarted = false → (r.session.peer .server).read = .idle

@[simp] theorem handled_append (xs ys : List (Side × Bytes)) (d : Side) :
    handled (xs ++ ys) d = handled xs d ++ handled ys d := List.flatMap_append

@[simp] theorem handled_singleton (e d : Side) (bytes : Bytes) :
    handled [(e, bytes)] d = if e = d then bytes else [] := by
  simp [handled]

@[simp] theorem written_append (xs ys : List Effect) (d : Side) :
    written (xs ++ ys) d = written xs d ++ written ys d := List.flatMap_append

@[simp] theorem written_wrote (t d : Side) (bytes : Bytes) (b : Bool) (es : List Effect) :
    written (.wrote t bytes b :: es) d = (if t = d then bytes else []) ++ written es d := by
  simp [written]

@[simp] theorem completed_append (xs ys : List Effect) (d : Side) :
    completed (xs ++ ys) d = completed xs d + completed ys d := by
  simp [completed]

@[simp] theorem counted_append (xs ys : List Effect) (d : Side) :
    counted (xs ++ ys) d = counted xs d + counted ys d := by
  simp [counted]

@[simp] theorem completed_wrote (t d : Side) (bytes : Bytes) (b : Bool) (es : List Effect) :
    completed (.wrote t bytes b :: es) d = (if b ∧ t = d then bytes.length else 0) + completed es d := by
  cases b <;> simp [completed]

@[simp] theorem counted_wrote (t d : Side) (bytes : Bytes) (b : Bool) (es : List Effect) :
    counted (.wrote t bytes b :: es) d = counted es d := by
  simp [counted]

@[simp] theorem writeFailed_append (xs ys : List Effect) :
    WriteFailed (xs ++ ys) ↔ WriteFailed xs ∨ WriteFailed ys := by
  simp only [WriteFailed, List.mem_append, exists_or]

@[simp] theorem writeFailed_completed (t : Side) (bytes : Bytes) (es : List Effect) :
    WriteFailed (.wrote t bytes true :: es) ↔ WriteFailed es := by
  simp [WriteFailed]

structure Silent (es : List Effect) : Prop where
  written : ∀ d, written es d = []
  completed : ∀ d, completed es d = 0
  counted : ∀ d, counted es d = 0
  unfailed : ¬WriteFailed es

theorem silent_close (s : RelaySession) : Silent s.close.2 := by
  have hsilent : Silent (closeSocks s.socks ++ [.decrement]) := by
    rcases s.socks with _ | id
    · refine ⟨fun _ => rfl, fun _ => rfl, fun _ => rfl, ?_⟩
      simp [WriteFailed, closeSocks]
    · rw [closeSocks]
      split_ifs
      · refine ⟨fun _ => rfl, fun _ => rfl, fun _ => rfl, ?_⟩
        simp [WriteFailed]
      · refine ⟨fun _ => rfl, fun _ => rfl, fun _ => rfl, ?_⟩
        simp [WriteFailed]
  cases hc : s.isClosed with
  | true =>
    rw [close_closed hc]
    exact ⟨fun _ => rfl, fun _ => rfl, fun _ => rfl, by simp [WriteFailed]⟩
  | false =>
    rw [close_open hc]
    exact hsilent

theorem writeStat_counts (s : RelaySession) (n : ℕ) (b : Bool) (d : Side) :
    written (s.writeStat n b) d = [] ∧ completed (s.writeStat n b) d = 0 ∧
      counted (s.writeStat n b) d = (if b = (d == .server) then n else 0) ∧
      ¬WriteFailed (s.writeStat n b) := by
  rw [writeStat]
  rcases s.socks with _ | id
  · simp [written, completed, counted, WriteFailed]
  · simp only
    split_ifs <;> simp_all [written, completed, counted, WriteFailed]

theorem eq_or_eq_other (d e : Side) : e = d ∨ e = d.other := by
  cases d <;> cases e <;> simp [Side.other]

theorem other_ne (d : Side) : d.other ≠ d := by
  cases d <;> simp [Side.other]

@[simp] theorem other_other (d : Side) : d.other.other = d := by
  cases d <;> rfl

theorem inv_relaying (bufferSize : ℕ) (id : Int64) (payload : Side → Bytes) :
    Inv payload (relaying bufferSize id payload) := by
  refine ⟨fun d => ?_, fun _ => ?_, fun _ => rfl⟩
  · cases d
    all_goals
      refine ⟨⟨List.nil_prefix, List.prefix_rfl, fun _ => rfl, rfl⟩, rfl, ?_, fun _ => rfl, rfl⟩
      intro c hc
      cases hc
  · rintro ⟨d, bytes, h⟩
    cases h

theorem Ledger.silent {payload : Bytes} {chunks chunks' : List (Side × Bytes)} {trace es : List Effect}
    {d : Side} (h : Ledger payload chunks trace d) (hes : Silent es)
    (hc : handled chunks' d = handled chunks d) : Ledger payload chunks' (trace ++ es) d where
  input := hc ▸ h.input
  output := by
    rw [written_append, hes.written, List.append_nil, hc]
    exact h.output
  exact hf := by
    rw [written_append, hes.written, List.append_nil, hc]
    apply h.exact
    intro hfail
    exact hf ((writeFailed_append trace es).mpr (.inl hfail))
  stats := by
    rw [counted_append, completed_append, hes.counted, hes.completed]
    exact h.stats

theorem Ledger.aside {payload bytes : Bytes} {chunks chunks' : List (Side × Bytes)} {trace es : List Effect}
    {d : Side} {b : Bool} (h : Ledger payload chunks trace d.other)
    (hc : handled chunks' d.other = handled chunks d.other) (hw : written es d = [])
    (hcompleted : completed es d = 0) (hcounted : counted es d = 0) :
    Ledger payload chunks' (trace ++ .wrote d.other bytes b :: es) d.other := by
  have hwritten : written (trace ++ .wrote d.other bytes b :: es) d.other.other = written trace d.other.other := by
    simp [hw, other_ne]
  refine ⟨?_, ?_, fun hf => ?_, ?_⟩
  · rw [hc]
    exact h.input
  · rw [hc, hwritten]
    exact h.output
  · rw [hc, hwritten]
    apply h.exact
    intro hfail
    exact hf ((writeFailed_append _ _).mpr (.inl hfail))
  · have hstats := h.stats
    rw [other_other] at hstats ⊢
    simp [hcounted, hcompleted, hstats, other_ne]

theorem Ledger.forward {payload bytes : Bytes} {chunks : List (Side × Bytes)} {trace es : List Effect}
    {d : Side} (h : Ledger payload chunks trace d) (hf : ¬WriteFailed trace)
    (hp : handled chunks d ++ bytes <+: payload) (hw : written es d.other = [])
    (hcompleted : completed es d.other = 0) (hcounted : counted es d.other = bytes.length) :
    Ledger payload (chunks ++ [(d, bytes)]) (trace ++ .wrote d.other bytes true :: es) d := by
  have hexact := h.exact hf
  have hwritten : written (trace ++ .wrote d.other bytes true :: es) d.other =
      handled (chunks ++ [(d, bytes)]) d := by
    simp [hw, hexact]
  refine ⟨?_, ?_, fun _ => hwritten, ?_⟩
  · rw [handled_append, handled_singleton, if_pos rfl]
    exact hp
  · rw [hwritten]
  · rw [counted_append, completed_append, counted_wrote, completed_wrote, hcounted, hcompleted, h.stats,
      if_pos (by simp)]
    omega

theorem Flow.frame {payload : Bytes} {r r' : Relay} {d : Side} (h : Flow payload r d)
    (hp : r'.session.peer d = r.session.peer d) (hclosed : r'.session.isClosed = r.session.isClosed)
    (hc : r'.chunks = r.chunks) (ht : r'.trace = r.trace) : Flow payload r' d where
  ledger := by
    rw [hc, ht]
    exact h.ledger
  socket := by
    rw [hp, hclosed]
    exact h.socket
  sized := by
    rw [hp]
    exact h.sized
  live := by
    rw [hp, hclosed, hc]
    exact h.live
  outgoing := by
    rw [hp, ht]
    exact h.outgoing

theorem inv_transfer {payload : Side → Bytes} {r : Relay} {s : RelaySession} {bufferSize size : ℕ}
    {d : Side} (h : Inv payload r) (hs : r.session.transfer bufferSize d size = some s) :
    Inv payload { r with session := s } := by
  obtain ⟨⟨hpending, -, hsize, -⟩, rfl⟩ := transfer_eq_some.mp hs
  refine ⟨fun e => ?_, fun hc => h.unfailed (by simpa using hc), fun hf => ?_⟩
  · rcases eq_or_eq_other d e with rfl | rfl
    · have hflow := h.flow e
      have harrived : arrived (r.session.peer e) = [] := by rw [arrived, hpending]
      refine ⟨hflow.ledger, ?_, ?_, ?_, ?_⟩
      · simpa using hflow.socket
      · intro c hc
        simp only [peer_setPeer, ReadOp.ready.injEq] at hc ⊢
        rw [← hc]
        simp
        omega
      · intro hc
        have hlive := hflow.live (by simpa using hc)
        rw [harrived, List.append_nil] at hlive
        simpa [arrived, List.take_append_of_le_length, hsize] using hlive
      · simpa using hflow.outgoing
    · exact (h.flow d.other).frame (by simp) (by simp) rfl rfl
  · cases d with
    | client => exact h.fresh hf
    | server =>
      rw [h.fresh hf] at hpending
      cases hpending

theorem inv_readError {payload : Side → Bytes} {r : Relay} {s : RelaySession} {d : Side}
    {err : ErrorCode} (h : Inv payload r) (hs : r.session.readError d err = some s) :
    Inv payload { r with session := s } := by
  obtain ⟨⟨hpending, -⟩, rfl⟩ := readError_eq_some.mp hs
  refine ⟨fun e => ?_, fun hc => h.unfailed (by simpa using hc), fun hf => ?_⟩
  · rcases eq_or_eq_other d e with rfl | rfl
    · have hflow := h.flow e
      have harrived : arrived (r.session.peer e) = [] := by rw [arrived, hpending]
      refine ⟨hflow.ledger, ?_, ?_, ?_, ?_⟩
      · simpa using hflow.socket
      · intro c hc
        simp only [peer_setPeer, ReadOp.ready.injEq] at hc ⊢
        rw [← hc]
        exact Nat.zero_le _
      · intro hc
        have hlive := hflow.live (by simpa using hc)
        rw [harrived] at hlive
        simpa [arrived] using hlive
      · simpa using hflow.outgoing
    · exact (h.flow d.other).frame (by simp) (by simp) rfl rfl
  · cases d with
    | client => exact h.fresh hf
    | server =>
      rw [h.fresh hf] at hpending
      cases hpending

theorem Flow.startRead {payload : Bytes} {r : Relay} {d e : Side} (h : Flow payload r e)
    (hidle : (r.session.peer d).read = .idle) (b : Bool) :
    Flow payload { r with session := r.session.startRead d, serverStarted := b } e := by
  by_cases hopen : (r.session.peer d).isOpen = true
  · have hs : r.session.startRead d = r.session.setPeer d { r.session.peer d with read := .pending } := by
      rw [RelaySession.startRead, if_pos hopen]
    rcases eq_or_eq_other d e with rfl | rfl
    · have harrived : arrived (r.session.peer e) = [] := by rw [arrived, hidle]
      refine ⟨h.ledger, ?_, ?_, ?_, ?_⟩
      · simpa [hs] using h.socket
      · intro c hc
        simp [hs] at hc
      · intro hc
        have hlive := h.live (by simpa [hs] using hc)
        rw [harrived] at hlive
        simpa [hs, arrived] using hlive
      · simpa [hs] using h.outgoing
    · exact h.frame (by simp [hs]) (by simp [hs]) rfl rfl
  · have hs : r.session.startRead d = r.session := by
      rw [RelaySession.startRead, if_neg hopen]
    exact h.frame (by simp [hs]) (by simp [hs]) rfl rfl

theorem inv_serverRead {payload : Side → Bytes} {r : Relay} (h : Inv payload r)
    (hs : r.serverStarted = false) :
    Inv payload { r with session := r.session.serverRead, serverStarted := true } := by
  refine ⟨fun e => (h.flow e).startRead (h.fresh hs) true, fun hc => h.unfailed ?_, fun hf => by cases hf⟩
  rwa [serverRead, (kept_startRead _ _).isClosed] at hc

theorem closeSocket_ready {p : Peer} {c : Completion} (h : (closeSocket p).read = .ready c) :
    p.read = .ready c ∨ c.bytes_transferred = 0 := by
  simp only [closeSocket] at h
  split at h
  · rw [ReadOp.ready.injEq] at h
    exact .inr (by rw [← h])
  · exact .inl h

theorem Flow.of_close {payload : Bytes} {s : RelaySession} {b : Bool} {trace : List Effect}
    {chunks : List (Side × Bytes)} {d : Side} (hl : Ledger payload chunks trace d)
    (hsocket : (s.peer d).isOpen = !s.isClosed)
    (hsized : ∀ c, (s.peer d).read = .ready c → c.bytes_transferred ≤ (s.peer d).buffer.length)
    (hout : (s.peer d).outgoing = written trace d) :
    Flow payload ⟨s.close.1, b, trace, chunks⟩ d where
  ledger := hl
  socket := by
    cases hc : s.isClosed with
    | true => rw [close_closed hc, hsocket]
    | false =>
      rw [close_open hc, peer_shut]
      rfl
  sized c hread := by
    rcases close_peer s d with hp | hp
    · rw [hp] at hread ⊢
      exact hsized c hread
    · rw [hp] at hread ⊢
      rcases closeSocket_ready hread with hread | hz
      · exact hsized c hread
      · rw [hz]
        exact Nat.zero_le _
  live hc := by
    rw [close_isClosed] at hc
    cases hc
  outgoing := by
    rcases close_peer s d with hp | hp
    · rw [hp]
      exact hout
    · rw [hp]
      exact hout

theorem Flow.after_pop {payload : Bytes} {r : Relay} {d : Side} (e : Side) (h : Flow payload r d) :
    ((popped r.session e).peer d).isOpen = (!(popped r.session e).isClosed) ∧
      (∀ c, ((popped r.session e).peer d).read = .ready c →
        c.bytes_transferred ≤ ((popped r.session e).peer d).buffer.length) ∧
      ((popped r.session e).peer d).outgoing = written r.trace d := by
  rcases eq_or_eq_other e d with rfl | rfl
  · refine ⟨by simpa [RelaySession.popped] using h.socket, ?_,
      by simpa [RelaySession.popped] using h.outgoing⟩
    intro c hc
    simp [RelaySession.popped] at hc
  · exact ⟨by simpa [RelaySession.popped] using h.socket, by simpa [RelaySession.popped] using h.sized,
      by simpa [RelaySession.popped] using h.outgoing⟩

def chunksAfter (r : Relay) (d : Side) : List (Side × Bytes) :=
  if r.session.isClosed then r.chunks else r.chunks ++ [(d, arrived (r.session.peer d))]

theorem handled_chunksAfter_other (r : Relay) (d : Side) :
    handled (chunksAfter r d) d.other = handled r.chunks d.other := by
  rw [chunksAfter]
  split_ifs
  · rfl
  · rw [handled_append, handled_singleton, if_neg (other_ne d).symm, List.append_nil]

theorem handled_chunksAfter_nil {r : Relay} {d : Side} (h : arrived (r.session.peer d) = []) (e : Side) :
    handled (chunksAfter r d) e = handled r.chunks e := by
  rw [chunksAfter]
  split_ifs
  · rfl
  · rw [handled_append, handled_singleton, h, ite_self, List.append_nil]

theorem Inv.client_ready {payload : Side → Bytes} {r : Relay} {d : Side} {c : Completion}
    (h : Inv payload r) (hready : (r.session.peer d).read = .ready c) (hf : r.serverStarted = false) :
    d = .client ∧ (r.session.peer .server).read = .idle := by
  have hidle := h.fresh hf
  refine ⟨?_, hidle⟩
  cases d with
  | client => rfl
  | server =>
    rw [hidle] at hready
    cases hready

end SocksProxy.RelayLedgers
