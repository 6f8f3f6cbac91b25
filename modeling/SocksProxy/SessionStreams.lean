import SocksProxy.ServerInvariants
import SocksProxy.RelayFidelity

namespace SocksProxy.SessionStreams

open RelaySession RelayLedgers RelayFidelity ServerFrames

structure Streams where
  arrivals : Side → Bytes := fun _ => []
  taken : Bytes := []
  replied : Bytes := []
  relaying : Bool := false

namespace Streams

def arrive (h : Streams) (d : Side) (bytes : Bytes) : Streams :=
  { h with arrivals := fun e => if e = d then h.arrivals e ++ bytes else h.arrivals e }

def socket (h : Streams) : SocketEvent → Streams
  | .arrive d bytes => h.arrive d bytes
  | _ => h

def take (h : Streams) (bytes : Bytes) : Streams := { h with taken := h.taken ++ bytes }

def reply (h : Streams) (bytes : Bytes) : Streams := { h with replied := h.replied ++ bytes }

def relay (h : Streams) : Streams := { h with relaying := true }

def head (h : Streams) : Side → Bytes
  | .client => h.taken
  | .server => []

def greeting (h : Streams) : Side → Bytes
  | .client => h.replied
  | .server => []

@[simp] theorem head_arrive (h : Streams) (d : Side) (bytes : Bytes) : (h.arrive d bytes).head = h.head := by
  funext e
  cases e <;> rfl

@[simp] theorem greeting_arrive (h : Streams) (d : Side) (bytes : Bytes) :
    (h.arrive d bytes).greeting = h.greeting := by
  funext e
  cases e <;> rfl

@[simp] theorem arrivals_arrive_same (h : Streams) (d : Side) (bytes : Bytes) :
    (h.arrive d bytes).arrivals d = h.arrivals d ++ bytes := by
  simp [arrive]

@[simp] theorem arrivals_arrive_other (h : Streams) (d : Side) (bytes : Bytes) :
    (h.arrive d bytes).arrivals d.other = h.arrivals d.other := by
  simp [arrive, other_ne]

@[simp] theorem greeting_socket (h : Streams) (e : SocketEvent) : (h.socket e).greeting = h.greeting := by
  cases e with
  | arrive d bytes => exact greeting_arrive h d bytes
  | transfer d size => rfl
  | readError d err => rfl

@[simp] theorem greeting_take (h : Streams) (bytes : Bytes) : (h.take bytes).greeting = h.greeting := by
  funext e
  cases e <;> rfl

@[simp] theorem greeting_relay (h : Streams) : h.relay.greeting = h.greeting := by
  funext e
  cases e <;> rfl

@[simp] theorem head_reply (h : Streams) (bytes : Bytes) : (h.reply bytes).head = h.head := by
  funext e
  cases e <;> rfl

end Streams

structure Flowing (h : Streams) (relayed : Side → Bytes) (r : RelaySession) : Prop where
  outgoing : ∀ d, (r.peer d.other).outgoing = h.greeting d.other ++ relayed d
  within : ∀ d, h.head d ++ relayed d <+: h.arrivals d
  live : r.isClosed = false → ∀ d,
    h.head d ++ relayed d ++ arrived (r.peer d) ++ (r.peer d).incoming = h.arrivals d
  shut : r.isClosed = true → ∀ d, (r.peer d).isOpen = false

theorem flowing_fresh {r : RelaySession} (hout : ∀ d, (r.peer d).outgoing = [])
    (hin : ∀ d, (r.peer d).incoming = []) (hread : ∀ d, (r.peer d).read = .idle)
    (hc : r.isClosed = false) : Flowing {} (fun _ => []) r where
  outgoing d := by
    rw [hout]
    cases d <;> rfl
  within d := by cases d <;> exact List.nil_prefix
  live _ d := by
    rw [hin, arrived, hread]
    cases d <;> rfl
  shut h := by
    rw [hc] at h
    cases h

section Flowing

variable {h : Streams} {relayed : Side → Bytes} {r : RelaySession}

theorem Flowing.set {d : Side} {p : Peer} (hf : Flowing h relayed r)
    (hopen : p.isOpen = (r.peer d).isOpen) (hout : p.outgoing = (r.peer d).outgoing)
    (hin : arrived p ++ p.incoming = arrived (r.peer d) ++ (r.peer d).incoming) :
    Flowing h relayed (r.setPeer d p) where
  outgoing e := by
    rw [← hf.outgoing e]
    rcases eq_or_eq_other d e.other with he | he
    · rw [he, peer_setPeer, hout]
    · rw [he, peer_setPeer_other]
  within := hf.within
  live hc e := by
    rw [setPeer_isClosed] at hc
    have hlive := hf.live hc e
    rcases eq_or_eq_other d e with rfl | rfl
    · rw [peer_setPeer, List.append_assoc, hin, ← List.append_assoc, hlive]
    · rw [peer_setPeer_other, hlive]
  shut hc e := by
    rw [setPeer_isClosed] at hc
    rw [(kept_setPeer hopen).isOpen e]
    exact hf.shut hc e

theorem Flowing.arrive (hf : Flowing h relayed r) (d : Side) (bytes : Bytes) :
    Flowing (h.arrive d bytes) relayed
      (r.setPeer d { r.peer d with incoming := (r.peer d).incoming ++ bytes }) where
  outgoing e := by
    rw [Streams.greeting_arrive, ← hf.outgoing e]
    rcases eq_or_eq_other d e.other with he | he
    · rw [he, peer_setPeer]
    · rw [he, peer_setPeer_other]
  within e := by
    rw [Streams.head_arrive]
    apply (hf.within e).trans
    rcases eq_or_eq_other d e with rfl | rfl
    · rw [Streams.arrivals_arrive_same]
      exact List.prefix_append _ _
    · rw [Streams.arrivals_arrive_other]
  live hc e := by
    rw [setPeer_isClosed] at hc
    have hlive := hf.live hc e
    rw [Streams.head_arrive]
    rcases eq_or_eq_other d e with rfl | rfl
    · rw [Streams.arrivals_arrive_same, ← hlive, peer_setPeer]
      simp only [arrived, List.append_assoc]
    · rw [Streams.arrivals_arrive_other, ← hlive, peer_setPeer_other]
  shut hc e := by
    rw [setPeer_isClosed] at hc
    rw [(kept_setPeer (r := r) (d := d) (p := { r.peer d with incoming := (r.peer d).incoming ++ bytes })
      rfl).isOpen e]
    exact hf.shut hc e

theorem Flowing.transfer {bufferSize size : ℕ} {d : Side} {r' : RelaySession} (hf : Flowing h relayed r)
    (ht : r.transfer bufferSize d size = some r') : Flowing h relayed r' := by
  obtain ⟨⟨hpending, -, hsize, -⟩, rfl⟩ := transfer_eq_some.mp ht
  apply hf.set
  · rfl
  · rfl
  · simp [arrived, hpending, hsize]

theorem Flowing.readError {d : Side} {err : ErrorCode} {r' : RelaySession} (hf : Flowing h relayed r)
    (ht : r.readError d err = some r') : Flowing h relayed r' := by
  obtain ⟨⟨hpending, -⟩, rfl⟩ := readError_eq_some.mp ht
  apply hf.set
  · rfl
  · rfl
  · simp [arrived, hpending]

theorem Flowing.startRead {d : Side} (hf : Flowing h relayed r) (hidle : (r.peer d).read = .idle) :
    Flowing h relayed (r.startRead d) := by
  rw [RelaySession.startRead]
  split_ifs
  · apply hf.set
    · rfl
    · rfl
    · simp [arrived, hidle]
  · exact hf

theorem Flowing.opened {d : Side} (hf : Flowing h relayed r) (hc : r.isClosed = false) :
    Flowing h relayed (r.opened d) where
  outgoing e := by
    rw [← hf.outgoing e, RelaySession.opened]
    rcases eq_or_eq_other d e.other with he | he
    · rw [he, peer_setPeer]
    · rw [he, peer_setPeer_other]
  within := hf.within
  live _ e := by
    rw [← hf.live hc e, RelaySession.opened]
    rcases eq_or_eq_other d e with rfl | rfl
    · rw [peer_setPeer]
      rfl
    · rw [peer_setPeer_other]
  shut hs := by
    rw [RelaySession.opened, setPeer_isClosed, hc] at hs
    cases hs

theorem Flowing.congr {r' : RelaySession} (hf : Flowing h relayed r) (hp : ∀ d, r'.peer d = r.peer d)
    (hc : r'.isClosed = r.isClosed) : Flowing h relayed r' where
  outgoing d := by
    rw [hp]
    exact hf.outgoing d
  within := hf.within
  live hl d := by
    rw [hp]
    exact hf.live (hc.symm.trans hl) d
  shut hs d := by
    rw [hp]
    exact hf.shut (hc.symm.trans hs) d

theorem Flowing.relay (hf : Flowing h relayed r) : Flowing h.relay relayed r where
  outgoing d := by
    rw [hf.outgoing d]
    cases d <;> rfl
  within d := by
    have hwithin := hf.within d
    cases d <;> exact hwithin
  live hl d := by
    have hlive := hf.live hl d
    cases d <;> exact hlive
  shut := hf.shut

theorem Flowing.close (hf : Flowing h relayed r) : Flowing h relayed r.close.1 := by
  cases hc : r.isClosed with
  | true =>
    rw [close_closed hc]
    exact hf
  | false =>
    rw [close_open hc]
    refine ⟨fun d => ?_, hf.within, fun hl => ?_, fun _ d => ?_⟩
    · rw [peer_shut, ← hf.outgoing d]
      rfl
    · cases hl
    · rw [peer_shut]
      rfl

def advanced (relayed : Side → Bytes) (d : Side) (bytes : Bytes) : Side → Bytes :=
  fun e => if e = d then relayed e ++ bytes else relayed e

@[simp] theorem advanced_same (relayed : Side → Bytes) (d : Side) (bytes : Bytes) :
    advanced relayed d bytes d = relayed d ++ bytes := by
  simp [advanced]

@[simp] theorem advanced_other (relayed : Side → Bytes) (d : Side) (bytes : Bytes) :
    advanced relayed d bytes d.other = relayed d.other := by
  simp [advanced, other_ne]

@[simp] theorem advanced_nil (relayed : Side → Bytes) (d : Side) : advanced relayed d [] = relayed := by
  funext e
  simp [advanced]

theorem outgoing_delivered (r : RelaySession) (hf : ∀ e, (r.peer e.other).outgoing = h.greeting e.other ++ relayed e)
    (d : Side) (bytes : Bytes) (e : Side) :
    (((r.popped d).delivered d.other bytes).peer e.other).outgoing =
      h.greeting e.other ++ advanced relayed d bytes e := by
  rcases eq_or_eq_other d e with rfl | rfl
  · rw [delivered, peer_setPeer, popped, peer_setPeer_other, hf, advanced_same, List.append_assoc]
  · have hout := hf d.other
    rw [other_other] at hout ⊢
    rw [delivered, peer_setPeer_of_other, popped, peer_setPeer, hout, advanced_other]

theorem within_advanced {d : Side} {bytes : Bytes} (hf : Flowing h relayed r) (hl : r.isClosed = false)
    (hb : bytes <+: arrived (r.peer d)) (e : Side) : h.head e ++ advanced relayed d bytes e <+: h.arrivals e := by
  rcases eq_or_eq_other d e with rfl | rfl
  · rw [advanced_same, ← hf.live hl e, ← List.append_assoc, List.append_assoc _ (arrived _)]
    apply (List.prefix_append_right_inj _).mpr
    exact hb.trans (List.prefix_append _ _)
  · rw [advanced_other]
    exact hf.within d.other

theorem arrived_ended {p : Peer} {c : Completion} (hready : p.read = .ready c)
    (hend : c.error.isSome ∨ c.bytes_transferred = 0) : arrived p = [] := by
  rw [arrived, hready]
  rcases hend with he | hz
  · simp [he]
  · simp [hz]

theorem Flowing.popped {d : Side} (hf : Flowing h relayed r) (hnil : arrived (r.peer d) = []) :
    Flowing h relayed (r.popped d) := by
  apply hf.set
  · rfl
  · rfl
  · rw [hnil]
    rfl

theorem Flowing.dispatch {d : Side} {o : WriteOutcome} {r' : RelaySession} {effects : List Effect}
    (hf : Flowing h relayed r) (hd : r.dispatch d o = some (r', effects)) :
    ∃ bytes, Flowing h (advanced relayed d bytes) r' := by
  obtain ⟨c, hready, hcases⟩ := dispatch_cases hd
  have hbuffer : ((r.popped d).peer d).buffer = (r.peer d).buffer := by
    rw [RelaySession.popped, peer_setPeer]
  have hclosed : ∀ bytes, ((r.popped d).delivered d.other bytes).isClosed = r.isClosed := by
    intro bytes
    rw [(kept_delivered _ _ _).isClosed, (kept_popped r d).isClosed]
  have hopened : ∀ bytes e, (((r.popped d).delivered d.other bytes).peer e).isOpen = (r.peer e).isOpen := by
    intro bytes e
    rw [(kept_delivered _ _ _).isOpen, (kept_popped r d).isOpen]
  cases hcases with
  | ended hend =>
    refine ⟨[], ?_⟩
    rw [advanced_nil]
    exact (hf.popped (arrived_ended hready hend)).close
  | forwarded bytes hc hn hopen hb =>
    rw [hbuffer, ← arrived_ready hready hc] at hb
    have hl : r.isClosed = false := by
      cases hs : r.isClosed with
      | false => rfl
      | true =>
        rw [(kept_popped r d).isOpen, hf.shut hs] at hopen
        cases hopen
    refine ⟨bytes, Flowing.startRead ⟨?_, within_advanced hf hl ?_, fun _ e => ?_, fun hs => ?_⟩ ?_⟩
    · exact outgoing_delivered r hf.outgoing d bytes
    · rw [hb]
    · rw [← hf.live hl e]
      rcases eq_or_eq_other d e with rfl | rfl
      · rw [delivered, peer_setPeer_of_other, RelaySession.popped, peer_setPeer, advanced_same, hb]
        simp [arrived]
      · rw [delivered, peer_setPeer, RelaySession.popped, peer_setPeer_other, advanced_other]
        rfl
    · rw [hclosed, hl] at hs
      cases hs
    · rw [delivered, peer_setPeer_of_other, RelaySession.popped, peer_setPeer]
  | lost bytes hc hn hb hshut =>
    rw [hbuffer, ← arrived_ready hready hc] at hb
    cases hl : r.isClosed with
    | false =>
      refine ⟨bytes, ?_⟩
      rw [close_open ((hclosed bytes).trans hl)]
      refine ⟨fun e => ?_, within_advanced hf hl hb, fun hs => ?_, fun _ e => ?_⟩
      · rw [peer_shut, ← outgoing_delivered r hf.outgoing d bytes]
        rfl
      · cases hs
      · rw [peer_shut]
        rfl
    -- the handler of a session that is closed finds the other socket closed
    | true =>
      have hnil : bytes = [] := by
        apply hshut
        rw [(kept_popped r d).isOpen]
        exact hf.shut hl d.other
      refine ⟨[], ?_⟩
      rw [advanced_nil, hnil, close_closed ((hclosed []).trans hl)]
      refine ⟨fun e => ?_, hf.within, fun hs => ?_, fun _ e => ?_⟩
      · rw [outgoing_delivered r hf.outgoing d [] e, advanced_nil]
      · rw [hclosed, hl] at hs
        cases hs
      · rw [hopened]
        exact hf.shut hl e

theorem Flowing.read {bytes : Bytes} (hf : Flowing h relayed r) (hq : relayed .client = [])
    (hidle : (r.peer .client).read = .idle) (hb : bytes <+: r.client.incoming) (hl : r.isClosed = false) :
    Flowing (h.take bytes) relayed
      (r.setPeer .client { r.client with incoming := r.client.incoming.drop bytes.length }) where
  outgoing d := by
    rw [Streams.greeting_take, ← hf.outgoing d]
    cases d <;> rfl
  within d := by
    cases d with
    | server => exact hf.within .server
    | client =>
      obtain ⟨rest, hrest⟩ := hb
      have hlive := hf.live hl .client
      rw [arrived, hidle, hq, show (r.peer .client).incoming = bytes ++ rest from hrest.symm] at hlive
      rw [hq, show (h.take bytes).arrivals .client = h.arrivals .client from rfl, ← hlive]
      simp [Streams.head, Streams.take]
  live _ d := by
    cases d with
    | server => exact hf.live hl .server
    | client =>
      obtain ⟨rest, hrest⟩ := hb
      have hlive := hf.live hl .client
      rw [arrived, hidle, hq, show (r.peer .client).incoming = bytes ++ rest from hrest.symm] at hlive
      rw [hq, show (h.take bytes).arrivals .client = h.arrivals .client from rfl, ← hlive, peer_setPeer, ← hrest]
      simp [Streams.head, Streams.take, arrived, show r.client.read = .idle from hidle]
  shut hs := by
    rw [setPeer_isClosed, hl] at hs
    cases hs

theorem Flowing.reply (hf : Flowing h relayed r) (hq : relayed .server = []) (bytes : Bytes) :
    Flowing (h.reply bytes) relayed (r.delivered .client bytes) where
  outgoing d := by
    have hout := hf.outgoing d
    cases d with
    | client => exact hout
    | server =>
      have hclient : r.client.outgoing = h.replied ++ relayed .server := hout
      change r.client.outgoing ++ bytes = h.replied ++ bytes ++ relayed .server
      rw [hclient, hq, List.append_nil, List.append_nil]
  within d := by
    rw [Streams.head_reply]
    exact hf.within d
  live hl d := by
    rw [(kept_delivered r .client bytes).isClosed] at hl
    rw [Streams.head_reply, show (h.reply bytes).arrivals d = h.arrivals d from rfl, ← hf.live hl d]
    cases d <;> rfl
  shut hs d := by
    rw [(kept_delivered r .client bytes).isClosed] at hs
    rw [(kept_delivered r .client bytes).isOpen]
    exact hf.shut hs d

end Flowing

end SocksProxy.SessionStreams
