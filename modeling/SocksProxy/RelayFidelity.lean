import SocksProxy.RelayLedgers

namespace SocksProxy.RelayFidelity

open TransitionSystems RelaySession RelayLedgers

theorem inv_ended {payload : Side → Bytes} {r : Relay} {d : Side} {c : Completion}
    (h : Inv payload r) (hready : (r.session.peer d).read = .ready c)
    (hend : c.error.isSome ∨ c.bytes_transferred = 0) :
    Inv payload { r with
      session := (popped r.session d).close.1
      trace := r.trace ++ (popped r.session d).close.2
      chunks := chunksAfter r d } := by
  have hsilent := silent_close (popped r.session d)
  have hnil : arrived (r.session.peer d) = [] := by
    rw [arrived, hready]
    rcases hend with he | hz
    · simp [he]
    · simp [hz]
  refine ⟨fun e => ?_, fun hc => ?_, fun hf => ?_⟩
  · obtain ⟨hsocket, hsized, hout⟩ := (h.flow e).after_pop d
    apply Flow.of_close ((h.flow e).ledger.silent hsilent (handled_chunksAfter_nil hnil e)) hsocket hsized
    rw [hout, written_append, hsilent.written, List.append_nil]
  · rw [close_isClosed] at hc
    cases hc
  · obtain ⟨rfl, hidle⟩ := h.client_ready hready hf
    exact close_idle hidle

theorem delivered_peer (s : RelaySession) (d : Side) (bytes : Bytes) :
    (s.delivered d bytes).peer d = { s.peer d with outgoing := (s.peer d).outgoing ++ bytes } := by
  rw [delivered, peer_setPeer]

theorem delivered_peer_other (s : RelaySession) (d : Side) (bytes : Bytes) :
    (s.delivered d.other bytes).peer d = s.peer d := by
  rw [delivered, peer_setPeer_of_other]

theorem after_delivery {payload : Side → Bytes} {r : Relay} (h : ∀ e, Flow (payload e) r e) (d : Side)
    (bytes : Bytes) (b : Bool) {es : List Effect} (hes : ∀ e, written es e = []) (e : Side) :
    (((popped r.session d).delivered d.other bytes).peer e).isOpen =
        (!((popped r.session d).delivered d.other bytes).isClosed) ∧
      (∀ c, (((popped r.session d).delivered d.other bytes).peer e).read = .ready c →
        c.bytes_transferred ≤ (((popped r.session d).delivered d.other bytes).peer e).buffer.length) ∧
      (((popped r.session d).delivered d.other bytes).peer e).outgoing =
        written (r.trace ++ .wrote d.other bytes b :: es) e := by
  obtain ⟨hsocket, hsized, hout⟩ := (h e).after_pop d
  have hclosed := (kept_delivered (popped r.session d) d.other bytes).isClosed
  rcases eq_or_eq_other d e with rfl | rfl
  · rw [delivered_peer_other, hclosed]
    refine ⟨hsocket, hsized, ?_⟩
    rw [hout]
    simp [hes, other_ne]
  · rw [delivered_peer, hclosed]
    refine ⟨hsocket, hsized, ?_⟩
    simp [hout, hes]

theorem arrived_ready {p : Peer} {c : Completion} (hready : p.read = .ready c) (hc : c.error = none) :
    arrived p = p.buffer.take c.bytes_transferred := by
  simp [arrived, hready, hc]

theorem ledger_lost {payload : Side → Bytes} {r : Relay} {d : Side} {bytes : Bytes} {es : List Effect}
    (h : Inv payload r) (hb : bytes <+: arrived (r.session.peer d))
    (hshut : (r.session.peer d.other).isOpen = false → bytes = []) (hes : Silent es) :
    Ledger (payload d) (chunksAfter r d) (r.trace ++ .wrote d.other bytes false :: es) d := by
  have hl := (h.flow d).ledger
  have hfailed : WriteFailed (r.trace ++ .wrote d.other bytes false :: es) := ⟨d.other, bytes, by simp⟩
  have hwritten : written (r.trace ++ .wrote d.other bytes false :: es) d.other =
      written r.trace d.other ++ bytes := by
    simp [hes.written]
  -- the chunk of a handler that runs too late is not counted, and none of it is sent
  refine ⟨?_, ?_, fun hf => absurd hfailed hf, ?_⟩
  · rw [chunksAfter]
    split_ifs with hclosed
    · exact hl.input
    · rw [handled_append, handled_singleton, if_pos rfl, ← (h.flow d).live (by simpa using hclosed)]
      exact List.prefix_append _ _
  · rw [hwritten, chunksAfter]
    split_ifs with hclosed
    · have hsocket := (h.flow d.other).socket
      rw [hclosed] at hsocket
      rw [hshut hsocket, List.append_nil]
      exact hl.output
    · rw [handled_append, handled_singleton, if_pos rfl, hl.exact (h.unfailed (by simpa using hclosed))]
      exact (List.prefix_append_right_inj _).mpr hb
  · simp [hes.counted, hes.completed, hl.stats]

theorem inv_lost {payload : Side → Bytes} {r : Relay} {d : Side} {c : Completion} {bytes : Bytes}
    (h : Inv payload r) (hready : (r.session.peer d).read = .ready c) (hc : c.error = none)
    (hb : bytes <+: (r.session.peer d).buffer.take c.bytes_transferred)
    (hshut : (r.session.peer d.other).isOpen = false → bytes = []) :
    Inv payload { r with
      session := ((popped r.session d).delivered d.other bytes).close.1
      trace := r.trace ++ .wrote d.other bytes false ::
        ((popped r.session d).delivered d.other bytes).close.2
      chunks := chunksAfter r d } := by
  have hsilent := silent_close ((popped r.session d).delivered d.other bytes)
  rw [← arrived_ready hready hc] at hb
  refine ⟨fun e => ?_, fun hc => ?_, fun hf => ?_⟩
  · obtain ⟨hsocket, hsized, hout⟩ := after_delivery h.flow d bytes false hsilent.written e
    apply Flow.of_close _ hsocket hsized hout
    rcases eq_or_eq_other d e with rfl | rfl
    · exact ledger_lost h hb hshut hsilent
    · apply (h.flow d.other).ledger.aside (handled_chunksAfter_other r d)
      · exact hsilent.written d
      · exact hsilent.completed d
      · exact hsilent.counted d
  · rw [close_isClosed] at hc
    cases hc
  · obtain ⟨rfl, hidle⟩ := h.client_ready hready hf
    exact close_idle (by rw [show Side.server = Side.client.other from rfl, delivered_peer]; exact hidle)

theorem ledger_forwarded {payload : Side → Bytes} {r : Relay} {d : Side} {bytes : Bytes} (h : Inv payload r)
    (hlive : r.session.isClosed = false) (hb : arrived (r.session.peer d) = bytes) (e : Side) :
    Ledger (payload e) (chunksAfter r d) (r.trace ++ .wrote d.other bytes true ::
      (popped r.session d).writeStat bytes.length (d == .client)) e := by
  have hstat := writeStat_counts (popped r.session d) bytes.length (d == .client)
  have hother : (d == .client) = (d.other == .server) ∧ (d == .client) ≠ (d == .server) := by
    cases d <;> decide
  rcases eq_or_eq_other d e with rfl | rfl
  · have hpayload := (h.flow e).live hlive
    rw [hb] at hpayload
    rw [chunksAfter, if_neg (by simp [hlive]), hb]
    apply (h.flow e).ledger.forward (h.unfailed hlive)
    · rw [← hpayload]
      exact List.prefix_append _ _
    · exact (hstat e.other).1
    · exact (hstat e.other).2.1
    · rw [(hstat e.other).2.2.1, if_pos hother.1]
  · apply (h.flow d.other).ledger.aside (handled_chunksAfter_other r d) (hstat d).1 (hstat d).2.1
    rw [(hstat d).2.2.1, if_neg hother.2]

theorem live_delivered {payload : Side → Bytes} {r : Relay} (h : Inv payload r)
    (hlive : r.session.isClosed = false) (d : Side) (bytes : Bytes) (e : Side) :
    handled (chunksAfter r d) e ++ arrived (((popped r.session d).delivered d.other bytes).peer e) ++
      (((popped r.session d).delivered d.other bytes).peer e).incoming = payload e := by
  have hpayload := (h.flow e).live hlive
  rcases eq_or_eq_other d e with rfl | rfl
  · rw [delivered_peer_other, chunksAfter, if_neg (by simp [hlive])]
    simpa [popped, arrived] using hpayload
  · rw [delivered_peer, handled_chunksAfter_other]
    simpa [popped, arrived] using hpayload

theorem inv_forwarded {payload : Side → Bytes} {r : Relay} {d : Side} {c : Completion}
    (h : Inv payload r) (hready : (r.session.peer d).read = .ready c) (hc : c.error = none)
    (hopen : (r.session.peer d.other).isOpen = true) :
    Inv payload { r with
      session := ((popped r.session d).delivered d.other
        ((r.session.peer d).buffer.take c.bytes_transferred)).startRead d
      trace := r.trace ++ .wrote d.other ((r.session.peer d).buffer.take c.bytes_transferred) true ::
        (popped r.session d).writeStat c.bytes_transferred (d == .client)
      chunks := chunksAfter r d } := by
  have harrived := arrived_ready hready hc
  generalize hb : (r.session.peer d).buffer.take c.bytes_transferred = bytes at harrived
  have hlen : bytes.length = c.bytes_transferred := by
    rw [← hb, List.length_take]
    have hsized := (h.flow d).sized c hready
    omega
  rw [← hlen]
  have hlive : r.session.isClosed = false := by
    have hsocket := (h.flow d.other).socket
    rw [hopen] at hsocket
    simpa using hsocket
  have hstat := writeStat_counts (popped r.session d) bytes.length (d == .client)
  have hfail : ¬WriteFailed (r.trace ++ .wrote d.other bytes true ::
      (popped r.session d).writeStat bytes.length (d == .client)) := by
    simp [h.unfailed hlive, (hstat d).2.2.2]
  have hflow : ∀ e, Flow (payload e) { r with
      session := (popped r.session d).delivered d.other bytes
      trace := r.trace ++ .wrote d.other bytes true ::
        (popped r.session d).writeStat bytes.length (d == .client)
      chunks := chunksAfter r d } e := by
    intro e
    obtain ⟨hsocket, hsized, hout⟩ := after_delivery h.flow d bytes true (fun e => (hstat e).1) e
    exact ⟨ledger_forwarded h hlive harrived e, hsocket, hsized, fun _ => live_delivered h hlive d bytes e, hout⟩
  refine ⟨fun e => (hflow e).startRead ?_ r.serverStarted, fun _ => hfail, fun hf => ?_⟩
  · rw [delivered_peer_other]
    simp [popped]
  · obtain ⟨rfl, hidle⟩ := h.client_ready hready hf
    have hserver : (((popped r.session .client).delivered .server bytes).peer .server).read = .idle := by
      rw [delivered_peer]
      exact hidle
    change ((((popped r.session .client).delivered .server bytes).startRead .client).peer .server).read = _
    rw [RelaySession.startRead]
    split_ifs
    · exact hserver
    · exact hserver

theorem inv_step {payload : Side → Bytes} {bufferSize : ℕ} {r r' : Relay} {e : RelayEvent}
    (h : Inv payload r) (hs : relayStep bufferSize r e = some r') : Inv payload r' := by
  cases e with
  | transfer d size =>
    obtain ⟨s, ht, rfl⟩ := Option.map_eq_some_iff.mp hs
    exact inv_transfer h ht
  | readError d err =>
    obtain ⟨s, ht, rfl⟩ := Option.map_eq_some_iff.mp hs
    exact inv_readError h ht
  | serverRead =>
    rw [relayStep] at hs
    split_ifs at hs with hf
    cases hs
    exact inv_serverRead h (by simpa using hf)
  | dispatch d o =>
    obtain ⟨⟨s, effects⟩, hd, rfl⟩ := Option.map_eq_some_iff.mp hs
    obtain ⟨c, hready, hcases⟩ := dispatch_cases hd
    have hpeer : (popped r.session d).peer d.other = r.session.peer d.other := by simp [popped]
    have hbuffer : ((popped r.session d).peer d).buffer = (r.session.peer d).buffer := by simp [popped]
    cases hcases with
    | ended hend => exact inv_ended h hready hend
    | forwarded bytes hc hn hopen hb =>
      rw [hbuffer] at hb
      subst hb
      rw [hpeer] at hopen
      exact inv_forwarded h hready hc hopen
    | lost bytes hc hn hb hshut =>
      rw [hbuffer] at hb
      rw [hpeer] at hshut
      exact inv_lost h hready hc hb hshut

theorem inv_run {payload : Side → Bytes} {bufferSize : ℕ} {id : Int64} {es : List RelayEvent} {r : Relay}
    (hrun : (machine bufferSize).run (relaying bufferSize id payload) es = some r) : Inv payload r := by
  have hstep : ∀ s e t, Inv payload s → (machine bufferSize).step s e = some t → Inv payload t := by
    intro s e t h hs
    exact inv_step h hs
  exact Machine.invariant hstep (inv_relaying bufferSize id payload) hrun

theorem relay_fidelity {bufferSize : ℕ} {id : Int64} {payload : Side → Bytes} {es : List RelayEvent}
    {r : Relay} (hrun : (machine bufferSize).run (relaying bufferSize id payload) es = some r) :
    (∀ d, (r.session.peer d.other).outgoing <+: payload d) ∧
    (¬WriteFailed r.trace → ∀ d, (r.session.peer d.other).outgoing = handled r.chunks d) ∧
    (∀ d, (r.session.peer d).outgoing = written r.trace d ∧ counted r.trace d = completed r.trace d) := by
  have hinv := inv_run hrun
  refine ⟨fun d => ?_, fun hf d => ?_, fun d => ⟨(hinv.flow d).outgoing, ?_⟩⟩
  · rw [(hinv.flow d.other).outgoing]
    exact (hinv.flow d).ledger.output.trans (hinv.flow d).ledger.input
  · rw [(hinv.flow d.other).outgoing]
    exact (hinv.flow d).ledger.exact hf
  · have hstats := (hinv.flow d.other).ledger.stats
    rwa [other_other] at hstats

def greeting : Side → Bytes
  | .client => [1, 2, 3]
  | .server => [7]

def chat : List RelayEvent :=
  [.transfer .client 2, .serverRead, .dispatch .client .whole, .transfer .server 1, .transfer .client 1,
    .dispatch .server .whole, .dispatch .client (.failed 0)]

theorem relay_fidelity_chat : ∃ r, (machine 2).run (relaying 2 5 greeting) chat = some r ∧
    (∀ d, (r.session.peer d.other).outgoing <+: greeting d) ∧ r.session.server.outgoing = [1, 2] ∧
    r.session.isClosed = true := by
  obtain ⟨r, hrun, hend⟩ : ∃ r, (machine 2).run (relaying 2 5 greeting) chat = some r ∧
      r.session.server.outgoing = [1, 2] ∧ r.session.isClosed = true := ⟨_, rfl, rfl, rfl⟩
  exact ⟨r, hrun, (relay_fidelity hrun).1, hend⟩

end SocksProxy.RelayFidelity
