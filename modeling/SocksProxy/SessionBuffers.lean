import SocksProxy.GatewaySteps

namespace SocksProxy.SessionBuffers

open RelaySession RelayLedgers RelayFidelity TcpServer ServerFrames SessionStreams GatewaySteps

structure Fits (n : ℕ) (p : Peer) : Prop where
  length : p.buffer.length = n
  claimed : ∀ c, p.read = .ready c → c.bytes_transferred ≤ n

def Buffered (n : ℕ) (r : RelaySession) : Prop := ∀ d, Fits n (r.peer d)

section Buffered

variable {n : ℕ} {r : RelaySession}

theorem Buffered.set (hr : Buffered n r) (d : Side) {p : Peer} (hp : Fits n p) : Buffered n (r.setPeer d p) := by
  intro e
  rcases eq_or_eq_other d e with rfl | rfl
  · rw [peer_setPeer]
    exact hp
  · rw [peer_setPeer_other]
    exact hr d.other

theorem Buffered.congr {r' : RelaySession} (hr : Buffered n r) (hp : ∀ d, r'.peer d = r.peer d) :
    Buffered n r' := by
  intro d
  rw [hp]
  exact hr d

theorem Fits.unread {p : Peer} (hp : Fits n p) {read : ReadOp} (h : ∀ c, read ≠ .ready c) :
    Fits n { p with read := read } := by
  refine ⟨hp.length, fun c hc => ?_⟩
  exact absurd hc (h c)

theorem Buffered.startRead (hr : Buffered n r) (d : Side) : Buffered n (r.startRead d) := by
  rw [RelaySession.startRead]
  split_ifs
  · apply hr.set
    apply (hr d).unread
    simp
  · exact hr

theorem Buffered.popped (hr : Buffered n r) (d : Side) : Buffered n (r.popped d) := by
  apply hr.set
  apply (hr d).unread
  simp

theorem Buffered.delivered (hr : Buffered n r) (d : Side) (bytes : Bytes) : Buffered n (r.delivered d bytes) := by
  apply hr.set
  exact ⟨(hr d).length, (hr d).claimed⟩

theorem Buffered.opened (hr : Buffered n r) (d : Side) : Buffered n (r.opened d) := by
  apply hr.set
  exact ⟨(hr d).length, (hr d).claimed⟩

theorem Buffered.close (hr : Buffered n r) : Buffered n r.close.1 := by
  intro d
  rcases close_peer r d with hp | hp
  · rw [hp]
    exact hr d
  · rw [hp]
    refine ⟨(hr d).length, fun c hc => ?_⟩
    rcases closeSocket_ready hc with hbefore | hzero
    · exact (hr d).claimed c hbefore
    · rw [hzero]
      exact Nat.zero_le n

theorem Buffered.socket {e : SocketEvent} {r' : RelaySession} (hr : Buffered n r)
    (h : r.socketStep n e = some r') : Buffered n r' := by
  cases e with
  | arrive d bytes =>
    obtain rfl := Option.some.inj h
    apply hr.set
    exact ⟨(hr d).length, (hr d).claimed⟩
  | transfer d size =>
    rw [socketStep] at h
    obtain ⟨⟨-, hfits, hsize, -⟩, rfl⟩ := transfer_eq_some.mp h
    apply hr.set
    refine ⟨?_, fun c hc => ?_⟩
    · have hlength := (hr d).length
      simp only [List.length_append, List.length_take, List.length_drop]
      omega
    · cases hc
      exact hfits
  | readError d err =>
    rw [socketStep] at h
    obtain ⟨-, rfl⟩ := readError_eq_some.mp h
    apply hr.set
    refine ⟨(hr d).length, fun c hc => ?_⟩
    cases hc
    exact Nat.zero_le n

theorem Buffered.dispatch {d : Side} {o : WriteOutcome} {r' : RelaySession} {effects : List Effect}
    (hr : Buffered n r) (hd : r.dispatch d o = some (r', effects)) : Buffered n r' := by
  obtain ⟨comp, -, hcases⟩ := dispatch_cases hd
  cases hcases with
  | ended hend => exact (hr.popped d).close
  | forwarded bytes hc hn hopen hb => exact ((hr.popped d).delivered d.other bytes).startRead d
  | lost bytes hc hn hb hshut => exact ((hr.popped d).delivered d.other bytes).close

end Buffered

theorem buffered_constructed (n : ℕ) : Buffered n (Lifetime.constructed n).connection.relay := by
  intro d
  cases d
  all_goals
    refine ⟨List.length_replicate, fun c hc => ?_⟩
    cases hc

theorem buffered_persistent (n : ℕ) : Persistent n fun _ c => Buffered n c.relay where
  constructed := buffered_constructed n
  close _ c hc := hc.close
  posted _ c hc _ := hc.opened .client
  begun _ c hc _ := hc
  chosen _ c hc _ := hc.congr fun d => by cases d <;> rfl
  initialised _ c hc _ _ _ _ := (hc.opened .server).congr fun d => by cases d <;> rfl
  clientRead _ c hc _ := hc.startRead .client
  serverRead _ c hc _ := hc.startRead .server
  stopped _ c hc _ := hc
  socket _ c hc _ _ hr := hc.socket hr
  dispatch _ c hc _ _ _ _ hd := hc.dispatch hd
  readBytes _ c hc _ _ _ _ := hc.set .client ⟨(hc .client).length, (hc .client).claimed⟩
  writeBytes _ c hc _ _ := hc.delivered .client _

end SocksProxy.SessionBuffers
