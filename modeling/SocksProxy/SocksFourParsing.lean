import SocksProxy.AddressNotation
import SocksProxy.ConnectAttempts
import SocksProxy.SocksFourRuns

namespace SocksProxy.SocksFourParsing

open StatefulPrograms FieldParsing HandshakeGrammar SocksFourRuns OutwardActions ConnectAttempts
open AddressNotation Socks4

def Attempts (e : Env) (s : SessionState) : Prop :=
  connects ((init e).run s).2.trace ≠ connects s.trace

structure Parsed (r : Request4) (rest : Bytes) (s t : SessionState) : Prop where
  attempt : connects t.trace = connects s.trace ++ [(t.socks.dstAddress, Socks.service t.socks.dstPort)]
  input : t.input = rest
  dstPort : t.socks.dstPort.toNat = 256 * r.high.toNat + r.low.toNat
  dstAddress : readIPv4 t.socks.dstAddress = some r.raw
  username : t.socks.username = r.userid

theorem port_toNat (r : Request4) : r.port.toNat = 256 * r.high.toNat + r.low.toNat :=
  (Request.mk 0 0 0 [] r.high r.low).port_toNat

structure Answered (s t : SessionState) : Prop where
  attempt : connects t.trace = connects s.trace ++ [(s.socks.dstAddress, Socks.service s.socks.dstPort)]
  input : t.input = s.input
  dstPort : t.socks.dstPort = s.socks.dstPort
  dstAddress : t.socks.dstAddress = s.socks.dstAddress
  username : t.socks.username = s.socks.username

theorem answered_connect {e : Env} {s t : SessionState} {out : Except SystemError (UInt16 × Option ErrorCode)}
    (h : (TcpSession.connect e s.socks.dstAddress (Socks.service s.socks.dstPort)).run s = (out, t)) :
    Answered s t := by
  obtain ⟨acts, hquiet⟩ := connect_quiet h
  have hsocks := hquiet.socks
  exact ⟨connect_connects h, hquiet.input, by rw [hsocks], by rw [hsocks], by rw [hsocks]⟩

theorem Answered.written {s t : SessionState} (h : Answered s t) (e : Env) (port : UInt16) (m : Bytes) :
    Answered s ((bound4 t port).written e m) where
  attempt := by simpa [bound4] using h.attempt
  input := h.input
  dstPort := h.dstPort
  dstAddress := h.dstAddress
  username := h.username

theorem Answered.recorded {e : Env} {s t u : SessionState} {out : Except SystemError Bool} (h : Answered s t)
    (hrec : Recording e t out u) : Answered s u := by
  cases hrec with
  | threw err u hq _ =>
    have hsocks := hq.socks
    refine ⟨?_, hq.input.trans h.input, ?_, ?_, ?_⟩
    · rw [hq.trace, List.append_nil, h.attempt]
    · rw [hsocks, h.dstPort]
    · rw [hsocks, h.dstAddress]
    · rw [hsocks, h.username]
  | recorded addr port u b id _ _ trace input _ socks =>
    refine ⟨?_, input.trans h.input, ?_, ?_, ?_⟩
    · rw [trace, connects_append, h.attempt]
      simp
    · rw [socks, ← h.dstPort]
    · rw [socks, ← h.dstAddress]
    · rw [socks, ← h.username]

theorem answer_answered (e : Env) (s : SessionState) : Answered s ((answer e).run s).2 := by
  obtain ⟨out, t, hrun, hcases⟩ := answer_cases e s
  rw [hrun]
  cases hcases with
  | connectThrew err t hr => exact answered_connect hr
  | refused port ec t hr h => exact (answered_connect hr).written e port _
  | granted port t out u hr hw hrec =>
    exact ((answered_connect hr).written e port _).recorded (createRecord_outcome hrec)

theorem init_parsed (e : Env) {s : SessionState} {r : Request4} {h rest : Bytes}
    (hcode : Request4Code r h) (hi : s.input = h ++ rest) : Parsed r rest s ((init e).run s).2 := by
  have hparse : request4 s.input = some (r, rest) := (exact_request4 _ _ _).mpr ⟨h, hcode, hi⟩
  rw [init_complete hparse]
  have hanswered := answer_answered e (requested4 s r rest)
  constructor
  · rw [hanswered.attempt, hanswered.dstAddress, hanswered.dstPort]
    rfl
  · rw [hanswered.input]
    rfl
  · rw [hanswered.dstPort]
    exact port_toNat r
  · rw [hanswered.dstAddress]
    exact readIPv4_form hcode.1
  · rw [hanswered.username]
    rfl

theorem length_request4 {r : Request4} {h : Bytes} (hcode : Request4Code r h) :
    h.length = 8 + r.userid.length := by
  obtain ⟨hraw, -, rfl⟩ := hcode
  simp only [List.length_cons, List.length_append, List.length_nil, hraw]
  omega

theorem readUserId_ends {fuel : ℕ} (acc : Bytes) {s : SessionState} (h : s.input.length < fuel) :
    (readUserId fuel acc).run s = (readUserId (s.input.length + 1) acc).run s := by
  rw [readUserId_run fuel acc s h, readUserId_run _ acc s (Nat.lt_succ_self _)]

theorem init_parses_exactly (e : Env) (s : SessionState) :
    (Attempts e s ↔ ∃ r h rest, Request4Code r h ∧ s.input = h ++ rest) ∧
    (∀ r h rest, Request4Code r h → s.input = h ++ rest →
      h.length = 8 + r.userid.length ∧ Parsed r rest s ((init e).run s).2) ∧
    (¬Attempts e s → ((init e).run s).1 = .ok false ∧ ((init e).run s).2.trace = s.trace) ∧
    ∀ fuel acc, s.input.length < fuel →
      (readUserId fuel acc).run s = (readUserId (s.input.length + 1) acc).run s := by
  have hattempts : ∀ r h rest, Request4Code r h → s.input = h ++ rest → Attempts e s := by
    intro r h rest hcode hi
    rw [Attempts, (init_parsed e hcode hi).attempt]
    simp
  have hrefused : (¬∃ r h rest, Request4Code r h ∧ s.input = h ++ rest) →
      ((init e).run s).1 = .ok false ∧ ((init e).run s).2.trace = s.trace := by
    intro hno
    have hnone : request4 s.input = none := by
      rcases hp : request4 s.input with _ | ⟨r, rest⟩
      · rfl
      · obtain ⟨h, hcode, hi⟩ := (exact_request4 _ _ _).mp hp
        exact absurd ⟨r, h, rest, hcode, hi⟩ hno
    obtain ⟨left, x, hrun⟩ := init_malformed (e := e) hnone
    rw [hrun]
    exact ⟨rfl, rfl⟩
  refine ⟨⟨fun ha => ?_, fun ⟨r, h, rest, hcode, hi⟩ => hattempts r h rest hcode hi⟩, ?_, ?_, ?_⟩
  · by_contra hno
    exact ha (by rw [(hrefused hno).2])
  · intro r h rest hcode hi
    exact ⟨length_request4 hcode, init_parsed e hcode hi⟩
  · intro hnot
    apply hrefused
    rintro ⟨r, h, rest, hcode, hi⟩
    exact hnot (hattempts r h rest hcode hi)
  · intro fuel acc hfuel
    exact readUserId_ends acc hfuel

/-- A CONNECT to `127.0.0.1:80` for the user `bob`, and a payload byte. -/
def localStream : Bytes := [1, 0, 80, 127, 0, 0, 1, 98, 111, 98, 0, 71]

theorem init_parses_local : ((init (Env.permissive false [])).run { input := localStream }).2.input = [71] :=
  ((init_parses_exactly (Env.permissive false []) { input := localStream }).2.1
    ⟨0, 80, [127, 0, 0, 1], [98, 111, 98]⟩ [1, 0, 80, 127, 0, 0, 1, 98, 111, 98, 0] [71]
    ⟨rfl, by simp, rfl⟩ rfl).2.input

end SocksProxy.SocksFourParsing
