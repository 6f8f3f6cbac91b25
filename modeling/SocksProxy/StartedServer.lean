import SocksProxy.DrainedStreams
import SocksProxy.ServerStart

namespace SocksProxy.StartedServer

open StatefulPrograms TransitionSystems ConfigReader ConfigRoundTrip ConfigValues ServerStart Main
open AuthenticationGate OutwardActions SessionStreams GatewaySteps

variable {h : Host} {q : Sqlite} {file : Option Bytes} {table : SessionTable} {issued : List Int64} {p : Process}

theorem parameters_of_main (hmain : main h q file table issued = some (.ok p)) :
    p.config = (parseFile file {}).2 ∧ ∃ prm table', parameters p.config = some prm ∧
      p.authFlag = prm.authFlag ∧ bufferBytes (toSize prm.bufferSizeKB) < 2 ^ 63 ∧
      p.server = TcpServer.launch ⟨toSize prm.maxSessions, h.hardwareConcurrency * 2,
        bufferBytes (toSize prm.bufferSizeKB)⟩ table' issued := by
  simp only [main] at hmain
  split at hmain
  · cases hmain
  · rename_i store hstore
    obtain ⟨prm, hprm, hp⟩ := Option.map_eq_some_iff.mp hmain
    rw [construct] at hp
    split_ifs at hp with hcan
    · cases hp
      simp only [resizes, Bool.and_eq_true, decide_eq_true_eq] at hcan
      exact ⟨rfl, prm, store.table, hprm, rfl, hcan.2.1, rfl⟩
    · cases hp

theorem main_starts {table' : SessionTable} {prm : Parameters}
    (hdb : (ConcurrentService.serve (.getInstance, q)).run ⟨false, table⟩ = (.ok none, ⟨true, table'⟩))
    (hprm : parameters (parseFile file {}).2 = some prm)
    (hcan : (h.listens (toPort prm.port) && resizes h (bufferBytes (toSize prm.bufferSizeKB))) = true) :
    ∃ p, main h q file table issued = some (.ok p) ∧ p.server = TcpServer.launch
      ⟨toSize prm.maxSessions, h.hardwareConcurrency * 2, bufferBytes (toSize prm.bufferSizeKB)⟩ table' issued := by
  rw [main_of_parameters hdb hprm, construct, if_pos hcan]
  exact ⟨_, rfl, rfl⟩

theorem parameters_values {c : Config} {prm : Parameters} (h : parameters c = some prm) :
    (∃ found, getValueInt c bufferSizeTag 100 = some (found, prm.bufferSizeKB)) ∧
      ∃ found, getValueBool c authTag false = some (found, prm.authFlag) := by
  simp only [parameters, Option.bind_eq_bind, Option.bind_eq_some_iff, Option.pure_def, Option.some.injEq,
    Prod.exists] at h
  obtain ⟨_, port, -, found, kb, hkb, _, sessions, -, found', auth, hauth, rfl⟩ := h
  exact ⟨⟨found, hkb⟩, found', hauth⟩

theorem socks5_gate {e : Env} (ha : e.authFlag = true) (rest : Bytes) :
    (Relays (started e (Ver.socks5.code :: rest)) → ∃ u w, Presented e (Ver.socks5.code :: rest) u w ∧
      e.users.lookup u = some w) ∧
    ∀ r ∈ records (started e (Ver.socks5.code :: rest)).trace, ∃ w,
      Presented e (Ver.socks5.code :: rest) r.user w ∧ e.users.lookup r.user = some w := by
  have hgate : Gate e (Ver.socks5.code :: rest) := by
    rcases started_cases e (Ver.socks5.code :: rest) with ⟨htrace, -, -⟩ | ⟨v, rest', hi, -, hstate⟩
    · exact gate_of_idle (by rw [htrace]; rfl) (by rw [htrace]; rfl)
    cases v with
    | socks4 => cases (List.cons.inj hi).1
    | socks5 =>
      obtain ⟨-, rfl⟩ := List.cons.inj hi
      have htrace := congrArg SessionState.trace hstate
      rcases hrun : (protocol e .socks5).run (chosen .socks5 rest) with ⟨out, t⟩
      obtain ⟨hrecs, hstop⟩ := negotiate_trace hrun
      rw [← htrace] at hrecs hstop
      rcases init_logs_in ha (by exact hrun) with ⟨hout, hext⟩ | ⟨c, hc, hlookup, hext⟩
      · refine gate_of_idle ?_ ?_
        · rw [hstop hout]
          exact hext.reads_eq
        · rw [hrecs]
          exact List.map_eq_nil_iff.mp hext.users_eq
      · refine gate_of_login hc hlookup ?_
        rw [hrecs]
        rcases hext with hext | hext
        · simp [hext.users_eq]
        · simp [hext.users_eq]
  refine ⟨fun hrelays => ?_, hgate.2⟩
  obtain ⟨u, w, hpresented, hlookup, -⟩ := hgate.1 hrelays
  exact ⟨u, w, hpresented, hlookup⟩

theorem toNat_toSize_neg {n : Int32} (hn : n.toInt < 0) : ((toSize n).toNat : ℤ) = 2 ^ 64 + n.toInt := by
  have hsigned : n.toInt64.toInt = (((toSize n).toNat : ℕ) : ℤ).bmod (2 ^ 64) :=
    BitVec.toInt_eq_toNat_bmod n.toInt64.toBitVec
  have hlt : (toSize n).toNat < 2 ^ 64 := (toSize n).toNat_lt
  rw [Int32.toInt_toInt64] at hsigned
  simp only [Int.bmod] at hsigned
  split_ifs at hsigned <;> omega

theorem bufferBytes_neg {n : Int32} (hn : n.toInt < 0) : 2 ^ 63 ≤ bufferBytes (toSize n) := by
  have hlow := n.le_toInt
  have hsize := toNat_toSize_neg hn
  rw [bufferBytes, UInt64.toNat_mul]
  have h1024 : (1024 : UInt64).toNat = 1024 := rfl
  rw [h1024]
  omega

theorem bufferBytes_nonneg {n : Int32} (hn : 0 ≤ n.toInt) : bufferBytes (toSize n) = (n.toInt * 1024).toNat := by
  obtain ⟨k, hk⟩ := Int.eq_ofNat_of_zero_le hn
  have hlt : n.toInt < 2 ^ 31 := n.toInt_lt
  have hofInt : n = Int32.ofInt k := by
    rw [← hk, Int32.ofInt_toInt]
  rw [hofInt, toSize_ofInt (by omega), bufferBytes_ofNat (by omega), Int32.toInt_ofInt_of_le (by omega) (by omega)]
  omega

theorem buffer_of_file (hmain : main h q file table issued = some (.ok p)) :
    ∃ n found, getValueInt (parseFile file {}).2 bufferSizeTag 100 = some (found, n) ∧ 0 ≤ n.toInt ∧
      p.server.settings.bufferSize = (n.toInt * 1024).toNat ∧
      (∀ text, (parseFile file {}).2.settings.lookup bufferSizeTag = some text → Unnumbered text → n = 0) ∧
      (n = 0 → ∀ es s, gateway.run p.server es = some s → ∀ k c, s.connections[k]? = some c → ∀ d,
        (c.relay.peer d).outgoing = (streams es k).greeting d) := by
  obtain ⟨hconfig, prm, table', hprm, -, hfits, hserver⟩ := parameters_of_main hmain
  obtain ⟨⟨found, hvalue⟩, -⟩ := parameters_values hprm
  rw [hconfig] at hvalue
  have hnonneg : 0 ≤ prm.bufferSizeKB.toInt := by
    by_contra hneg
    have hlarge := bufferBytes_neg (not_le.mp hneg)
    omega
  refine ⟨prm.bufferSizeKB, found, hvalue, hnonneg, ?_, ?_, ?_⟩
  · rw [hserver, ← bufferBytes_nonneg hnonneg]
    rfl
  · intro text htext hword
    rw [getValueInt, htext] at hvalue
    simp only [atoi_word hword, Option.map_some, Option.some.injEq, Prod.mk.injEq] at hvalue
    exact hvalue.2.symm
  · intro hzero es s hrun k c hk d
    have hnone : bufferBytes (toSize prm.bufferSizeKB) = 0 := by
      rw [hzero]
      rfl
    rw [hserver] at hrun
    exact DrainedStreams.silent_run hnone hrun hk d

def wordText : Bytes := bufferSizeTag ++ [32, 61, 32, 98, 105, 103]

theorem buffer_of_file_word : ∃ p, main ⟨2, fun _ => true, fun _ => true⟩ .quiet (some wordText) .empty [] =
      some (.ok p) ∧ p.server.settings.bufferSize = 0 ∧
    ∀ es s, gateway.run p.server es = some s → ∀ k c, s.connections[k]? = some c → ∀ d,
      (c.relay.peer d).outgoing = (streams es k).greeting d := by
  have hprm : parameters (parseFile (some wordText) {}).2 = some ⟨1080, 0, 0, false⟩ := by decide
  obtain ⟨p, hp, -⟩ : ∃ p, main ⟨2, fun _ => true, fun _ => true⟩ .quiet (some wordText) .empty [] = some (.ok p) ∧ _ :=
    main_starts rfl hprm (by decide)
  obtain ⟨n, found, -, -, hsize, hword, hsilent⟩ := buffer_of_file hp
  have hbig : Unnumbered [98, 105, 103] := by
    intro c hc
    have hhead : (unsigned [98, 105, 103]).head? = some 98 := by decide
    obtain rfl : 98 = c := Option.some.inj (hhead.symm.trans hc)
    rfl
  have hn : n = 0 := hword [98, 105, 103] (by decide) hbig
  refine ⟨p, hp, ?_, hsilent hn⟩
  rw [hsize, hn]
  rfl

end SocksProxy.StartedServer
