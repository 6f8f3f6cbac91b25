import SocksProxy.HandshakeReads

namespace SocksProxy.IntroducedClients

open StatefulPrograms FieldParsing HandshakeGrammar SocksFiveRuns SocksFourRuns OutwardActions AcceptanceGrammar
open AuthenticationGate HandshakeReads

inductive Introduced (e : Env) : Bytes → Bytes → Prop
  | request (r : Request4) (h rest : Bytes) (hcode : Request4Code r h) :
    Introduced e (Ver.socks4.code :: (h ++ rest)) r.userid
  | login (input user passwd : Bytes) (hpresented : Presented e input user passwd)
    (hlookup : e.users.lookup user = some passwd) : Introduced e input user

variable {e : Env}

theorem Presented.append {input user passwd : Bytes} (h : Presented e input user passwd) (more : Bytes) :
    Presented e (input ++ more) user passwd := by
  obtain ⟨methods, g, c, rest, hg, hc, rfl⟩ := h
  refine ⟨methods, g, c, rest ++ more, hg, hc, ?_⟩
  simp only [List.cons_append, List.append_assoc]

theorem Introduced.append {input user : Bytes} (h : Introduced e input user) (more : Bytes) :
    Introduced e (input ++ more) user := by
  cases h with
  | request r h rest hcode =>
    rw [List.cons_append, List.append_assoc]
    exact .request r h (rest ++ more) hcode
  | login _ _ passwd hpresented hlookup => exact .login _ _ passwd (Presented.append hpresented more) hlookup

end SocksProxy.IntroducedClients
