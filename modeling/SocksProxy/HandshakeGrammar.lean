import SocksProxy.FieldParsing
import SocksProxy.SocksProtocols

namespace SocksProxy.HandshakeGrammar

open FieldParsing AddressText

def field : Parser UInt8 Bytes := lengthPrefixed UInt8.toNat

def FieldCode (f : Bytes) (h : Bytes) : Prop := ∃ n : UInt8, n.toNat = f.length ∧ h = n :: f

theorem exact_field : Exact field FieldCode := exact_lengthPrefixed _

def greeting (e : Env) : Parser UInt8 Bytes := do
  let methods ← field
  require ((Socks5.getServerMethod e).code ∈ methods)
  return methods

def GreetingCode (e : Env) (methods : Bytes) (h : Bytes) : Prop :=
  FieldCode methods h ∧ (Socks5.getServerMethod e).code ∈ methods

theorem exact_greeting (e : Env) : Exact (greeting e) (GreetingCode e) := by
  refine (exact_field.bind fun ms => (exact_require ((Socks5.getServerMethod e).code ∈ ms)).bind
    fun _ => exact_pure ms).congr ?_
  intro ms h
  constructor
  · rintro ⟨ms, h₁, _, hf, ⟨_, _, _, ⟨hm, rfl⟩, ⟨rfl, rfl⟩, rfl⟩, rfl⟩
    exact ⟨by simpa using hf, hm⟩
  · rintro ⟨hf, hm⟩
    exact ⟨ms, h, [], hf, ⟨(), [], [], ⟨hm, rfl⟩, ⟨rfl, rfl⟩, rfl⟩, by simp⟩

structure Credentials where
  uname : Bytes
  passwd : Bytes
  deriving DecidableEq

def credentials : Parser UInt8 Credentials := do
  let ver ← symbol
  require (ver = Socks5.authVer)
  let uname ← field
  require (uname ≠ [])
  let passwd ← field
  return ⟨uname, passwd⟩

def CredentialsCode (c : Credentials) (h : Bytes) : Prop :=
  c.uname ≠ [] ∧ ∃ u p, FieldCode c.uname u ∧ FieldCode c.passwd p ∧ h = Socks5.authVer :: (u ++ p)

theorem exact_credentials : Exact credentials CredentialsCode := by
  refine (exact_symbol.bind fun ver => (exact_require (ver = Socks5.authVer)).bind fun _ =>
    exact_field.bind fun uname => (exact_require (uname ≠ [])).bind fun _ =>
    exact_field.bind fun passwd => exact_pure (Credentials.mk uname passwd)).congr ?_
  intro c h
  constructor
  · rintro ⟨ver, _, _, rfl, ⟨_, _, _, ⟨rfl, rfl⟩, ⟨u, hu, _, hfu, ⟨_, _, _, ⟨hne, rfl⟩,
      ⟨p, hp, _, hfp, ⟨rfl, rfl⟩, rfl⟩, rfl⟩, rfl⟩, rfl⟩, rfl⟩
    exact ⟨hne, hu, hp, hfu, hfp, by simp⟩
  · rintro ⟨hne, hu, hp, hfu, hfp, rfl⟩
    exact ⟨Socks5.authVer, [Socks5.authVer], hu ++ hp, rfl, ⟨(), [], hu ++ hp, ⟨rfl, rfl⟩,
      ⟨c.uname, hu, hp, hfu, ⟨(), [], hp, ⟨hne, rfl⟩, ⟨c.passwd, hp, [], hfp, ⟨rfl, rfl⟩, by simp⟩,
        rfl⟩, rfl⟩, rfl⟩, rfl⟩

def address (atyp : UInt8) : Parser UInt8 Bytes :=
  if atyp = Socks5.Atyp.ipv4.code then exactly 4
  else if atyp = Socks5.Atyp.domainName.code then do
    let name ← field
    require (name ≠ [])
    return name
  else if atyp = Socks5.Atyp.ipv6.code then exactly 16
  else fun _ => none

def AddressCode (atyp : UInt8) (raw h : Bytes) : Prop :=
  (atyp = Socks5.Atyp.ipv4.code ∧ raw.length = 4 ∧ h = raw) ∨
  (atyp = Socks5.Atyp.domainName.code ∧ raw ≠ [] ∧ FieldCode raw h) ∨
  (atyp = Socks5.Atyp.ipv6.code ∧ raw.length = 16 ∧ h = raw)

theorem exact_address (atyp : UInt8) : Exact (address atyp) (AddressCode atyp) := by
  unfold address AddressCode
  split_ifs with h4 h3 h16
  · refine (exact_exactly 4).congr fun raw h => ?_
    simp [h4, Socks5.Atyp.code, and_comm]
  · refine (exact_field.bind fun name => (exact_require (name ≠ [])).bind fun _ =>
      exact_pure name).congr fun raw h => ?_
    constructor
    · rintro ⟨_, _, _, hf, ⟨_, _, _, ⟨hne, rfl⟩, ⟨rfl, rfl⟩, rfl⟩, rfl⟩
      exact .inr (.inl ⟨h3, hne, by simpa using hf⟩)
    · rintro (⟨hn, -⟩ | ⟨-, hne, hf⟩ | ⟨hn, -⟩)
      · exact absurd hn h4
      · exact ⟨raw, h, [], hf, ⟨(), [], [], ⟨hne, rfl⟩, ⟨rfl, rfl⟩, rfl⟩, by simp⟩
      · exact absurd (h3.symm.trans hn) (by decide)
  · refine (exact_exactly 16).congr fun raw h => ?_
    simp [h16, Socks5.Atyp.code, and_comm]
  · intro xs raw rest
    simp [h4, h3, h16]

def addressText (atyp : UInt8) (raw : Bytes) : Bytes :=
  if atyp = Socks5.Atyp.domainName.code then raw else formIpAddressString raw

theorem addressText_ne_nil {atyp : UInt8} {raw h : Bytes} (hc : AddressCode atyp raw h) :
    addressText atyp raw ≠ [] := by
  unfold addressText
  split_ifs with h3
  · rcases hc with ⟨h4, -⟩ | ⟨-, hne, -⟩ | ⟨h16, -⟩
    · exact absurd (h3.symm.trans h4) (by decide)
    · exact hne
    · exact absurd (h3.symm.trans h16) (by decide)
  · exact formIpAddressString_ne_nil raw

structure Request where
  cmd : UInt8
  rsv : UInt8
  atyp : UInt8
  raw : Bytes
  high : UInt8
  low : UInt8
  deriving DecidableEq

namespace Request

def text (r : Request) : Bytes := addressText r.atyp r.raw

def port (r : Request) : UInt16 := (r.high.toUInt16 <<< 8) ||| r.low.toUInt16

theorem port_toNat (r : Request) : r.port.toNat = 256 * r.high.toNat + r.low.toNat := by
  have hh := r.high.toNat_lt
  have hl := r.low.toNat_lt
  simp only [port, UInt16.toNat_or, UInt16.toNat_shiftLeft, UInt8.toNat_toUInt16]
  rw [show (8 : UInt16).toNat % 16 = 8 from rfl, Nat.shiftLeft_eq,
    Nat.mod_eq_of_lt (by omega), ← Nat.shiftLeft_eq, ← Nat.shiftLeft_add_eq_or_of_lt hl,
    Nat.shiftLeft_eq]
  omega

end Request

def request : Parser UInt8 Request := do
  let ver ← symbol
  require (ver = Ver.socks5.code)
  let cmd ← symbol
  let rsv ← symbol
  let atyp ← symbol
  let raw ← address atyp
  let high ← symbol
  let low ← symbol
  return ⟨cmd, rsv, atyp, raw, high, low⟩

def RequestCode (r : Request) (h : Bytes) : Prop :=
  ∃ a, AddressCode r.atyp r.raw a ∧
    h = Ver.socks5.code :: r.cmd :: r.rsv :: r.atyp :: (a ++ [r.high, r.low])

theorem exact_request : Exact request RequestCode := by
  refine (exact_symbol.bind fun ver => (exact_require (ver = Ver.socks5.code)).bind fun _ =>
    exact_symbol.bind fun cmd => exact_symbol.bind fun rsv => exact_symbol.bind fun atyp =>
    (exact_address atyp).bind fun raw => exact_symbol.bind fun high => exact_symbol.bind fun low =>
    exact_pure (Request.mk cmd rsv atyp raw high low)).congr ?_
  intro r h
  constructor
  · rintro ⟨_, _, _, rfl, ⟨_, _, _, ⟨rfl, rfl⟩, ⟨cmd, _, _, rfl, ⟨rsv, _, _, rfl, ⟨atyp, _, _, rfl,
      ⟨raw, a, _, ha, ⟨high, _, _, rfl, ⟨low, _, _, rfl, ⟨rfl, rfl⟩, rfl⟩, rfl⟩, rfl⟩, rfl⟩, rfl⟩,
      rfl⟩, rfl⟩, rfl⟩
    exact ⟨a, ha, by simp⟩
  · rintro ⟨a, ha, rfl⟩
    refine ⟨_, _, _, rfl, ⟨(), [], _, ⟨rfl, rfl⟩, ⟨r.cmd, _, _, rfl, ⟨r.rsv, _, _, rfl, ⟨r.atyp, _, _,
      rfl, ⟨r.raw, a, _, ha, ⟨r.high, _, _, rfl, ⟨r.low, _, _, rfl, ⟨rfl, rfl⟩, rfl⟩, rfl⟩, rfl⟩,
      rfl⟩, rfl⟩, rfl⟩, rfl⟩, ?_⟩
    simp

end SocksProxy.HandshakeGrammar
