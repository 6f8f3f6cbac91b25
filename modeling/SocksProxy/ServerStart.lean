import SocksProxy.AuthenticationGate
import SocksProxy.ConcurrentService
import SocksProxy.ConfigRoundTrip
import SocksProxy.ConfigValues
import SocksProxy.LastEntries
import SocksProxy.ServerSteps

namespace SocksProxy

open ConfigReader

structure Host where
  hardwareConcurrency : ℕ
  listens : UInt16 → Bool
  allocates : ℕ → Bool

inductive Failure
  | databaseNotCreated (err : DatabaseException)
  | serverNotStarted
  deriving DecidableEq

structure Process where
  port : UInt16
  authFlag : Bool
  config : Config
  server : TcpServer

namespace Main

def listenPortTag : Bytes := [108, 105, 115, 116, 101, 110, 95, 112, 111, 114, 116]
def bufferSizeTag : Bytes := [98, 117, 102, 102, 101, 114, 95, 115, 105, 122, 101, 95, 107, 98]
def maxSessionsTag : Bytes := [109, 97, 120, 95, 115, 101, 115, 115, 105, 111, 110, 115]
def authTag : Bytes := [97, 117, 116, 104]

structure Parameters where
  port : Int32
  bufferSizeKB : Int32
  maxSessions : Int32
  authFlag : Bool
  deriving DecidableEq

def parameters (c : Config) : Option Parameters := do
  let (_, port) ← getValueInt c listenPortTag 1080
  let (_, bufferSizeKB) ← getValueInt c bufferSizeTag 100
  let (_, maxSessions) ← getValueInt c maxSessionsTag 0
  let (_, authFlag) ← getValueBool c authTag false
  return ⟨port, bufferSizeKB, maxSessions, authFlag⟩

def toPort (n : Int32) : UInt16 := n.toUInt32.toUInt16

def toSize (n : Int32) : UInt64 := n.toInt64.toUInt64

/-- The size both buffers of a session are resized to; the product wraps. -/
def bufferBytes (bufferSizeKB : UInt64) : ℕ := (bufferSizeKB * 1024).toNat

def resizes (h : Host) (size : ℕ) : Bool := decide (size < 2 ^ 63) && h.allocates size

def construct (h : Host) (port : UInt16) (bufferSizeKB maxSessions : UInt64) (table : SessionTable)
    (issued : List Int64) : Except Failure TcpServer :=
  if h.listens port && resizes h (bufferBytes bufferSizeKB) then
    .ok (TcpServer.launch ⟨maxSessions, h.hardwareConcurrency * 2, bufferBytes bufferSizeKB⟩ table issued)
  else .error .serverNotStarted

/-- Nothing where a setting has no defined value. -/
def main (h : Host) (q : Sqlite) (file : Option Bytes) (table : SessionTable) (issued : List Int64) :
    Option (Except Failure Process) :=
  let config := (parseFile file {}).2
  match (ConcurrentService.serve (.getInstance, q)).run ⟨false, table⟩ with
  | (.error err, _) => some (.error (.databaseNotCreated err))
  | (.ok _, store) => (parameters config).map fun p =>
    (construct h (toPort p.port) (toSize p.bufferSizeKB) (toSize p.maxSessions) store.table issued).map
      fun server => ⟨toPort p.port, p.authFlag, config, server⟩

end Main

namespace ServerStart

open ByteStrings ConfigLines ConfigRoundTrip ConfigValues LastEntries Main StatefulPrograms

def valueOf (items : List Item) (tag : Bytes) : Option Bytes := lastValue tag (items.filterMap Item.tagValue)

def passwordOf (items : List Item) (login : Bytes) : Option Bytes := lastValue login (items.flatMap Item.credentials)

def Says (items : List Item) (tag : Bytes) (default n : ℕ) : Prop :=
  Numeral n ((valueOf items tag).getD (decimal default))

structure Documented (items : List Item) : Prop where
  valid : ∀ i ∈ items, i.Valid
  short : ∀ l ∈ items.flatMap Item.lines, l.length < 2 ^ 32 - 1

theorem lookups {items : List Item} (h : Documented items) (crlf : ℕ → Bool) (final : Bool) :
    (∀ tag, (parseFile (some (render crlf final (items.flatMap Item.lines))) {}).2.settings.lookup tag =
      valueOf items tag) ∧
    ∀ login, (parseFile (some (render crlf final (items.flatMap Item.lines))) {}).2.users.lookup login =
      passwordOf items login := by
  have hnl : ∀ l ∈ items.flatMap Item.lines, 10 ∉ l := by
    intro l hl
    obtain ⟨i, hi, hl⟩ := List.mem_flatMap.mp hl
    exact item_newline (h.valid i hi) l hl
  rw [parseFile_eq, runLines_render _ _ _ _ hnl, runLines_items h.valid h.short, foldl_record]
  constructor
  · intro tag
    rw [filterMap_setting, valueOf]
    change (lastWins ∅ (items.filterMap Item.tagValue)).lookup tag = _
    rw [lastWins, lookup_foldl_insert, Finmap.lookup_empty, Option.or_none]
  · intro login
    rw [filterMap_account, passwordOf]
    change (lastWins ∅ (items.flatMap Item.credentials)).lookup login = _
    rw [lastWins, lookup_foldl_insert, Finmap.lookup_empty, Option.or_none]

theorem getValueInt_says {c : Config} {tag : Bytes} {text : Option Bytes} {default n : ℕ}
    (hc : c.settings.lookup tag = text) (h : Numeral n (text.getD (decimal default))) (hn : n < 2 ^ 31)
    (hdefault : default < 2 ^ 31) :
    ∃ found, getValueInt c tag (Int32.ofInt default) = some (found, Int32.ofInt n) := by
  rw [getValueInt, hc]
  cases text with
  | none =>
    refine ⟨false, ?_⟩
    have hsame := (atoi_numeral h hn).symm.trans (atoi_numeral (numeral_decimal default) hdefault)
    rw [Option.some.inj hsame]
  | some text =>
    have hread := atoi_numeral h hn
    rw [Option.getD_some] at hread
    exact ⟨true, by simp only [hread, Option.map_some]⟩

theorem getValueBool_says {c : Config} {tag : Bytes} {text : Option Bytes} {n : ℕ}
    (hc : c.settings.lookup tag = text) (h : Numeral n (text.getD (decimal 0))) (hn : n < 2 ^ 31) :
    ∃ found, getValueBool c tag false = some (found, decide (n ≠ 0)) := by
  have hzero : Int32.ofInt n = 0 ↔ n = 0 := by
    rw [← Int32.toInt_inj, Int32.toInt_ofInt_of_le (by omega) (by omega)]
    simp
  rw [getValueBool, hc]
  cases text with
  | none =>
    have hsame := (atoi_numeral h hn).symm.trans (atoi_numeral (numeral_decimal 0) (by decide))
    have hn0 : n = 0 := hzero.mp (Option.some.inj hsame)
    exact ⟨false, by simp [hn0]⟩
  | some text =>
    have hread := atoi_numeral h hn
    rw [Option.getD_some] at hread
    refine ⟨true, ?_⟩
    simp only [hread, Option.map_some]
    by_cases h0 : n = 0
    · simp [h0]
    · simp [h0, hzero]

theorem toPort_ofInt (n : ℕ) : toPort (Int32.ofInt n) = UInt16.ofNat n := by
  rw [toPort, Int32.ofInt_eq_ofNat, Int32.toUInt32_ofNat', UInt32.toUInt16_ofNat']

theorem toSize_ofInt {n : ℕ} (hn : n < 2 ^ 31) : toSize (Int32.ofInt n) = UInt64.ofNat n := by
  have hwide : (Int32.ofInt n).toInt64 = Int64.ofInt n := by
    rw [← Int64.toInt_inj, Int32.toInt_toInt64, Int32.toInt_ofInt_of_le (by omega) (by omega),
      Int64.toInt_ofInt_of_le (by omega) (by omega)]
  rw [toSize, hwide, Int64.ofInt_eq_ofNat, Int64.toUInt64_ofNat']

theorem bufferBytes_ofNat {n : ℕ} (hn : n < 2 ^ 31) : bufferBytes (UInt64.ofNat n) = n * 1024 := by
  rw [bufferBytes, UInt64.toNat_mul, UInt64.toNat_ofNat']
  have h1024 : (1024 : UInt64).toNat = 1024 := rfl
  rw [h1024]
  omega

theorem parameters_documented {items : List Item} (hd : Documented items) {port kb sessions auth : ℕ}
    (hport : Says items listenPortTag 1080 port) (hkb : Says items bufferSizeTag 100 kb)
    (hsessions : Says items maxSessionsTag 0 sessions) (hauth : Says items authTag 0 auth)
    (hsmall : ∀ n ∈ [port, kb, sessions, auth], n < 2 ^ 31) (crlf : ℕ → Bool) (final : Bool) :
    parameters (parseFile (some (render crlf final (items.flatMap Item.lines))) {}).2 =
      some ⟨Int32.ofInt port, Int32.ofInt kb, Int32.ofInt sessions, decide (auth ≠ 0)⟩ := by
  obtain ⟨hsettings, -⟩ := lookups hd crlf final
  have hint : ∀ n ∈ [port, kb, sessions], n < 2 ^ 31 := fun n hn => hsmall n (by
    simp only [List.mem_cons, List.not_mem_nil, or_false] at hn ⊢
    omega)
  obtain ⟨found₁, h₁⟩ := getValueInt_says (hsettings listenPortTag) hport (hint port (by simp)) (by decide)
  obtain ⟨found₂, h₂⟩ := getValueInt_says (hsettings bufferSizeTag) hkb (hint kb (by simp)) (by decide)
  obtain ⟨found₃, h₃⟩ := getValueInt_says (hsettings maxSessionsTag) hsessions (hint sessions (by simp)) (by decide)
  obtain ⟨found₄, h₄⟩ := getValueBool_says (hsettings authTag) hauth (hsmall auth (by simp))
  have hdefaults : Int32.ofInt (1080 : ℕ) = 1080 ∧ Int32.ofInt (100 : ℕ) = 100 ∧ Int32.ofInt (0 : ℕ) = 0 := by decide
  rw [hdefaults.1] at h₁
  rw [hdefaults.2.1] at h₂
  rw [hdefaults.2.2] at h₃
  simp only [parameters, h₁, h₂, h₃, h₄, Option.bind_eq_bind, Option.bind_some, Option.pure_def]

theorem main_of_parameters {h : Host} {q : Sqlite} {file : Option Bytes} {table table' : SessionTable}
    {issued : List Int64} {prm : Parameters}
    (hdb : (ConcurrentService.serve (.getInstance, q)).run ⟨false, table⟩ = (.ok none, ⟨true, table'⟩))
    (hprm : parameters (parseFile file {}).2 = some prm) : main h q file table issued =
      some ((construct h (toPort prm.port) (toSize prm.bufferSizeKB) (toSize prm.maxSessions) table' issued).map
        fun server => ⟨toPort prm.port, prm.authFlag, (parseFile file {}).2, server⟩) := by
  simp only [main, hdb, hprm, Option.map_some]

theorem main_serves {items : List Item} (hd : Documented items) {port kb sessions auth : ℕ}
    (hport : Says items listenPortTag 1080 port) (hkb : Says items bufferSizeTag 100 kb)
    (hsessions : Says items maxSessionsTag 0 sessions) (hauth : Says items authTag 0 auth)
    (hsmall : ∀ n ∈ [port, kb, sessions, auth], n < 2 ^ 31) (crlf : ℕ → Bool) (final : Bool) (h : Host)
    {q : Sqlite} {table table' : SessionTable} (issued : List Int64)
    (hdb : (ConcurrentService.serve (.getInstance, q)).run ⟨false, table⟩ = (.ok none, ⟨true, table'⟩)) :
    ∃ config, (∀ login, config.users.lookup login = passwordOf items login) ∧
      main h q (some (render crlf final (items.flatMap Item.lines))) table issued =
        some (if h.listens (UInt16.ofNat port) && h.allocates (kb * 1024) then
          .ok ⟨UInt16.ofNat port, decide (auth ≠ 0), config, TcpServer.launch
            ⟨UInt64.ofNat sessions, h.hardwareConcurrency * 2, kb * 1024⟩ table' issued⟩
        else .error .serverNotStarted) := by
  refine ⟨_, (lookups hd crlf final).2, ?_⟩
  have hk : kb < 2 ^ 31 := hsmall kb (by simp)
  have hs : sessions < 2 ^ 31 := hsmall sessions (by simp)
  have hfits : decide (kb * 1024 < 2 ^ 63) = true := decide_eq_true (by omega)
  rw [main_of_parameters hdb (parameters_documented hd hport hkb hsessions hauth hsmall crlf final)]
  simp only [construct, toPort_ofInt, toSize_ofInt hk, toSize_ofInt hs, bufferBytes_ofNat hk, resizes, hfits,
    Bool.true_and]
  split_ifs <;> rfl

theorem plain_word {excluded text : Bytes} (hne : text ≠ [])
    (h : ∀ c ∈ text, c ≠ 9 ∧ c ≠ 32 ∧ c ∉ excluded) : Plain excluded text := by
  refine ⟨hne, ⟨fun htab => (h 9 htab).1 rfl, ?_, ?_, ?_⟩, fun c hc hmem => (h c hmem).2.2 hc⟩
  · intro hhead
    exact (h 32 (List.mem_of_mem_head? hhead)).2.1 rfl
  · intro hlast
    exact (h 32 (List.mem_of_getLast? hlast)).2.1 rfl
  · intro hblanks
    exact (h 32 (hblanks.subset (by simp))).2.1 rfl

def officeItems : List Item :=
  [.setting listenPortTag [55, 48, 48, 48, 48], .filler (some [32, 97]),
    .block [⟨[none], [98, 111, 98], [112, 119]⟩] [], .setting authTag [49]]

theorem officeItems_documented : Documented officeItems := by
  have hport : Plain [35, 13, 10, 123, 61] listenPortTag :=
    plain_word (by simp [listenPortTag]) (by simp [listenPortTag])
  have hauth : Plain [35, 13, 10, 123, 61] authTag :=
    plain_word (by simp [authTag]) (by simp [authTag])
  have hnumber : Plain [35, 13, 10, 123] [55, 48, 48, 48, 48] := plain_word (by simp) (by simp)
  have hone : Plain [35, 13, 10, 123] [49] := plain_word (by simp) (by simp)
  have hlogin : Plain [35, 13, 10, 125] [98, 111, 98] := plain_word (by simp) (by simp)
  have hpassword : Plain [35, 13, 10, 125] [112, 119] := plain_word (by simp) (by simp)
  refine ⟨fun i hi => ?_, by decide⟩
  simp only [officeItems, List.mem_cons, List.not_mem_nil, or_false] at hi
  rcases hi with rfl | rfl | rfl | rfl
  · exact ⟨hport, hnumber⟩
  · rintro text ⟨rfl⟩
    decide
  · refine ⟨fun p hp => ?_, by simp⟩
    rw [List.mem_singleton.mp hp]
    exact ⟨by simp [Filler.Valid], hlogin, hpassword⟩
  · exact ⟨hauth, hone⟩

theorem officeItems_say : Says officeItems listenPortTag 1080 70000 ∧ Says officeItems bufferSizeTag 100 100 ∧
    Says officeItems maxSessionsTag 0 0 ∧ Says officeItems authTag 0 1 := by
  have hvalues : (valueOf officeItems listenPortTag = some (decimal 70000) ∧
      valueOf officeItems bufferSizeTag = none) ∧ valueOf officeItems maxSessionsTag = none ∧
      valueOf officeItems authTag = some (decimal 1) := by
    have hport : decimal 70000 = [55, 48, 48, 48, 48] := by
      simp [decimal, numeral, digitByte]
    have hone : decimal 1 = [49] := by
      simp [decimal, numeral, digitByte]
    rw [hport, hone]
    decide
  obtain ⟨⟨hport, hkb⟩, hsessions, hauth⟩ := hvalues
  refine ⟨?_, ?_, ?_, ?_⟩
  · rw [Says, hport]
    exact numeral_decimal 70000
  · rw [Says, hkb]
    exact numeral_decimal 100
  · rw [Says, hsessions]
    exact numeral_decimal 0
  · rw [Says, hauth]
    exact numeral_decimal 1

theorem main_serves_office : ∃ config, (∀ login, config.users.lookup login = passwordOf officeItems login) ∧
    main ⟨2, fun _ => true, fun _ => true⟩ .quiet
      (some (render (fun n => n % 2 == 0) false (officeItems.flatMap Item.lines))) .empty [] =
        some (.ok ⟨4464, true, config, TcpServer.launch ⟨0, 4, 102400⟩
          (((ConcurrentService.serve (.getInstance, .quiet)).run ⟨false, .empty⟩).2.table) []⟩) := by
  obtain ⟨hport, hkb, hsessions, hauth⟩ := officeItems_say
  exact main_serves officeItems_documented hport hkb hsessions hauth (by decide) _ _
    ⟨2, fun _ => true, fun _ => true⟩ [] rfl

end ServerStart

end SocksProxy
