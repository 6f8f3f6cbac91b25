import SocksProxy.AddressText
import SocksProxy.PositionalNotation

namespace SocksProxy.AddressNotation

open ByteStrings AddressText PositionalNotation

def digitValue (base : ℕ) (b : UInt8) : Option ℕ :=
  let n := b.toNat
  let d := if 48 ≤ n ∧ n ≤ 57 then n - 48 else if 97 ≤ n ∧ n ≤ 102 then n - 87
    else if 65 ≤ n ∧ n ≤ 70 then n - 55 else base
  if d < base then some d else none

def decimalDigits : Digits UInt8 10 := ⟨digitByte, digitValue 10, by decide⟩

def hexDigits : Digits UInt8 16 := ⟨digitByte, digitValue 16, by decide⟩

def readOctet (text : Bytes) : Option UInt8 :=
  if 1 ≤ text.length ∧ text.length ≤ 3 then
    (decimalDigits.read text).bind fun n => if n < 256 then some (UInt8.ofNat n) else none
  else none

def readIPv4 (text : Bytes) : Option Bytes := readFields 46 4 readOctet text

def groupBytes (n : ℕ) : Bytes := [UInt8.ofNat (n / 256), UInt8.ofNat (n % 256)]

def readGroup (text : Bytes) : Option Bytes :=
  if 1 ≤ text.length ∧ text.length ≤ 4 then (hexDigits.read text).map groupBytes else none

def readIPv6 (text : Bytes) : Option Bytes := (readFields 58 8 readGroup text).map List.flatten

theorem decimal_eq (n : ℕ) : decimal n = decimalDigits.write n := rfl

theorem hexadecimal_eq (n : ℕ) : hexadecimal n = hexDigits.write n := rfl

theorem readOctet_decimal (b : UInt8) : readOctet (decimal b.toNat) = some b := by
  have hlt : b.toNat < 256 := b.toNat_lt
  have hpos := decimalDigits.length_write_pos b.toNat
  have hlen := decimalDigits.length_write_le (by decide) (k := 3) (by decide) (by omega : b.toNat < 10 ^ 3)
  rw [readOctet, decimal_eq, if_pos ⟨hpos, hlen⟩, decimalDigits.read_write (by decide), Option.bind_some,
    if_pos hlt, UInt8.ofNat_toNat]

theorem form_octets {raw : Bytes} (h : raw.length = 4) : formIpAddressString raw =
    [46].intercalate ((List.range 4).map fun i => decimal (raw.getD i 0).toNat) := by
  rw [formIpAddressString, if_pos h]
  simp [List.range_succ]

theorem octets {raw : Bytes} (h : raw.length = 4) : (List.range 4).map (raw.getD · 0) = raw := by
  match raw, h with
  | [a, b, c, d], _ => rfl

theorem readIPv4_form {raw : Bytes} (h : raw.length = 4) :
    readIPv4 (formIpAddressString raw) = some raw := by
  have hread : readIPv4 (formIpAddressString raw) = some ((List.range 4).map (raw.getD · 0)) := by
    rw [form_octets h]
    apply readFields_intercalate
    · intro i _
      exact decimalDigits.not_mem_write (by decide) (by decide) _
    · decide
    · decide
    · intro i _
      exact readOctet_decimal _
  rw [hread, octets h]

def group (raw : Bytes) (k : ℕ) : UInt8 × UInt8 := (raw.getD (2 * k) 0, raw.getD (2 * k + 1) 0)

def groupText (g : UInt8 × UInt8) : Bytes := hexadecimal g.1.toNat ++ hexadecimal g.2.toNat

def groupValue (g : UInt8 × UInt8) : ℕ := g.1.toNat * 16 ^ (hexadecimal g.2.toNat).length + g.2.toNat

theorem form_groups {raw : Bytes} (h : raw.length ≠ 4) : formIpAddressString raw =
    [58].intercalate ((List.range 8).map fun k => groupText (group raw k)) := by
  rw [formIpAddressString, if_neg h]
  simp [List.range_succ, groupText, group]

theorem groups {raw : Bytes} (h : raw.length = 16) :
    (List.range 8).flatMap (fun k => [(group raw k).1, (group raw k).2]) = raw := by
  match raw, h with
  | [a, b, c, d, e, f, g, h, i, j, k, l, m, n, o, p], _ => rfl

theorem not_mem_groupText (g : UInt8 × UInt8) : 58 ∉ groupText g := by
  rw [groupText, List.mem_append, not_or]
  exact ⟨hexDigits.not_mem_write (by decide) (by decide) _, hexDigits.not_mem_write (by decide) (by decide) _⟩

theorem length_hexadecimal (b : UInt8) : (hexadecimal b.toNat).length = if b.toNat < 16 then 1 else 2 := by
  have hlt : b.toNat < 256 := b.toNat_lt
  split_ifs with h
  · rw [hexadecimal_eq, hexDigits.write_small h]
    rfl
  · rw [hexadecimal_eq, hexDigits.write_two (by decide) (Nat.le_of_not_lt h) hlt]
    rfl

theorem read_groupText (g : UInt8 × UInt8) : hexDigits.read (groupText g) = some (groupValue g) := by
  rw [groupText, hexDigits.read_append, hexadecimal_eq, hexDigits.read_write (by decide), Option.bind_some,
    hexadecimal_eq, hexDigits.read_write (by decide)]
  rfl

theorem readGroup_groupText (g : UInt8 × UInt8) : readGroup (groupText g) = some (groupBytes (groupValue g)) := by
  have hlen : (groupText g).length = (hexadecimal g.1.toNat).length + (hexadecimal g.2.toNat).length :=
    List.length_append
  rw [length_hexadecimal, length_hexadecimal] at hlen
  rw [readGroup, read_groupText, if_pos]
  · rfl
  · split_ifs at hlen <;> omega

theorem readIPv6_form {raw : Bytes} (h : raw.length = 16) : readIPv6 (formIpAddressString raw) =
    some ((List.range 8).flatMap fun k => groupBytes (groupValue (group raw k))) := by
  have hread : readFields 58 8 readGroup (formIpAddressString raw) =
      some ((List.range 8).map fun k => groupBytes (groupValue (group raw k))) := by
    rw [form_groups (by omega)]
    apply readFields_intercalate
    · intro k _
      exact not_mem_groupText _
    · decide
    · decide
    · intro k _
      exact readGroup_groupText _
  rw [readIPv6, hread, Option.map_some, List.flatMap_def]

end SocksProxy.AddressNotation
