import Mathlib.Data.List.TakeWhile
import Mathlib.Data.Nat.Digits.Defs

namespace SocksProxy

abbrev Bytes := List UInt8

namespace ByteStrings

def ascii (s : String) : Bytes := s.toList.map fun c => UInt8.ofNat c.toNat

def digitByte (d : ℕ) : UInt8 := if d < 10 then UInt8.ofNat (48 + d) else UInt8.ofNat (87 + d)

def numeral (base n : ℕ) : Bytes :=
  if n = 0 then [48] else (Nat.digits base n).reverse.map digitByte

def decimal (n : ℕ) : Bytes := numeral 10 n

def hexadecimal (n : ℕ) : Bytes := numeral 16 n

def cString (s : Bytes) : Bytes := s.takeWhile (· != 0)

theorem cString_eq_self {s : Bytes} : cString s = s ↔ 0 ∉ s := by
  rw [cString, List.takeWhile_eq_self_iff]
  constructor
  · intro h hz
    simpa using h 0 hz
  · intro h b hb
    simp only [bne_iff_ne, ne_eq]
    rintro rfl
    exact h hb

theorem numeral_ne_nil (base n : ℕ) : numeral base n ≠ [] := by
  unfold numeral
  split_ifs with h
  · simp
  · simpa using Nat.digits_ne_nil_iff_ne_zero.mpr h

end ByteStrings

end SocksProxy
