import SocksProxy.ByteStrings

namespace SocksProxy.AddressText

open ByteStrings

def to_string (vec : Bytes) : Bytes := vec.flatMap fun c => [c]

def formIpAddressString (bytes : Bytes) : Bytes :=
  if bytes.length = 4 then
    (List.range 4).flatMap fun i =>
      decimal (bytes.getD i 0).toNat ++ if i ≠ 3 then [46] else []
  else
    -- the source raises the index twice in each pass, so the `:` test sees the second byte
    (List.range 8).flatMap fun k =>
      hexadecimal (bytes.getD (2 * k) 0).toNat ++ hexadecimal (bytes.getD (2 * k + 1) 0).toNat ++
        if 2 * k + 1 ≠ 15 then [58] else []

@[simp] theorem to_string_eq (vec : Bytes) : to_string vec = vec := by
  simp [to_string]

theorem formIpAddressString_ne_nil (bytes : Bytes) : formIpAddressString bytes ≠ [] := by
  unfold formIpAddressString
  split_ifs
  · simp [List.range_succ, decimal, numeral_ne_nil]
  · simp [List.range_succ, hexadecimal, numeral_ne_nil]

theorem formIpAddressString_four (a b c d : UInt8) :
    formIpAddressString [a, b, c, d] = decimal a.toNat ++ 46 :: (decimal b.toNat ++
      46 :: (decimal c.toNat ++ 46 :: decimal d.toNat)) := by
  simp [formIpAddressString, List.range_succ]

example : formIpAddressString [127, 0, 0, 1] = [49, 50, 55, 46, 48, 46, 48, 46, 49] := by decide

end SocksProxy.AddressText
