import SocksProxy.AddressNotation
import SocksProxy.SocksFiveRequests

namespace SocksProxy.DestinationNames

open AddressText AddressNotation PositionalNotation ByteStrings Socks5

abbrev Address := {raw : Bytes // raw.length = 16}

def Named (raw : Address) : Prop :=
  readIPv6 (formIpAddressString raw.1) = some raw.1 ∧
    ∀ other : Address, formIpAddressString other.1 = formIpAddressString raw.1 → other = raw

theorem groupValue_eq (g : UInt8 × UInt8) : groupValue g =
    if g.2.toNat < 16 then 16 * g.1.toNat + g.2.toNat else 256 * g.1.toNat + g.2.toNat := by
  rw [groupValue, length_hexadecimal]
  split_ifs <;> omega

theorem groupBytes_eq_iff {n : ℕ} {x y : UInt8} (h : n < 65536) :
    groupBytes n = [x, y] ↔ n = 256 * x.toNat + y.toNat := by
  have hx : x.toNat < 256 := x.toNat_lt
  have hy : y.toNat < 256 := y.toNat_lt
  simp only [groupBytes, List.cons.injEq, and_true, ← UInt8.toNat_inj, UInt8.toNat_ofNat']
  omega

theorem groupBytes_groupValue_iff (g : UInt8 × UInt8) :
    groupBytes (groupValue g) = [g.1, g.2] ↔ g.1 = 0 ∨ 16 ≤ g.2.toNat := by
  have hx : g.1.toNat < 256 := g.1.toNat_lt
  have hy : g.2.toNat < 256 := g.2.toNat_lt
  rw [groupValue_eq, ← UInt8.toNat_inj]
  split_ifs with h
  · rw [groupBytes_eq_iff (by omega)]
    simp only [UInt8.toNat_zero]
    omega
  · rw [groupBytes_eq_iff (by omega)]
    simp only [true_iff]
    omega

theorem denotes_iff {raw : Bytes} (h : raw.length = 16) :
    readIPv6 (formIpAddressString raw) = some raw ↔
      ∀ k < 8, (group raw k).1 = 0 ∨ 16 ≤ (group raw k).2.toNat := by
  rw [readIPv6_form h, Option.some.injEq]
  nth_rewrite 2 [← groups h]
  refine (flatMap_eq_iff ?_).trans ?_
  · intro k _
    rfl
  · simp only [List.mem_range, groupBytes_groupValue_iff]

theorem form_eq_iff {raw raw' : Bytes} (h : raw.length = 16) (h' : raw'.length = 16) :
    formIpAddressString raw' = formIpAddressString raw ↔
      ∀ k < 8, groupText (group raw' k) = groupText (group raw k) := by
  rw [form_groups (by omega), form_groups (by omega)]
  have hsep : ∀ bytes : Bytes, ∀ t ∈ (List.range 8).map fun k => groupText (group bytes k), 58 ∉ t := by
    intro bytes t ht
    obtain ⟨k, -, rfl⟩ := List.mem_map.mp ht
    exact not_mem_groupText _
  constructor
  · intro he k hk
    have hmap := intercalate_injective (hsep raw') (hsep raw) (by simp) (by simp) he
    exact List.map_inj_left.mp hmap k (List.mem_range.mpr hk)
  · intro hk
    rw [List.map_inj_left.mpr fun k hm => hk k (List.mem_range.mp hm)]

def Wide (g : UInt8 × UInt8) : Prop := g.1 = 0 ∨ (16 ≤ g.1.toNat ∧ 16 ≤ g.2.toNat)

theorem groupText_unique {g g' : UInt8 × UInt8} (hg : Wide g) (h : groupText g' = groupText g) : g' = g := by
  have hvalue : groupValue g' = groupValue g := by
    have hread := congrArg hexDigits.read h
    rwa [read_groupText, read_groupText, Option.some.injEq] at hread
  have hlen := congrArg List.length h
  rw [groupText, groupText, List.length_append, List.length_append, length_hexadecimal, length_hexadecimal,
    length_hexadecimal, length_hexadecimal] at hlen
  have hy' : g'.2.toNat < 256 := g'.2.toNat_lt
  have hy : g.2.toNat < 256 := g.2.toNat_lt
  rw [groupValue_eq, groupValue_eq] at hvalue
  rw [Wide, ← UInt8.toNat_inj, UInt8.toNat_zero] at hg
  rw [Prod.ext_iff, ← UInt8.toNat_inj, ← UInt8.toNat_inj]
  split_ifs at hlen hvalue <;> omega

def shifted (g : UInt8 × UInt8) : UInt8 × UInt8 :=
  (UInt8.ofNat (16 * g.1.toNat + g.2.toNat / 16), UInt8.ofNat (g.2.toNat % 16))

theorem groupText_shifted {g : UInt8 × UInt8} (h₁ : g.1 ≠ 0) (h₂ : g.1.toNat < 16) (h₃ : 16 ≤ g.2.toNat) :
    groupText (shifted g) = groupText g ∧ shifted g ≠ g := by
  have hpos : 0 < g.1.toNat := Nat.pos_of_ne_zero fun h => h₁ (UInt8.toNat_inj.mp h)
  have hy : g.2.toNat < 256 := g.2.toNat_lt
  have hhigh : (shifted g).1.toNat = 16 * g.1.toNat + g.2.toNat / 16 := by
    simp only [shifted, UInt8.toNat_ofNat']
    omega
  have hlow : (shifted g).2.toNat = g.2.toNat % 16 := by
    simp only [shifted, UInt8.toNat_ofNat']
    omega
  constructor
  · rw [groupText, groupText, hhigh, hlow, hexadecimal_eq, hexadecimal_eq, hexadecimal_eq, hexadecimal_eq,
      hexDigits.write_two (by decide) (by omega) (by omega), hexDigits.write_small (n := g.2.toNat % 16) (by omega),
      hexDigits.write_small h₂, hexDigits.write_two (by decide) h₃ (by omega),
      show (16 * g.1.toNat + g.2.toNat / 16) / 16 = g.1.toNat by omega,
      show (16 * g.1.toNat + g.2.toNat / 16) % 16 = g.2.toNat / 16 by omega]
    rfl
  · intro he
    rw [Prod.ext_iff, ← UInt8.toNat_inj, hhigh] at he
    omega

def setGroup (raw : Bytes) (k : ℕ) (g : UInt8 × UInt8) : Bytes := (raw.set (2 * k) g.1).set (2 * k + 1) g.2

theorem group_setGroup {raw : Bytes} {k : ℕ} (g : UInt8 × UInt8) (j : ℕ) (h : 2 * k + 1 < raw.length) :
    group (setGroup raw k g) j = if j = k then g else group raw j := by
  split_ifs with hj
  · subst hj
    simp [group, setGroup, List.getD_eq_getElem?_getD, h, show 2 * j < raw.length by omega]
  · have h₁ : 2 * k ≠ 2 * j := by omega
    have h₂ : 2 * k + 1 ≠ 2 * j := by omega
    have h₃ : 2 * k ≠ 2 * j + 1 := by omega
    simp [group, setGroup, List.getD_eq_getElem?_getD, h₁, h₂, h₃]

theorem exists_namesake {raw : Address} {k : ℕ} (hk : k < 8) (h₁ : (group raw.1 k).1 ≠ 0)
    (h₂ : (group raw.1 k).1.toNat < 16) (h₃ : 16 ≤ (group raw.1 k).2.toNat) :
    ∃ other : Address, formIpAddressString other.1 = formIpAddressString raw.1 ∧ other ≠ raw := by
  obtain ⟨htext, hne⟩ := groupText_shifted h₁ h₂ h₃
  have hraw := raw.2
  have hlen : (setGroup raw.1 k (shifted (group raw.1 k))).length = 16 := by
    simp [setGroup, hraw]
  have hgroup : ∀ j, group (setGroup raw.1 k (shifted (group raw.1 k))) j =
      if j = k then shifted (group raw.1 k) else group raw.1 j := by
    intro j
    apply group_setGroup
    omega
  refine ⟨⟨setGroup raw.1 k (shifted (group raw.1 k)), hlen⟩, ?_, ?_⟩
  · rw [form_eq_iff hraw hlen]
    intro j _
    rw [hgroup]
    split_ifs with hj
    · rw [hj, htext]
    · rfl
  · intro he
    have hsame := congrArg (fun a : Address => group a.1 k) he
    simp only [hgroup, if_true] at hsame
    exact hne hsame

theorem named_iff (raw : Address) : Named raw ↔ ∀ k < 8, Wide (group raw.1 k) := by
  constructor
  · rintro ⟨hdenotes, hunique⟩ k hk
    by_cases h₁ : (group raw.1 k).1 = 0
    · exact .inl h₁
    have h₃ := ((denotes_iff raw.2).mp hdenotes k hk).resolve_left h₁
    by_cases h₂ : (group raw.1 k).1.toNat < 16
    · obtain ⟨other, hform, hne⟩ := exists_namesake hk h₁ h₂ h₃
      exact absurd (hunique other hform) hne
    · exact .inr ⟨Nat.le_of_not_lt h₂, h₃⟩
  · intro h
    refine ⟨(denotes_iff raw.2).mpr fun k hk => ?_, fun other hform => ?_⟩
    · rcases h k hk with h₁ | ⟨-, h₃⟩
      · exact .inl h₁
      · exact .inr h₃
    · have hgroups : ∀ k < 8, group other.1 k = group raw.1 k := fun k hk =>
        groupText_unique (h k hk) ((form_eq_iff raw.2 other.2).mp hform k hk)
      apply Subtype.ext
      rw [← groups other.2, ← groups raw.2]
      refine (flatMap_eq_iff ?_).mpr ?_
      · intro k _
        rfl
      · intro k hk
        rw [hgroups k (List.mem_range.mp hk)]

theorem ipv6_named_iff (e : Env) (s : SessionState) (raw : Address) (rest : Bytes) :
    (readAddress e Atyp.ipv6.code).run (s.withInput (raw.1 ++ rest)) =
      (.ok (formIpAddressString raw.1), s.withInput rest) ∧
    (readIPv6 (formIpAddressString raw.1) = some raw.1 ↔
      ∀ k < 8, (group raw.1 k).1 = 0 ∨ 16 ≤ (group raw.1 k).2.toNat) ∧
    (Named raw ↔ ∀ k < 8, Wide (group raw.1 k)) := by
  refine ⟨?_, denotes_iff raw.2, named_iff raw⟩
  have haddress : HandshakeGrammar.address Atyp.ipv6.code (raw.1 ++ rest) = some (raw.1, rest) :=
    (HandshakeGrammar.exact_address _ _ _ _).mpr ⟨raw.1, .inr (.inr ⟨rfl, raw.2, rfl⟩), rfl⟩
  exact SocksFiveRuns.readAddress_some (s := s.withInput (raw.1 ++ rest)) haddress

def documentation : Address := ⟨[32, 1, 13, 184, 0, 0, 0, 0, 0, 0, 0, 0, 0, 0, 0, 1], by decide⟩

theorem documentation_misnamed :
    readIPv6 (formIpAddressString documentation.1) =
      some [2, 1, 13, 184, 0, 0, 0, 0, 0, 0, 0, 0, 0, 0, 0, 1] ∧ ¬Named documentation := by
  have hread : readIPv6 (formIpAddressString documentation.1) =
      some [2, 1, 13, 184, 0, 0, 0, 0, 0, 0, 0, 0, 0, 0, 0, 1] := by decide
  refine ⟨hread, fun h => ?_⟩
  have hsame := hread.symm.trans h.1
  exact absurd hsame (by decide)

end SocksProxy.DestinationNames
