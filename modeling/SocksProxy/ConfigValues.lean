import SocksProxy.AddressNotation
import SocksProxy.ConfigReader

namespace SocksProxy

open ByteStrings AddressNotation

def isspace (c : UInt8) : Bool := c == 32 || (decide (9 ≤ c) && decide (c ≤ 13))

def isdigit (c : UInt8) : Bool := (decimalDigits.value c).isSome

/-- The value of a text that no `int` holds is undefined. -/
def atoi (s : Bytes) : Option Int32 :=
  let text := (cString s).dropWhile isspace
  let signed := text.head? = some 45 ∨ text.head? = some 43
  let digits := (if signed then text.tail else text).takeWhile isdigit
  let n : ℤ := (decimalDigits.read digits).getD 0
  let v := if text.head? = some 45 then -n else n
  if -2 ^ 31 ≤ v ∧ v < 2 ^ 31 then some (Int32.ofInt v) else none

namespace ConfigReader

/-- Each `getValue` gives what it returns and what it leaves in `value`. -/
def getValueBool (c : Config) (tag : Bytes) (value : Bool) : Option (Bool × Bool) :=
  match c.settings.lookup tag with
  | some text => (atoi text).map fun n => (true, n != 0)
  | none => some (false, value)

def getValueInt (c : Config) (tag : Bytes) (value : Int32) : Option (Bool × Int32) :=
  match c.settings.lookup tag with
  | some text => (atoi text).map fun n => (true, n)
  | none => some (false, value)

def getValueString (c : Config) (tag value : Bytes) : Bool × Bytes :=
  match c.settings.lookup tag with
  | some text => (true, text)
  | none => (false, value)

end ConfigReader

namespace ConfigValues

def Numeral (n : ℕ) (text : Bytes) : Prop :=
  ∃ rest, text = decimal n ++ rest ∧ ∀ c ∈ rest.head?, isdigit c = false

theorem numeral_decimal (n : ℕ) : Numeral n (decimal n) := ⟨[], by simp, by simp⟩

theorem isdigit_decimal (n : ℕ) : ∀ c ∈ decimal n, isdigit c = true := by
  intro c hc
  by_contra hno
  have hvalue : decimalDigits.value c = none := by
    rw [Bool.not_eq_true, isdigit] at hno
    exact Option.isSome_eq_false_iff.mp hno |> Option.isNone_iff_eq_none.mp
  exact decimalDigits.not_mem_write (by decide) hvalue n hc

theorem isdigit_iff (c : UInt8) : isdigit c = true ↔ 48 ≤ c.toNat ∧ c.toNat ≤ 57 := by
  simp only [isdigit, decimalDigits, digitValue]
  split_ifs <;> simp <;> omega

theorem isdigit_plain {c : UInt8} (h : isdigit c = true) : isspace c = false ∧ c ≠ 0 ∧ c ≠ 45 ∧ c ≠ 43 := by
  rw [isdigit_iff] at h
  have hne : ∀ d : UInt8, d.toNat < 48 → c ≠ d := by
    rintro d hd rfl
    omega
  refine ⟨?_, hne 0 (by decide), hne 45 (by decide), hne 43 (by decide)⟩
  have hle : ¬c ≤ 13 := by
    rw [UInt8.le_iff_toNat_le]
    exact fun hle => absurd (Nat.le_trans h.1 hle) (by decide)
  simp [isspace, hne 32 (by decide), hle]

theorem takeWhile_numeral {n : ℕ} {rest : Bytes} (h : ∀ c ∈ rest.head?, isdigit c = false) :
    (decimal n ++ rest).takeWhile isdigit = decimal n := by
  have hrest : rest.takeWhile isdigit = [] := by
    cases rest with
    | nil => rfl
    | cons c rest => exact List.takeWhile_cons_of_neg (by simp [h c rfl])
  rw [List.takeWhile_append_of_pos (isdigit_decimal n), hrest, List.append_nil]

theorem atoi_numeral {n : ℕ} {text : Bytes} (h : Numeral n text) (hn : n < 2 ^ 31) :
    atoi text = some (Int32.ofInt n) := by
  obtain ⟨rest, rfl, hrest⟩ := h
  have hplain : ∀ c ∈ decimal n, isspace c = false ∧ c ≠ 0 ∧ c ≠ 45 ∧ c ≠ 43 :=
    fun c hc => isdigit_plain (isdigit_decimal n c hc)
  have hstring : cString (decimal n ++ rest) = decimal n ++ cString rest := by
    apply List.takeWhile_append_of_pos
    intro c hc
    simp [(hplain c hc).2.1]
  have hhead : ∀ c ∈ (cString rest).head?, isdigit c = false := by
    cases rest with
    | nil => simp [cString]
    | cons c rest =>
      intro d hd
      by_cases hc : c = 0
      · simp [cString, hc] at hd
      · have hd' : c = d := by simpa [cString, hc] using hd
        exact hd' ▸ hrest c rfl
  obtain ⟨c, digits, hdigits⟩ := List.exists_cons_of_ne_nil (numeral_ne_nil 10 n)
  have hc := hplain c (by rw [decimal, hdigits]; exact List.mem_cons_self)
  have hdrop : (decimal n ++ cString rest).dropWhile isspace = decimal n ++ cString rest := by
    rw [decimal, hdigits, List.cons_append, List.dropWhile_cons_of_neg (by simp [hc.1])]
  have hsign : (decimal n ++ cString rest).head? = some c := by
    rw [decimal, hdigits]
    rfl
  have hread : decimalDigits.read (decimal n) = some n := decimalDigits.read_write (by decide) n
  simp only [atoi, hstring, hdrop, hsign, Option.some.injEq, hc.2.2.1, hc.2.2.2, or_self, if_false,
    takeWhile_numeral hhead, hread, Option.getD_some]
  exact if_pos ⟨by omega, by omega⟩

def unsigned (text : Bytes) : Bytes :=
  let rest := (cString text).dropWhile isspace
  if rest.head? = some 45 ∨ rest.head? = some 43 then rest.tail else rest

def Unnumbered (text : Bytes) : Prop := ∀ c ∈ (unsigned text).head?, isdigit c = false

theorem atoi_word {text : Bytes} (h : Unnumbered text) : atoi text = some 0 := by
  have hdigits : (unsigned text).takeWhile isdigit = [] := by
    cases hrest : unsigned text with
    | nil => rfl
    | cons c rest => exact List.takeWhile_cons_of_neg (by simp [h c (by rw [hrest]; rfl)])
  rw [unsigned] at hdigits
  have hread : decimalDigits.read [] = some 0 := rfl
  simp only [atoi, hdigits, hread, Option.getD_some, Nat.cast_zero, neg_zero, ite_self]
  rfl

end ConfigValues

end SocksProxy
