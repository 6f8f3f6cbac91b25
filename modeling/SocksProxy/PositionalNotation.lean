import Mathlib.Data.Nat.Digits.Lemmas

namespace SocksProxy.PositionalNotation

variable {α : Type}

structure Digits (α : Type) (base : ℕ) where
  symbol : ℕ → α
  value : α → Option ℕ
  value_symbol : ∀ d < base, value (symbol d) = some d

namespace Digits

variable {base : ℕ} (D : Digits α base)

def write (n : ℕ) : List α :=
  if n = 0 then [D.symbol 0] else (Nat.digits base n).reverse.map D.symbol

def readFrom (n : ℕ) : List α → Option ℕ
  | [] => some n
  | a :: text => (D.value a).bind fun d => readFrom (n * base + d) text

def read (text : List α) : Option ℕ := D.readFrom 0 text

theorem readFrom_append (n : ℕ) (xs ys : List α) :
    D.readFrom n (xs ++ ys) = (D.readFrom n xs).bind fun m => D.readFrom m ys := by
  induction xs generalizing n with
  | nil => rfl
  | cons x xs ih =>
    rw [List.cons_append, readFrom, readFrom, Option.bind_assoc]
    simp only [ih]

theorem readFrom_shift (n : ℕ) (text : List α) :
    D.readFrom n text = (D.read text).map fun m => n * base ^ text.length + m := by
  induction text generalizing n with
  | nil => simp [readFrom, read]
  | cons a text ih =>
    rw [read, readFrom, readFrom]
    cases D.value a with
    | none => rfl
    | some d =>
      rw [Option.bind_some, Option.bind_some, ih, ih (0 * base + d), Option.map_map]
      congr 1
      funext m
      simp only [Function.comp_apply, List.length_cons, pow_succ]
      ring

theorem read_append (xs ys : List α) : D.read (xs ++ ys) =
    (D.read xs).bind fun m => (D.read ys).map fun n => m * base ^ ys.length + n := by
  rw [read, readFrom_append]
  congr 1
  funext m
  exact D.readFrom_shift m ys

theorem read_digits (ds : List ℕ) (h : ∀ d ∈ ds, d < base) :
    D.read (ds.reverse.map D.symbol) = some (Nat.ofDigits base ds) := by
  induction ds with
  | nil => rfl
  | cons d ds ih =>
    have hd : D.read [D.symbol d] = some d := by
      rw [read, readFrom, D.value_symbol d (h d List.mem_cons_self)]
      simp [readFrom]
    rw [List.reverse_cons, List.map_append, read_append, ih fun x hx => h x (List.mem_cons_of_mem d hx),
      Option.bind_some, List.map_singleton, hd, Option.map_some, Nat.ofDigits_cons]
    simp only [List.length_singleton, pow_one, Option.some.injEq]
    ring

theorem read_write (hb : 1 < base) (n : ℕ) : D.read (D.write n) = some n := by
  unfold write
  split_ifs with hn
  · have h0 := D.read_digits [0] (by simpa using Nat.lt_of_succ_lt hb)
    rw [hn]
    exact h0
  · rw [D.read_digits _ fun d hd => Nat.digits_lt_base hb hd, Nat.ofDigits_digits]

theorem not_mem_write (hb : 1 < base) {a : α} (ha : D.value a = none) (n : ℕ) : a ∉ D.write n := by
  have hsymbol : ∀ d < base, a ≠ D.symbol d := by
    rintro d hd rfl
    rw [D.value_symbol d hd] at ha
    cases ha
  intro hm
  unfold write at hm
  split_ifs at hm with hn
  · exact hsymbol 0 (Nat.lt_of_succ_lt hb) (List.mem_singleton.mp hm)
  · obtain ⟨d, hd, he⟩ := List.mem_map.mp hm
    exact hsymbol d (Nat.digits_lt_base hb (List.mem_reverse.mp hd)) he.symm

theorem length_write_pos (n : ℕ) : 0 < (D.write n).length := by
  unfold write
  split_ifs with hn
  · exact Nat.one_pos
  · simpa using List.length_pos_of_ne_nil (Nat.digits_ne_nil_iff_ne_zero.mpr hn)

theorem length_write_le (hb : 1 < base) {n k : ℕ} (hk : 0 < k) (h : n < base ^ k) :
    (D.write n).length ≤ k := by
  unfold write
  split_ifs with hn
  · exact hk
  · simpa using (Nat.digits_length_le_iff hb n).mpr h

theorem write_small {n : ℕ} (h : n < base) : D.write n = [D.symbol n] := by
  unfold write
  split_ifs with hn
  · rw [hn]
  · rw [Nat.digits_of_lt base n hn h]
    rfl

theorem write_step (hb : 1 < base) {n : ℕ} (h : base ≤ n) :
    D.write n = D.write (n / base) ++ [D.symbol (n % base)] := by
  have hpos : 0 < n := by omega
  have hdiv : n / base ≠ 0 := (Nat.div_pos h (by omega)).ne'
  rw [write, if_neg hpos.ne', write, if_neg hdiv, Nat.digits_def' hb hpos]
  simp

theorem write_two (hb : 1 < base) {n : ℕ} (h : base ≤ n) (h' : n < base * base) :
    D.write n = [D.symbol (n / base), D.symbol (n % base)] := by
  rw [D.write_step hb h, D.write_small (Nat.div_lt_of_lt_mul h')]
  rfl

end Digits

def readFields [BEq α] {β : Type} (separator : α) (count : ℕ) (field : List α → Option β)
    (text : List α) : Option (List β) :=
  if (text.splitOn separator).length = count then (text.splitOn separator).mapM field else none

theorem readFields_intercalate [BEq α] [LawfulBEq α] {β ι : Type} {separator : α} {count : ℕ}
    {field : List α → Option β} {keys : List ι} {text : ι → List α} {result : ι → β}
    (hsep : ∀ k ∈ keys, separator ∉ text k) (hne : keys ≠ []) (hlen : keys.length = count)
    (hfield : ∀ k ∈ keys, field (text k) = some (result k)) :
    readFields separator count field ([separator].intercalate (keys.map text)) = some (keys.map result) := by
  have hsplit : ([separator].intercalate (keys.map text)).splitOn separator = keys.map text := by
    apply List.splitOn_intercalate
    · intro l hl
      obtain ⟨k, hk, rfl⟩ := List.mem_map.mp hl
      exact hsep k hk
    · simpa using hne
  rw [readFields, hsplit, List.length_map, if_pos hlen]
  clear hsplit hlen hne hsep
  induction keys with
  | nil => rfl
  | cons k keys ih =>
    rw [List.map_cons, List.mapM_cons, hfield k List.mem_cons_self,
      ih fun j hj => hfield j (List.mem_cons_of_mem k hj)]
    rfl

theorem intercalate_injective [BEq α] [LawfulBEq α] {separator : α} {xs ys : List (List α)}
    (hx : ∀ x ∈ xs, separator ∉ x) (hy : ∀ y ∈ ys, separator ∉ y) (hxs : xs ≠ []) (hys : ys ≠ [])
    (h : [separator].intercalate xs = [separator].intercalate ys) : xs = ys := by
  have hsplit := congrArg (List.splitOn separator) h
  rwa [List.splitOn_intercalate separator hx hxs, List.splitOn_intercalate separator hy hys] at hsplit

theorem flatMap_eq_iff {ι : Type} {f g : ι → List α} {xs : List ι}
    (h : ∀ x ∈ xs, (f x).length = (g x).length) :
    xs.flatMap f = xs.flatMap g ↔ ∀ x ∈ xs, f x = g x := by
  induction xs with
  | nil => simp
  | cons x xs ih =>
    have hx := h x List.mem_cons_self
    rw [List.flatMap_cons, List.flatMap_cons, List.forall_mem_cons,
      ← ih fun y hy => h y (List.mem_cons_of_mem x hy)]
    constructor
    · intro he
      exact List.append_inj he hx
    · rintro ⟨hfg, hrest⟩
      rw [hfg, hrest]

end SocksProxy.PositionalNotation
