import Mathlib.Tactic.Common

namespace SocksProxy.FieldParsing

variable {α β γ : Type}

abbrev Parser (α β : Type) := StateT (List α) Option β

def symbol : Parser α α
  | [] => none
  | x :: xs => some (x, xs)

def exactly (n : ℕ) : Parser α (List α) := fun xs =>
  if n ≤ xs.length then some (xs.take n, xs.drop n) else none

def lengthPrefixed (size : α → ℕ) : Parser α (List α) := do
  let x ← symbol
  exactly (size x)

def require (c : Prop) [Decidable c] : Parser α Unit := fun xs =>
  if c then some ((), xs) else none

@[simp] theorem symbol_nil : symbol ([] : List α) = none := rfl

@[simp] theorem symbol_cons (x : α) (xs : List α) : symbol (x :: xs) = some (x, xs) := rfl

theorem bind_apply (p : Parser α β) (q : β → Parser α γ) (xs : List α) :
    (p >>= q) xs = (p xs).bind fun r => q r.1 r.2 := rfl

@[simp] theorem pure_apply (b : β) (xs : List α) : (pure b : Parser α β) xs = some (b, xs) := rfl

@[simp] theorem require_apply (c : Prop) [Decidable c] (xs : List α) :
    require c xs = if c then some ((), xs) else none := rfl

def Exact (p : Parser α β) (code : β → List α → Prop) : Prop :=
  ∀ xs b rest, p xs = some (b, rest) ↔ ∃ h, code b h ∧ xs = h ++ rest

theorem exact_symbol : Exact (symbol (α := α)) (fun x h => h = [x]) := by
  intro xs x rest
  cases xs <;> simp

theorem exact_exactly (n : ℕ) : Exact (exactly (α := α) n) (fun f h => h = f ∧ f.length = n) := by
  intro xs f rest
  simp only [exactly, Option.ite_none_right_eq_some, Option.some.injEq, Prod.mk.injEq]
  constructor
  · rintro ⟨hn, rfl, rfl⟩
    exact ⟨_, ⟨rfl, List.length_take_of_le hn⟩, (List.take_append_drop n xs).symm⟩
  · rintro ⟨_, ⟨rfl, rfl⟩, rfl⟩
    simp

theorem exact_require (c : Prop) [Decidable c] :
    Exact (require (α := α) c) (fun _ h => c ∧ h = []) := by
  intro xs u rest
  simp [eq_comm]

theorem exact_pure (b : β) : Exact (pure b : Parser α β) (fun c h => c = b ∧ h = []) := by
  intro xs c rest
  simp [eq_comm]

theorem Exact.bind {p : Parser α β} {q : β → Parser α γ} {c : β → List α → Prop}
    {d : β → γ → List α → Prop} (hp : Exact p c) (hq : ∀ b, Exact (q b) (d b)) :
    Exact (p >>= q) (fun g h => ∃ b h₁ h₂, c b h₁ ∧ d b g h₂ ∧ h = h₁ ++ h₂) := by
  intro xs g rest
  rw [bind_apply, Option.bind_eq_some_iff]
  constructor
  · rintro ⟨⟨b, mid⟩, hb, hg⟩
    obtain ⟨h₁, hc, rfl⟩ := (hp xs b mid).mp hb
    obtain ⟨h₂, hd, rfl⟩ := (hq b mid g rest).mp hg
    exact ⟨h₁ ++ h₂, ⟨b, h₁, h₂, hc, hd, rfl⟩, by simp⟩
  · rintro ⟨_, ⟨b, h₁, h₂, hc, hd, rfl⟩, rfl⟩
    refine ⟨(b, h₂ ++ rest), (hp _ b _).mpr ⟨h₁, hc, by simp⟩, ?_⟩
    exact (hq b _ g rest).mpr ⟨h₂, hd, rfl⟩

theorem Exact.congr {p : Parser α β} {c d : β → List α → Prop} (hp : Exact p c)
    (h : ∀ b xs, c b xs ↔ d b xs) : Exact p d := by
  intro xs b rest
  rw [hp xs b rest]
  simp only [h]

theorem exact_lengthPrefixed (size : α → ℕ) :
    Exact (lengthPrefixed size) (fun f h => ∃ x, size x = f.length ∧ h = x :: f) := by
  refine (exact_symbol.bind fun x => exact_exactly (size x)).congr ?_
  intro f h
  constructor
  · rintro ⟨x, _, _, rfl, ⟨rfl, hf⟩, rfl⟩
    exact ⟨x, hf.symm, rfl⟩
  · rintro ⟨x, hf, rfl⟩
    exact ⟨x, [x], f, rfl, ⟨rfl, hf.symm⟩, rfl⟩

def upTo (stop : α → Bool) : Parser α (List α)
  | [] => none
  | x :: xs => if stop x then some ([], xs) else (upTo stop xs).map fun r => (x :: r.1, r.2)

theorem exact_upTo (stop : α → Bool) : Exact (upTo stop)
    (fun f h => (∀ x ∈ f, stop x = false) ∧ ∃ z, stop z = true ∧ h = f ++ [z]) := by
  intro xs
  induction xs with
  | nil => simp [upTo]
  | cons x xs ih =>
    intro f rest
    simp only [upTo]
    by_cases hx : stop x = true
    · rw [if_pos hx, Option.some.injEq, Prod.mk.injEq]
      constructor
      · rintro ⟨rfl, rfl⟩
        exact ⟨[x], ⟨by simp, x, hx, rfl⟩, rfl⟩
      · rintro ⟨_, ⟨hf, z, hz, rfl⟩, he⟩
        rcases f with _ | ⟨y, f⟩
        · exact ⟨rfl, by simpa using (List.cons.inj he).2⟩
        · have hy : stop y = false := hf y (by simp)
          rw [(List.cons.inj he).1, hy] at hx
          cases hx
    · rw [if_neg hx, Option.map_eq_some_iff]
      constructor
      · rintro ⟨⟨g, tail⟩, hg, he⟩
        obtain ⟨_, ⟨hf, z, hz, rfl⟩, rfl⟩ := (ih g tail).mp hg
        obtain ⟨rfl, rfl⟩ := Prod.mk.inj he
        exact ⟨x :: g ++ [z], ⟨by simpa [hx] using hf, z, hz, rfl⟩, rfl⟩
      · rintro ⟨_, ⟨hf, z, hz, rfl⟩, he⟩
        rcases f with _ | ⟨y, f⟩
        · rw [(List.cons.inj he).1, hz] at hx
          exact absurd rfl hx
        · obtain ⟨rfl, htail⟩ := List.cons.inj he
          refine ⟨(f, rest), (ih f rest).mpr ⟨f ++ [z], ⟨?_, z, hz, rfl⟩, htail⟩, rfl⟩
          exact fun w hw => hf w (List.mem_cons_of_mem _ hw)

end SocksProxy.FieldParsing
