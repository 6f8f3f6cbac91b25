import Mathlib.Data.List.Basic

namespace SocksProxy.TextLines

variable {α : Type} [DecidableEq α]

def lines (nl : α) : List α → List (List α)
  | [] => []
  | a :: text => if a = nl then [] :: lines nl text else
    match lines nl text with
    | [] => [[a]]
    | l :: ls => (a :: l) :: ls

theorem lines_cons_newline (nl : α) (text : List α) : lines nl (nl :: text) = [] :: lines nl text := by
  rw [lines, if_pos rfl]

theorem lines_append_newline {nl : α} {l : List α} (text : List α) (h : nl ∉ l) :
    lines nl (l ++ nl :: text) = l :: lines nl text := by
  induction l with
  | nil => exact lines_cons_newline nl text
  | cons a l ih =>
    have ha : a ≠ nl := fun he => h (he ▸ List.mem_cons_self)
    rw [List.cons_append, lines, if_neg ha, ih (fun hm => h (List.mem_cons_of_mem a hm))]

theorem lines_unterminated {nl : α} {l : List α} (h : nl ∉ l) :
    lines nl l = if l = [] then [] else [l] := by
  induction l with
  | nil => rfl
  | cons a l ih =>
    have ha : a ≠ nl := fun he => h (he ▸ List.mem_cons_self)
    rw [lines, if_neg ha, ih (fun hm => h (List.mem_cons_of_mem a hm))]
    by_cases hl : l = []
    · simp [hl]
    · simp [hl]

def unlines (nl : α) (ls : List (List α)) : List α := ls.flatMap (· ++ [nl])

theorem lines_unlines {nl : α} {ls : List (List α)} (h : ∀ l ∈ ls, nl ∉ l) :
    lines nl (unlines nl ls) = ls := by
  induction ls with
  | nil => rfl
  | cons l ls ih =>
    have hl := lines_append_newline (unlines nl ls) (h l List.mem_cons_self)
    have hls := ih fun k hk => h k (List.mem_cons_of_mem l hk)
    rw [unlines, List.flatMap_cons, List.append_assoc, List.singleton_append]
    rw [unlines] at hl hls
    rw [hl, hls]

theorem mem_tail_lines {nl : α} {l : List α} (h : nl ∉ l) (before after : List α) :
    l ∈ (lines nl (before ++ nl :: (l ++ nl :: after))).tail := by
  induction before with
  | nil =>
    rw [List.nil_append, lines_cons_newline, lines_append_newline after h]
    simp
  | cons a before ih =>
    rw [List.cons_append, lines]
    split_ifs
    · exact List.mem_of_mem_tail ih
    · cases hrest : lines nl (before ++ nl :: (l ++ nl :: after)) with
      | nil => simp [hrest] at ih
      | cons k ks => rwa [hrest] at ih

theorem length_lines_append_newline (nl : α) (l text : List α) :
    (lines nl (l ++ nl :: text)).length = l.count nl + 1 + (lines nl text).length := by
  induction l with
  | nil => rw [List.nil_append, lines_cons_newline, List.length_cons, List.count_nil]; omega
  | cons a l ih =>
    rw [List.cons_append, lines]
    by_cases ha : a = nl
    · rw [if_pos ha, List.length_cons, ih, ha, List.count_cons_self]
      omega
    · rw [if_neg ha, List.count_cons_of_ne ha, ← ih]
      cases hl : lines nl (l ++ nl :: text) with
      | nil =>
        rw [hl, List.length_nil] at ih
        omega
      | cons k ks => rfl

theorem length_lines_unlines (nl : α) (ls : List (List α)) :
    (lines nl (unlines nl ls)).length = (unlines nl ls).count nl := by
  induction ls with
  | nil => rfl
  | cons l ls ih =>
    have hl := length_lines_append_newline nl l (unlines nl ls)
    rw [unlines, List.flatMap_cons, List.append_assoc, List.singleton_append, List.count_append, List.count_cons_self]
    rw [unlines] at hl ih
    rw [hl, ih]
    omega

theorem length_lines_unlines_iff (nl : α) (ls : List (List α)) :
    (lines nl (unlines nl ls)).length = ls.length ↔ ∀ l ∈ ls, nl ∉ l := by
  have hcount : ls.length ≤ (unlines nl ls).count nl ∧
      ((unlines nl ls).count nl = ls.length ↔ ∀ l ∈ ls, nl ∉ l) := by
    induction ls with
    | nil => simp [unlines]
    | cons l ls ih =>
      obtain ⟨hle, hiff⟩ := ih
      have hcons : (unlines nl (l :: ls)).count nl = l.count nl + 1 + (unlines nl ls).count nl := by
        simp only [unlines, List.flatMap_cons, List.count_append, List.count_singleton_self]
      rw [hcons, List.length_cons, List.forall_mem_cons, ← hiff, ← List.count_eq_zero]
      omega
  rw [length_lines_unlines]
  exact hcount.2

end SocksProxy.TextLines
