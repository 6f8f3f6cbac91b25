import SocksProxy.ConfigReader
import SocksProxy.WhileLoops
import SocksProxy.WordSeparation

namespace SocksProxy.ReducedText

open ConfigReader WhileLoops WordSeparation

theorem findFirst_found {p : UInt8 → Bool} {a : UInt8} (xs ys zs : Bytes) (hy : ∀ b ∈ ys, p b = false)
    (ha : p a = true) : findFirst p (xs ++ (ys ++ a :: zs)) xs.length = some (xs.length + ys.length) := by
  have hi : (ys ++ a :: zs).findIdx? p = some ys.length := by
    rw [List.findIdx?_append, List.findIdx?_eq_none_iff.mpr hy, List.findIdx?_cons, if_pos ha]
    simp
  rw [findFirst, List.drop_left, hi, Option.map_some]

theorem findFirst_absent {p : UInt8 → Bool} (xs ys : Bytes) (hy : ∀ b ∈ ys, p b = false) :
    findFirst p (xs ++ ys) xs.length = none := by
  rw [findFirst, List.drop_left, List.findIdx?_eq_none_iff.mpr hy, Option.map_none]

theorem findLast_found {p : UInt8 → Bool} {a : UInt8} (xs ys : Bytes) (hy : ∀ b ∈ ys, p b = false)
    (ha : p a = true) : findLast p (xs ++ a :: ys) = some xs.length := by
  have hr : ∀ b ∈ ys.reverse, p b = false := fun b hb => hy b (List.mem_reverse.mp hb)
  have hi : (xs ++ a :: ys).reverse.findIdx? p = some ys.length := by
    rw [List.reverse_append, List.reverse_cons, List.append_assoc, List.findIdx?_append,
      List.findIdx?_eq_none_iff.mpr hr, List.singleton_append, List.findIdx?_cons, if_pos ha]
    simp
  rw [findLast, hi, Option.map_some]
  simp only [List.length_append, List.length_cons]
  congr 1
  omega

variable {ws : Bytes}

abbrev blank (ws : Bytes) : UInt8 → Bool := fun c => ws.contains c

theorem trim_blank {s : Bytes} (h : Blank (blank ws) s) : trim ws s = [] := by
  have hf : findFirst (fun c => !ws.contains c) s 0 = none := by
    apply findFirst_absent [] s
    intro b hb
    simpa using h b hb
  rw [trim, hf]

structure Tight (ws m : Bytes) : Prop where
  first : ∃ a t, m = a :: t ∧ blank ws a = false
  last : ∃ t z, m = t ++ [z] ∧ blank ws z = false

theorem Tight.last_of_append {xs ys : Bytes} (h : Tight ws (xs ++ ys)) (hy : ys ≠ []) :
    ∃ t z, ys = t ++ [z] ∧ blank ws z = false := by
  obtain ⟨t, z, he, hz⟩ := h.last
  refine ⟨ys.dropLast, ys.getLast hy, (List.dropLast_append_getLast hy).symm, ?_⟩
  have hl : (xs ++ ys).getLast (by simp [hy]) = z := by simp [he]
  rw [List.getLast_append_of_right_ne_nil _ _ hy] at hl
  exact hl ▸ hz

theorem trim_tight {bs m cs : Bytes} (hb : Blank (blank ws) bs) (hm : Tight ws m)
    (hc : Blank (blank ws) cs) : trim ws (bs ++ m ++ cs) = m := by
  obtain ⟨a, t, ht, ha⟩ := hm.first
  obtain ⟨t', z, hz', hz⟩ := hm.last
  have hfirst : findFirst (fun c => !ws.contains c) (bs ++ m ++ cs) 0 = some bs.length := by
    have h := findFirst_found [] bs (t ++ cs) (p := fun c => !ws.contains c) (a := a)
      (fun b hb' => by simpa using hb b hb') (by simpa using ha)
    simpa [ht] using h
  have hlast : findLast (fun c => !ws.contains c) (bs ++ m ++ cs) = some (bs.length + t'.length) := by
    have h := findLast_found (bs ++ t') cs (p := fun c => !ws.contains c) (a := z)
      (fun b hb' => by simpa using hc b hb') (by simpa using hz)
    simpa [hz'] using h
  have hlen : m.length = t'.length + 1 := by simp [hz']
  rw [trim, hfirst]
  simp only [hlast, Option.getD_some, substr]
  have hr : bs.length + t'.length - bs.length + 1 = m.length := by omega
  rw [hr, List.append_assoc, List.drop_left, List.take_left]

theorem blank_or_tight (ws s : Bytes) :
    Blank (blank ws) s ∨ ∃ bs m cs, s = bs ++ m ++ cs ∧ Blank (blank ws) bs ∧ Tight ws m ∧
      Blank (blank ws) cs := by
  rcases blank_or_split (blank ws) s with h | ⟨bs, a, tail, rfl, hb, ha⟩
  · exact .inl h
  rcases blank_or_split (blank ws) (a :: tail).reverse with h | ⟨cs, z, t, he, hc, hz⟩
  · have hn := h a (by simp)
    rw [ha] at hn
    cases hn
  have hm : a :: tail = (t.reverse ++ [z]) ++ cs.reverse := by
    rw [← List.reverse_reverse (a :: tail), he]
    simp
  refine .inr ⟨bs, t.reverse ++ [z], cs.reverse, by rw [hm]; simp, hb, ⟨?_, t.reverse, z, rfl, hz⟩,
    fun b hb' => hc b (List.mem_reverse.mp hb')⟩
  cases ht : t.reverse with
  | nil =>
    rw [ht] at hm
    exact ⟨z, [], rfl, hz⟩
  | cons b t' =>
    rw [ht] at hm
    have hab : a = b := (List.cons.inj hm).1
    exact ⟨b, t' ++ [z], rfl, hab ▸ ha⟩

def Scanned (fill ws out : Bytes) (s : Bytes × Option ℕ) : Prop :=
  ∃ done rest, s = (done ++ rest, findFirst (blank ws) (done ++ rest) done.length) ∧
    (rest = [] ∨ Tight ws rest) ∧ done ++ fill.intercalate (words (blank ws) rest) = out

def unscanned (s : Bytes × Option ℕ) : ℕ := (s.2.map fun beginSpace => s.1.length - beginSpace).getD 0

def InRange (call : Replacement) : Prop :=
  ∃ e, call.endSpace = some e ∧ call.beginSpace < e ∧ e < call.result.length

theorem solid_or_gap {rest : Bytes} (h : rest = [] ∨ Tight ws rest) : Solid (blank ws) rest ∨
    ∃ w b bs c tail, rest = w ++ b :: (bs ++ c :: tail) ∧ w ≠ [] ∧ Solid (blank ws) w ∧
      Blank (blank ws) (b :: bs) ∧ blank ws c = false ∧ Tight ws (c :: tail) := by
  rcases solid_or_split (blank ws) rest with hs | ⟨w, b, tail, rfl, hs, hb⟩
  · exact .inl hs
  have ht : Tight ws (w ++ b :: tail) := h.resolve_left (by simp)
  have hw : w ≠ [] := by
    rintro rfl
    obtain ⟨a, t, he, ha⟩ := ht.first
    rw [(List.cons.inj he).1, ha] at hb
    cases hb
  rcases blank_or_split (blank ws) tail with hall | ⟨bs, c, tail', rfl, hbs, hc⟩
  · -- the last byte of a tight text is no whitespace
    obtain ⟨u, z, hu, hz⟩ := ht.last_of_append (List.cons_ne_nil b tail)
    have hzb := (hall.cons hb) z (by simp [hu])
    rw [hz] at hzb
    cases hzb
  · have hsplit : Tight ws ((w ++ b :: bs) ++ c :: tail') := by simpa using ht
    exact .inr ⟨w, b, bs, c, tail', rfl, hw, hs, hbs.cons hb, hc, ⟨c, tail', rfl, hc⟩,
      hsplit.last_of_append (List.cons_ne_nil c tail')⟩

theorem reducePass_gap (fill text bs tail : Bytes) {b c : UInt8} (hgap : Blank (blank ws) (b :: bs))
    (hc : blank ws c = false) :
    reducePass fill ws (text ++ b :: (bs ++ c :: tail), some text.length) =
      some (⟨text ++ b :: (bs ++ c :: tail), text.length, some (text.length + (bs.length + 1))⟩,
        (text ++ fill ++ c :: tail,
          findFirst (blank ws) (text ++ fill ++ c :: tail) (text ++ fill).length)) := by
  have hend := findFirst_found text (b :: bs) tail (p := fun d => !ws.contains d) (a := c)
    (fun d hd => by simpa using hgap d hd) (by simpa using hc)
  have hdrop : (text ++ ((b :: bs) ++ c :: tail)).drop (text.length + (b :: bs).length) = c :: tail := by
    rw [← List.append_assoc, ← List.length_append, List.drop_left]
  have hrange : text.length + (text.length + (b :: bs).length - text.length) =
      text.length + (b :: bs).length := by omega
  have hstart : (text ++ fill).length = text.length + fill.length := List.length_append
  rw [← List.cons_append, reducePass, hend]
  simp only [Option.getD_some]
  rw [hrange, hdrop, List.take_left, hstart]
  rfl

theorem Scanned.gap {fill out : Bytes} {s : Bytes × Option ℕ} (h : Scanned fill ws out s) :
    s = (out, none) ∨ ∃ text b bs c tail, s = (text ++ b :: (bs ++ c :: tail), some text.length) ∧
      Blank (blank ws) (b :: bs) ∧ blank ws c = false ∧ Scanned fill ws out (text ++ fill ++ c :: tail,
        findFirst (blank ws) (text ++ fill ++ c :: tail) (text ++ fill).length) := by
  obtain ⟨done, rest, rfl, hrest, hout⟩ := h
  rcases solid_or_gap hrest with hs | ⟨w, b, bs, c, tail, rfl, hw, hs, hgap, hc, hnext⟩
  · have hall : fill.intercalate (words (blank ws) rest) = rest := by
      by_cases he : rest = []
      · simp [he]
      · simp [words_solid he hs]
    rw [hall] at hout
    exact .inl (by rw [findFirst_absent done rest hs, hout])
  · have hb := hgap b List.mem_cons_self
    have hbegin := findFirst_found done w (bs ++ c :: tail) (p := blank ws) hs hb
    refine .inr ⟨done ++ w, b, bs, c, tail, ?_, hgap, hc, _, _, rfl, .inr hnext, ?_⟩
    · rw [hbegin, List.append_assoc, List.length_append]
    · have hbs : Blank (blank ws) bs := fun d hd => hgap d (List.mem_cons_of_mem b hd)
      obtain ⟨v, vs, hv⟩ := List.exists_cons_of_ne_nil (words_ne_nil tail hc)
      rw [← hout, words_solid_append _ hw hs hb, words_blank_append _ hbs, hv, List.intercalate_cons_cons]
      simp

theorem unscanned_le (fill ws text rest : Bytes) :
    unscanned (text ++ fill ++ rest, findFirst (blank ws) (text ++ fill ++ rest) (text ++ fill).length) ≤
      rest.length := by
  rw [findFirst, List.drop_left]
  cases (rest.findIdx? (blank ws)) with
  | none => exact Nat.zero_le _
  | some i =>
    simp only [unscanned, Option.map_some, Option.getD_some, List.length_append]
    omega

theorem reducePass_progress (fill ws out : Bytes) :
    Progress (reducePass fill ws) (Scanned fill ws out) InRange unscanned := by
  have hpass : ∀ s e t, Scanned fill ws out s → reducePass fill ws s = some (e, t) →
      Scanned fill ws out t ∧ InRange e ∧ unscanned t < unscanned s := by
    intro s e t hs hbody
    rcases hs.gap with rfl | ⟨text, b, bs, c, tail, rfl, hgap, hc, hnext⟩
    · cases hbody
    · rw [reducePass_gap fill text bs tail hgap hc] at hbody
      cases hbody
      refine ⟨hnext, ⟨_, rfl, by simp, by simp⟩, ?_⟩
      have hle := unscanned_le fill ws text (c :: tail)
      have hlen : unscanned (text ++ b :: (bs ++ c :: tail), some text.length) =
          (b :: (bs ++ c :: tail)).length := by simp [unscanned]
      rw [hlen]
      simp only [List.length_append, List.length_cons] at hle ⊢
      omega
  exact ⟨fun s e t hs h => (hpass s e t hs h).1, fun s e t hs h => (hpass s e t hs h).2.1,
    fun s e t hs h => (hpass s e t hs h).2.2⟩

theorem Scanned.ended {fill out : Bytes} {s : Bytes × Option ℕ} (h : Scanned fill ws out s)
    (hend : reducePass fill ws s = none) : s = (out, none) := by
  rcases h.gap with rfl | ⟨text, b, bs, c, tail, rfl, hgap, hc, -⟩
  · rfl
  · rw [reducePass_gap fill text bs tail hgap hc] at hend
    cases hend

theorem Scanned.runs {fill out : Bytes} {s : Bytes × Option ℕ} (h : Scanned fill ws out s) :
    ∃ calls, Runs (reducePass fill ws) s calls (out, none) ∧ (∀ call ∈ calls, InRange call) ∧
      calls.length ≤ unscanned s := by
  have hp := reducePass_progress fill ws out
  obtain ⟨calls, u, hrun⟩ := hp.runs h
  obtain rfl := (hrun.keeps hp h).ended hrun.ended
  exact ⟨calls, hrun, hrun.allows hp h, hrun.length_le hp h⟩

theorem reduceLoop_runs {fill : Bytes} {s u : Bytes × Option ℕ} {calls : List Replacement}
    (h : Runs (reducePass fill ws) s calls u) (fuel : ℕ) (hfuel : calls.length < fuel) :
    reduceLoop fill ws fuel s.1 s.2 = u.1 := by
  induction h generalizing fuel with
  | @done s hbody =>
    obtain ⟨result, _ | beginSpace⟩ := s
    · obtain ⟨fuel, rfl⟩ := Nat.exists_eq_succ_of_ne_zero (Nat.ne_zero_of_lt hfuel)
      rfl
    · cases hbody
  | @pass s t u call calls hbody _ ih =>
    obtain ⟨result, _ | beginSpace⟩ := s
    · cases hbody
    · obtain ⟨fuel, rfl⟩ := Nat.exists_eq_succ_of_ne_zero (Nat.ne_zero_of_lt hfuel)
      cases hbody
      apply ih fuel
      rw [List.length_cons] at hfuel
      omega

theorem reduceLoop_eq (fill : Bytes) (fuel : ℕ) (done rest : Bytes) (hfuel : rest.length < fuel)
    (hrest : rest = [] ∨ Tight ws rest) :
    reduceLoop fill ws fuel (done ++ rest) (findFirst (blank ws) (done ++ rest) done.length) =
      done ++ fill.intercalate (words (blank ws) rest) := by
  have hscan : Scanned fill ws (done ++ fill.intercalate (words (blank ws) rest))
      (done ++ rest, findFirst (blank ws) (done ++ rest) done.length) := ⟨done, rest, rfl, hrest, rfl⟩
  obtain ⟨calls, hrun, -, hle⟩ := hscan.runs
  apply reduceLoop_runs hrun
  have hstart := unscanned_le [] ws done rest
  rw [List.append_nil] at hstart
  omega

theorem words_trim (ws s : Bytes) : words (blank ws) (trim ws s) = words (blank ws) s := by
  rcases blank_or_tight ws s with h | ⟨bs, m, cs, rfl, hb, hm, hc⟩
  · rw [trim_blank h, words_blank h, words_nil]
  · rw [trim_tight hb hm hc, words_append_blank _ hc, words_blank_append _ hb]

theorem trim_cases (ws s : Bytes) : trim ws s = [] ∨ Tight ws (trim ws s) := by
  rcases blank_or_tight ws s with h | ⟨bs, m, cs, rfl, hb, hm, hc⟩
  · exact .inl (trim_blank h)
  · exact .inr (by rwa [trim_tight hb hm hc])

theorem reduceWith_eq (fill ws s : Bytes) :
    reduceWith fill ws s = fill.intercalate (words (blank ws) s) := by
  rw [← words_trim ws s, reduceWith]
  exact reduceLoop_eq fill _ [] (trim ws s) (Nat.lt_succ_self _) (trim_cases ws s)

theorem scanned_trim (fill ws s : Bytes) : Scanned fill ws (reduceWith fill ws s)
    (trim ws s, findFirst (blank ws) (trim ws s) 0) := by
  refine ⟨[], trim ws s, rfl, trim_cases ws s, ?_⟩
  rw [reduceWith_eq, words_trim, List.nil_append]

theorem reduce_eq (s : Bytes) : reduce s = fill.intercalate (words (blank whitespace) s) :=
  reduceWith_eq fill whitespace s

theorem blank_fill : Blank (blank whitespace) fill := by
  intro c hc
  rw [List.mem_singleton.mp hc]
  rfl

theorem reduce_filter (s : Bytes) :
    ((reduce s).filter fun c => !blank whitespace c) = s.filter fun c => !blank whitespace c := by
  rw [reduce_eq, filter_intercalate blank_fill fun w hw => solid_of_mem_words hw, words_flatten]

theorem reduce_append_blank (s : Bytes) {bs : Bytes} (h : Blank (blank whitespace) bs) :
    reduce (s ++ bs) = reduce s := by
  rw [reduce_eq, reduce_eq, words_append_blank s h]

theorem reduce_blank_append (s : Bytes) {bs : Bytes} (h : Blank (blank whitespace) bs) :
    reduce (bs ++ s) = reduce s := by
  rw [reduce_eq, reduce_eq, words_blank_append s h]

structure Reduced (t : Bytes) : Prop where
  noTab : 9 ∉ t
  head : t.head? ≠ some 32
  last : t.getLast? ≠ some 32
  single : ¬[32, 32] <:+: t

theorem blank_iff (c : UInt8) : blank whitespace c = true ↔ c = 32 ∨ c = 9 := by
  simp [whitespace]

theorem Reduced.tail {w : Bytes} {t : Bytes} (h : Reduced (w ++ 32 :: t)) : Reduced t ∧ t ≠ [] := by
  have ht : t ≠ [] := by
    rintro rfl
    exact h.last (by simp)
  refine ⟨⟨?_, ?_, ?_, ?_⟩, ht⟩
  · intro hc
    exact h.noTab (List.mem_append_right w (List.mem_cons_of_mem 32 hc))
  · intro hc
    obtain ⟨u, rfl⟩ := List.head?_eq_some_iff.mp hc
    exact h.single ⟨w, u, by simp⟩
  · intro hc
    apply h.last
    rw [List.getLast?_append_of_ne_nil _ (by simp), List.getLast?_cons, hc]
    rfl
  · intro hc
    apply h.single
    exact hc.trans ⟨w ++ [32], [], by simp⟩

theorem reduce_reduced {t : Bytes} (h : Reduced t) : reduce t = t := by
  rw [reduce_eq]
  induction t using word_induction (blank whitespace) with
  | nil => simp
  | blank a l ha _ =>
    rcases (blank_iff a).mp ha with rfl | rfl
    · exact absurd rfl h.head
    · exact absurd List.mem_cons_self h.noTab
  | last w hw hs => simp [words_solid hw hs]
  | word w a l hw hs ha ih =>
    obtain rfl : a = 32 := by
      rcases (blank_iff a).mp ha with rfl | rfl
      · rfl
      · exact absurd (List.mem_append_right w List.mem_cons_self) h.noTab
    obtain ⟨hl, hne⟩ := h.tail
    obtain ⟨c, l', rfl⟩ := List.exists_cons_of_ne_nil hne
    have hc : blank whitespace c = false := by
      rw [← Bool.not_eq_true, blank_iff]
      rintro (rfl | rfl)
      · exact hl.head rfl
      · exact hl.noTab List.mem_cons_self
    obtain ⟨v, vs, hv⟩ := List.exists_cons_of_ne_nil (words_ne_nil l' hc)
    rw [words_solid_append _ hw hs ha, hv, List.intercalate_cons_cons, ← hv, ih hl]
    simp [fill]

theorem delimiterPos_found {d : UInt8} {k v : Bytes} (h : d ∉ k) :
    delimiterPos d (k ++ d :: v) = UInt32.ofNat k.length := by
  have hk : ∀ b ∈ k, (b == d) = false := by
    intro b hb
    rw [beq_eq_false_iff_ne]
    rintro rfl
    exact h hb
  have hf := findFirst_found [] k v (p := (· == d)) (a := d) hk (beq_self_eq_true d)
  simp only [List.nil_append, List.length_nil, Nat.zero_add] at hf
  rw [delimiterPos, hf, Option.getD_some]

theorem tagValue_eq (delimiter : UInt8) (data : Bytes) : tagValue delimiter data =
    (reduce (data.take (delimiterPos delimiter data).toNat),
      reduce (data.drop (delimiterPos delimiter data + 1).toNat)) := by
  have hne : (delimiterPos delimiter data).toNat ≠ npos := by
    have hlt := (delimiterPos delimiter data).toNat_lt
    simp only [npos]
    omega
  rw [tagValue, if_pos hne, substr, List.drop_zero]

theorem tagValue_found {d : UInt8} {k v : Bytes} (h : d ∉ k) (hlen : k.length < 2 ^ 32 - 1) :
    tagValue d (k ++ d :: v) = (reduce k, reduce v) := by
  have hpos : (UInt32.ofNat k.length).toNat = k.length := by
    rw [UInt32.toNat_ofNat']
    omega
  have hnext : (UInt32.ofNat k.length + 1).toNat = k.length + 1 := by
    rw [UInt32.toNat_add, hpos]
    simp only [UInt32.reduceToNat]
    omega
  rw [tagValue_eq, delimiterPos_found h, hpos, hnext, List.take_left, ← List.singleton_append,
    ← List.append_assoc]
  congr 2
  rw [show k.length + 1 = (k ++ [d]).length by simp, List.drop_left]

theorem tagValue_far {d : UInt8} {k v : Bytes} (hd : blank whitespace d = false) (h : d ∉ k)
    (hlen : 2 ^ 32 - 1 ≤ k.length) : (tagValue d (k ++ d :: v)).2 ≠ reduce v := by
  have hle : (UInt32.ofNat k.length + 1).toNat ≤ k.length := by
    rw [UInt32.toNat_add, UInt32.toNat_ofNat']
    simp only [UInt32.reduceToNat]
    omega
  rw [tagValue_eq, delimiterPos_found h]
  intro he
  have hf := congrArg (fun t => (t.filter fun c => !blank whitespace c).length) he
  simp only at hf
  rw [reduce_filter, reduce_filter, List.drop_append_of_le_length hle, List.filter_append,
    List.filter_cons_of_pos (by rw [hd]; rfl), List.length_append, List.length_cons] at hf
  omega

end SocksProxy.ReducedText
