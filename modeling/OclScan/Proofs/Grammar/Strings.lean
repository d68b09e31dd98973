import OclScan.Proofs.Grammar.Names

/-!
# Strings

How far a string goes (`inString?`): up to the quote that closes it (`closing?`), where a backslash
keeps the quote or the backslash after it from counting, or, if there is none, up to the last quote of
the text (`last?`). This is what the plan for strings matches (`Grammar.matchAt?_string`): where an
escape does not lead on, its backslash is read as any other character.
-/

namespace OclScan

/-- The number of characters before the quote that closes a string. A backslash before a backslash or
a quote is skipped together with it. -/
def closing? (q : Char) : List Char → Option Nat
  | [] => none
  | [c] => if c = q then some 0 else none
  | c :: d :: t =>
    if c = q then some 0
    else if c = '\\' ∧ (d = '\\' ∨ d = q) then (closing? q t).map (· + 2)
    else (closing? q (d :: t)).map (· + 1)

/-- The number of characters before the last quote. -/
def last? (q : Char) : List Char → Option Nat
  | [] => none
  | c :: t => ((last? q t).map (· + 1)).or (if c = q then some 0 else none)

/-- The number of characters in a string: up to the quote that closes it, or else to the last. -/
def inString? (q : Char) (t : List Char) : Option Nat := (closing? q t).or (last? q t)

section

variable {q c d : Char} {t u v : List Char} {n : Nat}

theorem last?_eq_none_iff : last? q t = none ↔ q ∉ t := by
  induction t with
  | nil => simp [last?]
  | cons c t ih =>
    rw [last?, Option.or_eq_none_iff, Option.map_eq_none_iff, ih, List.mem_cons, not_or, and_comm,
      ite_eq_right_iff, @eq_comm _ c]
    simp

theorem last?_append (h : q ∉ v) : last? q (u ++ q :: v) = some u.length := by
  induction u with
  | nil => simp [last?, last?_eq_none_iff.mpr h]
  | cons c u ih => simp [last?, ih]

theorem closing?_eq_some (h : closing? q t = some n) : ∃ u v, t = u ++ q :: v ∧ u.length = n := by
  fun_induction closing? q t generalizing n with
  | case1 => cases h
  | case2 =>
    cases h
    exact ⟨[], [], rfl, rfl⟩
  | case3 => cases h
  | case4 d t =>
    cases h
    exact ⟨[], d :: t, rfl, rfl⟩
  | case5 c d t _ _ ih =>
    obtain ⟨m, hm, rfl⟩ := Option.map_eq_some_iff.mp h
    obtain ⟨u, v, rfl, rfl⟩ := ih hm
    exact ⟨c :: d :: u, v, rfl, rfl⟩
  | case6 c d t _ _ ih =>
    obtain ⟨m, hm, rfl⟩ := Option.map_eq_some_iff.mp h
    obtain ⟨u, v, hu, rfl⟩ := ih hm
    exact ⟨c :: u, v, by rw [hu, List.cons_append], rfl⟩

theorem last?_eq_some (h : last? q t = some n) : ∃ u v, t = u ++ q :: v ∧ u.length = n := by
  induction t generalizing n with
  | nil => cases h
  | cons c t ih =>
    rw [last?] at h
    cases hm : last? q t with
    | some m =>
      rw [hm] at h
      cases h
      obtain ⟨u, v, rfl, rfl⟩ := ih hm
      exact ⟨c :: u, v, rfl, rfl⟩
    | none =>
      rw [hm, Option.map_none, Option.none_or, Option.ite_none_right_eq_some] at h
      obtain ⟨rfl, h⟩ := h
      cases h
      exact ⟨[], t, rfl, rfl⟩

/-- A string ends with a quote. -/
theorem inString?_eq_some (h : inString? q t = some n) : ∃ u v, t = u ++ q :: v ∧ u.length = n := by
  rw [inString?] at h
  cases hc : closing? q t with
  | some m =>
    rw [hc] at h
    cases h
    exact closing?_eq_some hc
  | none =>
    rw [hc, Option.none_or] at h
    exact last?_eq_some h

theorem mem_of_closing? (h : closing? q t = some n) : q ∈ t := by
  obtain ⟨u, v, rfl, -⟩ := closing?_eq_some h
  exact List.mem_append_right u List.mem_cons_self

theorem inString?_eq_none (h : q ∉ t) : inString? q t = none := by
  have hclosing : closing? q t = none := by
    cases hc : closing? q t with
    | none => rfl
    | some n => exact absurd (mem_of_closing? hc) h
  rw [inString?, hclosing, last?_eq_none_iff.mpr h, Option.none_or]

theorem inString?_quote (t : List Char) : inString? q (q :: t) = some 0 := by
  cases t <;> simp [inString?, closing?]

theorem inString?_other (hc : c ≠ q)
    (h : c = '\\' → ∀ d u, t = d :: u → ¬ (d = '\\' ∨ d = q)) :
    inString? q (c :: t) = (inString? q t).map (· + 1) := by
  have hclosing : closing? q (c :: t) = (closing? q t).map (· + 1) := by
    cases t with
    | nil => simp [closing?, hc]
    | cons d u => rw [closing?, if_neg hc, if_neg fun ⟨hc, hd⟩ => h hc d u rfl hd]
  rw [inString?, inString?, hclosing, last?, if_neg hc, Option.or_none, Option.map_or]

theorem inString?_escape (hq : q ≠ '\\') (hd : d = '\\' ∨ d = q) : inString? q ('\\' :: d :: t) =
    ((inString? q t).map (· + 2)).or ((inString? q (d :: t)).map (· + 1)) := by
  have hclosing : closing? q ('\\' :: d :: t) = (closing? q t).map (· + 2) := by
    rw [closing?, if_neg hq.symm, if_pos ⟨rfl, hd⟩]
  have hlast : last? q ('\\' :: d :: t) = (last? q (d :: t)).map (· + 1) := by
    rw [last?, if_neg hq.symm, Option.or_none]
  rw [inString?, hclosing, hlast]
  cases hclosed : closing? q t with
  | some n => simp [inString?, hclosed]
  | none =>
    cases hl : last? q t with
    | some n => simp [inString?, hclosed, last?, hl]
    | none =>
      have hmem : q ∉ t := last?_eq_none_iff.mp hl
      rcases hd with rfl | rfl
      · have hmem : q ∉ '\\' :: t := List.not_mem_cons_of_ne_of_not_mem hq hmem
        rw [inString?_eq_none hmem, last?_eq_none_iff.mpr hmem, inString?, hclosed, hl]
        rfl
      · rw [inString?_quote, inString?, hclosed, last?, hl, if_pos rfl]
        rfl

end

namespace Grammar

open Plan

variable {q c d : Char} {k : Goal} {σ : Slots} {b : Option Char} {i : Nat} {t : List Char}

theorem not_quote_contains (q c : Char) :
    (CharSet.compl (.ofChars [q])).contains c = !decide (c = q) := by
  rw [CharSet.contains, CharSet.contains_ofChars]
  simp

/-- Before a backslash or a quote, a backslash is read with it if that leads on, and else alone. -/
theorem first_stringPart_escape (hq : q ≠ '\\') (hd : d = '\\' ∨ d = q) :
    (stringPart q).first k σ ⟨b, i, '\\' :: d :: t⟩ =
      (k σ ⟨some d, i + 2, t⟩).or (k σ ⟨some '\\', i + 1, d :: t⟩) := by
  have hq' : (CharSet.compl (.ofChars [q])).contains '\\' = true := by
    rw [not_quote_contains, decide_eq_false hq.symm, Bool.not_false]
  rcases hd with rfl | rfl
  · simp [stringPart, first, hq', hq.symm]
  · simp [stringPart, first, hq', hq]

/-- Any other character is read alone. -/
theorem first_stringPart_other (hc : c ≠ q)
    (h : c = '\\' → ∀ d u, t = d :: u → ¬ (d = '\\' ∨ d = q)) :
    (stringPart q).first k σ ⟨b, i, c :: t⟩ = k σ ⟨some c, i + 1, t⟩ := by
  have hother : (CharSet.compl (.ofChars [q])).contains c = true := by
    rw [not_quote_contains, decide_eq_false hc, Bool.not_false]
  cases t with
  | nil => simp [stringPart, first, hother]
  | cons d u =>
    by_cases hb : c = '\\'
    · subst hb
      have hd := not_or.mp (h rfl d u rfl)
      simp [stringPart, first, hother, hd.1, hd.2]
    · simp [stringPart, first, hother, hb]

theorem starts_stringPart (hq : q ≠ '\\') : (stringPart q).starts q = false := by
  simp [stringPart, starts_alt, starts_seq, starts_set, Reads, hq, not_quote_contains]

/-- The rest of a string, after the quote that it starts with. -/
def stringFrom (q : Char) : Goal :=
  (loop 1 true (stringPart q)).first ((set 9 (.char q)).first (final 0))

theorem last_quote (q c : Char) (σ : Slots) (b : Option Char) (i : Nat) (t : List Char) :
    (set 9 (.char q)).first (final 0) σ ⟨b, i, c :: t⟩ =
      if c = q then some ⟨0, i + 1, σ⟩ else none := by
  simp [first, final]

/-- The match of a string that goes on for `n` characters from place `i`, where its quote is. -/
def stringMatch (σ : Slots) (i n : Nat) : Match := ⟨0, i + n + 1, σ⟩

theorem map_stringMatch (σ : Slots) (i m : Nat) (o : Option Nat) :
    o.map (stringMatch σ (i + m)) = (o.map (· + m)).map (stringMatch σ i) := by
  cases o with
  | none => rfl
  | some n =>
    have h : i + m + n = i + (n + m) := by omega
    simp only [Option.map_some, stringMatch, h]

/-- By induction on the length of the text, since an escape leads on in two ways. -/
theorem stringFrom_eq (hq : q ≠ '\\') (σ : Slots) (b : Option Char) (i : Nat) (t : List Char) :
    stringFrom q σ ⟨b, i, t⟩ = (inString? q t).map (stringMatch σ i) := by
  induction h : t.length using Nat.strongRecOn generalizing b i t with
  | ind len ih =>
    subst h
    cases t with
    | nil => rfl
    | cons c t =>
      by_cases hc : c = q
      · subst hc
        rw [stringFrom, first_loop_of_not_starts rfl rfl (starts_stringPart hq), last_quote,
          if_pos rfl, inString?_quote]
        rfl
      · rw [stringFrom, first_loop rfl, if_pos rfl, last_quote, if_neg hc, Option.or_none]
        by_cases he : c = '\\' ∧ ∃ d u, t = d :: u ∧ (d = '\\' ∨ d = q)
        · obtain ⟨rfl, d, u, rfl, hd⟩ := he
          have htwo := ih u.length (by simp only [List.length_cons]; omega) (some d) (i + 2) u rfl
          have hone := ih (d :: u).length (Nat.lt_succ_self _) (some '\\') (i + 1) (d :: u) rfl
          rw [first_stringPart_escape hq hd, inString?_escape hq hd, Option.map_or,
            ← map_stringMatch, ← map_stringMatch, ← htwo, ← hone]
          rfl
        · have hother : c = '\\' → ∀ d u, t = d :: u → ¬ (d = '\\' ∨ d = q) :=
            fun hb d u ht hd => he ⟨hb, d, u, ht, hd⟩
          have hone := ih t.length (Nat.lt_succ_self _) (some c) (i + 1) t rfl
          rw [first_stringPart_other hc hother, inString?_other hc hother, ← map_stringMatch,
            ← hone]
          rfl

/-- What the plan for strings matches after the quote. -/
theorem matchAt?_string (hq : q ≠ '\\') (b : Option Char) (t : List Char) :
    (string q).matchAt? 0 b (q :: t) = (inString? q t).map fun n => ⟨0, n + 2, []⟩ := by
  have hquote : (CharSet.char q).contains q = true := by simp
  rw [matchAt?_eq_first rfl, List.replicate_zero, string, first, first_set_of_mem hquote]
  refine (stringFrom_eq hq [] (some q) 1 t).trans ?_
  cases inString? q t with
  | none => rfl
  | some n => rw [Option.map_some, Option.map_some, stringMatch, Nat.add_comm 1 n]

end Grammar

end OclScan
