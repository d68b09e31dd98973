import OclScan.Proofs.Grammar.Comments

/-!
# Operators

The pattern for operators lists those of two characters before those of one, so it reads the longest
(`Grammar.matchAt?_operator`). This is the step at the first character of an operator, unless a
comment starts there (`Grammar.stepAt_operator`).
-/

namespace OclScan

/-- The operators. -/
def operatorSpellings : List (List Char) :=
  Grammar.operatorPairs.map (fun p => [p.1, p.2]) ++ Grammar.operatorChars.map fun c => [c]

namespace Grammar

open Plan

variable {c : Cursor} {x : Char} {t w : List Char}

theorem mem_operatorSpellings : w ∈ operatorSpellings ↔
    (∃ p ∈ operatorPairs, [p.1, p.2] = w) ∨ ∃ y ∈ operatorChars, [y] = w := by
  rw [operatorSpellings, List.mem_append, List.mem_map, List.mem_map]

theorem exists_operatorChar : ∀ w ∈ operatorSpellings, ∃ x ∈ operatorChars, [x] <+: w := by decide

/-- By induction on the pairs. -/
theorem first_operatorFrom (hx : x ∈ operatorChars) (b : Option Char) (t : List Char)
    (pairs : List (Char × Char)) (j : Nat) :
    (operatorFrom j pairs).first (final 0) [] ⟨b, 0, x :: t⟩ =
      some ⟨0, if ∃ p ∈ pairs, [p.1, p.2] <+: x :: t then 2 else 1, []⟩ := by
  induction pairs generalizing j with
  | nil =>
    have hset : (CharSet.ofChars operatorChars).contains x = true := by
      rw [CharSet.contains_ofChars, List.contains_iff_mem]
      exact hx
    rw [operatorFrom, first_set_of_mem hset, if_neg (by simp)]
    rfl
  | cons p pairs ih =>
    obtain ⟨y, z⟩ := p
    have hspells : (seq (.set (j + 1) (.char y)) (.set (j + 2) (.char z))).Spells [y, z] :=
      (Spells.char (j + 1) y).seq (Spells.char (j + 2) z)
    rw [operatorFrom, Plan.first, hspells, ih]
    by_cases hp : [y, z] <+: x :: t
    · have hindex : ((Place.mk b 0 (x :: t)).skip 2).index = 2 := Place.index_skip hp.length_le
      have hpair : ∃ p ∈ (y, z) :: pairs, [p.1, p.2] <+: x :: t := ⟨(y, z), List.mem_cons_self, hp⟩
      rw [if_pos hp, if_pos hpair]
      exact congrArg (fun n => some (Match.mk 0 n [])) hindex
    · rw [if_neg hp, Option.none_or]
      simp only [List.mem_cons, exists_eq_or_imp, hp, false_or]

/-- Of the operators at the start of a text the longest is read. -/
theorem matchAt?_operator (hw : Longest (· ∈ operatorSpellings) w t) (b : Option Char) :
    operator.matchAt? 0 b t = some ⟨0, w.length, []⟩ := by
  obtain ⟨x, hx, hxw⟩ := exists_operatorChar w hw.isWord
  obtain ⟨u, rfl⟩ := hxw.trans hw.start
  have hlength : (if ∃ p ∈ operatorPairs, [p.1, p.2] <+: x :: u then 2 else 1) = w.length := by
    rcases mem_operatorSpellings.mp hw.isWord with ⟨p, hp, rfl⟩ | ⟨y, hy, rfl⟩
    · exact if_pos ⟨p, hp, hw.start⟩
    · refine if_neg fun ⟨p, hp, hstart⟩ => ?_
      have := hw.longest _ (mem_operatorSpellings.mpr (.inl ⟨p, hp, rfl⟩)) hstart
      exact absurd this (by simp)
  rw [matchAt?_eq_first (by decide), ← hlength]
  exact first_operatorFrom hx b u operatorPairs 0

/-- An operator stands where one of its characters does. -/
theorem exists_longest_operator (hx : x ∈ operatorChars) (t : List Char) :
    ∃ w, Longest (· ∈ operatorSpellings) w (x :: t) := by
  by_cases h : ∃ p ∈ operatorPairs, [p.1, p.2] <+: x :: t
  · obtain ⟨p, hp, hstart⟩ := h
    have htwo : ∀ v ∈ operatorSpellings, v.length ≤ 2 := by decide
    exact ⟨_, mem_operatorSpellings.mpr (.inl ⟨p, hp, rfl⟩), hstart, fun u hu _ => htwo u hu⟩
  · refine ⟨[x], mem_operatorSpellings.mpr (.inr ⟨x, hx, rfl⟩), ⟨t, rfl⟩, fun u hu hstart => ?_⟩
    rcases mem_operatorSpellings.mp hu with ⟨p, hp, rfl⟩ | ⟨y, hy, rfl⟩
    · exact absurd ⟨p, hp, hstart⟩ h
    · exact Nat.le_refl 1

theorem filter_operator : ∀ x ∈ operatorChars, x ≠ '/' →
    rules.filter (fun r => r.pattern.plan.starts x) =
      [tokenRule "<>|!=|==|->|<<|>>|<=|>=|[\\-\\~+/*%=<>\\&^|.!?]" operator .operator root] := by
  decide

/-- The step at an operator that starts no comment. -/
theorem stepAt_operator (hw : Longest (· ∈ operatorSpellings) w c.rest)
    (hopen : ∀ t, c.rest = '/' :: t → ¬ OpensComment t) :
    stepAt rules c = .single c w.length .operator := by
  obtain ⟨x, hx, hxw⟩ := exists_operatorChar w hw.isWord
  obtain ⟨t, hc⟩ := hxw.trans hw.start
  have hpos : 0 < w.length := hxw.length_le
  have hwins (text : String) : (tokenRule text operator .operator root).wins? c = some w.length :=
    wins?_tokenRule (matchAt?_operator hw c.before) hpos
  have hwin : ∃ text, winner? rules c = winner? [tokenRule text operator .operator root] c := by
    by_cases hslash : x = '/'
    · subst hslash
      exact winner?_slash hc.symm (hopen t hc.symm)
    · exact ⟨_, by rw [winner?_filter plain hc.symm, filter_operator x hx hslash]⟩
  obtain ⟨text, hwin⟩ := hwin
  rw [winner?_cons_of_some (hwins text)] at hwin
  exact stepAt_eq_single hwin rfl

/-- The longest operator is read where one starts, and no comment does. -/
theorem exists_stepAt_operator (hc : c.rest = x :: t) (hx : x ∈ operatorChars)
    (hopen : x = '/' → ¬ OpensComment t) : ∃ w, Longest (· ∈ operatorSpellings) w c.rest ∧
      (∀ u, c.rest = '/' :: u → ¬ OpensComment u) ∧
        stepAt rules c = .single c w.length .operator := by
  obtain ⟨w, hw⟩ := exists_longest_operator hx t
  rw [← hc] at hw
  have hno : ∀ u, c.rest = '/' :: u → ¬ OpensComment u := fun u hu => by
    obtain ⟨rfl, rfl⟩ := List.cons.inj (hc.symm.trans hu)
    exact hopen rfl
  exact ⟨w, hw, hno, stepAt_operator hw hno⟩

end Grammar

end OclScan
