import OclScan.Proofs.Grammar.Munch
import OclScan.Proofs.Grammar.Emission

/-!
# Numbers

The numbers as words of languages (`numerals`), and the step at a digit: it reads the longest number
that stands there, and has its kind (`Grammar.stepAt_digit`). Each rule reads the longest number of
its kind (`Grammar.float_munches` and so on). What stands behind the first digits tells which kinds
there can be (`Grammar.marks`), so that the first of the rules that matches reads furthest
(`Grammar.longest_of_marked`).
-/

namespace OclScan

/-- Whether the character is a hexadecimal digit, in either case. -/
def isHexDigit (c : Char) : Bool := (Text.hexValue? c).isSome

/-- The numbers of each kind. -/
def numerals : Kind → CharLanguage
  | .numberFloat =>
    rowOf Char.isDigit * oneOf ['.'] * rowOf Char.isDigit *
      (1 + oneOf ['e', 'E'] * (1 + oneOf ['+', '-']) * rowOf Char.isDigit) *
      (1 + oneOf ['f', 'F', 'd', 'D'])
  | .numberHex => oneOf ['0'] * oneOf ['x', 'X'] * rowOf isHexDigit
  | .numberInteger => rowOf Char.isDigit * (1 + oneOf ['l', 'L'])
  | _ => 0

/-- The kinds of numbers. -/
def numberKinds : List Kind := [.numberFloat, .numberHex, .numberInteger]

/-- The word is a number. -/
def IsNumeral (w : List Char) : Prop := ∃ k, w ∈ numerals k

namespace Grammar

open Plan

variable {c : Cursor} {k : Kind} {t w : List Char} {x : Char}

theorem mem_numberKinds (hw : w ∈ numerals k) : k ∈ numberKinds := by
  cases k with
  | numberFloat => decide
  | numberHex => decide
  | numberInteger => decide
  | _ => exact absurd hw (Language.notMem_zero w)

theorem contains_digits : digits.contains = Char.isDigit := by
  funext c
  simp [digits, CharSet.ofRanges, CharSet.contains, Char.isDigit]

theorem contains_hexDigits :
    (CharSet.ofRanges [('0', '9'), ('a', 'f'), ('A', 'F')]).contains = isHexDigit := by
  funext c
  simp only [CharSet.ofRanges, List.foldl, CharSet.contains, isHexDigit, Text.hexValue?,
    Bool.false_or, Char.le_def]
  split_ifs with h₁ h₂ h₃ <;> simp_all

theorem contains_ofChars (cs : List Char) : (CharSet.ofChars cs).contains = cs.contains :=
  funext (CharSet.contains_ofChars cs)

theorem contains_char (d : Char) : (CharSet.char d).contains = [d].contains := by
  funext c
  rw [CharSet.contains_char]
  simp

theorem apart_digits {cs : List Char} {L : CharLanguage} (h : ∀ c ∈ cs, c.isDigit = false) :
    Apart cs.contains (rowOf Char.isDigit * L) :=
  .rowOf_mul fun c hc => by
    rw [← Bool.not_eq_true, List.contains_iff_mem]
    intro hmem
    rw [h c hmem] at hc
    cases hc

/-- The plan for an exponent. -/
def exponent : Plan :=
  .seq (.set 6 (.ofChars ['e', 'E']))
    (.seq (maybe 7 (.set 8 (.ofChars ['+', '-']))) (run 9 10 digits))

theorem float_munches : (float.first (final 0)).Munches (numerals .numberFloat) := by
  have hsuffix := (Goal.Munches.final.set (contains_ofChars ['f', 'F', 'd', 'D']) 12).maybe
    .final (.one _) 11
  have hsuffixes : Apart Char.isDigit (1 + oneOf ['f', 'F', 'd', 'D'] * 1) :=
    .add (.one _) (.oneOf_mul (by decide))
  have hpower := hsuffix.run contains_digits hsuffixes 9 10
  have hsign := (hpower.set (contains_ofChars ['+', '-']) 8).maybe hpower
    (apart_digits (by decide)) 7
  have hexponent : (exponent.first _).Munches _ := hsign.set (contains_ofChars ['e', 'E']) 6
  have hscale := hexponent.maybe hsuffix (.add (.one _) (.oneOf_mul (by decide))) 5
  have hfraction := hscale.run contains_digits (.add hsuffixes (.oneOf_mul (by decide))) 3 4
  have h := (hfraction.set (contains_char '.') 2).run contains_digits (.oneOf_mul (by decide)) 0 1
  simp only [mul_one] at h
  simp only [numerals, oneOf, mul_assoc, add_mul, one_mul]
  exact h

theorem hexadecimal_munches : (hexadecimal.first (final 0)).Munches (numerals .numberHex) := by
  have h := ((Goal.Munches.final.run contains_hexDigits (.one _) 2 3).set
    (contains_ofChars ['x', 'X']) 1).set (contains_char '0') 0
  rw [mul_one, ← mul_assoc] at h
  exact h

theorem integer_munches : (integer.first (final 0)).Munches (numerals .numberInteger) := by
  have hsuffix := (Goal.Munches.final.set (contains_ofChars ['l', 'L']) 3).maybe .final (.one _) 2
  have h := hsuffix.run contains_digits (.add (.one _) (.oneOf_mul (by decide))) 0 1
  rw [mul_one] at h
  exact h

/-! ## What numbers start with -/

/-- What stands behind the first digits of a number that is no integer. -/
def marks : Kind → List Char
  | .numberFloat => ['.']
  | .numberHex => ['x', 'X']
  | _ => []

theorem marked_of_mem (hw : w ∈ numerals k) (hk : k ≠ .numberInteger) :
    ∃ y ∈ marks k, ∃ ds v, (∀ c ∈ ds, digits.contains c = true) ∧ w = ds ++ y :: v := by
  cases k with
  | numberFloat =>
    simp only [numerals, mul_assoc] at hw
    obtain ⟨ds, hds, u, hu, rfl⟩ := Language.mem_mul.mp hw
    obtain ⟨y, v, hy, -, rfl⟩ := mem_anyOf_mul.mp hu
    rw [contains_digits]
    exact ⟨y, List.contains_iff_mem.mp hy, ds, v, hds.2, rfl⟩
  | numberHex =>
    simp only [numerals, mul_assoc] at hw
    obtain ⟨z, u, hz, hu, rfl⟩ := mem_anyOf_mul.mp hw
    obtain ⟨y, v, hy, -, rfl⟩ := mem_anyOf_mul.mp hu
    have hzero : ∀ c ∈ ['0'], digits.contains c = true := by decide
    refine ⟨y, List.contains_iff_mem.mp hy, [z], v, List.forall_mem_singleton.mpr ?_, rfl⟩
    exact hzero z (List.contains_iff_mem.mp hz)
  | numberInteger => exact absurd rfl hk
  | _ => exact absurd hw (Language.notMem_zero w)

theorem mark_of_prefix (hw : w ∈ numerals k) (hk : k ≠ .numberInteger) (h : w <+: t) :
    ∃ y ∈ marks k, (t.drop (digits.run t)).head? = some y ∧ digits.run t < w.length := by
  have hmark : ∀ y ∈ marks k, digits.contains y = false := by
    cases k <;> decide
  obtain ⟨y, hy, ds, v, hds, rfl⟩ := marked_of_mem hw hk
  obtain ⟨r, rfl⟩ := h
  have hrun : digits.run (ds ++ y :: v ++ r) = ds.length := by
    rw [List.append_assoc, CharSet.run_append hds, List.cons_append,
      CharSet.run_of_not_mem (hmark y hy), Nat.add_zero]
  refine ⟨y, hy, ?_, ?_⟩
  · rw [hrun, List.append_assoc, List.drop_left]
    rfl
  · rw [hrun, List.length_append, List.length_cons]
    omega

/-- An integer has no mark, and so ends with the digits where there is one. -/
theorem integer_length_le (hw : w ∈ numerals .numberInteger) (h : w <+: t) {y : Char}
    (hy : y ∈ marks k) (hhead : (t.drop (digits.run t)).head? = some y) :
    w.length ≤ digits.run t := by
  obtain ⟨ds, hds, s, hs, rfl⟩ := Language.mem_mul.mp hw
  have hapart : Apart digits.contains (1 + oneOf ['l', 'L'] * 1) := by
    rw [contains_digits]
    exact .add (.one _) (.oneOf_mul (by decide))
  rw [mul_one] at hapart
  have hrow : ∀ c ∈ ds, digits.contains c = true := by
    rw [contains_digits]
    exact hds.2
  obtain ⟨hstart, hle⟩ := hapart.prefix_drop_run hrow hs h
  rcases hs with hs | ⟨l, hl, rfl⟩
  · rw [(Language.mem_one s).mp hs, List.append_nil]
    exact hle
  · have hletter : ∀ l ∈ ['l', 'L'], l ∉ marks k := by
      cases k <;> decide
    obtain ⟨r, hr⟩ := hstart
    rw [← hr] at hhead
    cases hhead
    exact absurd hy (hletter _ (List.contains_iff_mem.mp hl))

theorem marks_unique {k' : Kind} {y : Char} (h : y ∈ marks k) (h' : y ∈ marks k') : k = k' := by
  cases k <;> cases k' <;> simp_all [marks]

/-- Of numbers that are no integers, the longest of its kind is the longest number. -/
theorem longest_of_marked (hk : k ≠ .numberInteger) (hw : Longest (· ∈ numerals k) w t) :
    Longest IsNumeral w t := by
  obtain ⟨y, hy, hhead, hlt⟩ := mark_of_prefix hw.isWord hk hw.start
  refine ⟨⟨k, hw.isWord⟩, hw.start, fun u ⟨k', hu⟩ hstart => ?_⟩
  by_cases hk' : k' = .numberInteger
  · subst hk'
    exact Nat.le_of_lt (Nat.lt_of_le_of_lt (integer_length_le hu hstart hy hhead) hlt)
  · obtain ⟨y', hy', hhead', -⟩ := mark_of_prefix hu hk' hstart
    obtain rfl : y = y' := Option.some.inj (hhead.symm.trans hhead')
    obtain rfl := marks_unique hy hy'
    exact hw.longest u hu hstart

theorem eq_integer_of_mem (h : w ∈ numerals .numberInteger) (hk : w ∈ numerals k) :
    k = .numberInteger := Decidable.byContradiction fun hne => by
  obtain ⟨y, hy, hhead, hlt⟩ := mark_of_prefix hk hne List.prefix_rfl
  exact absurd (integer_length_le h List.prefix_rfl hy hhead) (Nat.not_le_of_lt hlt)

/-- A number is of one kind. -/
theorem numeral_kind_unique {k' : Kind} (h : w ∈ numerals k) (h' : w ∈ numerals k') : k = k' := by
  by_cases hk : k = .numberInteger
  · subst hk
    exact (eq_integer_of_mem h h').symm
  by_cases hk' : k' = .numberInteger
  · subst hk'
    exact eq_integer_of_mem h' h
  · obtain ⟨y, hy, hhead, -⟩ := mark_of_prefix h hk List.prefix_rfl
    obtain ⟨y', hy', hhead', -⟩ := mark_of_prefix h' hk' List.prefix_rfl
    obtain rfl : y = y' := Option.some.inj (hhead.symm.trans hhead')
    exact marks_unique hy hy'

/-! ## The step at a digit -/

theorem nil_notMem_numerals (k : Kind) : [] ∉ numerals k := by
  intro h
  by_cases hk : k = .numberInteger
  · subst hk
    obtain ⟨ds, hds, s, -, e⟩ := Language.mem_mul.mp h
    exact hds.1 (List.append_eq_nil_iff.mp e).1
  · obtain ⟨y, -, -, hlt⟩ := mark_of_prefix h hk List.prefix_rfl
    exact absurd hlt (Nat.not_lt_zero _)

/-- The rules for numbers. -/
def numeralRules : List Rule := [
  tokenRule "[0-9]+\\.[0-9]+(?:[eE][+-]?[0-9]+)?[fFdD]?" float .numberFloat "numbers",
  tokenRule "0[xX][0-9a-fA-F]+" hexadecimal .numberHex "numbers",
  tokenRule "[0-9]+[lL]?" integer .numberInteger "numbers"]

theorem filter_digit (hx : x.isDigit = true) : rules.filter (fun r => r.pattern.plan.starts x) =
    numeralRules.filter fun r => r.pattern.plan.starts x := by
  have h : ∀ n < 58, 48 ≤ n → rules.filter (fun r => r.pattern.plan.starts (Char.ofNat n)) =
      numeralRules.filter fun r => r.pattern.plan.starts (Char.ofNat n) := by decide
  obtain ⟨hlow, hhigh⟩ := Char.isDigit_iff_toNat.mp hx
  have hfilter := h x.toNat (Nat.lt_succ_of_le hhigh) hlow
  rwa [Char.ofNat_toNat] at hfilter

/-- The step at a digit. -/
theorem stepAt_digit (hc : c.rest = x :: t) (hx : x.isDigit = true) :
    ∃ k w, w ∈ numerals k ∧ Longest IsNumeral w c.rest ∧ stepAt rules c = .single c w.length k := by
  have hmem : ∀ r ∈ numeralRules, r ∈ rules := by decide
  have hwinner : winner? rules c = winner? numeralRules c := by
    rw [winner?_filter plain hc, filter_digit hx,
      ← winner?_filter (fun r hr => plain r (hmem r hr)) hc]
  rw [numeralRules] at hwinner
  rcases wins?_of_munches float_munches rfl (nil_notMem_numerals _) _ _ _ c with
    ⟨w, hw, hwins⟩ | ⟨hfloat, hwins⟩
  · rw [winner?_cons_of_some hwins] at hwinner
    exact ⟨_, w, hw.isWord, longest_of_marked (by decide) hw, stepAt_eq_single hwinner rfl⟩
  rw [winner?_cons_of_none hwins] at hwinner
  rcases wins?_of_munches hexadecimal_munches rfl (nil_notMem_numerals _) _ _ _ c with
    ⟨w, hw, hwins⟩ | ⟨hhex, hwins⟩
  · rw [winner?_cons_of_some hwins] at hwinner
    exact ⟨_, w, hw.isWord, longest_of_marked (by decide) hw, stepAt_eq_single hwinner rfl⟩
  rw [winner?_cons_of_none hwins] at hwinner
  rcases wins?_of_munches integer_munches rfl (nil_notMem_numerals _) _ _ _ c with
    ⟨w, hw, hwins⟩ | ⟨hinteger, -⟩
  · rw [winner?_cons_of_some hwins] at hwinner
    refine ⟨_, w, hw.isWord, ⟨⟨_, hw.isWord⟩, hw.start, ?_⟩, stepAt_eq_single hwinner rfl⟩
    rintro u ⟨k, hu⟩ hstart
    cases k with
    | numberFloat => exact absurd hstart (hfloat u hu)
    | numberHex => exact absurd hstart (hhex u hu)
    | numberInteger => exact hw.longest u hu hstart
    | _ => exact absurd hu (Language.notMem_zero u)
  · -- The digit alone is an integer.
    have hdigit : [x] ∈ numerals .numberInteger := Language.mem_mul.mpr
      ⟨[x], ⟨List.cons_ne_nil x [], List.forall_mem_singleton.mpr hx⟩, [], .inl rfl, rfl⟩
    exact absurd ⟨t, hc.symm⟩ (hinteger [x] hdigit)

end Grammar

end OclScan
