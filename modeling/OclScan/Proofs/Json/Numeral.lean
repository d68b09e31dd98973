import OclScan.Proofs.Json.Number

/-!
# Integers and their digits

A number is read as an integer only from the decimal digits of the integer, with a minus if it is
negative, and only if 64 bits hold it (`read?_eq_integer_iff`): digits without a zero in front are
those of the number that they spell (`toDigits_ofDigitChars`), and where a fraction or an exponent
follows them, they are too many or they make zero with a minus, the number is a double.
-/

namespace OclScan.Json.Number

variable {n m : Nat} {i : Int} {negative : Bool} {c : Char} {cs ds rest : List Char}

/-! ## Digits -/

/-- The value of a digit. -/
def digitValue (c : Char) : Nat := c.toNat - '0'.toNat

theorem digitValue_lt (h : c.isDigit = true) : digitValue c < 10 := by
  obtain ⟨hlow, hhigh⟩ := Char.isDigit_iff_toNat.mp h
  show c.toNat - 48 < 10
  have hle : c.toNat ≤ 57 := hhigh
  omega

theorem digitChar_digitValue (h : c.isDigit = true) : (digitValue c).digitChar = c := by
  obtain ⟨hlow, hhigh⟩ := Char.isDigit_iff_toNat.mp h
  have hall : ∀ k < 58, 48 ≤ k → (k - 48).digitChar = Char.ofNat k := by decide
  exact (hall c.toNat (Nat.lt_succ_of_le hhigh) hlow).trans (Char.ofNat_toNat c)

/-- Digits that follow those of a number are kept. By induction on what follows. -/
theorem toDigits_append (hn : 0 < n) (h : ∀ c ∈ ds, c.isDigit = true) :
    Nat.toDigits 10 n ++ ds = Nat.toDigits 10 (Nat.ofDigitChars 10 ds n) := by
  induction ds generalizing n with
  | nil => rw [List.append_nil, Nat.ofDigitChars_nil]
  | cons c ds ih =>
    obtain ⟨hc, hds⟩ := List.forall_mem_cons.mp h
    have hlt := digitValue_lt hc
    have hfront : Nat.toDigits 10 n ++ [c] = Nat.toDigits 10 (10 * n + digitValue c) := by
      rw [← Nat.toDigits_append_toDigits (by decide) hn hlt, Nat.toDigits_of_lt_base hlt,
        digitChar_digitValue hc]
    rw [List.append_cons, hfront, ih (by omega) hds, Nat.ofDigitChars_cons]
    rfl

/-- Digits without a zero in front are those of the number that they spell. -/
theorem toDigits_ofDigitChars (h : ∀ d ∈ c :: ds, d.isDigit = true) (hzero : c ≠ '0') :
    Nat.toDigits 10 (Nat.ofDigitChars 10 (c :: ds) 0) = c :: ds := by
  obtain ⟨hc, hds⟩ := List.forall_mem_cons.mp h
  have hchar := digitChar_digitValue hc
  have hpos : 0 < digitValue c := by
    refine Nat.pos_of_ne_zero fun hvalue => hzero ?_
    rw [← hchar, hvalue]
    rfl
  have hfirst : Nat.toDigits 10 (digitValue c) = [c] := by
    rw [Nat.toDigits_of_lt_base (digitValue_lt hc), hchar]
  have hvalue : 10 * 0 + (c.toNat - '0'.toNat) = digitValue c := Nat.zero_add _
  rw [Nat.ofDigitChars_cons, hvalue, ← toDigits_append hpos hds, hfirst, List.singleton_append]

theorem collect_eq_nil (h : collect n ds = (m, [])) (hn : n ≤ greatestSignificand) :
    m = Nat.ofDigitChars 10 ds n ∧ m ≤ greatestSignificand := by
  induction ds generalizing n with
  | nil =>
    cases h
    exact ⟨rfl, hn⟩
  | cons c ds ih =>
    rw [collect] at h
    split at h
    · exact ih h ‹_›
    · cases h

/-! ## Integers -/

theorem ofParts?_ne_integer {significand : Nat} {e : Int} :
    ofParts? negative significand e ≠ some (integer i) := by
  intro h
  obtain ⟨x, -, hx⟩ := Option.map_eq_some_iff.mp h
  cases hx

theorem readExponent?_ne_integer {significand : Nat} {e : Int} :
    readExponent? negative significand e cs ≠ some (integer i, rest) := by
  have hparts : ∀ e cs, (ofParts? negative significand e).map (·, cs) ≠ some (integer i, rest) := by
    intro e cs h
    obtain ⟨x, hx, heq⟩ := Option.map_eq_some_iff.mp h
    cases heq
    exact ofParts?_ne_integer hx
  unfold readExponent?
  split
  · split
    · dsimp only
      split
      · nofun
      · split
        · split <;> nofun
        · exact hparts _ _
    · exact hparts _ _
  · exact hparts _ _

/-- Only digits with neither fraction nor exponent make an integer. -/
theorem readRest?_eq_integer (h : readRest? negative ds cs = some (integer i, rest)) :
    ofDigits? negative ds = some (integer i) ∧ cs = rest := by
  unfold readRest? at h
  rcases collect 0 ds with ⟨m, dropped⟩
  dsimp only at h
  split at h
  · split at h
    · cases h
    · exact absurd h readExponent?_ne_integer
  · exact absurd h readExponent?_ne_integer
  · exact absurd h readExponent?_ne_integer
  · obtain ⟨x, hx, heq⟩ := Option.map_eq_some_iff.mp h
    cases heq
    exact ⟨hx, rfl⟩

theorem readUnsigned?_eq_integer (h : readUnsigned? negative cs = some (integer i, rest)) :
    ∃ n, cs = Nat.toDigits 10 n ++ rest ∧
      ofDigits? negative (Nat.toDigits 10 n) = some (integer i) := by
  unfold readUnsigned? at h
  split at h
  · split at h
    · obtain ⟨hdigits, rfl⟩ := readRest?_eq_integer h
      exact ⟨0, rfl, hdigits⟩
    · cases h
  · rename_i hzero
    split at h
    · cases h
    · rename_i hne
      obtain ⟨hdigits, rfl⟩ := readRest?_eq_integer h
      obtain ⟨d, ds, hds⟩ := List.exists_cons_of_ne_nil (mt List.isEmpty_iff.mpr hne)
      have hall : ∀ c ∈ (digits cs).1, c.isDigit = true := fun c => isDigit_of_mem_digits
      have hcs := digits_fst_append_snd cs
      rw [hds] at hall hcs hdigits
      have hd : d ≠ '0' := by
        rintro rfl
        exact hzero _ hcs.symm
      have hn := toDigits_ofDigitChars hall hd
      exact ⟨_, by rw [hn, hcs], by rw [hn, hdigits]⟩

theorem ofDigits?_eq_integer (h : ofDigits? negative (Nat.toDigits 10 n) = some (integer i)) :
    if negative then 0 < n ∧ n ≤ 2 ^ 63 ∧ i = -n else n < 2 ^ 64 ∧ i = n := by
  unfold ofDigits? at h
  split at h
  · rename_i m hcollect
    obtain ⟨hm, hle⟩ := collect_eq_nil hcollect (Nat.zero_le _)
    rw [Nat.ofDigitChars_ten_toDigits] at hm
    subst hm
    cases negative with
    | false =>
      cases h
      exact ⟨Nat.lt_succ_of_le hle, rfl⟩
    | true =>
      rw [if_neg (by decide)] at h
      split at h
      · rename_i hbounds
        cases h
        exact ⟨hbounds.1, hbounds.2, rfl⟩
      · exact absurd h ofParts?_ne_integer
  · exact absurd h ofParts?_ne_integer

/-- Integers are read from their digits, and from nothing else. -/
theorem read?_eq_integer_iff :
    read? cs = some (integer i, []) ↔ cs = (toString i).toList ∧ -2 ^ 63 ≤ i ∧ i < 2 ^ 64 := by
  constructor
  · intro h
    by_cases hminus : ∃ cs', cs = '-' :: cs'
    · obtain ⟨cs, rfl⟩ := hminus
      obtain ⟨n, rfl, hdigits⟩ := readUnsigned?_eq_integer ((read?_minus cs).symm.trans h)
      obtain ⟨hpos, hle, rfl⟩ : 0 < n ∧ n ≤ 2 ^ 63 ∧ i = -n := ofDigits?_eq_integer hdigits
      rw [toList_toString_neg hpos, List.append_nil]
      exact ⟨rfl, by omega, by omega⟩
    · rw [read?_eq fun cs' heq => hminus ⟨cs', heq⟩] at h
      obtain ⟨n, rfl, hdigits⟩ := readUnsigned?_eq_integer h
      obtain ⟨hlt, rfl⟩ : n < 2 ^ 64 ∧ i = n := ofDigits?_eq_integer hdigits
      rw [toList_toString_natCast, List.append_nil]
      exact ⟨rfl, by omega, by omega⟩
  · rintro ⟨rfl, hlow, hhigh⟩
    have hread : _ = some (_, []) := read?_toString hlow hhigh rfl
    rwa [List.append_nil] at hread

end OclScan.Json.Number
