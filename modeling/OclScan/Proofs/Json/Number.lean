import Mathlib.Algebra.Group.Int.Defs
import Mathlib.Algebra.Group.Nat.Defs
import Mathlib.Data.List.TakeDrop
import OclScan.Json.Number

/-!
# JSON integers read back

The digits of a number that fits into a significand read back as the number, and what follows is
left (`read?_toDigits`), if it does not go on with the number (`stops`); with a minus in front, as
the negative number (`read?_toString`). Whatever number is read, it begins with a minus or a digit,
and what is left is a suffix of the text (`read?_suffix`).
-/

namespace OclScan.Json.Number

/-- Whether a number ends before the text. -/
def stops : List Char → Bool
  | [] => true
  | c :: _ => !c.isDigit && c != '.' && c != 'e' && c != 'E'

/-- Whether a number is an integer that 64 bits hold, with a sign or without. -/
def IsInteger (n : Number) : Prop := ∃ i : Int, n = integer i ∧ -2 ^ 63 ≤ i ∧ i < 2 ^ 64

theorem le_ofDigitChars (ds : List Char) (n : Nat) : n ≤ Nat.ofDigitChars 10 ds n := by
  have hpos : 0 < 10 ^ ds.length := Nat.pow_pos (by decide)
  rw [Nat.ofDigitChars_eq_ofDigitChars_zero]
  exact Nat.le_add_right_of_le (Nat.le_mul_of_pos_left n hpos)

/-- Digits are collected as long as the number fits. -/
theorem collect_eq {ds : List Char} {n : Nat}
    (h : Nat.ofDigitChars 10 ds n ≤ greatestSignificand) :
    collect n ds = (Nat.ofDigitChars 10 ds n, []) := by
  induction ds generalizing n with
  | nil => rfl
  | cons c ds ih =>
    rw [Nat.ofDigitChars_cons] at h ⊢
    have hle := le_ofDigitChars ds (10 * n + (c.toNat - '0'.toNat))
    rw [collect]
    simp only [if_pos (Nat.le_trans hle h)]
    exact ih h

theorem digits_append {ds rest : List Char} (h : ∀ c ∈ ds, c.isDigit = true)
    (hrest : stops rest = true) : digits (ds ++ rest) = (ds, rest) := by
  have htake : rest.takeWhile Char.isDigit = [] ∧ rest.dropWhile Char.isDigit = rest := by
    cases rest with
    | nil => exact ⟨rfl, rfl⟩
    | cons c rest =>
      have hc : ¬ c.isDigit = true := by
        simp only [stops, Bool.and_eq_true, Bool.not_eq_true'] at hrest
        simp [hrest.1.1.1]
      exact ⟨List.takeWhile_cons_of_neg hc, List.dropWhile_cons_of_neg hc⟩
  rw [digits, List.span_eq_takeWhile_dropWhile, List.takeWhile_append_of_pos h,
    List.dropWhile_append_of_pos h, htake.1, htake.2, List.append_nil]

theorem isDigit_toDigits (n : Nat) : ∀ c ∈ Nat.toDigits 10 n, c.isDigit = true :=
  fun _ hc => Nat.isDigit_of_mem_toDigits (by decide) (by decide) hc

theorem exists_toDigits (n : Nat) : ∃ d ds, Nat.toDigits 10 n = d :: ds ∧ d.isDigit = true := by
  obtain ⟨d, ds, hds⟩ := List.exists_cons_of_ne_nil (Nat.toDigits_ne_nil (n := n) (b := 10))
  exact ⟨d, ds, hds, isDigit_toDigits n d (hds ▸ List.mem_cons_self)⟩

/-- Only zero has a zero in front. By induction on the number without its last digit. -/
theorem head?_toDigits_ne {n : Nat} (h : 0 < n) : (Nat.toDigits 10 n).head? ≠ some '0' := by
  induction n using Nat.strongRecOn with
  | ind n ih =>
    rw [Nat.toDigits_eq_if (by decide)]
    split
    · rename_i hn
      have hdigit : ∀ d < 10, 0 < d → [d.digitChar].head? ≠ some '0' := by decide
      exact hdigit n hn h
    · have hfront := ih (n / 10) (by omega) (by omega)
      obtain ⟨d, ds, hds, -⟩ := exists_toDigits (n / 10)
      rw [hds] at hfront ⊢
      exact hfront

/-- What `read?` reads after the sign. -/
def readUnsigned? (negative : Bool) (cs : List Char) : Option (Number × List Char) :=
  match cs with
  | '0' :: rest => if (digits rest).1.isEmpty then readRest? negative ['0'] rest else none
  | _ => if (digits cs).1.isEmpty then none else readRest? negative (digits cs).1 (digits cs).2

theorem read?_minus (cs : List Char) : read? ('-' :: cs) = readUnsigned? true cs := rfl

theorem read?_eq {cs : List Char} (h : ∀ cs', cs ≠ '-' :: cs') :
    read? cs = readUnsigned? false cs := by
  unfold read?
  split
  rename_i negative text hsign
  split at hsign
  · exact absurd rfl (h _)
  · cases hsign
    rfl

theorem readUnsigned?_cons {c : Char} {cs : List Char} (negative : Bool) (hzero : c ≠ '0') :
    readUnsigned? negative (c :: cs) = if (digits (c :: cs)).1.isEmpty then none
      else readRest? negative (digits (c :: cs)).1 (digits (c :: cs)).2 := by
  unfold readUnsigned?
  split
  · exact absurd (List.cons.inj ‹_›).1 hzero
  · rfl

/-! ## Integers -/

variable {n : Nat} {rest : List Char}

/-- After its digits a whole number ends. -/
theorem readRest?_of_stops (negative : Bool) (whole : List Char) (h : stops rest = true) :
    readRest? negative whole rest = (ofDigits? negative whole).map (·, rest) := by
  unfold readRest?
  rcases collect 0 whole with ⟨m, dropped⟩
  dsimp only
  split
  · exact absurd h (by simp [stops])
  · exact absurd h (by simp [stops])
  · exact absurd h (by simp [stops])
  · rfl

theorem readUnsigned?_toDigits (negative : Bool) (n : Nat) (h : stops rest = true) :
    readUnsigned? negative (Nat.toDigits 10 n ++ rest) =
      (ofDigits? negative (Nat.toDigits 10 n)).map (·, rest) := by
  rw [← readRest?_of_stops negative _ h]
  have hdigits := digits_append (isDigit_toDigits n) h
  rcases Nat.eq_zero_or_pos n with rfl | hpos
  · have hnone : digits ([] ++ rest) = ([], rest) := digits_append nofun h
    rw [List.nil_append] at hnone
    rw [Nat.toDigits_zero]
    show (if (digits rest).1.isEmpty then readRest? negative ['0'] rest else none) = _
    rw [hnone]
    rfl
  · have hhead := head?_toDigits_ne hpos
    obtain ⟨d, ds, hds, -⟩ := exists_toDigits n
    rw [hds] at hhead hdigits ⊢
    have hzero : d ≠ '0' := by
      rintro rfl
      exact hhead rfl
    rw [List.cons_append] at hdigits ⊢
    rw [readUnsigned?_cons negative hzero, hdigits]
    rfl

theorem collect_toDigits (h : n ≤ greatestSignificand) :
    collect 0 (Nat.toDigits 10 n) = (n, []) := by
  have hn := Nat.ofDigitChars_ten_toDigits (n := n)
  rw [collect_eq (by rwa [hn]), hn]

theorem read?_toDigits (h : n ≤ greatestSignificand) (hrest : stops rest = true) :
    read? (Nat.toDigits 10 n ++ rest) = some (integer n, rest) := by
  have hminus : ∀ cs, Nat.toDigits 10 n ++ rest ≠ '-' :: cs := by
    obtain ⟨d, ds, hds, hd⟩ := exists_toDigits n
    rw [hds]
    intro cs heq
    rw [(List.cons.inj heq).1] at hd
    exact absurd hd (by decide)
  have hdigits : ofDigits? false (Nat.toDigits 10 n) = some (integer n) := by
    rw [ofDigits?, collect_toDigits h]
    rfl
  rw [read?_eq hminus, readUnsigned?_toDigits false n hrest, hdigits]
  rfl

theorem read?_minus_toDigits (hpos : 0 < n) (h : n ≤ 2 ^ 63) (hrest : stops rest = true) :
    read? ('-' :: (Nat.toDigits 10 n ++ rest)) = some (integer (-n), rest) := by
  have hcollect : collect 0 (Nat.toDigits 10 n) = (n, []) :=
    collect_toDigits (Nat.le_trans h (by decide))
  have hdigits : ofDigits? true (Nat.toDigits 10 n) = some (integer (-n)) := by
    simp only [ofDigits?, hcollect, Bool.not_true, Bool.false_eq_true, if_false]
    exact if_pos (And.intro hpos h)
  rw [read?_minus, readUnsigned?_toDigits true n hrest, hdigits]
  rfl

theorem toList_toString_natCast (n : Nat) : (toString (n : Int)).toList = Nat.toDigits 10 n := by
  show (toString n).toList = _
  rw [Nat.toString_eq_ofList_toDigits, String.toList_ofList]

theorem toList_toString_neg (h : 0 < n) :
    (toString (-n : Int)).toList = '-' :: Nat.toDigits 10 n := by
  obtain ⟨n, rfl⟩ := Nat.exists_eq_add_one.mpr h
  show ("-" ++ toString (n + 1)).toList = _
  rw [String.toList_append, Nat.toString_eq_ofList_toDigits, String.toList_ofList,
    String.toList_ofList]
  rfl

/-- An integer that 64 bits hold reads back, by cases of its sign. -/
theorem read?_toString {i : Int} (hlow : -2 ^ 63 ≤ i) (hhigh : i < 2 ^ 64)
    (hrest : stops rest = true) :
    read? ((toString i).toList ++ rest) = some (integer i, rest) := by
  rcases Int.lt_or_le i 0 with hneg | hpos
  · obtain ⟨n, rfl⟩ := Int.exists_eq_neg_ofNat (Int.le_of_lt hneg)
    rw [toList_toString_neg (by omega)]
    exact read?_minus_toDigits (by omega) (by omega) hrest
  · obtain ⟨n, rfl⟩ := Int.eq_ofNat_of_zero_le hpos
    rw [toList_toString_natCast]
    exact read?_toDigits (Nat.le_of_lt_succ (Int.ofNat_lt.mp hhigh)) hrest

/-! ## What a number leaves -/

theorem digits_fst_append_snd (cs : List Char) : (digits cs).1 ++ (digits cs).2 = cs := by
  rw [digits, List.span_eq_takeWhile_dropWhile]
  exact List.takeWhile_append_dropWhile

theorem isDigit_of_mem_digits {cs : List Char} {d : Char} (h : d ∈ (digits cs).1) :
    d.isDigit = true := by
  rw [digits, List.span_eq_takeWhile_dropWhile] at h
  exact List.all_eq_true.mp List.all_takeWhile d h

theorem digits_suffix (cs : List Char) : (digits cs).2 <:+ cs :=
  ⟨_, digits_fst_append_snd cs⟩

theorem exponentSign_suffix (cs : List Char) : (exponentSign cs).2 <:+ cs := by
  unfold exponentSign
  split
  · exact List.suffix_cons _ _
  · exact List.suffix_cons _ _
  · exact List.suffix_rfl

variable {cs : List Char} {x : Number}

theorem suffix_of_map_eq {found : Option Number} (h : found.map (·, cs) = some (x, rest)) :
    rest <:+ cs := by
  obtain ⟨y, -, hy⟩ := Option.map_eq_some_iff.mp h
  obtain ⟨-, rfl⟩ := Prod.mk.inj hy
  exact List.suffix_rfl

theorem readExponent?_suffix {negative : Bool} {significand : Nat} {e : Int}
    (h : readExponent? negative significand e cs = some (x, rest)) : rest <:+ cs := by
  unfold readExponent? at h
  split at h
  · rename_i c cs
    have hsuffix : (digits (exponentSign cs).2).2 <:+ c :: cs :=
      ((digits_suffix _).trans (exponentSign_suffix cs)).trans (List.suffix_cons c cs)
    split at h
    · dsimp only at h
      split at h
      · cases h
      · split at h
        · split at h
          · cases h
          · cases h
            exact hsuffix
        · exact (suffix_of_map_eq h).trans hsuffix
    · exact suffix_of_map_eq h
  · exact suffix_of_map_eq h

theorem readRest?_suffix {negative : Bool} {whole : List Char}
    (h : readRest? negative whole cs = some (x, rest)) : rest <:+ cs := by
  unfold readRest? at h
  rcases collect 0 whole with ⟨m, dropped⟩
  dsimp only at h
  split at h
  · rename_i cs
    split at h
    · cases h
    · exact (readExponent?_suffix h).trans ((digits_suffix cs).trans (List.suffix_cons '.' cs))
  · exact readExponent?_suffix h
  · exact readExponent?_suffix h
  · exact suffix_of_map_eq h

/-- After its sign a number begins with a digit. -/
theorem readUnsigned?_suffix {negative : Bool} (h : readUnsigned? negative cs = some (x, rest)) :
    ∃ d cs', cs = d :: cs' ∧ d.isDigit = true ∧ rest <:+ cs' := by
  unfold readUnsigned? at h
  split at h
  · rename_i cs
    split at h
    · exact ⟨'0', cs, rfl, rfl, readRest?_suffix h⟩
    · cases h
  · split at h
    · cases h
    · rename_i hne
      obtain ⟨d, ds, hds⟩ := List.exists_cons_of_ne_nil (mt List.isEmpty_iff.mpr hne)
      have hcs := digits_fst_append_snd cs
      rw [hds, List.cons_append] at hcs
      have hd : d ∈ (digits cs).1 := hds ▸ List.mem_cons_self
      exact ⟨d, _, hcs.symm, isDigit_of_mem_digits hd,
        (readRest?_suffix h).trans (List.suffix_append _ _)⟩

/-- A number begins with a sign or a digit and leaves what follows it. -/
theorem read?_suffix (h : read? cs = some (x, rest)) :
    ∃ c cs', cs = c :: cs' ∧ (c = '-' ∨ c.isDigit = true) ∧ rest <:+ cs' := by
  by_cases hminus : ∃ cs', cs = '-' :: cs'
  · obtain ⟨cs, rfl⟩ := hminus
    obtain ⟨d, cs', rfl, -, hsuffix⟩ := readUnsigned?_suffix ((read?_minus cs).symm.trans h)
    exact ⟨'-', d :: cs', rfl, .inl rfl, hsuffix.trans (List.suffix_cons d cs')⟩
  · rw [read?_eq fun cs' heq => hminus ⟨cs', heq⟩] at h
    obtain ⟨d, cs', rfl, hd, hsuffix⟩ := readUnsigned?_suffix h
    exact ⟨d, cs', rfl, .inr hd, hsuffix⟩

theorem read?_eq_none {c : Char} (hminus : c ≠ '-') (hdigit : c.isDigit = false) :
    read? (c :: cs) = none := by
  rw [Option.eq_none_iff_forall_ne_some]
  rintro ⟨x, rest⟩ h
  obtain ⟨c', cs', hcs, hc, -⟩ := read?_suffix h
  obtain rfl := (List.cons.inj hcs).1
  rcases hc with rfl | hc
  · exact hminus rfl
  · rw [hdigit] at hc
    cases hc

theorem read?_length_lt (h : read? cs = some (x, rest)) : rest.length < cs.length := by
  obtain ⟨c, cs', rfl, -, hsuffix⟩ := read?_suffix h
  exact Nat.lt_succ_of_le hsuffix.length_le

end OclScan.Json.Number
