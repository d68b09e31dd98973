import Mathlib.Algebra.Group.Nat.Defs
import Mathlib.Data.List.Induction
import OclScan.Text.Hex

/-!
# Hexadecimal digits read back

The digits of a number read back as the number (`hexNumber?_toDigits`), and those of the code point
of a character as the character (`hexChar?_toDigits`). What `k` digits spell is below `16 ^ k`
(`hexNumber?_lt`).
-/

namespace OclScan.Text

theorem toNat_ofNat_of_isValidChar {n : Nat} (h : n.isValidChar) : (Char.ofNat n).toNat = n := by
  rw [Char.ofNat, dif_pos h]
  rfl

theorem hexValue?_digitChar : ∀ d < 16, hexValue? d.digitChar = some d := by decide

theorem hexNumber?_append_singleton (cs : List Char) (c : Char) :
    hexNumber? (cs ++ [c]) =
      (hexNumber? cs).bind fun n => (hexValue? c).map (16 * n + ·) := by
  rw [hexNumber?, List.foldlM_append]
  simp [hexNumber?]

theorem hexValue?_lt {c : Char} {n : Nat} (h : hexValue? c = some n) : n < 16 := by
  unfold hexValue? at h
  split at h
  · rename_i hc
    cases h
    have hle : c.toNat ≤ 57 := hc.2
    show c.toNat - 48 < 16
    omega
  · split at h
    · rename_i hc
      cases h
      have hle : c.toNat ≤ 102 := hc.2
      show c.toNat - 97 + 10 < 16
      omega
    · split at h
      · rename_i hc
        cases h
        have hle : c.toNat ≤ 70 := hc.2
        show c.toNat - 65 + 10 < 16
        omega
      · cases h

/-- By induction on the digits without the last. -/
theorem hexNumber?_lt {cs : List Char} {n : Nat} (h : hexNumber? cs = some n) :
    n < 16 ^ cs.length := by
  induction cs using List.reverseRecOn generalizing n with
  | nil =>
    cases h
    exact Nat.one_pos
  | append_singleton cs c ih =>
    rw [hexNumber?_append_singleton, Option.bind_eq_some_iff] at h
    obtain ⟨m, hm, h⟩ := h
    obtain ⟨d, hd, rfl⟩ := Option.map_eq_some_iff.mp h
    have hlow := ih hm
    have hdigit := hexValue?_lt hd
    rw [List.length_append, List.length_singleton, Nat.pow_succ]
    omega

/-- By induction on the number without its last digit, as the next. -/
theorem hexNumber?_toDigits (n : Nat) : hexNumber? (Nat.toDigits 16 n) = some n := by
  induction n using Nat.strongRecOn with
  | ind n ih =>
    rw [Nat.toDigits_eq_if (by decide)]
    split
    · rename_i hn
      simp [hexNumber?, hexValue?_digitChar n hn]
    · rename_i hn
      rw [hexNumber?_append_singleton, ih (n / 16) (by omega),
        hexValue?_digitChar _ (Nat.mod_lt n (by decide))]
      show some (16 * (n / 16) + n % 16) = some n
      rw [Nat.div_add_mod]

theorem exists_of_mem_toDigits {n : Nat} {c : Char} (h : c ∈ Nat.toDigits 16 n) :
    ∃ d < 16, c = d.digitChar := by
  induction n using Nat.strongRecOn with
  | ind n ih =>
    rw [Nat.toDigits_eq_if (by decide)] at h
    split at h
    · rename_i hn
      exact ⟨n, hn, List.mem_singleton.mp h⟩
    · rename_i hn
      rcases List.mem_append.mp h with h | h
      · exact ih (n / 16) (by omega) h
      · exact ⟨n % 16, Nat.mod_lt n (by decide), List.mem_singleton.mp h⟩

theorem hexChar?_toDigits (c : Char) : hexChar? (Nat.toDigits 16 c.toNat) = some c := by
  have hne : (Nat.toDigits 16 c.toNat).isEmpty = false := by
    rw [List.isEmpty_eq_false_iff]
    exact Nat.toDigits_ne_nil
  have hv : c.toNat.isValidChar := c.valid
  rw [hexChar?, hne, hexNumber?_toDigits]
  simp [hv]

end OclScan.Text
