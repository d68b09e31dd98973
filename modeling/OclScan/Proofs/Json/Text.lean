import OclScan.Json.Reader
import OclScan.Proofs.Text.Hex

/-!
# JSON strings read back

However a character is written in a string, it reads back and leaves what follows
(`readChar?_encodeChar`), so a string that is written with its quotes reads back as the string
(`readString?_encodeString`).
-/

namespace OclScan.Json

theorem toList_encodeString (s : String) :
    (encodeString s).toList = '"' :: (s.toList.flatMap encodeChar ++ ['"']) := String.toList_ofList

/-- The two digits of a control character are those of its code point. -/
theorem readEscapedUnit?_control {c : Char} (h : c.toNat < 32) (rest : List Char) :
    readEscapedUnit? ('0' :: '0' :: Nat.digitChar (c.toNat / 16) ::
      Nat.digitChar (c.toNat % 16) :: rest) = some (c, rest) := by
  have hhigh := Text.hexValue?_digitChar (c.toNat / 16) (by omega)
  have hlow := Text.hexValue?_digitChar (c.toNat % 16) (by omega)
  have hunit : Text.hexNumber? ['0', '0', Nat.digitChar (c.toNat / 16),
      Nat.digitChar (c.toNat % 16)] = some c.toNat := by
    show ((Text.hexValue? (Nat.digitChar (c.toNat / 16))).map (16 * 0 + ·)).bind (fun n =>
      ((Text.hexValue? (Nat.digitChar (c.toNat % 16))).map (16 * n + ·)).bind some) = _
    rw [hhigh, hlow]
    show some (16 * (16 * 0 + c.toNat / 16) + c.toNat % 16) = some c.toNat
    rw [Nat.mul_zero, Nat.zero_add, Nat.div_add_mod]
  rw [readEscapedUnit?, readUnit?, hunit]
  show (if 0xd800 ≤ c.toNat ∧ c.toNat < 0xdc00 then _
    else if 0xdc00 ≤ c.toNat ∧ c.toNat < 0xe000 then none
    else some (Char.ofNat c.toNat, rest)) = _
  rw [if_neg (by omega), if_neg (by omega), Char.ofNat_toNat]

/-- By cases of how the character is written: by its own escape, by its code point or as it is. -/
theorem readChar?_encodeChar (c : Char) (rest : List Char) :
    readChar? (encodeChar c ++ rest) = some (c, rest) := by
  unfold encodeChar
  split
  case h_8 =>
    split
    · exact readEscapedUnit?_control ‹_› rest
    · rw [List.singleton_append]
      unfold readChar?
      split <;> simp_all
  all_goals rfl

/-- What is written for a character does not begin with a quote, which would end the string. -/
theorem encodeChar_append_ne (c : Char) (rest r : List Char) : encodeChar c ++ rest ≠ '"' :: r := by
  unfold encodeChar
  split
  case h_8 =>
    split
    · exact fun h => absurd (List.cons.inj h).1 (by decide)
    · rename_i hquote _ _ _ _ _ _ _
      exact fun h => hquote (List.cons.inj h).1
  all_goals exact fun h => absurd (List.cons.inj h).1 (by decide)

/-- By induction on the characters that are left. -/
theorem readString?_flatMap {cs : List Char} {fuel : Nat} (h : cs.length < fuel)
    (read rest : List Char) :
    readString? read fuel (cs.flatMap encodeChar ++ '"' :: rest) =
      some (String.ofList (read.reverse ++ cs), rest) := by
  induction cs generalizing fuel read with
  | nil =>
    obtain ⟨fuel, rfl⟩ := Nat.exists_eq_add_of_lt h
    rw [List.append_nil]
    rfl
  | cons c cs ih =>
    obtain ⟨fuel, rfl⟩ := Nat.exists_eq_add_of_lt (Nat.lt_of_le_of_lt (Nat.zero_le _) h)
    rw [Nat.zero_add] at h ⊢
    have hchar := readChar?_encodeChar c (cs.flatMap encodeChar ++ '"' :: rest)
    have hne := encodeChar_append_ne c (cs.flatMap encodeChar ++ '"' :: rest)
    rw [List.flatMap_cons, List.append_assoc, readString?]
    · rw [hchar]
      show readString? (c :: read) fuel (cs.flatMap encodeChar ++ '"' :: rest) = _
      rw [ih (Nat.lt_of_succ_lt_succ h), List.reverse_cons, List.append_assoc]
      rfl
    · exact hne

theorem length_le_length_flatMap (cs : List Char) :
    cs.length ≤ (cs.flatMap encodeChar).length := by
  induction cs with
  | nil => exact Nat.le_refl 0
  | cons c cs ih =>
    have hpos : 0 < (encodeChar c).length := by
      refine List.length_pos_iff.mpr fun h => ?_
      have hread := readChar?_encodeChar c []
      rw [h] at hread
      cases hread
    rw [List.flatMap_cons, List.length_append, List.length_cons]
    omega

/-- A string that is written reads back after its opening quote, whatever follows the closing
one. -/
theorem readString?_encodeString (s : String) (rest : List Char) :
    ∃ cs, (encodeString s).toList ++ rest = '"' :: cs ∧
      readString? [] (cs.length + 1) cs = some (s, rest) := by
  refine ⟨s.toList.flatMap encodeChar ++ '"' :: rest, ?_, ?_⟩
  · rw [toList_encodeString, List.cons_append, List.append_assoc, List.singleton_append]
  · have hle := length_le_length_flatMap s.toList
    rw [readString?_flatMap (by rw [List.length_append]; omega)]
    rw [List.reverse_nil, List.nil_append, String.ofList_toList]

end OclScan.Json
