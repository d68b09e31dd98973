import OclScan.Text.Quoted
import OclScan.Proofs.Text.Hex

/-!
# Quoted text reads back

However a character is written between quotes, it reads back and leaves what follows
(`Quoted.decodeChar?_encodeChar`), so a quoted text reads back as the text (`unquote?_quote`). It
takes one line and no tab (`plain_quote`).
-/

namespace OclScan.Text

/-- Whether `c` may stand in a field of a line: it is no tab, line feed or carriage return. -/
def isPlain (c : Char) : Bool := c != '\t' && c != '\n' && c != '\r'

theorem isPlain_digitChar : ∀ d < 16, isPlain d.digitChar = true := by decide

theorem not_mem_of_plain {cs : List Char} (h : cs.all isPlain = true) :
    '\t' ∉ cs ∧ '\n' ∉ cs ∧ '\r' ∉ cs := by
  rw [List.all_eq_true] at h
  exact ⟨fun hc => absurd (h _ hc) (by decide), fun hc => absurd (h _ hc) (by decide),
    fun hc => absurd (h _ hc) (by decide)⟩

namespace Quoted

variable {cs : List Char}

/-- A code ends at its brace: no digit is one. -/
theorem decodeChar?_encodeCode (c : Char) (rest : List Char) :
    decodeChar? (encodeCode c ++ rest) = some (c, rest) := by
  have hdigit : ∀ d < 16, (d.digitChar != '\x7d') = true := by decide
  have hmem : ∀ x ∈ Nat.toDigits 16 c.toNat, (x != '\x7d') = true := by
    intro x hx
    obtain ⟨d, hd, rfl⟩ := exists_of_mem_toDigits hx
    exact hdigit d hd
  have htake : (Nat.toDigits 16 c.toNat ++ '\x7d' :: rest).takeWhile (· != '\x7d') =
      Nat.toDigits 16 c.toNat := by
    rw [List.takeWhile_append_of_pos hmem, List.takeWhile_cons_of_neg (by decide), List.append_nil]
  have hdrop : (Nat.toDigits 16 c.toNat ++ '\x7d' :: rest).dropWhile (· != '\x7d') =
      '\x7d' :: rest := by
    rw [List.dropWhile_append_of_pos hmem, List.dropWhile_cons_of_neg (by decide)]
  rw [encodeCode, List.cons_append, List.cons_append, List.cons_append, List.append_assoc,
    List.singleton_append]
  simp only [decodeChar?, hdrop, htake, hexChar?_toDigits, Option.map_some]

/-- By cases of how the character is written: by its own escape, by its code point or as it is. -/
theorem decodeChar?_encodeChar (c : Char) (rest : List Char) :
    decodeChar? (encodeChar c ++ rest) = some (c, rest) := by
  unfold encodeChar
  split
  case h_7 =>
    split
    · exact decodeChar?_encodeCode c rest
    · rw [List.singleton_append]
      unfold decodeChar?
      split <;> simp_all
  all_goals rfl

theorem encodeChar_ne_nil (c : Char) : encodeChar c ≠ [] := by
  intro h
  have hread := decodeChar?_encodeChar c []
  rw [h] at hread
  cases hread

theorem encode_cons (c : Char) (cs : List Char) : encode (c :: cs) = encodeChar c ++ encode cs :=
  List.flatMap_cons

theorem length_le_length_encode (cs : List Char) : cs.length ≤ (encode cs).length := by
  induction cs with
  | nil => exact Nat.le_refl 0
  | cons c cs ih =>
    have := List.length_pos_iff.mpr (encodeChar_ne_nil c)
    rw [encode_cons, List.length_cons, List.length_append]
    omega

theorem decodeFrom?_encode {fuel : Nat} (h : cs.length ≤ fuel) :
    decodeFrom? fuel (encode cs) = some cs := by
  induction cs generalizing fuel with
  | nil => cases fuel <;> rfl
  | cons c cs ih =>
    obtain ⟨fuel, rfl⟩ := Nat.exists_eq_add_of_lt (Nat.lt_of_lt_of_le (Nat.succ_pos _) h)
    rw [Nat.zero_add] at h ⊢
    have hread := decodeChar?_encodeChar c (encode cs)
    rw [← encode_cons] at hread
    have hne : encode (c :: cs) ≠ [] := by
      rw [encode_cons]
      exact List.append_ne_nil_of_left_ne_nil (encodeChar_ne_nil c) _
    obtain ⟨x, xs, hx⟩ := List.exists_cons_of_ne_nil hne
    rw [hx] at hread ⊢
    rw [decodeFrom?, hread]
    · show (decodeFrom? fuel (encode cs)).bind (fun ys => some (c :: ys)) = _
      rw [ih (Nat.le_of_succ_le_succ h), Option.bind_some]
    · exact List.cons_ne_nil x xs

theorem decode?_encode (cs : List Char) : decode? (encode cs) = some cs :=
  decodeFrom?_encode (length_le_length_encode cs)

theorem plain_encodeChar (c : Char) : (encodeChar c).all isPlain = true := by
  unfold encodeChar
  split
  case h_7 =>
    split
    · have hdigits : (Nat.toDigits 16 c.toNat).all isPlain = true := by
        rw [List.all_eq_true]
        intro x hx
        obtain ⟨d, hd, rfl⟩ := exists_of_mem_toDigits hx
        exact isPlain_digitChar d hd
      rw [encodeCode, List.all_cons, List.all_cons, List.all_cons, List.all_append, hdigits]
      decide
    · simp_all [isPlain]
  all_goals decide

theorem plain_encode (cs : List Char) : (encode cs).all isPlain = true := by
  rw [encode, List.all_flatMap, List.all_eq_true]
  exact fun c _ => plain_encodeChar c

end Quoted

theorem toList_quote (s : String) :
    (quote s).toList = '"' :: (Quoted.encode s.toList ++ ['"']) := String.toList_ofList

theorem unquote?_quote (s : String) : unquote? (quote s) = some s := by
  have hlast : (Quoted.encode s.toList ++ ['"']).getLast? = some '"' := List.getLast?_concat
  simp only [unquote?, toList_quote, hlast, if_true, List.dropLast_concat, Quoted.decode?_encode,
    Option.map_some, String.ofList_toList]

theorem plain_quote (s : String) : (quote s).toList.all isPlain = true := by
  rw [toList_quote, List.all_cons, List.all_append, Quoted.plain_encode]
  rfl

end OclScan.Text
