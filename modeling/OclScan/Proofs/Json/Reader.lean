import OclScan.Proofs.Json.Number
import OclScan.Proofs.Json.Text

/-!
# Steps of reading JSON

What the reader does at each kind of value, in terms of what it reads of the parts: a string
(`readValue?_string`), a number (`readValue?_number`), an array (`readValue?_array`) and an object
(`readValue?_object`), and one item or member of these at a time.
-/

namespace OclScan.Json

variable {fuel depth : Nat} {cs rest : List Char}

theorem skip_cons {c : Char} (h : isSpace c = false) : skip (c :: cs) = c :: cs :=
  List.dropWhile_cons_of_neg (by rw [h]; decide)

theorem skip_space {c : Char} (h : isSpace c = true) : skip (c :: cs) = skip cs :=
  List.dropWhile_cons_of_pos h

theorem skip_encodeString (s : String) (rest : List Char) :
    skip ((encodeString s).toList ++ rest) = (encodeString s).toList ++ rest := by
  obtain ⟨cs, hquote, -⟩ := readString?_encodeString s rest
  rw [hquote]
  exact skip_cons rfl

/-- No white space stands before a number that is read. -/
theorem skip_eq_of_read? {n : Number} (h : Number.read? cs = some (n, rest)) : skip cs = cs := by
  obtain ⟨c, cs, rfl, hc, -⟩ := Number.read?_suffix h
  refine skip_cons (Bool.eq_false_iff.mpr fun hspace => ?_)
  simp only [isSpace, Bool.or_eq_true, beq_iff_eq] at hspace
  rcases hspace with ((rfl | rfl) | rfl) | rfl <;> exact absurd hc (by decide)

theorem readValue?_string {s : String} {cs' : List Char} (h : skip cs = '"' :: cs')
    (hs : readString? [] (cs'.length + 1) cs' = some (s, rest)) :
    readValue? (fuel + 1) depth cs = some (.string s, rest) := by
  rw [readValue?, h]
  show (readString? [] _ _).map _ = _
  rw [hs]
  rfl

/-- A number is read where no other value begins. -/
theorem readValue?_number {n : Number} (h : Number.read? (skip cs) = some (n, rest)) :
    readValue? (fuel + 1) depth cs = some (.number n, rest) := by
  rw [readValue?]
  split
  case h_1 heq =>
    rw [heq] at h
    cases h
  case h_8 =>
    rw [h]
    rfl
  all_goals
    rename_i heq
    rw [heq, Number.read?_eq_none (by decide) rfl] at h
    cases h

/-! ## Arrays -/

theorem readValue?_array {vs : List Value} (h : skip cs = '[' :: rest)
    (hne : ∀ r, skip rest ≠ ']' :: r) {r : List Char}
    (hread : readItems? fuel depth rest = some (vs, r)) :
    readValue? (fuel + 1) (depth + 1) cs = some (.array vs, r) := by
  -- `hne` picks the branch of what is not empty
  simp only [readValue?, h, if_neg (Nat.succ_ne_zero depth), Nat.add_sub_cancel, hread]
  rfl

variable {v : Value} {vs : List Value} {r r' : List Char}

theorem readItems?_last (hv : readValue? fuel depth cs = some (v, rest))
    (hend : skip rest = ']' :: r) : readItems? (fuel + 1) depth cs = some ([v], r) := by
  simp only [readItems?, hv, Option.bind_eq_bind, Option.bind_some, hend]
  rfl

theorem readItems?_cons (hv : readValue? fuel depth cs = some (v, rest))
    (hnext : skip rest = ',' :: r) (hvs : readItems? fuel depth r = some (vs, r')) :
    readItems? (fuel + 1) depth cs = some (v :: vs, r') := by
  simp only [readItems?, hv, Option.bind_eq_bind, Option.bind_some, hnext, hvs]
  rfl

/-! ## Objects -/

variable {ms : List (String × Value)} {key : String} {cs' : List Char}

theorem readValue?_object (h : skip cs = '\x7b' :: rest) (hne : ∀ r, skip rest ≠ '\x7d' :: r)
    (hread : readMembers? fuel depth [] rest = some (ms, r)) :
    readValue? (fuel + 1) (depth + 1) cs = some (.object ms, r) := by
  -- `hne` picks the branch of what is not empty
  simp only [readValue?, h, if_neg (Nat.succ_ne_zero depth), Nat.add_sub_cancel, hread]
  rfl

/-- The last member: its key, a colon and its value, before the closing brace. -/
theorem readMembers?_last (hquote : skip cs = '"' :: rest)
    (hkey : readString? [] (rest.length + 1) rest = some (key, r)) (hcolon : skip r = ':' :: cs')
    (hv : readValue? fuel depth cs' = some (v, r')) {e : List Char} (hend : skip r' = '\x7d' :: e) :
    readMembers? (fuel + 1) depth ms cs = some (setMember key v ms, e) := by
  simp only [readMembers?, hquote, hkey, Option.bind_eq_bind, Option.bind_some, hcolon, hv, hend]
  rfl

/-- A member before a comma. -/
theorem readMembers?_cons (hquote : skip cs = '"' :: rest)
    (hkey : readString? [] (rest.length + 1) rest = some (key, r)) (hcolon : skip r = ':' :: cs')
    (hv : readValue? fuel depth cs' = some (v, r')) {n : List Char} (hnext : skip r' = ',' :: n) :
    readMembers? (fuel + 1) depth ms cs = readMembers? fuel depth (setMember key v ms) n := by
  simp only [readMembers?, hquote, hkey, Option.bind_eq_bind, Option.bind_some, hcolon, hv, hnext]

end OclScan.Json
