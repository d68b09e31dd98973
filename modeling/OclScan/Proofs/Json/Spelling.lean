import OclScan.Proofs.Json.Literal
import OclScan.Proofs.Json.Number

/-!
# The grammar of values

What texts spell a value, with white space before each part (`Spells`). The members of an object
stand as they are in the text: in whatever order, and a key perhaps more than once. A text spells no
two values (`Spells.unique`).
-/

namespace OclScan.Json

mutual

/-- `Spells cs v rest`: `cs` is a text of the value `v`, white space before it included, and then
`rest`. -/
inductive Spells : List Char → Value → List Char → Prop
  | null {cs rest} (h : skip cs = 'n' :: 'u' :: 'l' :: 'l' :: rest) : Spells cs .null rest
  | yes {cs rest} (h : skip cs = 't' :: 'r' :: 'u' :: 'e' :: rest) : Spells cs (.bool true) rest
  | no {cs rest} (h : skip cs = 'f' :: 'a' :: 'l' :: 's' :: 'e' :: rest) :
    Spells cs (.bool false) rest
  | number {cs n rest} (h : Number.read? (skip cs) = some (n, rest)) : Spells cs (.number n) rest
  | string {cs cs' s rest} (h : skip cs = '"' :: cs') (hs : SpellsString cs' s.toList rest) :
    Spells cs (.string s) rest
  | emptyArray {cs cs' rest} (h : skip cs = '[' :: cs') (hend : skip cs' = ']' :: rest) :
    Spells cs (.array []) rest
  | array {cs cs' vs rest} (h : skip cs = '[' :: cs') (hvs : SpellsItems cs' vs rest) :
    Spells cs (.array vs) rest
  | emptyObject {cs cs' rest} (h : skip cs = '\x7b' :: cs') (hend : skip cs' = '\x7d' :: rest) :
    Spells cs (.object []) rest
  | object {cs cs' ms rest} (h : skip cs = '\x7b' :: cs') (hms : SpellsMembers cs' ms rest) :
    Spells cs (.object ms) rest

/-- Texts of items, of which there is at least one, with the closing bracket. -/
inductive SpellsItems : List Char → List Value → List Char → Prop
  | last {cs cs' v rest} (hv : Spells cs v cs') (hend : skip cs' = ']' :: rest) :
    SpellsItems cs [v] rest
  | cons {cs cs' next v vs rest} (hv : Spells cs v cs') (hnext : skip cs' = ',' :: next)
    (hvs : SpellsItems next vs rest) : SpellsItems cs (v :: vs) rest

/-- Texts of a member: its key, a colon and its value. -/
inductive SpellsMember : List Char → String × Value → List Char → Prop
  | intro {cs key colon cs' k v rest} (h : skip cs = '"' :: key)
    (hk : SpellsString key k.toList colon) (hcolon : skip colon = ':' :: cs')
    (hv : Spells cs' v rest) : SpellsMember cs (k, v) rest

/-- Texts of members, of which there is at least one, with the closing brace. -/
inductive SpellsMembers : List Char → List (String × Value) → List Char → Prop
  | last {cs cs' m rest} (hm : SpellsMember cs m cs') (hend : skip cs' = '\x7d' :: rest) :
    SpellsMembers cs [m] rest
  | cons {cs cs' next m ms rest} (hm : SpellsMember cs m cs') (hnext : skip cs' = ',' :: next)
    (hms : SpellsMembers next ms rest) : SpellsMembers cs (m :: ms) rest

end

/-- Whether a text spells a value, with white space around it. -/
def SpellsText (text : String) (v : Value) : Prop :=
  ∃ rest, Spells text.toList v rest ∧ skip rest = []

/-! ## What is left -/

theorem length_lt_of_skip {cs cs' : List Char} {c : Char} (h : skip cs = c :: cs') :
    cs'.length < cs.length := by
  have hle := (List.dropWhile_suffix isSpace (l := cs)).length_le
  rw [← skip, h, List.length_cons] at hle
  exact hle

theorem length_lt_of_skip_append (word : List Char) {cs rest : List Char} {c : Char}
    (h : skip cs = c :: (word ++ rest)) : rest.length < cs.length := by
  have hlt := length_lt_of_skip h
  rw [List.length_append] at hlt
  omega

mutual

/-- A text of a value is not empty. -/
theorem Spells.length_lt {cs v rest} : Spells cs v rest → rest.length < cs.length
  | .null h => length_lt_of_skip_append ['u', 'l', 'l'] h
  | .yes h => length_lt_of_skip_append ['r', 'u', 'e'] h
  | .no h => length_lt_of_skip_append ['a', 'l', 's', 'e'] h
  | .number h =>
    Nat.lt_of_lt_of_le (Number.read?_length_lt h) (List.dropWhile_suffix isSpace).length_le
  | .string h hs => Nat.lt_trans hs.length_lt (length_lt_of_skip h)
  | .emptyArray h hend => Nat.lt_trans (length_lt_of_skip hend) (length_lt_of_skip h)
  | .array h hvs => Nat.lt_trans hvs.length_lt (length_lt_of_skip h)
  | .emptyObject h hend => Nat.lt_trans (length_lt_of_skip hend) (length_lt_of_skip h)
  | .object h hms => Nat.lt_trans hms.length_lt (length_lt_of_skip h)

theorem SpellsItems.length_lt {cs vs rest} : SpellsItems cs vs rest → rest.length < cs.length
  | .last hv hend => Nat.lt_trans (length_lt_of_skip hend) hv.length_lt
  | .cons hv hnext hvs =>
    Nat.lt_trans hvs.length_lt (Nat.lt_trans (length_lt_of_skip hnext) hv.length_lt)

theorem SpellsMember.length_lt {cs m rest} : SpellsMember cs m rest → rest.length < cs.length
  | .intro h hk hcolon hv =>
    Nat.lt_trans (Nat.lt_trans hv.length_lt (length_lt_of_skip hcolon))
      (Nat.lt_trans hk.length_lt (length_lt_of_skip h))

theorem SpellsMembers.length_lt {cs ms rest} : SpellsMembers cs ms rest → rest.length < cs.length
  | .last hm hend => Nat.lt_trans (length_lt_of_skip hend) hm.length_lt
  | .cons hm hnext hms =>
    Nat.lt_trans hms.length_lt (Nat.lt_trans (length_lt_of_skip hnext) hm.length_lt)

end

/-! ## The first character tells which rule applies -/

section FirstCharacter

variable {cs cs' rest rest' : List Char} {v : Value}

theorem Spells.of_null (h : skip cs = 'n' :: 'u' :: 'l' :: 'l' :: rest) (hv : Spells cs v rest') :
    v = .null ∧ rest' = rest := by
  cases hv <;> simp_all [Number.read?_eq_none]

theorem Spells.of_true (h : skip cs = 't' :: 'r' :: 'u' :: 'e' :: rest)
    (hv : Spells cs v rest') : v = .bool true ∧ rest' = rest := by
  cases hv <;> simp_all [Number.read?_eq_none]

theorem Spells.of_false (h : skip cs = 'f' :: 'a' :: 'l' :: 's' :: 'e' :: rest)
    (hv : Spells cs v rest') : v = .bool false ∧ rest' = rest := by
  cases hv <;> simp_all [Number.read?_eq_none]

theorem Spells.of_number {n : Number} (h : Number.read? (skip cs) = some (n, rest))
    (hv : Spells cs v rest') : v = .number n ∧ rest' = rest := by
  cases hv <;> simp_all [Number.read?_eq_none]

theorem Spells.of_quote (h : skip cs = '"' :: cs') (hv : Spells cs v rest) :
    ∃ s, v = .string s ∧ SpellsString cs' s.toList rest := by
  cases hv <;> simp_all [Number.read?_eq_none]

theorem Spells.of_bracket (h : skip cs = '[' :: cs') (hv : Spells cs v rest) :
    ∃ vs, v = .array vs ∧ (vs = [] ∧ skip cs' = ']' :: rest ∨ SpellsItems cs' vs rest) := by
  cases hv <;> simp_all [Number.read?_eq_none]

theorem Spells.of_brace (h : skip cs = '\x7b' :: cs') (hv : Spells cs v rest) :
    ∃ ms, v = .object ms ∧ (ms = [] ∧ skip cs' = '\x7d' :: rest ∨ SpellsMembers cs' ms rest) := by
  cases hv <;> simp_all [Number.read?_eq_none]

/-- No value begins with a closing bracket. -/
theorem Spells.skip_ne (hv : Spells cs v rest) : skip cs ≠ ']' :: cs' := by
  intro h
  cases hv <;> simp_all [Number.read?_eq_none]

theorem SpellsItems.skip_ne {vs : List Value} (h : SpellsItems cs vs rest) :
    skip cs ≠ ']' :: cs' := by
  cases h with
  | last hv => exact hv.skip_ne
  | cons hv => exact hv.skip_ne

theorem SpellsMember.exists_skip {m : String × Value} (h : SpellsMember cs m rest) :
    ∃ key, skip cs = '"' :: key := by
  cases h with
  | intro h => exact ⟨_, h⟩

/-- Members begin with a quote, not with a closing brace. -/
theorem SpellsMembers.skip_ne {ms : List (String × Value)} (h : SpellsMembers cs ms rest) :
    skip cs ≠ '\x7d' :: cs' := by
  cases h with
  | last hm => obtain ⟨key, h⟩ := hm.exists_skip; simp [h]
  | cons hm => obtain ⟨key, h⟩ := hm.exists_skip; simp [h]

end FirstCharacter

/-! ## One value to a text -/

mutual

/-- A text spells one value. -/
theorem Spells.unique {cs v rest} : Spells cs v rest →
    ∀ {v' rest'}, Spells cs v' rest' → v = v' ∧ rest = rest'
  | .null h, _, _, h' => by
    obtain ⟨rfl, rfl⟩ := h'.of_null h
    exact ⟨rfl, rfl⟩
  | .yes h, _, _, h' => by
    obtain ⟨rfl, rfl⟩ := h'.of_true h
    exact ⟨rfl, rfl⟩
  | .no h, _, _, h' => by
    obtain ⟨rfl, rfl⟩ := h'.of_false h
    exact ⟨rfl, rfl⟩
  | .number h, _, _, h' => by
    obtain ⟨rfl, rfl⟩ := h'.of_number h
    exact ⟨rfl, rfl⟩
  | .string h hs, _, _, h' => by
    obtain ⟨s, rfl, hs'⟩ := h'.of_quote h
    obtain ⟨rfl, rfl⟩ := hs.unique hs'
    exact ⟨rfl, rfl⟩
  | .emptyArray h hend, _, _, h' => by
    obtain ⟨vs, rfl, ⟨rfl, hend'⟩ | hvs⟩ := h'.of_bracket h
    · exact ⟨rfl, (List.cons.inj (hend.symm.trans hend')).2⟩
    · exact absurd hend hvs.skip_ne
  | .array h hvs, _, _, h' => by
    obtain ⟨vs, rfl, ⟨rfl, hend⟩ | hvs'⟩ := h'.of_bracket h
    · exact absurd hend hvs.skip_ne
    · obtain ⟨rfl, rfl⟩ := hvs.unique hvs'
      exact ⟨rfl, rfl⟩
  | .emptyObject h hend, _, _, h' => by
    obtain ⟨ms, rfl, ⟨rfl, hend'⟩ | hms⟩ := h'.of_brace h
    · exact ⟨rfl, (List.cons.inj (hend.symm.trans hend')).2⟩
    · exact absurd hend hms.skip_ne
  | .object h hms, _, _, h' => by
    obtain ⟨ms, rfl, ⟨rfl, hend⟩ | hms'⟩ := h'.of_brace h
    · exact absurd hend hms.skip_ne
    · obtain ⟨rfl, rfl⟩ := hms.unique hms'
      exact ⟨rfl, rfl⟩
termination_by structural h => h

theorem SpellsItems.unique {cs vs rest} : SpellsItems cs vs rest →
    ∀ {vs' rest'}, SpellsItems cs vs' rest' → vs = vs' ∧ rest = rest'
  | .last hv hend, _, _, h' => by
    cases h' with
    | last hv' hend' =>
      obtain ⟨rfl, rfl⟩ := hv.unique hv'
      simp_all
    | cons hv' hnext =>
      obtain ⟨rfl, rfl⟩ := hv.unique hv'
      simp_all
  | .cons hv hnext hvs, _, _, h' => by
    cases h' with
    | last hv' hend =>
      obtain ⟨rfl, rfl⟩ := hv.unique hv'
      simp_all
    | cons hv' hnext' hvs' =>
      obtain ⟨rfl, rfl⟩ := hv.unique hv'
      obtain rfl := (List.cons.inj (hnext.symm.trans hnext')).2
      obtain ⟨rfl, rfl⟩ := hvs.unique hvs'
      exact ⟨rfl, rfl⟩
termination_by structural h => h

theorem SpellsMember.unique {cs m rest} : SpellsMember cs m rest →
    ∀ {m' rest'}, SpellsMember cs m' rest' → m = m' ∧ rest = rest'
  | .intro h hk hcolon hv, _, _, .intro h' hk' hcolon' hv' => by
    obtain rfl := (List.cons.inj (h.symm.trans h')).2
    obtain ⟨rfl, rfl⟩ := hk.unique hk'
    obtain rfl := (List.cons.inj (hcolon.symm.trans hcolon')).2
    obtain ⟨rfl, rfl⟩ := hv.unique hv'
    exact ⟨rfl, rfl⟩
termination_by structural h => h

theorem SpellsMembers.unique {cs ms rest} : SpellsMembers cs ms rest →
    ∀ {ms' rest'}, SpellsMembers cs ms' rest' → ms = ms' ∧ rest = rest'
  | .last hm hend, _, _, h' => by
    cases h' with
    | last hm' hend' =>
      obtain ⟨rfl, rfl⟩ := hm.unique hm'
      simp_all
    | cons hm' hnext =>
      obtain ⟨rfl, rfl⟩ := hm.unique hm'
      simp_all
  | .cons hm hnext hms, _, _, h' => by
    cases h' with
    | last hm' hend =>
      obtain ⟨rfl, rfl⟩ := hm.unique hm'
      simp_all
    | cons hm' hnext' hms' =>
      obtain ⟨rfl, rfl⟩ := hm.unique hm'
      obtain rfl := (List.cons.inj (hnext.symm.trans hnext')).2
      obtain ⟨rfl, rfl⟩ := hms.unique hms'
      exact ⟨rfl, rfl⟩
termination_by structural h => h

end

/-- No text spells two values. -/
theorem SpellsText.unique {text : String} {v v' : Value} (h : SpellsText text v)
    (h' : SpellsText text v') : v = v' := by
  obtain ⟨_, h, -⟩ := h
  obtain ⟨_, h', -⟩ := h'
  exact (h.unique h').1

end OclScan.Json
