import OclScan.Proofs.Json.Text

/-!
# The grammar of strings

A character is spelled as it is, by an escape of its own, by its code point, or by the two halves of
a pair (`SpellsChar`); a string by its characters up to a quote (`SpellsString`). The reader of
strings accepts what the grammar spells, and nothing else (`readString?_iff`). So no text spells two
strings (`SpellsString.unique`), and what is written for a string spells it
(`exists_spellsString_encodeString`).
-/

namespace OclScan.Json

/-- Escapes of two characters, with the character that each stands for. -/
def shortEscapes : List (Char × Char) :=
  [('"', '"'), ('\\', '\\'), ('/', '/'), ('b', '\x08'), ('f', '\x0c'), ('n', '\n'), ('r', '\r'),
    ('t', '\t')]

/-- `SpellsChar cs c rest`: `cs` is a text of the character `c` within a string, and then `rest`. -/
inductive SpellsChar : List Char → Char → List Char → Prop
  /-- The character as it is; controls, the quote and the backslash have to be escaped. -/
  | plain {c rest} (hc : 32 ≤ c.toNat) (hquote : c ≠ '"') (hescape : c ≠ '\\') :
    SpellsChar (c :: rest) c rest
  | short {e c rest} (h : (e, c) ∈ shortEscapes) : SpellsChar ('\\' :: e :: rest) c rest
  /-- The code point in four digits. -/
  | unit {cs c rest} (h : readUnit? cs = some (c.toNat, rest)) :
    SpellsChar ('\\' :: 'u' :: cs) c rest
  /-- The two halves of a pair, each in four digits. -/
  | pair {cs cs' c rest high low} (hhigh : readUnit? cs = some (high, '\\' :: 'u' :: cs'))
    (hlow : readUnit? cs' = some (low, rest)) (hleading : 0xd800 ≤ high ∧ high < 0xdc00)
    (htrailing : 0xdc00 ≤ low ∧ low < 0xe000)
    (hc : c.toNat = 0x10000 + (high - 0xd800) * 1024 + (low - 0xdc00)) :
    SpellsChar ('\\' :: 'u' :: cs) c rest

/-- `SpellsString cs s rest`: `cs` is a text of the characters `s` with the closing quote, and then
`rest`. -/
inductive SpellsString : List Char → List Char → List Char → Prop
  | nil {rest} : SpellsString ('"' :: rest) [] rest
  | cons {cs cs' c s rest} (hc : SpellsChar cs c cs') (hs : SpellsString cs' s rest) :
    SpellsString cs (c :: s) rest

variable {cs rest : List Char} {c : Char} {n : Nat}

/-! ## One character -/

theorem readUnit?_eq_some (h : readUnit? cs = some (n, rest)) :
    n < 16 ^ 4 ∧ cs.length = rest.length + 4 := by
  unfold readUnit? at h
  split at h
  · obtain ⟨m, hm, hn⟩ := Option.map_eq_some_iff.mp h
    cases hn
    exact ⟨Text.hexNumber?_lt hm, rfl⟩
  · cases h

theorem SpellsChar.length_lt (h : SpellsChar cs c rest) : rest.length < cs.length := by
  cases h with
  | plain => exact Nat.lt_succ_self _
  | short => exact Nat.lt_succ_of_lt (Nat.lt_succ_self _)
  | unit h =>
    have hlength := (readUnit?_eq_some h).2
    rw [List.length_cons, List.length_cons]
    omega
  | pair hhigh hlow =>
    have hlength := (readUnit?_eq_some hhigh).2
    have hlength' := (readUnit?_eq_some hlow).2
    rw [List.length_cons, List.length_cons] at hlength ⊢
    omega

theorem SpellsChar.ne_quote (h : SpellsChar cs c rest) (r : List Char) : cs ≠ '"' :: r := by
  intro heq
  cases h with
  | plain _ hquote => exact hquote (List.cons.inj heq).1
  | _ => exact absurd (List.cons.inj heq).1 (by decide)

theorem spellsChar_of_readEscapedUnit? (h : readEscapedUnit? cs = some (c, rest)) :
    SpellsChar ('\\' :: 'u' :: cs) c rest := by
  rw [readEscapedUnit?, Option.bind_eq_bind, Option.bind_eq_some_iff] at h
  obtain ⟨⟨high, rest'⟩, hhigh, h⟩ := h
  have hlt := (readUnit?_eq_some hhigh).1
  dsimp only at h
  split at h
  · rename_i hleading
    split at h
    · rw [Option.bind_eq_some_iff] at h
      obtain ⟨⟨low, rest''⟩, hlow, h⟩ := h
      dsimp only at h
      split at h
      · rename_i htrailing
        rw [Option.some.injEq, Prod.mk.injEq] at h
        obtain ⟨rfl, rfl⟩ := h
        exact .pair hhigh hlow hleading htrailing (Text.toNat_ofNat_of_isValidChar (.inr (by omega)))
      · cases h
    · cases h
  · rename_i hleading
    split at h
    · cases h
    · rename_i htrailing
      cases h
      refine .unit ?_
      rw [hhigh, Text.toNat_ofNat_of_isValidChar]
      show high < 0xd800 ∨ 0xdfff < high ∧ high < 0x110000
      omega

theorem SpellsChar.readChar? (h : SpellsChar cs c rest) : readChar? cs = some (c, rest) := by
  cases h with
  | plain hc hquote hescape =>
    unfold Json.readChar?
    split <;> simp_all
  | short h =>
    simp only [shortEscapes, List.mem_cons, Prod.mk.injEq, List.not_mem_nil, or_false] at h
    rcases h with h | h | h | h | h | h | h | h <;> obtain ⟨rfl, rfl⟩ := h <;> rfl
  | unit h =>
    have hvalid : c.toNat < 0xd800 ∨ 0xdfff < c.toNat ∧ c.toNat < 0x110000 := c.valid
    show readEscapedUnit? _ = _
    rw [readEscapedUnit?, h]
    dsimp only [Option.bind_eq_bind, Option.bind_some]
    rw [if_neg (by omega), if_neg (by omega), Char.ofNat_toNat]
  | pair hhigh hlow hleading htrailing hc =>
    show readEscapedUnit? _ = _
    simp only [readEscapedUnit?, hhigh, hlow, Option.bind_eq_bind, Option.bind_some,
      if_pos hleading, if_pos htrailing, ← hc, Char.ofNat_toNat]

theorem spellsChar_of_readChar? (h : Json.readChar? cs = some (c, rest))
    (hne : ∀ r, cs ≠ '"' :: r) : SpellsChar cs c rest := by
  unfold Json.readChar? at h
  split at h
  case h_9 => exact spellsChar_of_readEscapedUnit? h
  case h_10 => cases h
  case h_11 c' cs' _ _ _ _ _ _ _ _ _ hescape =>
    split at h
    · cases h
    · rename_i hc
      cases h
      refine .plain (Nat.le_of_not_lt hc) ?_ ?_
      · rintro rfl
        exact hne _ rfl
      · rintro rfl
        exact hescape rfl
  case h_12 => cases h
  all_goals
    cases h
    exact .short (by decide)

/-! ## The characters of a string -/

/-- By induction on the fuel. -/
theorem spellsString_of_readString? {fuel : Nat} {read : List Char} {s : String}
    (h : Json.readString? read fuel cs = some (s, rest)) :
    ∃ t, SpellsString cs t rest ∧ s = String.ofList (read.reverse ++ t) := by
  induction fuel generalizing cs read with
  | zero => cases h
  | succ fuel ih =>
    unfold Json.readString? at h
    split at h
    · cases h
      exact ⟨[], .nil, by rw [List.append_nil]⟩
    · rename_i hne
      obtain ⟨⟨c, cs'⟩, hc, h⟩ := Option.bind_eq_some_iff.mp h
      obtain ⟨t, ht, rfl⟩ := ih h
      refine ⟨c :: t, .cons (spellsChar_of_readChar? hc hne) ht, ?_⟩
      rw [List.reverse_cons, List.append_assoc, List.singleton_append]

/-- Each character is read at the next step. -/
theorem SpellsString.readString? {s : List Char} (h : SpellsString cs s rest) {fuel : Nat}
    (hfuel : cs.length < fuel) (read : List Char) :
    Json.readString? read fuel cs = some (String.ofList (read.reverse ++ s), rest) := by
  induction h generalizing fuel read with
  | nil =>
    obtain ⟨fuel, rfl⟩ := Nat.exists_eq_add_one.mpr (Nat.zero_lt_of_lt hfuel)
    rw [List.append_nil]
    rfl
  | @cons cs cs' c s rest hc hs ih =>
    obtain ⟨fuel, rfl⟩ := Nat.exists_eq_add_one.mpr (Nat.zero_lt_of_lt hfuel)
    have hread := ih (Nat.lt_of_lt_of_le hc.length_lt (Nat.le_of_lt_succ hfuel)) (c :: read)
    rw [List.reverse_cons, List.append_assoc, List.singleton_append] at hread
    rw [Json.readString?, hc.readChar?]
    · exact hread
    · exact hc.ne_quote

/-- After the opening quote is read what the grammar spells. -/
theorem readString?_iff {s : String} :
    Json.readString? [] (cs.length + 1) cs = some (s, rest) ↔
      SpellsString cs s.toList rest := by
  constructor
  · intro h
    obtain ⟨t, ht, rfl⟩ := spellsString_of_readString? h
    rwa [List.reverse_nil, List.nil_append, String.toList_ofList]
  · intro h
    rw [h.readString? (Nat.lt_succ_self _), List.reverse_nil, List.nil_append, String.ofList_toList]

/-- No text spells two strings. -/
theorem SpellsString.unique {s s' : String} {rest' : List Char} (h : SpellsString cs s.toList rest)
    (h' : SpellsString cs s'.toList rest') : s = s' ∧ rest = rest' := by
  rw [← readString?_iff] at h h'
  rw [h'] at h
  cases h
  exact ⟨rfl, rfl⟩

theorem SpellsString.length_lt {s : List Char} (h : SpellsString cs s rest) :
    rest.length < cs.length := by
  induction h with
  | nil => exact Nat.lt_succ_self _
  | cons hc _ ih => exact Nat.lt_trans ih hc.length_lt

/-- What is written for a string spells it. -/
theorem exists_spellsString_encodeString (s : String) (rest : List Char) :
    ∃ cs, (encodeString s).toList ++ rest = '"' :: cs ∧ SpellsString cs s.toList rest := by
  obtain ⟨cs, hquote, hread⟩ := readString?_encodeString s rest
  exact ⟨cs, hquote, readString?_iff.mp hread⟩

end OclScan.Json
