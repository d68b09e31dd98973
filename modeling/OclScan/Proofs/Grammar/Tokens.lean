import OclScan.Proofs.Grammar.DocString
import OclScan.Proofs.Scan.Cover
import OclScan.Proofs.Stream.Lookahead

/-!
# The tokens of the rules

Every rule of the grammar makes one token of its match, except those for text in triple quotes
(`Grammar.action_of_mem`), which make a token of the gap, if there is one, and a token of the text
in quotes (`Grammar.tokens_docRule`). These are all the tokens that a step can make
(`Grammar.madeAt_of_mem`). Either way the tokens cover the match, so that the tokens of a source are
the source, cut into pieces (`Lexer.standard_tiles`).
-/

namespace OclScan

namespace Grammar

variable {text : String} {q : Char} {c : Cursor} {w n : Nat} {r : Rule}

/-- Whether the action makes one token. -/
def makesOne : Action → Bool
  | .token _ => true
  | .byGroups _ => false

theorem makesOne_of_mem_laterRules : ∀ r ∈ laterRules, makesOne r.action = true := by decide

theorem mem_rules {r : Rule} : r ∈ rules ↔ r = newlineRule ∨ r ∈ docRules ∨ r ∈ laterRules := by
  rw [rules, List.mem_append, List.mem_cons, or_assoc]

theorem action_of_mem (hr : r ∈ rules) : makesOne r.action = true ∨ r ∈ docRules := by
  rcases mem_rules.mp hr with rfl | hr | hr
  · exact .inl rfl
  · exact .inr hr
  · exact .inl (makesOne_of_mem_laterRules r hr)

theorem exists_of_mem_docRules (h : r ∈ docRules) :
    ∃ text, ∃ q ∈ quotes, r = docRule text q := by
  simp only [docRules, List.mem_cons, List.not_mem_nil, or_false] at h
  rcases h with rfl | rfl
  · exact ⟨_, '"', by decide, rfl⟩
  · exact ⟨_, '\'', by decide, rfl⟩

theorem quote_not_in_gap (hq : q ∈ quotes) : gap.contains q = false := by
  simp only [quotes, List.mem_cons, List.not_mem_nil, or_false] at hq
  rcases hq with rfl | rfl <;> decide

theorem matchAt?_docRule (hq : gap.contains q = false) (text : String) (c : Cursor) :
    (docRule text q).pattern.matchAt? c =
      if startsLine c.before then (docString? q c.rest).map fun (w, n) => docMatch w n else none :=
  matchAt?_doc hq c.before c.rest

theorem wins?_docRule (hq : gap.contains q = false) : (docRule text q).wins? c = some n ↔
    startsLine c.before = true ∧ ∃ w, docString? q c.rest = some (w, n) := by
  simp only [Rule.wins?_eq_some_iff, matchAt?_docRule hq]
  by_cases hl : startsLine c.before = true
  · simp only [hl, if_true, true_and, Option.map_eq_some_iff]
    constructor
    · rintro ⟨_, ⟨⟨w, n⟩, h, rfl⟩, -, -, rfl⟩
      exact ⟨w, h⟩
    · rintro ⟨w, h⟩
      have := docString?_eq_some h
      exact ⟨_, ⟨⟨w, n⟩, h, rfl⟩, by simp only [docMatch]; omega, rfl, rfl⟩
  · simp [hl]

/-- Where a text in triple quotes is read, a line starts, and two triples follow the gap. -/
theorem docString?_of_wins? (hq : gap.contains q = false) (h : (docRule text q).wins? c = some n) :
    startsLine c.before = true ∧ docString? q c.rest = some (gap.run c.rest, n) ∧
      gap.run c.rest + 6 ≤ n ∧ n ≤ c.rest.length := by
  obtain ⟨hl, w, hw⟩ := (wins?_docRule hq).mp h
  obtain ⟨rfl, hle, -⟩ := docString?_eq_some hw
  exact ⟨hl, hw, hle, Rule.wins?_le h⟩

/-- Where no line starts, or the text is too short, no text in triple quotes is read. -/
theorem wins?_docRules_eq_none
    (h : startsLine c.before = true → c.rest.length < gap.run c.rest + 6) :
    ∀ r ∈ docRules, r.wins? c = none := by
  intro r hr
  obtain ⟨text, q, hq, rfl⟩ := exists_of_mem_docRules hr
  cases hw : (docRule text q).wins? c with
  | none => rfl
  | some n =>
    obtain ⟨hl, -, hle, hlen⟩ := docString?_of_wins? (quote_not_in_gap hq) hw
    have := h hl
    omega

/-- The token of a gap, if there is one. -/
def gapTokens (c : Cursor) (w : Nat) : List Token :=
  if 0 < w then [⟨.text, c.take w, c.offset⟩] else []

/-- The token of a text in triple quotes. -/
def docToken (c : Cursor) (w n : Nat) : Token :=
  ⟨.stringDoc, (c.advance w).take (n - w), (c.advance w).offset⟩

theorem tokens_docRule (hq : gap.contains q = false) (hl : startsLine c.before = true)
    (h : docString? q c.rest = some (w, n)) :
    (docRule text q).tokens c n = gapTokens c w ++ [docToken c w n] := by
  have hm : (docRule text q).pattern.matchAt? c = some (docMatch w n) := by
    rw [matchAt?_docRule hq, if_pos hl, h]
    rfl
  have hw : w < n := by
    have := docString?_eq_some h
    omega
  have gapPart : Rule.groupToken? c (docMatch w n) .text 1 =
      if 0 < w then some ⟨.text, c.take w, c.offset⟩ else none := rfl
  have docPart : Rule.groupToken? c (docMatch w n) .stringDoc 2 =
      if w < n then some (docToken c w n) else none := rfl
  have tokens : (docRule text q).tokens c n =
      [(Kind.text, 1), (Kind.stringDoc, 2)].filterMap fun g =>
        Rule.groupToken? c (docMatch w n) g.1 g.2 := by
    simp only [Rule.tokens, hm]
    rfl
  simp only [tokens, List.filterMap_cons, List.filterMap_nil, gapPart, docPart, hw, gapTokens]
  by_cases h0 : 0 < w
  · simp only [h0, if_true, List.singleton_append]
  · simp only [h0, if_true, if_false, List.nil_append]

theorem covers_gapTokens (h : w ≤ c.rest.length) :
    Covers c.offset (gapTokens c w) (c.rest.take w) := by
  by_cases h0 : 0 < w
  · rw [gapTokens, if_pos h0]
    refine .single .text c.offset fun e => ?_
    have := congrArg List.length e
    rw [List.length_take, List.length_nil] at this
    omega
  · rw [gapTokens, if_neg h0, Nat.eq_zero_of_not_pos h0]
    exact .nil

theorem covering_docRule (hq : gap.contains q = false) (text : String) :
    (docRule text q).Covering := by
  intro c n hn
  have hle := Rule.wins?_le hn
  obtain ⟨hl, w, h⟩ := (wins?_docRule hq).mp hn
  have hw := (docString?_eq_some h).2.1
  rw [tokens_docRule hq hl h, show n = w + (n - w) by omega, List.take_add]
  refine (covers_gapTokens (by omega)).append ?_
  have hoffset : c.offset + (String.ofList (c.rest.take w)).utf8ByteSize = (c.advance w).offset :=
    (c.offset_advance w).symm
  rw [hoffset, ← Cursor.rest_advance, docToken, show w + (n - w) - w = n - w by omega]
  refine .single .stringDoc _ fun e => ?_
  have := congrArg List.length e
  rw [Cursor.rest_advance, List.length_take, List.length_drop, List.length_nil] at this
  omega

/-- What the step at a cursor can make a token of. -/
inductive MadeAt (c : Cursor) : Token → Prop
  /-- One character, which no rule reads. -/
  | single : winner? rules c = none → MadeAt c ⟨.text, c.take 1, c.offset⟩
  /-- The match of the rule that wins. -/
  | whole {r : Rule} {n : Nat} {k : Kind} : winner? rules c = some (r, n) → r ∉ docRules →
      r.action = .token k → MadeAt c ⟨k, c.take n, c.offset⟩
  /-- The gap before a text in triple quotes. -/
  | gap {r : Rule} {n : Nat} : winner? rules c = some (r, n) → r ∈ docRules →
      0 < gap.run c.rest → MadeAt c ⟨.text, c.take (gap.run c.rest), c.offset⟩
  /-- A text in triple quotes. -/
  | doc {r : Rule} {n : Nat} : winner? rules c = some (r, n) → r ∈ docRules →
      MadeAt c (docToken c (gap.run c.rest) n)

theorem madeAt_of_mem {t : Token} (ht : t ∈ (stepAt rules c).tokens) : MadeAt c t := by
  rw [stepAt] at ht
  cases hw : winner? rules c with
  | none =>
    rw [hw] at ht
    rw [List.mem_singleton.mp ht]
    exact .single hw
  | some win =>
    obtain ⟨r, n⟩ := win
    rw [hw, Step.make] at ht
    obtain ⟨hr, hwin⟩ := winner?_eq_some hw
    by_cases hd : r ∈ docRules
    · obtain ⟨text, q, hq, e⟩ := exists_of_mem_docRules hd
      have hgap := quote_not_in_gap hq
      obtain ⟨hl, hdoc, -, -⟩ := docString?_of_wins? hgap (e ▸ hwin)
      rw [e, tokens_docRule hgap hl hdoc, List.mem_append, List.mem_singleton, gapTokens] at ht
      rcases ht with ht | rfl
      · split at ht
        · rename_i hpos
          rw [List.mem_singleton.mp ht]
          exact .gap hw hd hpos
        · cases ht
      · exact .doc hw hd
    · have hone := (action_of_mem hr).resolve_right hd
      cases hk : r.action with
      | byGroups ks => rw [hk] at hone; cases hone
      | token k =>
        rw [Rule.tokens, hk] at ht
        rw [List.mem_singleton.mp ht]
        exact .whole hw hd hk

/-- The tokens of every rule cover its match. -/
theorem covering : ∀ r ∈ rules, r.Covering := by
  intro r hr
  rcases action_of_mem hr with h | h
  · cases ha : r.action with
    | token k => exact Rule.covering_of_token ha
    | byGroups ks => rw [ha] at h; cases h
  · obtain ⟨text, q, hq, rfl⟩ := exists_of_mem_docRules h
    exact covering_docRule (quote_not_in_gap hq) text

end Grammar

/-- The tokens of a source cover it. -/
theorem Lexer.covers_tokenize (source : String) :
    Covers 0 ((Lexer.mk Grammar.rules).tokenize source) source.toList := by
  rw [tokenize_eq_scan]
  exact covers_scan Grammar.covering (.start source.toList)

/-- The lexer for constraints loses nothing: the tokens of a source are the source, cut into pieces
that are not empty. -/
theorem Lexer.standard_tiles : ∃ l, Lexer.standard = .ok l ∧
    ∀ source, Tiles source (l.tokenize source) :=
  ⟨_, standard_eq, fun source => (covers_tokenize source).tiles⟩

end OclScan
