import OclScan.Proofs.Grammar.Emission

/-!
# Words in a source

Where a letter, a dollar sign or an underscore is read, it starts a name, which goes on as far as it
can and has the kind that the lexicon gives it (`Grammar.stepAt_name`): the rules for words are tried
in the order in which the lexicon is consulted (`Grammar.make_winner?_words`). An at sign starts a
decorator (`Grammar.stepAt_decorator`). All words and decorators come from there
(`Grammar.name_of_mem`, `Grammar.decorator_of_mem`).
-/

namespace OclScan

/-- Whether a name starts with the character. -/
def startsName (c : Char) : Bool := Text.isLetter c || c = '$' || c = '_'

/-- Whether a name goes on with the character. -/
def inName (c : Char) : Bool := Text.isLetter c || Text.isNumber c || c = '$' || c = '_'

/-- Whether a decorator goes on with the character. -/
def inDecorator (c : Char) : Bool := inName c || c = '.'

/-- The kind of a name: the one that the lexicon gives it, if it lists it. -/
def nameKind (word : String) : Kind := (Lexicon.classify? word).getD .name

/-- The kinds of names. -/
def nameKinds : List Kind :=
  [.name, .nameBuiltin, .operatorWord, .keyword, .keywordType, .keywordConstant, .keywordPseudo]

theorem nameKind_mem (word : String) : nameKind word ∈ nameKinds := by
  rw [nameKind, Lexicon.classify?]
  cases h : Lexicon.tables.find? fun e => e.1.contains word with
  | none => exact List.mem_cons_self
  | some e =>
    have hkinds : ∀ e ∈ Lexicon.tables, e.2 ∈ nameKinds := by decide
    exact hkinds e (List.mem_of_find?_eq_some h)

theorem take_length_takeWhile (p : Char → Bool) (t : List Char) :
    t.take (t.takeWhile p).length = t.takeWhile p :=
  (List.prefix_iff_eq_take.mp (List.takeWhile_prefix p)).symm

namespace Grammar

open Plan

variable {c : Cursor} {x : Char} {r : Rule} {n : Nat} {t : List Char} {tok : Token}

theorem contains_nameStart (x : Char) : nameStart.contains x = startsName x := by
  simp [nameStart, startsName, CharSet.insert, CharSet.contains, CharProperty.holds]

theorem contains_namePart : namePart.contains = inName := by
  funext x
  simp [namePart, inName, CharSet.insert, CharSet.contains, CharProperty.holds]

theorem contains_dottedPart : dottedPart.contains = inDecorator := by
  funext x
  have h (a b c d e : Bool) : (a || b || c || d || e) = (a || b || d || c || e) := by
    rw [Bool.or_right_comm (a || b)]
  simpa [dottedPart, inDecorator, inName, CharSet.insert, CharSet.contains, CharProperty.holds]
    using h _ _ _ _ _

theorem namePart_of_nameStart (hx : nameStart.contains x = true) : namePart.contains x = true := by
  rcases letter_of_nameStart hx with h | rfl | rfl
  · rw [contains_namePart, inName, h]
    rfl
  · decide
  · decide

/-! ## Names -/

/-- A name is read as far as it goes. -/
theorem matchAt?_identifier (hx : nameStart.contains x = true) (b : Option Char) (t : List Char) :
    identifier.matchAt? 0 b (x :: t) = some ⟨0, namePart.run (x :: t), []⟩ := by
  rw [matchAt?_eq_first rfl, List.replicate_zero, identifier, Plan.first, first_set_of_mem hx,
    first_loop_final, CharSet.run_of_mem (namePart_of_nameStart hx), Nat.add_comm]

/-- The words that are listed in rules, with the kinds and origins of these. -/
def wordEntries : List (List String × Kind × String) := [
  (Lexicon.operatorWords, .operatorWord, root),
  (Lexicon.keywords, .keyword, "keywords"),
  (Lexicon.typeNames, .keywordType, "keywords"),
  (Lexicon.constants, .keywordConstant, "keywords"),
  (Lexicon.builtinNames, .nameBuiltin, "builtins"),
  (Lexicon.operations, .keywordPseudo, "builtins")]

/-- The rules for names, in order. -/
theorem filter_identifier : rules.filter (fun r => r.pattern.plan = identifier) =
    wordEntries.map (fun e => wordRule e.1 e.2.1 e.2.2) ++ [nameRule] := by
  decide

/-- The rules are consulted as the lexicon is. -/
theorem classify?_eq (word : String) : Lexicon.classify? word =
    (wordEntries.find? fun e => e.1.contains word).map (·.2.1) := by
  have htables : Lexicon.tables = wordEntries.map fun e => (e.1, e.2.1) := rfl
  rw [Lexicon.classify?, htables, List.find?_map, Option.map_map]
  rfl

theorem filter_nameStart (hx : nameStart.contains x = true) :
    rules.filter (fun r => r.pattern.plan.starts x) =
      wordEntries.map (fun e => wordRule e.1 e.2.1 e.2.2) ++ [nameRule] := by
  rw [← filter_identifier]
  refine List.filter_congr fun r hr => Bool.eq_iff_iff.mpr ⟨fun h => ?_, fun h => ?_⟩
  · exact decide_eq_true (isName_of_starts hx hr h).plan
  · rw [of_decide_eq_true h, starts_identifier, hx]

/-- Of rules for words and then the one for names, all of which match the same, the first that lists
the word wins. -/
theorem make_winner?_words (hn : 0 < n) (hm : nameRule.pattern.matchAt? c = some ⟨0, n, []⟩)
    (entries : List (List String × Kind × String)) :
    Step.make c (winner? (entries.map (fun e => wordRule e.1 e.2.1 e.2.2) ++ [nameRule]) c) =
      .single c n (((entries.find? fun e => e.1.contains (c.take n)).map (·.2.1)).getD .name) := by
  induction entries with
  | nil =>
    have hwins : nameRule.wins? c = some n :=
      Rule.wins?_eq_some_iff.mpr ⟨⟨0, n, []⟩, hm, hn, rfl, rfl⟩
    rw [List.map_nil, List.nil_append, winner?_cons_of_some hwins]
    rfl
  | cons e entries ih =>
    have hword : (wordRule e.1 e.2.1 e.2.2).pattern.matchAt? c = some ⟨0, n, []⟩ := hm
    rw [List.map_cons, List.cons_append]
    cases hw : e.1.contains (c.take n) with
    | true =>
      have hwins : (wordRule e.1 e.2.1 e.2.2).wins? c = some n :=
        Rule.wins?_eq_some_iff.mpr ⟨⟨0, n, []⟩, hword, hn, hw, rfl⟩
      rw [winner?_cons_of_some hwins, List.find?_cons, hw]
      rfl
    | false =>
      have hwins : (wordRule e.1 e.2.1 e.2.2).wins? c = none := by
        refine Rule.wins?_eq_none_iff.mpr fun m hm' _ => ?_
        cases hword.symm.trans hm'
        exact hw
      rw [winner?_cons_of_none hwins, List.find?_cons, hw]
      exact ih

/-- The step where a name starts. -/
theorem stepAt_name (hc : c.rest = x :: t) (hx : nameStart.contains x = true) :
    stepAt rules c = .single c (namePart.run c.rest) (nameKind (c.take (namePart.run c.rest))) := by
  have hm : nameRule.pattern.matchAt? c = some ⟨0, namePart.run c.rest, []⟩ := by
    rw [hc]
    exact (congrArg (identifier.matchAt? 0 c.before) hc).trans (matchAt?_identifier hx c.before t)
  have hpos : 0 < namePart.run c.rest := by
    rw [hc, CharSet.run_of_mem (namePart_of_nameStart hx)]
    exact Nat.succ_pos _
  rw [stepAt, winner?_filter plain hc, filter_nameStart hx, make_winner?_words hpos hm, nameKind,
    classify?_eq]

theorem identifier_of_action : ∀ r ∈ rules, ∀ k ∈ nameKinds, r.action = .token k →
    r.pattern.plan = identifier := by decide

theorem name_of_mem (ht : tok ∈ (stepAt rules c).tokens) (hk : tok.kind ∈ nameKinds) :
    (stepAt rules c).tokens = [tok] ∧ ∃ x t, c.rest = x :: t ∧ nameStart.contains x = true := by
  have hother : Kind.text ∉ nameKinds ∧ Kind.stringDoc ∉ nameKinds := by decide
  obtain ⟨r, n, hwin, hmem, haction, htokens⟩ :=
    exists_winner_of_mem ht (fun e => hother.1 (e ▸ hk)) (fun e => hother.2 (e ▸ hk))
  obtain ⟨x, t, hc, hx⟩ := (plain r hmem).exists_starts (winner?_eq_some hwin).2
  rw [identifier_of_action r hmem _ hk haction, starts_identifier] at hx
  exact ⟨htokens, x, t, hc, hx⟩

/-! ## Decorators -/

/-- An at sign is read with what follows it, if that is something. -/
theorem matchAt?_decorator (b : Option Char) (t : List Char) : decorator.matchAt? 0 b ('@' :: t) =
    if dottedPart.run t = 0 then none else some ⟨0, dottedPart.run t + 1, []⟩ := by
  have hat : (CharSet.char '@').contains '@' = true := by simp
  rw [matchAt?_eq_first rfl, List.replicate_zero, decorator, Plan.first, first_set_of_mem hat]
  cases t with
  | nil => rfl
  | cons y t =>
    by_cases hy : dottedPart.contains y = true
    · have hne : dottedPart.run (y :: t) ≠ 0 := by
        rw [CharSet.run_of_mem hy]
        exact Nat.succ_ne_zero _
      have hstop : 0 + 1 + 1 + dottedPart.run t = dottedPart.run t + 1 + 1 := by omega
      rw [if_neg hne, run, Plan.first, first_set_of_mem hy, first_loop_final,
        CharSet.run_of_mem hy, hstop]
    · have hy := Bool.eq_false_iff.mpr hy
      rw [CharSet.run_of_not_mem hy, if_pos rfl]
      exact first_of_not_starts rfl rfl (by rw [run, starts_seq, starts_set, hy]; rfl)

theorem filter_at : ∃ text, rules.filter (fun r => r.pattern.plan.starts '@') =
    [tokenRule text decorator .nameDecorator "name"] := ⟨_, rfl⟩

/-- The step at an at sign with something after it. -/
theorem stepAt_decorator (hc : c.rest = '@' :: t) (ht : dottedPart.run t ≠ 0) :
    stepAt rules c = .single c (dottedPart.run t + 1) .nameDecorator := by
  obtain ⟨text, hfilter⟩ := filter_at
  have hm : decorator.matchAt? 0 c.before c.rest = some ⟨0, dottedPart.run t + 1, []⟩ := by
    rw [hc, matchAt?_decorator, if_neg ht]
  have hwin := winner?_filter plain hc
  rw [hfilter, winner?_cons_of_some (wins?_tokenRule hm (Nat.succ_pos _))] at hwin
  exact stepAt_eq_single hwin rfl

theorem decorator_of_action : ∀ r ∈ rules, r.action = .token .nameDecorator →
    r.pattern.plan = decorator ∧ r.pattern.groups = 0 := by decide

theorem decorator_of_mem (ht : tok ∈ (stepAt rules c).tokens) (hk : tok.kind = .nameDecorator) :
    (stepAt rules c).tokens = [tok] ∧ ∃ t, c.rest = '@' :: t ∧ dottedPart.run t ≠ 0 := by
  obtain ⟨r, n, hwin, hmem, haction, htokens⟩ :=
    exists_winner_of_mem ht (by rw [hk]; nofun) (by rw [hk]; nofun)
  rw [hk] at haction
  obtain ⟨hplan, hgroups⟩ := decorator_of_action r hmem haction
  obtain ⟨hr, hwins⟩ := winner?_eq_some hwin
  obtain ⟨x, t, hc, hx⟩ := (plain r hr).exists_starts hwins
  obtain rfl : x = '@' := by
    rw [hplan, decorator, starts_seq, starts_set, CharSet.contains_char] at hx
    simpa [Reads] using hx
  refine ⟨htokens, t, hc, fun hrun => ?_⟩
  obtain ⟨m, hm, -⟩ := Rule.wins?_eq_some_iff.mp hwins
  rw [Pattern.matchAt?, hplan, hgroups, hc, matchAt?_decorator, if_pos hrun] at hm
  cases hm

end Grammar

/-- Words are whole, and are what the lexicon says. Where a letter, a dollar sign or an underscore is
read, one token is made of the longest name there, and its kind is that of the lexicon, or that of
names. An at sign makes one token with the longest run of dotted names after it, if there is any.
There are no other words and decorators. -/
theorem Lexer.standard_words : ∃ l, Lexer.standard = .ok l ∧ ∀ source,
    (∀ s ∈ (l.stream source).states, ∀ x t, s.cursor.rest = x :: t → startsName x = true →
      let w := s.cursor.rest.takeWhile inName
      s.step = ⟨s.cursor, w.length, [⟨nameKind (.ofList w), .ofList w, s.cursor.offset⟩]⟩) ∧
    (∀ s ∈ (l.stream source).states, ∀ t, s.cursor.rest = '@' :: t →
      t.takeWhile inDecorator ≠ [] →
      let w := '@' :: t.takeWhile inDecorator
      s.step = ⟨s.cursor, w.length, [⟨.nameDecorator, .ofList w, s.cursor.offset⟩]⟩) ∧
    ∀ tok ∈ l.tokenize source,
      (tok.kind ∈ nameKinds → ∃ s ∈ (l.stream source).states, s.step.tokens = [tok] ∧
        ∃ x t, s.cursor.rest = x :: t ∧ startsName x = true) ∧
      (tok.kind = .nameDecorator → ∃ s ∈ (l.stream source).states, s.step.tokens = [tok] ∧
        ∃ t, s.cursor.rest = '@' :: t ∧ t.takeWhile inDecorator ≠ []) := by
  refine ⟨_, standard_eq, fun source => ⟨?_, ?_, ?_⟩⟩
  · intro s hs x t hc hx w
    rw [← Grammar.contains_nameStart] at hx
    have hrun : Grammar.namePart.run s.cursor.rest = w.length := by
      rw [CharSet.run, Grammar.contains_namePart]
    have htake : s.cursor.take w.length = String.ofList w :=
      congrArg String.ofList (take_length_takeWhile inName s.cursor.rest)
    rw [(step_of_mem_states hs).1, Grammar.stepAt_name hc hx, hrun, Step.single, htake]
  · intro s hs t hc ht w
    have hrun : Grammar.dottedPart.run t = (t.takeWhile inDecorator).length := by
      rw [CharSet.run, Grammar.contains_dottedPart]
    have hne : Grammar.dottedPart.run t ≠ 0 := by
      rw [hrun]
      exact fun h => ht (List.length_eq_zero_iff.mp h)
    have htake : s.cursor.take w.length = String.ofList w := by
      rw [Cursor.take, hc, List.length_cons, List.take_succ_cons, take_length_takeWhile]
    rw [(step_of_mem_states hs).1, Grammar.stepAt_decorator hc hne, hrun, Step.single]
    exact congrArg (fun text => Step.mk s.cursor w.length [⟨.nameDecorator, text, _⟩]) htake
  · intro tok ht
    obtain ⟨s, hs, ht⟩ := mem_tokenize_iff.mp ht
    have hstep := (step_of_mem_states hs).1
    rw [hstep] at ht
    refine ⟨fun hk => ?_, fun hk => ?_⟩
    · obtain ⟨htokens, x, t, hc, hx⟩ := Grammar.name_of_mem ht hk
      rw [Grammar.contains_nameStart] at hx
      exact ⟨s, hs, hstep ▸ htokens, x, t, hc, hx⟩
    · obtain ⟨htokens, t, hc, hrun⟩ := Grammar.decorator_of_mem ht hk
      refine ⟨s, hs, hstep ▸ htokens, t, hc, fun h => hrun ?_⟩
      rw [CharSet.run, Grammar.contains_dottedPart, h]
      rfl

/-- A word, a name that starts like one, and a decorator, at the start of a source and after it. -/
theorem Lexer.standard_words_prefixes : ∃ l, Lexer.standard = .ok l ∧
    (l.stream "implies(x)").step.tokens = [⟨.operatorWord, "implies", 0⟩] ∧
    (l.stream "impliesé2!").step.tokens = [⟨.name, "impliesé2", 0⟩] ∧
    (l.stream "@pre.x!").step.tokens = [⟨.nameDecorator, "@pre.x", 0⟩] ∧
    (∃ s ∈ (l.stream "x->size@pre").states, s.step.tokens = [⟨.keywordPseudo, "size", 3⟩]) ∧
    ∃ s ∈ (l.stream "x->size@pre").states, s.step.tokens = [⟨.nameDecorator, "@pre", 7⟩] := by
  obtain ⟨l, hl, h⟩ := standard_words
  refine ⟨l, hl, ?_⟩
  cases standard_eq.symm.trans hl
  refine ⟨?_, ?_, ?_, ?_, ?_⟩
  · exact congrArg Step.tokens ((h "implies(x)").1 _ (Stream.mem_states nofun) _ _ rfl (by decide))
  · exact congrArg Step.tokens ((h "impliesé2!").1 _ (Stream.mem_states nofun) _ _ rfl (by decide))
  · exact congrArg Step.tokens ((h "@pre.x!").2.1 _ (Stream.mem_states nofun) _ rfl (by decide))
  · obtain ⟨s, hs, htokens, -⟩ := ((h "x->size@pre").2.2 ⟨.keywordPseudo, "size", 3⟩
      (by decide +kernel)).1 (by decide)
    exact ⟨s, hs, htokens⟩
  · obtain ⟨s, hs, htokens, -⟩ := ((h "x->size@pre").2.2 ⟨.nameDecorator, "@pre", 7⟩
      (by decide +kernel)).2 rfl
    exact ⟨s, hs, htokens⟩

end OclScan
