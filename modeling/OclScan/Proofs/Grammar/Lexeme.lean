import OclScan.Proofs.Grammar.Comments
import OclScan.Proofs.Grammar.DocStringTokens
import OclScan.Proofs.Grammar.Numbers
import OclScan.Proofs.Grammar.Operators
import OclScan.Proofs.Grammar.Words

/-!
# Lexemes

What the parts of a source are, other than text in triple quotes (`Lexeme`): one case for each form
that a token can have, with what may follow it. Where no text in triple quotes stands, every step
reads a lexeme and makes one token of it (`Grammar.exists_lexeme`). These are all the steps that
there are (`Grammar.stepAt_cases`), so all other tokens are lexemes
(`Lexer.lexeme_of_mem_tokenize`).
-/

namespace OclScan

/-- Whether no lexeme but this character alone starts with the character. -/
def isOther (c : Char) : Bool :=
  !Text.isBlank c && !startsName c && !c.isDigit &&
    !(['#', '@', '\\'] ++ Grammar.quotes ++ Grammar.punctuationChars ++
      Grammar.operatorChars).contains c

/-- `w` is a lexeme of the kind `k` in front of `v`. -/
inductive Lexeme : Kind → List Char → List Char → Prop
  | newline {v} : Lexeme .whitespace ['\n'] v
  | gap {w v} : w ≠ [] → (∀ c ∈ w, inGap c = true) → (∀ c ∈ v.head?, inGap c = false) →
      Lexeme .text w v
  | hashComment {w v} : (∀ c ∈ w, c ≠ '\n') → (∀ c ∈ v.head?, c = '\n') →
      Lexeme .comment ('#' :: w) v
  | lineComment {w v} : (∀ c ∈ w, c ≠ '\n') →
      Lexeme .commentSingle ('/' :: '/' :: (w ++ ['\n'])) v
  /-- At the end of the source a comment needs no line feed. -/
  | lastComment {w} : (∀ c ∈ w, c ≠ '\n') → Lexeme .commentSingle ('/' :: '/' :: w) []
  | blockComment {t body v} : UpTo commentEnd t body v →
      Lexeme .commentMultiline ('/' :: '*' :: (body ++ commentEnd)) v
  | punctuation {c v} : c ∈ Grammar.punctuationChars → Lexeme .punctuation [c] v
  | lineJoin {v} : Lexeme .text ['\\', '\n'] v
  | backslash {v} : v.head? ≠ some '\n' → Lexeme .text ['\\'] v
  | name {c w v} : startsName c = true → (∀ d ∈ w, inName d = true) →
      (∀ d ∈ v.head?, inName d = false) → Lexeme (nameKind (.ofList (c :: w))) (c :: w) v
  | decorator {w v} : w ≠ [] → (∀ c ∈ w, inDecorator c = true) →
      (∀ c ∈ v.head?, inDecorator c = false) → Lexeme .nameDecorator ('@' :: w) v
  | operator {w v} : Longest (· ∈ operatorSpellings) w (w ++ v) →
      (∀ t, w ++ v = '/' :: t → ¬ OpensComment t) → Lexeme .operator w v
  | number {k w v} : w ∈ numerals k → Longest IsNumeral w (w ++ v) → Lexeme k w v
  | string {q u v} : q ∈ Grammar.quotes → inString? q (u ++ q :: v) = some u.length →
      Lexeme .string (q :: (u ++ [q])) v
  /-- A quote without another after it. -/
  | quote {q v} : q ∈ Grammar.quotes → q ∉ v → Lexeme .text [q] v
  /-- An at sign that starts no decorator. -/
  | atSign {v} : (∀ c ∈ v.head?, inDecorator c = false) → Lexeme .text ['@'] v
  | other {c v} : isOther c = true → Lexeme .text [c] v

/-- The step at the cursor reads a lexeme, and makes one token of it. -/
def Grammar.ReadsLexeme (c : Cursor) : Prop := ∃ k w v, c.rest = w ++ v ∧ Lexeme k w v ∧
  stepAt rules c = .single c w.length k

namespace Grammar

open Plan

variable {c : Cursor} {x q : Char} {t : List Char}

/-! ## Single characters -/

theorem wins?_set {s : CharSet} (hc : c.rest = x :: t) (hx : s.contains x = true) (text : String)
    (n : Nat) (k : Kind) (origin : String) :
    (tokenRule text (.set n s) k origin).wins? c = some 1 := by
  have hm : (Plan.set n s).matchAt? 0 c.before c.rest = some ⟨0, 1, []⟩ := by
    rw [hc, matchAt?_eq_first rfl, List.replicate_zero, first_set_of_mem hx]
    rfl
  exact wins?_tokenRule hm Nat.one_pos

theorem stepAt_newline (hc : c.rest = '\n' :: t) : stepAt rules c = .single c 1 .whitespace := by
  have hwins : newlineRule.wins? c = some 1 := wins?_set hc (by simp) _ _ _ _
  exact stepAt_eq_single (winner?_cons_of_some hwins) rfl

theorem filter_punctuation : ∀ x ∈ punctuationChars,
    rules.filter (fun r => r.pattern.plan.starts x) =
      [tokenRule "[\\[\\]\x7b\x7d:(),;]" punctuation .punctuation root] := by decide

theorem stepAt_punctuation (hc : c.rest = x :: t) (hx : x ∈ punctuationChars) :
    stepAt rules c = .single c 1 .punctuation := by
  have hset : (CharSet.ofChars punctuationChars).contains x = true := by
    rw [CharSet.contains_ofChars, List.contains_iff_mem]
    exact hx
  have hwin := winner?_filter plain hc
  rw [filter_punctuation x hx, punctuation,
    winner?_cons_of_some (wins?_set hc hset _ _ _ _)] at hwin
  exact stepAt_eq_single hwin rfl

theorem filter_backslash : ∃ text₁ text₂, rules.filter (fun r => r.pattern.plan.starts '\\') =
    [tokenRule text₁ lineJoin .text root, tokenRule text₂ backslash .text root] := ⟨_, _, rfl⟩

theorem stepAt_lineJoin (hc : c.rest = '\\' :: '\n' :: t) : stepAt rules c = .single c 2 .text := by
  obtain ⟨_, _, hfilter⟩ := filter_backslash
  have hm : lineJoin.matchAt? 0 c.before c.rest = some ⟨0, 2, []⟩ := by
    rw [hc, matchAt?_eq_first rfl, List.replicate_zero]
    exact (Spells.char 0 '\\').seq (Spells.char 1 '\n') _ _ _
  have hwin := winner?_filter plain hc
  rw [hfilter, winner?_cons_of_some (wins?_tokenRule hm Nat.two_pos)] at hwin
  exact stepAt_eq_single hwin rfl

theorem stepAt_backslash (hc : c.rest = '\\' :: t) (ht : t.head? ≠ some '\n') :
    stepAt rules c = .single c 1 .text := by
  obtain ⟨_, _, hfilter⟩ := filter_backslash
  have hm : lineJoin.matchAt? 0 c.before c.rest = none := by
    rw [hc, matchAt?_eq_first rfl, List.replicate_zero]
    refine ((Spells.char 0 '\\').seq (Spells.char 1 '\n') _ _ _).trans (if_neg ?_)
    rintro ⟨u, hu⟩
    cases hu
    exact ht rfl
  have hwin := winner?_filter plain hc
  rw [hfilter, winner?_cons_of_none (wins?_tokenRule_eq_none hm), backslash,
    winner?_cons_of_some (wins?_set hc (by simp) _ _ _ _)] at hwin
  exact stepAt_eq_single hwin rfl

/-- The step at an at sign with nothing after it that could be a decorator. -/
theorem stepAt_at (hc : c.rest = '@' :: t) (ht : dottedPart.run t = 0) :
    stepAt rules c = .single c 1 .text := by
  obtain ⟨text, hfilter⟩ := filter_at
  have hm : decorator.matchAt? 0 c.before c.rest = none := by
    rw [hc, matchAt?_decorator, if_pos ht]
  have hwin := winner?_filter plain hc
  rw [hfilter, winner?_cons_of_none (wins?_tokenRule_eq_none hm)] at hwin
  exact stepAt_of_winner?_eq_none hwin

/-- Where nothing else starts, no rule can start. -/
theorem starts_of_isOther (hx : isOther x = true) :
    ∀ r ∈ rules, r.pattern.plan.starts x = false := by
  have hother : ∀ y ∈ symbols, isOther y = false := by decide
  have hsymbols : ∀ y ∈ symbols, x ≠ y := fun y hy e => by
    rw [e, hother y hy] at hx
    cases hx
  simp only [isOther, Bool.and_eq_true, Bool.not_eq_true'] at hx
  obtain ⟨⟨⟨hblank, hname⟩, hdigit⟩, -⟩ := hx
  have hgap : gap.contains x = false := by
    rw [contains_gap, inGap, hblank]
    rfl
  rw [← contains_digits] at hdigit
  intro r hr
  rcases heads_of_mem r hr with hplan | hheads
  · rw [hplan.1, starts_identifier, contains_nameStart, hname]
  · rw [Plan.starts, List.any_eq_false]
    intro s hs
    rw [not_mem_otherHeads hgap hdigit hsymbols s (hheads s hs)]
    exact Bool.false_ne_true

theorem stepAt_other (hc : c.rest = x :: t) (hx : isOther x = true) :
    stepAt rules c = .single c 1 .text := by
  refine stepAt_of_winner?_eq_none (winner?_eq_none_iff.mpr fun r hr => ?_)
  exact (plain r hr).wins?_eq_none hc (starts_of_isOther hx r hr)

/-! ## Every step -/

theorem contains_inLine (x : Char) : inLine.contains x = !decide (x = '\n') :=
  not_quote_contains '\n' x

/-- A text is split where its first line ends. -/
theorem exists_line (t : List Char) : ∃ w v, t = w ++ v ∧ w.length = inLine.run t ∧
    (∀ c ∈ w, c ≠ '\n') ∧ ∀ c ∈ v.head?, c = '\n' := by
  have h := inLine.exists_run t
  simpa only [contains_inLine, Bool.not_eq_true', decide_eq_false_iff_not, Bool.not_eq_false',
    decide_eq_true_eq] using h

theorem readsLexeme_gap (hc : c.rest = x :: t) (hx : gap.contains x = true)
    (hd : (Lexer.mk rules).NoDoc c) : ReadsLexeme c := by
  obtain ⟨w, v, hrest, hlength, hw, hv⟩ := gap.exists_run c.rest
  have hne : w ≠ [] := by
    rw [← List.length_pos_iff, hlength, hc, CharSet.run_of_mem hx]
    exact Nat.succ_pos _
  have hstep := stepAt_eq_single (winner?_gap hc hx (noDoc_iff.mp hd)) rfl
  rw [← hlength] at hstep
  rw [contains_gap] at hw hv
  exact ⟨_, w, v, hrest, .gap hne hw hv, hstep⟩

theorem readsLexeme_hash (hc : c.rest = '#' :: t) : ReadsLexeme c := by
  obtain ⟨w, v, rfl, hlength, hw, hv⟩ := exists_line t
  have hstep := stepAt_hash hc
  rw [← hlength] at hstep
  exact ⟨_, '#' :: w, v, hc, .hashComment hw hv, hstep⟩

theorem readsLexeme_lineComment (hc : c.rest = '/' :: '/' :: t) : ReadsLexeme c := by
  obtain ⟨w, v, rfl, hlength, hw, hv⟩ := exists_line t
  have hstep := stepAt_lineComment hc
  rw [lineLength, ← hlength, List.drop_left] at hstep
  cases v with
  | nil =>
    refine ⟨_, '/' :: '/' :: w, [], ?_, .lastComment hw, ?_⟩
    · rw [hc, List.append_nil, List.append_nil]
    · rw [hstep, List.length_cons, List.length_cons, Nat.add_comm 2]
      rfl
  | cons y v =>
    obtain rfl : y = '\n' := hv y rfl
    refine ⟨_, '/' :: '/' :: (w ++ ['\n']), v, ?_, .lineComment hw, ?_⟩
    · rw [hc, List.cons_append, List.cons_append, List.append_assoc, List.singleton_append]
    · rw [hstep, CharSet.next_of_mem (by simp), Nat.add_comm 2]
      simp only [List.length_cons, List.length_append, List.length_nil]

theorem readsLexeme_blockComment {body after : List Char} (hc : c.rest = '/' :: '*' :: t)
    (hup : UpTo commentEnd t body after) : ReadsLexeme c := by
  refine ⟨_, '/' :: '*' :: (body ++ commentEnd), after, ?_, .blockComment hup, ?_⟩
  · rw [hc, hup.eq, List.cons_append, List.cons_append]
  · rw [stepAt_blockComment hc hup]
    simp only [List.length_cons, List.length_append, commentEnd, List.length_nil]

theorem readsLexeme_operator (hc : c.rest = x :: t) (hx : x ∈ operatorChars) : ReadsLexeme c := by
  by_cases hopen : x = '/' → ¬ OpensComment t
  · obtain ⟨w, hw, hno, hstep⟩ := exists_stepAt_operator hc hx hopen
    obtain ⟨v, hv⟩ := hw.start
    exact ⟨_, w, v, hv.symm, .operator (hv ▸ hw) (hv ▸ hno), hstep⟩
  · obtain ⟨rfl, hcomment⟩ := Classical.not_imp.mp hopen
    rcases Classical.not_not.mp hcomment with hline | ⟨hstar, hend⟩
    · obtain ⟨u, rfl⟩ := List.head?_eq_some_iff.mp hline
      exact readsLexeme_lineComment hc
    · obtain ⟨u, rfl⟩ := List.head?_eq_some_iff.mp hstar
      obtain ⟨body, after, hup⟩ := exists_upTo hend
      exact readsLexeme_blockComment hc hup

theorem readsLexeme_backslash (hc : c.rest = '\\' :: t) : ReadsLexeme c := by
  by_cases ht : t.head? = some '\n'
  · obtain ⟨u, rfl⟩ := List.head?_eq_some_iff.mp ht
    exact ⟨_, ['\\', '\n'], u, hc, .lineJoin, stepAt_lineJoin hc⟩
  · exact ⟨_, ['\\'], t, hc, .backslash ht, stepAt_backslash hc ht⟩

theorem readsLexeme_name (hc : c.rest = x :: t) (hx : startsName x = true) : ReadsLexeme c := by
  rw [← contains_nameStart] at hx
  obtain ⟨w, v, rfl, hlength, hw, hv⟩ := namePart.exists_run t
  have hstep := stepAt_name hc hx
  have hrun : namePart.run c.rest = (x :: w).length := by
    rw [hc, CharSet.run_of_mem (namePart_of_nameStart hx), ← hlength, List.length_cons]
  have htake : c.take (x :: w).length = .ofList (x :: w) := by
    rw [Cursor.take, hc, ← List.cons_append, List.take_left]
  rw [hrun, htake] at hstep
  rw [contains_namePart] at hw hv
  rw [contains_nameStart] at hx
  exact ⟨_, x :: w, v, hc, .name hx hw hv, hstep⟩

theorem readsLexeme_at (hc : c.rest = '@' :: t) : ReadsLexeme c := by
  obtain ⟨w, v, rfl, hlength, hw, hv⟩ := dottedPart.exists_run t
  by_cases hw₀ : w = []
  · subst hw₀
    rw [contains_dottedPart] at hv
    exact ⟨_, ['@'], v, hc, .atSign hv, stepAt_at hc hlength.symm⟩
  · have hstep := stepAt_decorator hc (by rwa [← hlength, Ne, List.length_eq_zero_iff])
    rw [← hlength] at hstep
    rw [contains_dottedPart] at hw hv
    exact ⟨_, '@' :: w, v, hc, .decorator hw₀ hw hv, hstep⟩

theorem readsLexeme_digit (hc : c.rest = x :: t) (hx : x.isDigit = true) : ReadsLexeme c := by
  obtain ⟨k, w, hk, hw, hstep⟩ := stepAt_digit hc hx
  obtain ⟨v, hv⟩ := hw.start
  exact ⟨k, w, v, hv.symm, .number hk (hv ▸ hw), hstep⟩

theorem readsLexeme_quote (hc : c.rest = q :: t) (hq : q ∈ quotes)
    (hd : (Lexer.mk rules).NoDoc c) : ReadsLexeme c := by
  have hstep := stepAt_quote hq hc hd
  cases hn : inString? q t with
  | none =>
    rw [hn] at hstep
    have hnot : q ∉ t := by
      rw [← last?_eq_none_iff]
      exact (Option.or_eq_none_iff.mp hn).2
    exact ⟨_, [q], t, hc, .quote hq hnot, hstep⟩
  | some n =>
    rw [hn] at hstep
    obtain ⟨u, v, rfl, rfl⟩ := inString?_eq_some hn
    refine ⟨_, q :: (u ++ [q]), v, ?_, .string hq hn, ?_⟩
    · rw [hc, List.cons_append, List.append_assoc, List.singleton_append]
    · rw [hstep, List.length_cons, List.length_append, List.length_singleton]

/-- Where no text in triple quotes stands, the step reads a lexeme. By the first character. -/
theorem exists_lexeme (hc : c.rest ≠ []) (hd : (Lexer.mk rules).NoDoc c) : ReadsLexeme c := by
  obtain ⟨x, t, hc⟩ := List.exists_cons_of_ne_nil hc
  by_cases hnewline : x = '\n'
  · subst hnewline
    exact ⟨_, ['\n'], t, hc, .newline, stepAt_newline hc⟩
  by_cases hgap : gap.contains x = true
  · exact readsLexeme_gap hc hgap hd
  by_cases hquote : x ∈ quotes
  · exact readsLexeme_quote hc hquote hd
  by_cases hhash : x = '#'
  · subst hhash
    exact readsLexeme_hash hc
  by_cases hpunctuation : x ∈ punctuationChars
  · exact ⟨_, [x], t, hc, .punctuation hpunctuation, stepAt_punctuation hc hpunctuation⟩
  by_cases hbackslash : x = '\\'
  · subst hbackslash
    exact readsLexeme_backslash hc
  by_cases hat : x = '@'
  · subst hat
    exact readsLexeme_at hc
  by_cases hdigit : x.isDigit = true
  · exact readsLexeme_digit hc hdigit
  by_cases hname : startsName x = true
  · exact readsLexeme_name hc hname
  by_cases hoperator : x ∈ operatorChars
  · exact readsLexeme_operator hc hoperator
  · have hblank : Text.isBlank x = false := by
      rw [contains_gap, inGap] at hgap
      simpa [hnewline] using hgap
    have hother : isOther x = true := by
      simp [isOther, hblank, hquote, hhash, hpunctuation, hbackslash, hat, hdigit, hname, hoperator]
    exact ⟨_, [x], t, hc, .other hother, stepAt_other hc hother⟩

/-- What a step does: it reads a text in triple quotes with the gap before it, or a lexeme. -/
theorem stepAt_cases (u : List Char) {v : List Char} (hv : v ≠ []) :
    (∃ w q t body after, DocAt u v w q t ∧ UpTo (triple q) t body after ∧
      stepAt rules (.between u v) = ⟨.between u v, (w ++ (triple q ++ body ++ triple q)).length,
        docTokens u w (triple q ++ body ++ triple q)⟩) ∨
    ∃ k w v', v = w ++ v' ∧ Lexeme k w v' ∧
      stepAt rules (.between u v) = .single (.between u v) w.length k := by
  by_cases hdoc : ∃ w q t, DocAt u v w q t
  · obtain ⟨w, q, t, hdoc⟩ := hdoc
    obtain ⟨body, after, hup⟩ := exists_upTo hdoc.closed
    exact .inl ⟨w, q, t, body, after, hdoc, hup, stepAt_doc hdoc hup⟩
  · have hnone : ∀ w q t, ¬ DocAt u v w q t := fun w q t h => hdoc ⟨w, q, t, h⟩
    exact .inr (exists_lexeme hv (noDoc_of_not_docAt hnone))

/-- A token that is not a text in triple quotes is a lexeme at the start of its step: the gap before
such a text is one too. -/
theorem lexeme_of_mem {u v : List Char} {tok : Token} (hv : v ≠ [])
    (ht : tok ∈ (stepAt rules (.between u v)).tokens) (hk : tok.kind ≠ .stringDoc) :
    ∃ w v', v = w ++ v' ∧ Lexeme tok.kind w v' ∧
      tok = ⟨tok.kind, .ofList w, (String.ofList u).utf8ByteSize⟩ := by
  rcases stepAt_cases u hv with
    ⟨w, q, t, body, after, hdoc, -, hstep⟩ | ⟨k, w, v', rfl, hlexeme, hstep⟩
  · rw [hstep, mem_docTokens] at ht
    rcases ht with ⟨hw, rfl⟩ | rfl
    · have hq := fun c (hc : c ∈ (triple q ++ t).head?) =>
        Option.mem_some.mp hc ▸ inGap_of_quote hdoc.quote
      exact ⟨w, triple q ++ t, by rw [hdoc.eq, List.append_assoc], .gap hw hdoc.gap hq, rfl⟩
    · exact absurd rfl hk
  · rw [hstep, Step.single, Cursor.take_between, List.mem_singleton] at ht
    subst ht
    exact ⟨w, v', rfl, hlexeme, rfl⟩

end Grammar

namespace Lexer

variable {source : String} {tok : Token}

/-- Every token of a source that is not a text in triple quotes is a lexeme, and starts where a step
does. -/
theorem lexeme_of_mem_tokenize (ht : tok ∈ (mk Grammar.rules).tokenize source)
    (hk : tok.kind ≠ .stringDoc) : ∃ s ∈ ((mk Grammar.rules).stream source).states, ∃ u w v,
      source.toList = u ++ w ++ v ∧ s.cursor = .between u (w ++ v) ∧ tok ∈ s.step.tokens ∧
        Lexeme tok.kind w v ∧ tok = ⟨tok.kind, .ofList w, (String.ofList u).utf8ByteSize⟩ := by
  obtain ⟨s, hs, ht⟩ := mem_tokenize_iff.mp ht
  obtain ⟨u, v, hsource, hplace⟩ := between_of_mem_states hs
  obtain ⟨hstep, hne⟩ := step_of_mem_states hs
  have hmem := ht
  rw [hstep, hplace] at ht
  rw [hplace, Cursor.rest_between] at hne
  obtain ⟨w, v', rfl, hlexeme, htok⟩ := Grammar.lexeme_of_mem hne ht hk
  exact ⟨s, hs, u, w, v', by rw [hsource, List.append_assoc], hplace, hmem, hlexeme, htok⟩

end Lexer

end OclScan
