import OclScan.Proofs.Grammar.StringTokens
import OclScan.Proofs.Stream.Places

/-!
# Text in triple quotes in a source

Text in triple quotes is read where it stands at the start of a line, with the gap before it
(`DocAt`, `Grammar.stepAt_doc`), and nowhere else (`Grammar.noDoc_of_not_docAt`): any other three
quotes are read as strings are. It ends with the first three quotes that follow (`UpTo`).
-/

namespace OclScan

/-- Whether the character is white space within a line. -/
def inGap (c : Char) : Bool := Text.isBlank c && c ≠ '\n'

/-- Three quotes. -/
def triple (q : Char) : List Char := [q, q, q]

/-- A text in triple quotes stands in a source, after the text `u` and before its end `v`: a line
starts, and after the gap `w` there are three quotes, and behind them `t`, where they stand
again. -/
structure DocAt (u v w : List Char) (q : Char) (t : List Char) : Prop where
  line : u = [] ∨ u.getLast? = some '\n'
  gap : ∀ c ∈ w, inGap c = true
  quote : q ∈ Grammar.quotes
  eq : v = w ++ triple q ++ t
  closed : triple q <:+: t

/-- The tokens of a text in triple quotes and of the gap `w` before it, which may be empty. -/
def docTokens (u w text : List Char) : List Token :=
  (if w = [] then [] else [⟨.text, .ofList w, (String.ofList u).utf8ByteSize⟩]) ++
    [⟨.stringDoc, .ofList text, (String.ofList (u ++ w)).utf8ByteSize⟩]

theorem mem_docTokens {u w text : List Char} {tok : Token} : tok ∈ docTokens u w text ↔
    (w ≠ [] ∧ tok = ⟨.text, .ofList w, (String.ofList u).utf8ByteSize⟩) ∨
      tok = ⟨.stringDoc, .ofList text, (String.ofList (u ++ w)).utf8ByteSize⟩ := by
  rw [docTokens, List.mem_append, List.mem_singleton]
  split
  · rename_i hw
    simp [hw]
  · rename_i hw
    simp [hw]

/-- A text in triple quotes, the gap before it and what follows are all of the text. -/
theorem DocAt.eq_append {u v w t body after : List Char} {q : Char} (h : DocAt u v w q t)
    (hup : UpTo (triple q) t body after) : v = w ++ (triple q ++ body ++ triple q) ++ after := by
  rw [h.eq, hup.eq]
  simp only [List.append_assoc]

namespace Grammar

variable {u v w t body after : List Char} {q : Char} {text : String} {n : Nat} {c : Cursor}
  {tok : Token}

theorem contains_gap : gap.contains = inGap := by
  funext c
  simp [gap, inGap, CharSet.contains, CharProperty.holds]

theorem startsLine_getLast? :
    startsLine u.getLast? = true ↔ u = [] ∨ u.getLast? = some '\n' := by
  simp [startsLine, Assertion.holds]

theorem exists_docRule (hq : q ∈ quotes) : ∃ text, docRule text q ∈ docRules := by
  simp only [quotes, List.mem_cons, List.not_mem_nil, or_false] at hq
  rcases hq with rfl | rfl
  · exact ⟨_, List.mem_cons_self⟩
  · exact ⟨_, List.mem_cons_of_mem _ List.mem_cons_self⟩

theorem inGap_of_quote (hq : q ∈ quotes) : inGap q = false := by
  rw [← contains_gap]
  exact quote_not_in_gap hq

/-- The gap ends at the quotes. -/
theorem run_gap (hw : ∀ c ∈ w, inGap c = true) (hq : q ∈ quotes) (t : List Char) :
    gap.run (w ++ q :: t) = w.length := by
  rw [CharSet.run_append (by rwa [contains_gap]), CharSet.run_of_not_mem (quote_not_in_gap hq),
    Nat.add_zero]

theorem docString?_of_docAt (h : DocAt u v w q t) (hup : UpTo (triple q) t body after) :
    docString? q v = some (w.length, (w ++ (triple q ++ body ++ triple q)).length) := by
  have hrun : gap.run v = w.length := by
    rw [h.eq, List.append_assoc]
    exact run_gap h.gap h.quote _
  have hthree : triple q <+: v.drop w.length := by
    rw [h.eq, List.append_assoc, List.drop_left]
    exact List.prefix_append _ _
  have hrest : v.drop (w.length + 3) = t := by
    rw [h.eq, show w.length + 3 = (w ++ triple q).length by simp [triple], List.drop_left]
  have hlength : (w ++ (triple q ++ body ++ triple q)).length = w.length + 3 + body.length + 3 := by
    simp only [List.length_append, triple, List.length_cons, List.length_nil]
    omega
  have hdoc : docString? q v = if triple q <+: v.drop (gap.run v) then
      (findWord? (triple q) (v.drop (gap.run v + 3))).map fun j =>
        (gap.run v, gap.run v + 3 + j + 3) else none := rfl
  rw [hdoc, hrun, if_pos hthree, hrest, hup.findWord?_eq, Option.map_some, hlength]

/-- The step where a text in triple quotes stands. -/
theorem stepAt_doc (h : DocAt u v w q t) (hup : UpTo (triple q) t body after) :
    stepAt rules (.between u v) =
      ⟨.between u v, (w ++ (triple q ++ body ++ triple q)).length,
        docTokens u w (triple q ++ body ++ triple q)⟩ := by
  obtain ⟨text, hr⟩ := exists_docRule h.quote
  have hgap := quote_not_in_gap h.quote
  have hline : startsLine (Cursor.between u v).before = true := startsLine_getLast?.mpr h.line
  have hdoc := docString?_of_docAt h hup
  have hv : v = w ++ (triple q ++ body ++ triple q ++ after) := by
    rw [h.eq_append hup, List.append_assoc]
  have hwin := winner?_doc hr ((wins?_docRule hgap).mpr ⟨hline, _, hdoc⟩)
  rw [stepAt, hwin, Step.make, tokens_docRule hgap hline hdoc]
  congr 1
  rw [hv, docTokens, gapTokens, docToken, Cursor.take_between, Cursor.advance_between,
    List.length_append, Nat.add_sub_cancel_left, Cursor.take_between]
  cases w <;> rfl

theorem docAt_of_wins? (hq : q ∈ quotes) (h : (docRule text q).wins? (.between u v) = some n) :
    ∃ w t, DocAt u v w q t := by
  obtain ⟨hline, hdoc, -, -⟩ := docString?_of_wins? (quote_not_in_gap hq) h
  rw [Cursor.rest_between, docString?] at hdoc
  split at hdoc
  · rename_i hthree
    obtain ⟨j, hj, -⟩ := Option.map_eq_some_iff.mp hdoc
    obtain ⟨t, ht⟩ := hthree
    have hrest : v.drop (gap.run v + 3) = t := by
      rw [← List.drop_drop, ← ht]
      rfl
    refine ⟨v.take (gap.run v), t, startsLine_getLast?.mp hline, fun c hc => ?_, hq, ?_, ?_⟩
    · rw [← contains_gap]
      exact CharSet.contains_of_mem_run hc
    · rw [List.append_assoc, triple, ht, List.take_append_drop]
    · rw [← findWord?_isSome_iff, ← hrest, triple, hj]
      rfl
  · cases hdoc

theorem noDoc_of_not_docAt (h : ∀ w q t, ¬ DocAt u v w q t) :
    (Lexer.mk rules).NoDoc (.between u v) := by
  rw [noDoc_iff]
  intro r hr
  obtain ⟨text, q, hq, rfl⟩ := exists_of_mem_docRules hr
  cases hw : (docRule text q).wins? (.between u v) with
  | none => rfl
  | some n =>
    obtain ⟨w, t, hdoc⟩ := docAt_of_wins? hq hw
    exact absurd hdoc (h w q t)

theorem stringDoc_of_action : ∀ r ∈ rules, r.action ≠ .token .stringDoc := by decide

/-- A token of a text in triple quotes is made where a rule for it wins. -/
theorem wins?_of_stringDoc (ht : tok ∈ (stepAt rules c).tokens) (hk : tok.kind = .stringDoc) :
    ∃ r ∈ docRules, r.wins? c ≠ none := by
  cases madeAt_of_mem ht with
  | single _ => cases hk
  | gap _ _ _ => cases hk
  | whole h _ haction =>
    subst hk
    exact absurd haction (stringDoc_of_action _ (winner?_eq_some h).1)
  | doc h hr => exact ⟨_, hr, by rw [(winner?_eq_some h).2]; nofun⟩

theorem docAt_of_stringDoc (ht : tok ∈ (stepAt rules (.between u v)).tokens)
    (hk : tok.kind = .stringDoc) : ∃ w q t, DocAt u v w q t := by
  obtain ⟨r, hr, hwins⟩ := wins?_of_stringDoc ht hk
  obtain ⟨text, q, hq, rfl⟩ := exists_of_mem_docRules hr
  obtain ⟨n, hn⟩ := Option.ne_none_iff_exists'.mp hwins
  obtain ⟨w, t, hdoc⟩ := docAt_of_wins? hq hn
  exact ⟨w, q, t, hdoc⟩

end Grammar

/-- A token of text in triple quotes is such a text, up to the first three quotes that follow. -/
theorem Lexer.doc_of_mem_tokenize {source : String} {tok : Token}
    (ht : tok ∈ (mk Grammar.rules).tokenize source) (hk : tok.kind = .stringDoc) :
    ∃ s ∈ ((mk Grammar.rules).stream source).states, ∃ u v w q t body after,
      source.toList = u ++ v ∧ s.cursor = .between u v ∧ DocAt u v w q t ∧
        UpTo (triple q) t body after ∧
        tok = ⟨.stringDoc, .ofList (triple q ++ body ++ triple q),
          (String.ofList (u ++ w)).utf8ByteSize⟩ := by
  obtain ⟨s, hs, ht⟩ := mem_tokenize_iff.mp ht
  obtain ⟨u, v, hsource, hplace⟩ := between_of_mem_states hs
  rw [(step_of_mem_states hs).1, hplace] at ht
  obtain ⟨w, q, t, hdoc⟩ := Grammar.docAt_of_stringDoc ht hk
  obtain ⟨body, after, hup⟩ := exists_upTo hdoc.closed
  rw [Grammar.stepAt_doc hdoc hup, mem_docTokens] at ht
  rcases ht with ⟨-, rfl⟩ | htok
  · cases hk
  · exact ⟨s, hs, u, v, w, q, t, body, after, hsource, hplace, hdoc, hup, htok⟩

/-- Text in triple quotes is recognised exactly. Where it stands at the start of a line, one token
is made of the gap before it, if there is any, and one of the text up to the end of the first three
quotes that follow, and scanning goes on there. Where it does not stand, there is no such token, and
a quote is read as that of a string. So each of these tokens comes from where such a text stands. -/
theorem Lexer.standard_docs : ∃ l, Lexer.standard = .ok l ∧ ∀ source,
    (∀ s ∈ (l.stream source).states, ∃ u v, source.toList = u ++ v ∧ s.cursor = .between u v ∧
      (∀ w q t, DocAt u v w q t → ∃ body after, UpTo (triple q) t body after ∧
        let text := triple q ++ body ++ triple q
        s.step = ⟨s.cursor, (w ++ text).length, docTokens u w text⟩ ∧
          s.advance.cursor = .between (u ++ (w ++ text)) after) ∧
      ((∀ w q t, ¬ DocAt u v w q t) →
        (∀ tok ∈ s.step.tokens, tok.kind ≠ .stringDoc) ∧
          ∀ q ∈ Grammar.quotes, ∀ t, v = q :: t → s.step = match inString? q t with
            | some n => .single s.cursor (n + 2) .string
            | none => .single s.cursor 1 .text)) ∧
    ∀ tok ∈ l.tokenize source, tok.kind = .stringDoc →
      ∃ s ∈ (l.stream source).states, ∃ u v w q t body after,
        source.toList = u ++ v ∧ s.cursor = .between u v ∧ DocAt u v w q t ∧
          UpTo (triple q) t body after ∧
          tok = ⟨.stringDoc, .ofList (triple q ++ body ++ triple q),
            (String.ofList (u ++ w)).utf8ByteSize⟩ := by
  refine ⟨_, standard_eq, fun source => ⟨fun s hs => ?_, fun tok ht hk => ?_⟩⟩
  · obtain ⟨u, v, hsource, hplace⟩ := between_of_mem_states hs
    have hstep := (step_of_mem_states hs).1
    rw [hplace] at hstep
    refine ⟨u, v, hsource, hplace, fun w q t h => ?_, fun h => ⟨fun tok ht hk => ?_, ?_⟩⟩
    · obtain ⟨body, after, hup⟩ := exists_upTo h.closed
      have hdoc := hstep.trans (Grammar.stepAt_doc h hup)
      refine ⟨body, after, hup, by rw [hdoc, hplace], ?_⟩
      rw [show s.advance.cursor = s.step.stop from rfl, hdoc, Step.stop, h.eq_append hup,
        Cursor.advance_between]
    · rw [hstep] at ht
      obtain ⟨w, q, t, hdoc⟩ := Grammar.docAt_of_stringDoc ht hk
      exact h w q t hdoc
    · intro q hq t hv
      rw [hstep, hplace]
      exact Grammar.stepAt_quote hq hv (Grammar.noDoc_of_not_docAt h)
  · exact doc_of_mem_tokenize ht hk

/-- Seven quotes after a gap, of which the first six are a text; three quotes that are not closed,
of which the first two are a string; and a text on a second line. -/
theorem Lexer.standard_docs_quotes : ∃ l, Lexer.standard = .ok l ∧
    (l.stream "  '''''''").step =
      ⟨.start "  '''''''".toList, 8, [⟨.text, "  ", 0⟩, ⟨.stringDoc, "''''''", 2⟩]⟩ ∧
    (l.stream "'''a").step = .single (.start "'''a".toList) 2 .string ∧
    ∃ u v w q t, "x\n'''a'''".toList = u ++ v ∧ DocAt u v w q t ∧
      (String.ofList (u ++ w)).utf8ByteSize = 2 := by
  obtain ⟨l, hl, h⟩ := standard_docs
  refine ⟨l, hl, ?_⟩
  cases standard_eq.symm.trans hl
  refine ⟨?_, ?_, ?_⟩
  · obtain ⟨u, v, hsource, hplace, hdoc, -⟩ := (h "  '''''''").1 _ (Stream.mem_states nofun)
    obtain rfl : "  '''''''".toList = v := congrArg Cursor.rest hplace
    obtain rfl : u = [] := by simpa using hsource
    obtain ⟨body, after, hup, hstep, -⟩ := hdoc [' ', ' '] '\'' ['\'', '\'', '\'', '\'']
      ⟨.inl rfl, by decide, by decide, rfl, ⟨[], ['\''], rfl⟩⟩
    obtain rfl : body = [] := List.length_eq_zero_iff.mp (Option.some.inj hup.findWord?_eq.symm)
    exact hstep
  · obtain ⟨u, v, hsource, hplace, -, hnone⟩ := (h "'''a").1 _ (Stream.mem_states nofun)
    obtain rfl : "'''a".toList = v := congrArg Cursor.rest hplace
    refine (hnone fun w q t hdoc => ?_).2 '\'' (by decide) _ rfl
    obtain ⟨body, after, hup⟩ := exists_upTo hdoc.closed
    have hno : ∀ q ∈ Grammar.quotes, docString? q "'''a".toList = none := by decide
    cases (Grammar.docString?_of_docAt hdoc hup).symm.trans (hno q hdoc.quote)
  · obtain ⟨s, hs, u, v, w, q, t, body, after, hsource, -, hdoc, -, htok⟩ :=
      (h "x\n'''a'''").2 ⟨.stringDoc, "'''a'''", 2⟩ (by decide +kernel) rfl
    exact ⟨u, v, w, q, t, hsource, hdoc, (congrArg Token.start htok).symm⟩

end OclScan
