import OclScan.Proofs.Grammar.Gaps

/-!
# Plain text in a source

The forms that a token of plain text can have (`TextForm`), of which each has exactly one
(`TextForm.unique`): a gap from end to end, a backslash with or without the line feed after it, or a
character with which nothing else starts. A quote that is plain text is the last of its kind
(`Lexer.quote_last`).
-/

namespace OclScan

/-- A form of plain text. -/
inductive TextForm
  | gap
  | lineJoin
  | backslash
  | quote
  | atSign
  | other
  deriving DecidableEq

/-- The text `w`, which stands between `u` and `v`, has the form. -/
def TextForm.Holds (u w v : List Char) : TextForm → Prop
  | gap => w ≠ [] ∧ (∀ c ∈ w, inGap c = true) ∧ (∀ c ∈ u.getLast?, inGap c = false) ∧
      ∀ c ∈ v.head?, inGap c = false
  | lineJoin => w = ['\\', '\n']
  | backslash => w = ['\\'] ∧ v.head? ≠ some '\n'
  | quote => ∃ q ∈ Grammar.quotes, w = [q] ∧ q ∉ v
  | atSign => w = ['@'] ∧ ∀ c ∈ v.head?, inDecorator c = false
  | other => ∃ c, isOther c = true ∧ w = [c]

/-- The form that a text can have. -/
def TextForm.of (w : List Char) : TextForm :=
  if w = ['\\', '\n'] then .lineJoin
  else if w = ['\\'] then .backslash
  else if w = ['@'] then .atSign
  else if w ∈ Grammar.quotes.map ([·]) then .quote
  else if w.all inGap then .gap
  else .other

variable {u w v : List Char} {k : Kind} {f f' : TextForm}

theorem TextForm.of_eq (h : f.Holds u w v) : of w = f := by
  cases f with
  | gap =>
    obtain ⟨-, hw, -, -⟩ := h
    have hnot (c : Char) (hc : inGap c = false) : c ∉ w := fun hmem => by
      rw [hw c hmem] at hc
      cases hc
    have hquote : w ∉ Grammar.quotes.map ([·]) := fun hmem => by
      obtain ⟨q, hq, rfl⟩ := List.mem_map.mp hmem
      exact hnot q (Grammar.inGap_of_quote hq) List.mem_cons_self
    have hhead (c : Char) (t : List Char) (hc : inGap c = false) : w ≠ c :: t := fun e =>
      hnot c hc (e ▸ List.mem_cons_self)
    rw [of, if_neg (hhead '\\' _ (by decide)), if_neg (hhead '\\' _ (by decide)),
      if_neg (hhead '@' _ (by decide)), if_neg hquote, if_pos (List.all_eq_true.mpr hw)]
  | lineJoin =>
    obtain rfl : w = _ := h
    rfl
  | backslash =>
    obtain ⟨rfl, -⟩ := h
    rfl
  | quote =>
    obtain ⟨q, hq, rfl, -⟩ := h
    have hquotes : ∀ q ∈ Grammar.quotes, of [q] = .quote := by decide
    exact hquotes q hq
  | atSign =>
    obtain ⟨rfl, -⟩ := h
    rfl
  | other =>
    obtain ⟨c, hc, rfl⟩ := h
    have hnot (d : Char) (hd : isOther d = false) : [c] ≠ [d] := fun e => by
      rw [← List.singleton_inj.mp e, hc] at hd
      cases hd
    have hquote : [c] ∉ Grammar.quotes.map ([·]) := fun hmem => by
      obtain ⟨q, hq, e⟩ := List.mem_map.mp hmem
      have hquotes : ∀ q ∈ Grammar.quotes, isOther q = false := by decide
      exact hnot q (hquotes q hq) e.symm
    have hgap : [c].all inGap = false := by
      simp [inGap_of_isBlank (isBlank_of_isOther hc)]
    rw [of, if_neg (by simp), if_neg (hnot '\\' (by decide)), if_neg (hnot '@' (by decide)),
      if_neg hquote, if_neg (by rw [hgap]; exact Bool.false_ne_true)]

/-- A text has one form. -/
theorem TextForm.unique (h : f.Holds u w v) (h' : f'.Holds u w v) : f = f' :=
  (of_eq h).symm.trans (of_eq h')

/-- A lexeme that is plain text has a form, if no gap goes on from the text before. -/
theorem Lexeme.textForm (h : Lexeme k w v) (hk : k = .text)
    (hu : (Cursor.between u (w ++ v)).OutsideGap) : ∃ f : TextForm, f.Holds u w v := by
  cases h with
  | gap hne hw hv =>
    refine ⟨.gap, hne, hw, fun x hx => ?_, hv⟩
    obtain ⟨y, t, rfl⟩ := List.exists_cons_of_ne_nil hne
    have hy := hw y List.mem_cons_self
    rw [← Bool.not_eq_true]
    intro hgap
    rw [hu x hx hgap y rfl] at hy
    cases hy
  | lineJoin => exact ⟨.lineJoin, rfl⟩
  | backslash hv => exact ⟨.backslash, rfl, hv⟩
  | @quote q _ hq hv => exact ⟨.quote, q, hq, rfl, hv⟩
  | atSign hv => exact ⟨.atSign, rfl, hv⟩
  | @other c _ hc => exact ⟨.other, c, hc, rfl⟩
  | name _ _ _ => exact absurd (hk ▸ nameKind_mem _) (by decide : .text ∉ nameKinds)
  | number h _ => exact absurd (hk ▸ Grammar.mem_numberKinds h) (by decide : .text ∉ numberKinds)
  | _ => cases hk

theorem Lexeme.newline_of_whitespace (h : Lexeme k w v) (hk : k = .whitespace) : w = ['\n'] := by
  cases h with
  | newline => rfl
  | name _ _ _ => exact absurd (hk ▸ nameKind_mem _) (by decide : .whitespace ∉ nameKinds)
  | number h _ =>
    exact absurd (hk ▸ Grammar.mem_numberKinds h) (by decide : .whitespace ∉ numberKinds)
  | _ => cases hk

/-- Of two parts of a text that both start it, the one of fewer bytes starts the other. -/
theorem prefix_of_size_le {a b t : List Char} (ha : a <+: t) (hb : b <+: t)
    (h : (String.ofList a).utf8ByteSize ≤ (String.ofList b).utf8ByteSize) : a <+: b := by
  rcases List.prefix_or_prefix_of_prefix ha hb with hab | ⟨r, rfl⟩
  · exact hab
  · have hr : r = [] := by
      refine Decidable.byContradiction fun hne => ?_
      have hpos := utf8ByteSize_ofList_pos hne
      rw [utf8ByteSize_ofList_append] at h
      omega
    rw [hr, List.append_nil]

/-- A list in which no two members are in order has one member at most. -/
theorem length_le_one_of_pairwise {α : Type} {R : α → α → Prop} {l : List α} (h : l.Pairwise R)
    (hnot : ∀ a ∈ l, ∀ b ∈ l, ¬ R a b) : l.length ≤ 1 := by
  match l with
  | [] => exact Nat.zero_le 1
  | [_] => exact Nat.le_refl 1
  | a :: b :: _ =>
    have hab := (List.pairwise_cons.mp h).1 b List.mem_cons_self
    exact absurd hab (hnot a List.mem_cons_self b (List.mem_cons_of_mem a List.mem_cons_self))

namespace Lexer

variable {source : String} {tok tok' : Token}

/-- A token of plain text stands in the source in one of the forms. -/
theorem exists_textForm (ht : tok ∈ (mk Grammar.rules).tokenize source) (hk : tok.kind = .text) :
    ∃ u w v, source.toList = u ++ w ++ v ∧
      tok = ⟨.text, .ofList w, (String.ofList u).utf8ByteSize⟩ ∧
      ∃ f : TextForm, f.Holds u w v := by
  obtain ⟨s, hs, u, w, v, hsource, hplace, -, hlexeme, htok⟩ :=
    lexeme_of_mem_tokenize ht (by rw [hk]; nofun)
  have hgap := outsideGap_of_mem_states hs
  rw [hplace] at hgap
  rw [hk] at htok
  exact ⟨u, w, v, hsource, htok, hlexeme.textForm hk hgap⟩

/-- No such quote follows one that is plain text. -/
theorem quote_last {q : Char} (hq : q ∈ Grammar.quotes)
    (ht : tok ∈ (mk Grammar.rules).tokenize source) (hk : tok.kind = .text)
    (htext : tok.text = String.singleton q) :
    ∃ u v, source.toList = u ++ [q] ++ v ∧ tok.start = (String.ofList u).utf8ByteSize ∧ q ∉ v := by
  obtain ⟨u, w, v, hsource, htok, f, hf⟩ := exists_textForm ht hk
  subst htok
  obtain rfl : w = [q] := by
    have hw := congrArg String.toList htext
    rwa [String.toList_ofList, String.toList_singleton] at hw
  have hquotes : ∀ q ∈ Grammar.quotes, TextForm.of [q] = .quote := by decide
  obtain rfl : f = .quote := (TextForm.of_eq hf).symm.trans (hquotes q hq)
  obtain ⟨q', -, e, hv⟩ := hf
  obtain rfl := List.singleton_inj.mp e
  exact ⟨u, v, hsource, rfl, hv⟩

/-- Of two tokens in order only one can be such a quote. -/
theorem quote_not_again {q : Char} (hq : q ∈ Grammar.quotes)
    (ht : tok ∈ (mk Grammar.rules).tokenize source) (hk : tok.kind = .text)
    (htext : tok.text = String.singleton q)
    (ht' : tok' ∈ (mk Grammar.rules).tokenize source) (hk' : tok'.kind = .text)
    (htext' : tok'.text = String.singleton q) : ¬ tok.stop ≤ tok'.start := by
  intro hle
  obtain ⟨u, v, hsource, hstart, hv⟩ := quote_last hq ht hk htext
  obtain ⟨u', v', hsource', hstart', -⟩ := quote_last hq ht' hk' htext'
  have hsize : (String.ofList (u ++ [q])).utf8ByteSize ≤ (String.ofList u').utf8ByteSize := by
    rw [Token.stop, hstart, htext, hstart'] at hle
    rw [utf8ByteSize_ofList_append, ← String.singleton_eq_ofList]
    exact hle
  obtain ⟨r, rfl⟩ := prefix_of_size_le ⟨v, hsource.symm⟩
    ⟨[q] ++ v', by rw [hsource', List.append_assoc]⟩ hsize
  -- The second quote stands behind the first.
  have hsplit : v = r ++ [q] ++ v' := by
    refine (List.append_right_inj (u ++ [q])).mp ?_
    rw [← hsource, hsource']
    simp only [List.append_assoc]
  rw [hsplit] at hv
  exact hv (by simp)

/-- A line feed is white space. -/
theorem whitespace_of_newline (ht : tok ∈ (mk Grammar.rules).tokenize source)
    (htext : tok.text = "\n") : tok.kind = .whitespace := by
  have hlist {w : List Char} (h : tok.text = .ofList w) : w = ['\n'] := by
    have hw := congrArg String.toList (h.symm.trans htext)
    rwa [String.toList_ofList] at hw
  by_cases hk : tok.kind = .stringDoc
  · obtain ⟨_, _, _, _, _, q, _, body, _, _, _, _, _, htok⟩ := doc_of_mem_tokenize ht hk
    have hlength := congrArg List.length (hlist (congrArg Token.text htok))
    simp only [triple, List.length_append, List.length_cons, List.length_nil] at hlength
    omega
  · obtain ⟨s, hs, u, w, v, -, hplace, hmem, -, htok⟩ := lexeme_of_mem_tokenize ht hk
    have hw := hlist (congrArg Token.text htok)
    have hc : s.cursor.rest = '\n' :: v := by
      rw [hplace, hw]
      rfl
    rw [(step_of_mem_states hs).1, Grammar.stepAt_newline hc] at hmem
    rw [List.mem_singleton.mp hmem]

end Lexer

/-- Plain text hides nothing that is recognised. Each token of plain text is a gap from end to end,
a backslash with or without the line feed after it, a quote with no other after it in the source, an
at sign that starts no decorator, or a character with which nothing else starts, and only one of
these. So each of the quotes is plain text at most once. White space is exactly the single line
feeds. -/
theorem Lexer.standard_texts : ∃ l, Lexer.standard = .ok l ∧ ∀ source,
    (∀ tok ∈ l.tokenize source, tok.kind = .text → ∃ u w v, source.toList = u ++ w ++ v ∧
      tok = ⟨.text, .ofList w, (String.ofList u).utf8ByteSize⟩ ∧
      ∃! f : TextForm, f.Holds u w v) ∧
    (∀ q ∈ Grammar.quotes, ((l.tokenize source).filter fun tok =>
      tok.kind = .text ∧ tok.text = String.singleton q).length ≤ 1) ∧
    ∀ tok ∈ l.tokenize source, tok.kind = .whitespace ↔ tok.text = "\n" := by
  refine ⟨_, standard_eq, fun source => ⟨fun tok ht hk => ?_, fun q hq => ?_, fun tok ht => ?_⟩⟩
  · obtain ⟨u, w, v, hsource, htok, f, hf⟩ := exists_textForm ht hk
    exact ⟨u, w, v, hsource, htok, f, hf, fun f' hf' => TextForm.unique hf' hf⟩
  · refine length_le_one_of_pairwise ((covers_tokenize source).pairwise.filter _) ?_
    intro a ha b hb
    simp only [List.mem_filter, decide_eq_true_eq] at ha hb
    exact quote_not_again hq ha.1 ha.2.1 ha.2.2 hb.1 hb.2.1 hb.2.2
  · constructor
    · intro hk
      obtain ⟨s, hs, u, w, v, -, -, -, hlexeme, htok⟩ :=
        lexeme_of_mem_tokenize ht (by rw [hk]; nofun)
      rw [htok, hlexeme.newline_of_whitespace hk]
    · exact whitespace_of_newline ht

/-- A backslash with the line feed after it, a quote with no other after it, and a line feed. -/
theorem Lexer.standard_texts_forms : ∃ l, Lexer.standard = .ok l ∧
    (∃ u w v, "x \\\n".toList = u ++ w ++ v ∧
      (⟨.text, "\\\n", 2⟩ : Token) = ⟨.text, .ofList w, (String.ofList u).utf8ByteSize⟩ ∧
      ∃! f : TextForm, f.Holds u w v) ∧
    ((l.tokenize "'x'y'").filter fun tok => tok.kind = .text ∧ tok.text = "'").length ≤ 1 ∧
    ∃ tok ∈ l.tokenize "x\n", tok.start = 1 ∧ (tok.kind = .whitespace ↔ tok.text = "\n") := by
  obtain ⟨l, hl, h⟩ := standard_texts
  refine ⟨l, hl, ?_⟩
  cases standard_eq.symm.trans hl
  refine ⟨?_, (h "'x'y'").2.1 '\'' (by decide), ?_⟩
  · exact (h "x \\\n").1 ⟨.text, "\\\n", 2⟩ (by decide +kernel) rfl
  · have hmem : (⟨.whitespace, "\n", 1⟩ : Token) ∈ Lexer.tokenize ⟨Grammar.rules⟩ "x\n" := by
      decide +kernel
    exact ⟨_, hmem, rfl, (h "x\n").2.2 _ hmem⟩

end OclScan
