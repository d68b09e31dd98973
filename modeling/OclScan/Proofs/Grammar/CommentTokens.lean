import OclScan.Proofs.Grammar.Lexeme

/-!
# Comments in a source

How far each comment goes, in terms of the text it is in, and that comments come from nowhere else:
a comment starts where a step does (`Lexeme.opens_comment`), and so not within another token.
-/

namespace OclScan

/-- The kinds of comments. -/
def commentKinds : List Kind := [.comment, .commentSingle, .commentMultiline]

/-- A comment of the kind starts with the text. -/
def StartsComment : Kind → List Char → Prop
  | .comment, t => ∃ u, t = '#' :: u
  | .commentSingle, t => ∃ u, t = '/' :: '/' :: u
  | .commentMultiline, t => ∃ u, t = '/' :: '*' :: u ∧ commentEnd <:+: u
  | _, _ => False

theorem Lexeme.opens_comment {k : Kind} {w v : List Char} (h : Lexeme k w v)
    (hk : k ∈ commentKinds) : StartsComment k (w ++ v) := by
  cases h with
  | hashComment _ _ => exact ⟨_, rfl⟩
  | lineComment _ => exact ⟨_, rfl⟩
  | lastComment _ => exact ⟨_, rfl⟩
  | @blockComment t body v hup =>
    refine ⟨t, ?_, body, v, hup.eq.symm⟩
    rw [List.cons_append, List.cons_append, ← hup.eq]
  | name _ _ _ =>
    have hname : ∀ k ∈ nameKinds, k ∉ commentKinds := by decide
    exact absurd hk (hname _ (nameKind_mem _))
  | number h _ =>
    have hnumber : ∀ k ∈ numberKinds, k ∉ commentKinds := by decide
    exact absurd hk (hnumber _ (Grammar.mem_numberKinds h))
  | _ => exact absurd hk (by decide)

namespace Grammar

variable {body after t : List Char}

theorem run_inLine_append (h : '\n' ∉ body) (after : List Char) :
    inLine.run (body ++ '\n' :: after) = body.length := by
  have hbody : ∀ c ∈ body, inLine.contains c = true := fun c hc => by
    rw [contains_inLine, decide_eq_false (ne_of_mem_of_not_mem hc h), Bool.not_false]
  rw [CharSet.run_append hbody, CharSet.run_of_not_mem (by simp [contains_inLine]), Nat.add_zero]

theorem run_inLine (h : '\n' ∉ t) : inLine.run t = t.length :=
  CharSet.run_eq_length fun c hc => by
    rw [contains_inLine, decide_eq_false (ne_of_mem_of_not_mem hc h), Bool.not_false]

theorem lineLength_append (h : '\n' ∉ body) (after : List Char) :
    lineLength (body ++ '\n' :: after) = body.length + 1 := by
  rw [lineLength, run_inLine_append h, List.drop_left, CharSet.next_of_mem (by simp)]

theorem lineLength_eq (h : '\n' ∉ t) : lineLength t = t.length := by
  rw [lineLength, run_inLine h, List.drop_length]
  rfl

/-- The step at a slash that starts no comment. -/
theorem stepAt_slash {c : Cursor} (hc : c.rest = '/' :: t) (h : ¬ OpensComment t) :
    stepAt rules c = .single c 1 .operator := by
  have hone : ∀ w ∈ operatorSpellings, w.head? = some '/' → w.length ≤ 1 := by decide
  have hslash : Longest (· ∈ operatorSpellings) ['/'] c.rest := by
    refine ⟨by decide, ⟨t, hc.symm⟩, fun w hw hstart => ?_⟩
    cases w with
    | nil => exact Nat.zero_le 1
    | cons y w =>
      rw [hc] at hstart
      exact hone _ hw (congrArg some (List.cons_prefix_cons.mp hstart).1)
  refine stepAt_operator hslash fun u hu => ?_
  rw [hc] at hu
  cases hu
  exact h

end Grammar

/-- Comments are recognised exactly. A hash sign starts a comment up to the next line feed, or to
the end of the source; two slashes one that takes the line feed with it; a slash and a star one up
to the first star and slash that follow, if there are any; and any other slash is an operator. Each
comment starts like this where a step starts, and no comment starts within another token. -/
theorem Lexer.standard_comments : ∃ l, Lexer.standard = .ok l ∧ ∀ source,
    (∀ s ∈ (l.stream source).states, ∀ t,
      (s.cursor.rest = '#' :: t →
        (∀ body after, t = body ++ '\n' :: after → '\n' ∉ body →
          s.step = .single s.cursor (body.length + 1) .comment) ∧
        ('\n' ∉ t → s.step = .single s.cursor (t.length + 1) .comment)) ∧
      (s.cursor.rest = '/' :: '/' :: t →
        (∀ body after, t = body ++ '\n' :: after → '\n' ∉ body →
          s.step = .single s.cursor (body.length + 3) .commentSingle) ∧
        ('\n' ∉ t → s.step = .single s.cursor (t.length + 2) .commentSingle)) ∧
      (s.cursor.rest = '/' :: '*' :: t → commentEnd <:+: t →
        ∃ body after, UpTo commentEnd t body after ∧
          s.step = .single s.cursor (body.length + 4) .commentMultiline) ∧
      (s.cursor.rest = '/' :: t → ¬ OpensComment t →
        s.step = .single s.cursor 1 .operator)) ∧
    ∀ tok ∈ l.tokenize source, tok.kind ∈ commentKinds →
      (∃ s ∈ (l.stream source).states, tok ∈ s.step.tokens ∧ tok.start = s.cursor.offset ∧
        StartsComment tok.kind s.cursor.rest) ∧
      ∀ other ∈ l.tokenize source, ¬ (other.start < tok.start ∧ tok.start < other.stop) := by
  refine ⟨_, standard_eq, fun source => ⟨fun s hs t => ?_, fun tok ht hk => ⟨?_, ?_⟩⟩⟩
  · rw [(step_of_mem_states hs).1]
    refine ⟨fun hc => ⟨?_, fun hline => ?_⟩, fun hc => ⟨?_, fun hline => ?_⟩, fun hc hend => ?_,
      Grammar.stepAt_slash⟩
    · rintro body after rfl hbody
      rw [Grammar.stepAt_hash hc, Grammar.run_inLine_append hbody]
    · rw [Grammar.stepAt_hash hc, Grammar.run_inLine hline]
    · rintro body after rfl hbody
      rw [Grammar.stepAt_lineComment hc, Grammar.lineLength_append hbody, Nat.add_comm 2]
    · rw [Grammar.stepAt_lineComment hc, Grammar.lineLength_eq hline, Nat.add_comm 2]
    · obtain ⟨body, after, hup⟩ := exists_upTo hend
      exact ⟨body, after, hup, Grammar.stepAt_blockComment hc hup⟩
  · have hdoc : Kind.stringDoc ∉ commentKinds := by decide
    obtain ⟨s, hs, u, w, v, -, hplace, hmem, hlexeme, htok⟩ :=
      lexeme_of_mem_tokenize ht fun e => hdoc (e ▸ hk)
    refine ⟨s, hs, hmem, by rw [htok, hplace, Cursor.offset_between], ?_⟩
    rw [hplace]
    exact hlexeme.opens_comment hk
  · exact fun other hother => (covers_tokenize source).not_within ht hother

/-- A comment up to the end of a line, one with its line feed, one at the end of the source, one
that a star and a slash after its first slash do not end, and a slash and a star that start none;
and a comment after a string with a hash sign. -/
theorem Lexer.standard_comments_slashes : ∃ l, Lexer.standard = .ok l ∧
    (l.stream "#a\nb").step = .single (.start "#a\nb".toList) 2 .comment ∧
    (l.stream "// a\nb").step = .single (.start "// a\nb".toList) 5 .commentSingle ∧
    (l.stream "//").step = .single (.start "//".toList) 2 .commentSingle ∧
    (l.stream "/*/ */ */").step = .single (.start "/*/ */ */".toList) 6 .commentMultiline ∧
    (l.stream "/*/").step = .single (.start "/*/".toList) 1 .operator ∧
    (∃ s ∈ (l.stream "'#'//").states, 3 = s.cursor.offset ∧
      StartsComment .commentSingle s.cursor.rest) ∧
    ∀ other ∈ l.tokenize "'#'//", ¬ (other.start < 3 ∧ 3 < other.stop) := by
  obtain ⟨l, hl, h⟩ := standard_comments
  refine ⟨l, hl, ?_⟩
  cases standard_eq.symm.trans hl
  refine ⟨?_, ?_, ?_, ?_, ?_, ?_⟩
  · have hhash := (h "#a\nb").1 _ (Stream.mem_states nofun) ['a', '\n', 'b']
    exact (hhash.1 rfl).1 ['a'] ['b'] rfl (by decide)
  · have hline := (h "// a\nb").1 _ (Stream.mem_states nofun) [' ', 'a', '\n', 'b']
    exact (hline.2.1 rfl).1 [' ', 'a'] ['b'] rfl (by decide)
  · have hlast := (h "//").1 _ (Stream.mem_states nofun) []
    exact (hlast.2.1 rfl).2 (by decide)
  · have hblock := (h "/*/ */ */").1 _ (Stream.mem_states nofun) "/ */ */".toList
    obtain ⟨body, after, hup, hstep⟩ := hblock.2.2.1 rfl ⟨['/', ' '], " */".toList, rfl⟩
    have hlength : body.length = 2 := Option.some.inj hup.findWord?_eq.symm
    rwa [hlength] at hstep
  · refine ((h "/*/").1 _ (Stream.mem_states nofun) ['*', '/']).2.2.2 rfl ?_
    rw [OpensComment, ← findWord?_isSome_iff]
    decide
  · have hcomment := (h "'#'//").2 ⟨.commentSingle, "//", 3⟩ (by decide +kernel) (by decide)
    obtain ⟨⟨s, hs, -, hstart, hrest⟩, hwithin⟩ := hcomment
    exact ⟨⟨s, hs, hstart, hrest⟩, hwithin⟩

end OclScan
