import OclScan.Proofs.Grammar.Lexeme

/-!
# Numbers and operators in a source

At a digit the longest number is read, and at the first character of an operator the longest
operator, unless a comment starts there. Numbers and operators come from nowhere else
(`Lexeme.longest_numeral`, `Lexeme.longest_operator`).
-/

namespace OclScan

variable {k : Kind} {w v : List Char}

theorem Lexeme.longest_numeral (h : Lexeme k w v) (hk : k ∈ numberKinds) :
    w ∈ numerals k ∧ Longest IsNumeral w (w ++ v) := by
  cases h with
  | number hnumber hlongest => exact ⟨hnumber, hlongest⟩
  | name _ _ _ =>
    have hname : ∀ k ∈ nameKinds, k ∉ numberKinds := by decide
    exact absurd hk (hname _ (nameKind_mem _))
  | _ => exact absurd hk (by decide)

theorem Lexeme.longest_operator (h : Lexeme k w v) (hk : k = .operator) :
    Longest (· ∈ operatorSpellings) w (w ++ v) ∧ ∀ t, w ++ v = '/' :: t → ¬ OpensComment t := by
  cases h with
  | operator hlongest hopen => exact ⟨hlongest, hopen⟩
  | name _ _ _ => exact absurd (hk ▸ nameKind_mem _) (by decide : .operator ∉ nameKinds)
  | number h _ =>
    exact absurd (hk ▸ Grammar.mem_numberKinds h) (by decide : .operator ∉ numberKinds)
  | _ => cases hk

/-- No character after an operator of one character makes it one of two. -/
theorem Longest.operator_alone {x y : Char} {t : List Char}
    (h : Longest (· ∈ operatorSpellings) [x] (x :: y :: t)) : (x, y) ∉ Grammar.operatorPairs := by
  intro hpair
  have hword : [x, y] ∈ operatorSpellings :=
    Grammar.mem_operatorSpellings.mpr (.inl ⟨(x, y), hpair, rfl⟩)
  exact absurd (h.longest [x, y] hword ⟨t, rfl⟩) (by simp)

theorem Step.single_kind {c : Cursor} {n : Nat} {k k' : Kind} (h : single c n k = single c n k') :
    k = k' := by
  simpa [single] using h

/-- Numbers and operators are as long as they can be. At a digit the longest number is read, as one
of its kind, and at the first character of an operator that starts no comment the longest operator.
Each number and each operator is read so; the character after an operator of one character does not
make it one of two. -/
theorem Lexer.standard_munch : ∃ l, Lexer.standard = .ok l ∧ ∀ source,
    (∀ s ∈ (l.stream source).states, ∀ x t, s.cursor.rest = x :: t →
      (x.isDigit = true → ∃ w, Longest IsNumeral w (x :: t) ∧
        ∀ k, w ∈ numerals k ↔ s.step = .single s.cursor w.length k) ∧
      (x ∈ Grammar.operatorChars → (x = '/' → ¬ OpensComment t) →
        ∃ w, Longest (· ∈ operatorSpellings) w (x :: t) ∧
          s.step = .single s.cursor w.length .operator)) ∧
    ∀ tok ∈ l.tokenize source,
      (tok.kind ∈ numberKinds → ∃ s ∈ (l.stream source).states, ∃ u w v,
        source.toList = u ++ w ++ v ∧ s.cursor = .between u (w ++ v) ∧
          tok = ⟨tok.kind, .ofList w, (String.ofList u).utf8ByteSize⟩ ∧
          w ∈ numerals tok.kind ∧ Longest IsNumeral w (w ++ v)) ∧
      (tok.kind = .operator → ∃ s ∈ (l.stream source).states, ∃ u w v,
        source.toList = u ++ w ++ v ∧ s.cursor = .between u (w ++ v) ∧
          tok = ⟨.operator, .ofList w, (String.ofList u).utf8ByteSize⟩ ∧
          Longest (· ∈ operatorSpellings) w (w ++ v) ∧
          (∀ t, w ++ v = '/' :: t → ¬ OpensComment t) ∧
          ∀ x y t, w = [x] → v = y :: t → (x, y) ∉ Grammar.operatorPairs) := by
  refine ⟨_, standard_eq, fun source => ⟨fun s hs x t hc => ?_, fun tok ht => ?_⟩⟩
  · have hstep := (step_of_mem_states hs).1
    refine ⟨fun hx => ?_, fun hx hopen => ?_⟩
    · obtain ⟨k, w, hk, hw, hsingle⟩ := Grammar.stepAt_digit hc hx
      refine ⟨w, hc ▸ hw, fun k' => ?_⟩
      rw [hstep, hsingle]
      constructor
      · intro hk'
        rw [Grammar.numeral_kind_unique hk hk']
      · intro h
        rw [← Step.single_kind h]
        exact hk
    · obtain ⟨w, hw, -, hsingle⟩ := Grammar.exists_stepAt_operator hc hx hopen
      exact ⟨w, hc ▸ hw, hstep.trans hsingle⟩
  · refine ⟨fun hk => ?_, fun hk => ?_⟩
    · have hdoc : Kind.stringDoc ∉ numberKinds := by decide
      obtain ⟨s, hs, u, w, v, hsource, hplace, -, hlexeme, htok⟩ :=
        lexeme_of_mem_tokenize ht fun e => hdoc (e ▸ hk)
      exact ⟨s, hs, u, w, v, hsource, hplace, htok, hlexeme.longest_numeral hk⟩
    · obtain ⟨s, hs, u, w, v, hsource, hplace, -, hlexeme, htok⟩ :=
        lexeme_of_mem_tokenize ht (by rw [hk]; nofun)
      obtain ⟨hlongest, hopen⟩ := hlexeme.longest_operator hk
      rw [hk] at htok
      refine ⟨s, hs, u, w, v, hsource, hplace, htok, hlongest, hopen, ?_⟩
      rintro x y t rfl rfl
      exact hlongest.operator_alone

/-- Two points after a digit, a pair of characters before a third, a number with all its parts after
an operator, and an operator between names. -/
theorem Lexer.standard_munch_parts : ∃ l, Lexer.standard = .ok l ∧
    (∃ w, Longest IsNumeral w "1..5".toList ∧
      ∀ k, w ∈ numerals k ↔ (l.stream "1..5").step = .single (.start "1..5".toList) w.length k) ∧
    (∃ w, Longest (· ∈ operatorSpellings) w "<>=".toList ∧
      (l.stream "<>=").step = .single (.start "<>=".toList) w.length .operator) ∧
    "1.5e+3f".toList ∈ numerals .numberFloat ∧
    ∃ s ∈ (l.stream "a<b").states, ∃ u w v, "a<b".toList = u ++ w ++ v ∧
      s.cursor = .between u (w ++ v) ∧ Longest (· ∈ operatorSpellings) w (w ++ v) := by
  obtain ⟨l, hl, h⟩ := standard_munch
  refine ⟨l, hl, ?_⟩
  cases standard_eq.symm.trans hl
  refine ⟨?_, ?_, ?_, ?_⟩
  · exact ((h "1..5").1 _ (Stream.mem_states nofun) _ _ rfl).1 (by decide)
  · exact ((h "<>=").1 _ (Stream.mem_states nofun) _ _ rfl).2 (by decide) nofun
  · obtain ⟨s, hs, u, w, v, -, -, htok, hnumber, -⟩ :=
      ((h "=1.5e+3f").2 ⟨.numberFloat, "1.5e+3f", 1⟩ (by decide +kernel)).1 (by decide)
    have hw : w = "1.5e+3f".toList := by
      rw [← String.toList_ofList (l := w)]
      exact congrArg (fun tok => tok.text.toList) htok.symm
    exact hw ▸ hnumber
  · obtain ⟨s, hs, u, w, v, hsource, hplace, -, hlongest, -⟩ :=
      ((h "a<b").2 ⟨.operator, "<", 1⟩ (by decide +kernel)).2 rfl
    exact ⟨s, hs, u, w, v, hsource, hplace, hlongest⟩

end OclScan
