import OclScan.Proofs.Grammar.Emission

/-!
# Strings in a source

Where a quote is read and no text in triple quotes stands, it starts a string that is closed, or that
goes on to the last such quote of the source, or it stands alone (`Grammar.stepAt_string`). All
strings come from there (`Grammar.string_of_mem`).
-/

namespace OclScan

/-- No rule of the lexer for text in triple quotes matches at the cursor. -/
def Lexer.NoDoc (l : Lexer) (c : Cursor) : Prop :=
  ∀ r ∈ l.rules, r.action = .byGroups [.text, .stringDoc] → r.pattern.matchAt? c = none

instance (l : Lexer) (c : Cursor) : Decidable (l.NoDoc c) :=
  inferInstanceAs (Decidable (∀ r ∈ l.rules, _ → _))

namespace Grammar

open Plan

variable {c : Cursor} {q x : Char} {r : Rule} {n : Nat} {t u v : List Char} {tok : Token}

theorem mem_docRules_iff : ∀ r ∈ rules, r ∈ docRules ↔ r.action = .byGroups [.text, .stringDoc] := by
  decide

/-- A rule for text in triple quotes matches where it wins. -/
theorem matchAt?_docRule_eq_none_iff (hr : r ∈ docRules) :
    r.pattern.matchAt? c = none ↔ r.wins? c = none := by
  obtain ⟨text, q, hq, rfl⟩ := exists_of_mem_docRules hr
  constructor
  · intro h
    rw [Rule.wins?, h]
  · intro h
    cases hm : (docRule text q).pattern.matchAt? c with
    | none => rfl
    | some m =>
      have hstop := Rule.stop_of_wins?_eq_none rfl h hm
      rw [matchAt?_docRule (quote_not_in_gap hq)] at hm
      split at hm
      · obtain ⟨⟨w, n⟩, hdoc, rfl⟩ := Option.map_eq_some_iff.mp hm
        have hle := (docString?_eq_some hdoc).2.1
        simp only [docMatch] at hstop
        omega
      · cases hm

theorem noDoc_iff : (Lexer.mk rules).NoDoc c ↔ ∀ r ∈ docRules, r.wins? c = none := by
  constructor
  · intro h r hr
    have hmem : r ∈ rules := mem_rules.mpr (.inr (.inl hr))
    exact (matchAt?_docRule_eq_none_iff hr).mp (h r hmem ((mem_docRules_iff r hmem).mp hr))
  · intro h r hmem haction
    have hr := (mem_docRules_iff r hmem).mpr haction
    exact (matchAt?_docRule_eq_none_iff hr).mpr (h r hr)

/-- The step at a quote. -/
theorem stepAt_quote (hq : q ∈ quotes) (hc : c.rest = q :: t) (hd : (Lexer.mk rules).NoDoc c) :
    stepAt rules c = match inString? q t with
      | some n => .single c (n + 2) .string
      | none => .single c 1 .text := by
  obtain ⟨r, haction, hwin⟩ := winner?_string hq hc (noDoc_iff.mp hd)
  cases h : inString? q t with
  | some n =>
    rw [h] at hwin
    exact stepAt_eq_single hwin haction
  | none =>
    rw [h] at hwin
    exact stepAt_of_winner?_eq_none hwin

theorem string_of_action :
    ∀ r ∈ rules, r.action = .token .string → r.pattern.plan ∈ quotes.map string := by decide

theorem starts_string (q x : Char) : (string q).starts x = decide (x = q) := by
  rw [string, starts_seq, starts_set, CharSet.contains_char]
  simp [Reads]

theorem string_of_mem (ht : tok ∈ (stepAt rules c).tokens) (hk : tok.kind = .string) :
    (stepAt rules c).tokens = [tok] ∧ ∃ q ∈ quotes, ∃ t, c.rest = q :: t ∧
      (Lexer.mk rules).NoDoc c ∧ q ∈ t := by
  obtain ⟨r, n, hwin, hmem, haction, htokens⟩ :=
    exists_winner_of_mem ht (by rw [hk]; nofun) (by rw [hk]; nofun)
  rw [hk] at haction
  obtain ⟨q, hq, hplan⟩ := List.mem_map.mp (string_of_action r hmem haction)
  obtain ⟨x, t, hc, hx⟩ := (plain r hmem).exists_starts (winner?_eq_some hwin).2
  obtain rfl : x = q := by simpa [← hplan, starts_string] using hx
  have hother : ∀ a ∈ newlineRule :: docRules, a.action ≠ .token .string := by decide
  have hd : (Lexer.mk rules).NoDoc c :=
    noDoc_iff.mpr (wins?_docRules_of_winner? hwin fun h => hother r h haction)
  refine ⟨htokens, x, hq, t, hc, hd, Decidable.byContradiction fun hnot => ?_⟩
  -- The quote would be plain text.
  have hstep := stepAt_quote hq hc hd
  rw [inString?_eq_none hnot] at hstep
  rw [hstep] at ht
  rw [List.mem_singleton.mp ht] at hk
  cases hk

end Grammar

/-- Strings have an exact extent. A quote where no text in triple quotes stands starts a string up to
the quote that closes it; where none does, up to the last such quote of the source; and where there
is no other, it is plain text. There are no other strings. -/
theorem Lexer.standard_strings : ∃ l, Lexer.standard = .ok l ∧ ∀ source,
    (∀ s ∈ (l.stream source).states, ∀ q ∈ Grammar.quotes, ∀ t,
      s.cursor.rest = q :: t → l.NoDoc s.cursor →
        (∀ n, closing? q t = some n → s.step = .single s.cursor (n + 2) .string) ∧
        (closing? q t = none → ∀ u v, t = u ++ q :: v → q ∉ v →
          s.step = .single s.cursor (u.length + 2) .string) ∧
        (q ∉ t → s.step = .single s.cursor 1 .text)) ∧
    ∀ tok ∈ l.tokenize source, tok.kind = .string →
      ∃ s ∈ (l.stream source).states, s.step.tokens = [tok] ∧ ∃ q ∈ Grammar.quotes, ∃ t,
        s.cursor.rest = q :: t ∧ l.NoDoc s.cursor ∧ q ∈ t := by
  refine ⟨_, standard_eq, fun source => ⟨fun s hs q hq t hc hd => ?_, fun tok ht hk => ?_⟩⟩
  · rw [(step_of_mem_states hs).1, Grammar.stepAt_quote hq hc hd]
    refine ⟨fun n hn => ?_, fun hn u v ht hv => ?_, fun hnot => ?_⟩
    · rw [inString?, hn]
      rfl
    · rw [inString?, hn, ht, last?_append hv]
      rfl
    · rw [inString?_eq_none hnot]
  · obtain ⟨s, hs, ht⟩ := mem_tokenize_iff.mp ht
    rw [(step_of_mem_states hs).1] at ht
    have hstring := Grammar.string_of_mem ht hk
    rw [← (step_of_mem_states hs).1] at hstring
    exact ⟨s, hs, hstring⟩

/-- An escape before the quote that closes a string, an escape that has to be read as two characters,
and a quote alone. -/
theorem Lexer.standard_strings_escapes : ∃ l, Lexer.standard = .ok l ∧
    (l.stream "'\\'' x").step = .single (.start "'\\'' x".toList) 4 .string ∧
    (l.stream "\"\\\" x").step = .single (.start "\"\\\" x".toList) 3 .string ∧
    (l.stream "'x\"").step = .single (.start "'x\"".toList) 1 .text ∧
    ∃ s ∈ (l.stream "x'\\'").states, s.step.tokens = [⟨.string, "'\\'", 1⟩] := by
  obtain ⟨l, hl, h⟩ := standard_strings
  refine ⟨l, hl, ?_⟩
  cases standard_eq.symm.trans hl
  refine ⟨?_, ?_, ?_, ?_⟩
  · have hclosed := (h "'\\'' x").1 _ (Stream.mem_states nofun) '\'' (by decide) _ rfl
      (by decide +kernel)
    exact hclosed.1 2 rfl
  · have hlast := (h "\"\\\" x").1 _ (Stream.mem_states nofun) '"' (by decide) _ rfl
      (by decide +kernel)
    exact hlast.2.1 rfl ['\\'] [' ', 'x'] rfl (by decide)
  · have halone := (h "'x\"").1 _ (Stream.mem_states nofun) '\'' (by decide) _ rfl
      (by decide +kernel)
    exact halone.2.2 (by decide)
  · obtain ⟨s, hs, htokens, -⟩ := (h "x'\\'").2 ⟨.string, "'\\'", 1⟩ (by decide +kernel) rfl
    exact ⟨s, hs, htokens⟩

end OclScan
