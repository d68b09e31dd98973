import OclScan.Proofs.Grammar.Winner
import OclScan.Proofs.Scan.Cut

/-!
# Cutting a source at a token boundary

Where a step stops before the cut, the same rule wins in the text that is cut
(`Grammar.winner?_cut`): no rule matches beyond the step there. A boundary lies before a step, after
it, or between the gap and the text in triple quotes that one step reads; the gap is then read by
itself (`Grammar.KeptAt.gap`). So the text up to a boundary has the tokens that end there or before
(`Lexer.standard_cut`).
-/

namespace OclScan

namespace Grammar

variable {c : Cursor} {r : Rule} {t : Token} {k n e : Nat}

/-- A step before the cut has the same winner. -/
theorem winner?_cut (hn : (stepAt rules c).length ≤ n) :
    winner? rules (c.cut n) = winner? rules c := by
  have hcut : ∀ a ∈ rules, c.CutAt a.pattern.plan.conditions n (c.cut n) := fun a ha =>
    (byLine a ha).cutAt c n
  rw [stepAt] at hn
  cases hw : winner? rules c with
  | none =>
    refine winner?_eq_none_iff.mpr fun a ha => ?_
    refine Rule.wins?_cutAt_eq_none (plain a ha).steady (hcut a ha)
      (winner?_eq_none_iff.mp hw a ha) fun m hm => ?_
    rw [stop_eq_zero hw ha hm]
    exact Nat.zero_le n
  | some w =>
    obtain ⟨r, k⟩ := w
    rw [hw] at hn
    obtain ⟨rs, ss, h, hwin, hnone⟩ := winner?_eq_some_iff.mp hw
    have hmem : ∀ a ∈ rs, a ∈ rules := fun a ha => h ▸ List.mem_append_left _ ha
    have hr : r ∈ rules := h ▸ List.mem_append_right _ List.mem_cons_self
    refine winner?_eq_some_iff.mpr ⟨rs, ss, h, ?_, fun a ha => ?_⟩
    · exact Rule.wins?_cutAt (plain r hr).steady (hcut r hr) hwin hn
    · exact Rule.wins?_cutAt_eq_none (plain a (hmem a ha)).steady (hcut a (hmem a ha))
        (hnone a ha) fun m hm => Nat.le_trans (stop_le hw (hmem a ha) (hnone a ha) hm) hn

/-- The text up to the place `n` characters on has the tokens that stop there or before. -/
def KeptAt (c : Cursor) (n : Nat) : Prop :=
  scan rules (c.cut n) = (scan rules c).filter fun t => t.stop ≤ (c.advance n).offset

theorem KeptAt.zero (c : Cursor) : KeptAt c 0 := by
  have hcov := covers_scan covering c
  rw [KeptAt, scan_of_rest_nil rules (List.take_zero (l := c.rest)), eq_comm,
    List.filter_eq_nil_iff]
  intro t ht
  have := hcov.le_start ht
  have := hcov.start_lt_stop ht
  rw [Cursor.advance_zero, decide_eq_true_eq]
  omega

/-- What is kept at a place after a step is kept with the tokens of the step. -/
theorem KeptAt.step (hc : c.rest ≠ []) (h : KeptAt (stepAt rules c).stop n) :
    KeptAt c ((stepAt rules c).length + n) := by
  have hle := Nat.le_add_right (stepAt rules c).length n
  have hplace : c.advance ((stepAt rules c).length + n) = (stepAt rules c).stop.advance n := by
    rw [stepAt_stop, Cursor.advance_add]
  have hstep : ∀ t ∈ (stepAt rules c).tokens,
      decide (t.stop ≤ ((stepAt rules c).stop.advance n).offset) = true := by
    intro t ht
    have hstop := (covers_stepAt covering hc).stop_le ht
    have hoffset := c.offset_advance (stepAt rules c).length
    have hon := ((stepAt rules c).stop).offset_advance n
    rw [Cursor.take, ← stepAt_stop] at hoffset
    rw [decide_eq_true_eq]
    omega
  rw [KeptAt, scan_cut byLine hc (winner?_cut hle) hle, Nat.add_sub_cancel_left, h, hplace,
    scan_cons rules hc, List.filter_append, List.filter_eq_self.mpr hstep]

/-- A gap alone is one token. -/
theorem scan_gap (hpos : 0 < gap.run c.rest) :
    scan rules (c.cut (gap.run c.rest)) = gapTokens c (gap.run c.rest) := by
  have hlen : (c.cut (gap.run c.rest)).rest.length = gap.run c.rest := by
    have := gap.run_le c.rest
    rw [Cursor.rest_cut, List.length_take]
    omega
  have hrun : gap.run (c.cut (gap.run c.rest)).rest = gap.run c.rest :=
    (run_take_run gap c.rest _ (Nat.le_refl _)).trans hlen
  have hnone : ∀ a ∈ docRules, a.wins? (c.cut (gap.run c.rest)) = none :=
    wins?_docRules_eq_none fun _ => by omega
  obtain ⟨x, u, hx⟩ := List.exists_cons_of_length_pos (Nat.lt_of_lt_of_eq hpos hlen.symm)
  have hgap : gap.contains x = true := by
    rw [← Bool.not_eq_false]
    intro hgap
    rw [hx, CharSet.run_of_not_mem hgap] at hrun
    omega
  have hwin := winner?_gap hx hgap hnone
  rw [scan_of_winner? (by rw [hx]; exact List.cons_ne_nil x u) (by rw [hwin, hrun, hlen]), hlen,
    gapTokens, if_pos hpos]
  exact congrArg (fun v => [Token.mk .text v c.offset]) (Cursor.take_cut (Nat.le_refl _))

/-- A gap is kept without the text in triple quotes that follows it. -/
theorem KeptAt.gap (hw : winner? rules c = some (r, k)) (hr : r ∈ docRules)
    (hpos : 0 < gap.run c.rest) : KeptAt c (Grammar.gap.run c.rest) := by
  obtain ⟨-, hwin⟩ := winner?_eq_some hw
  obtain ⟨text, q, hq, rfl⟩ := exists_of_mem_docRules hr
  obtain ⟨hl, hdoc, -, hk⟩ := docString?_of_wins? (quote_not_in_gap hq) hwin
  have hc : c.rest ≠ [] := fun e => by
    rw [e] at hpos
    cases hpos
  have htokens : (stepAt rules c).tokens =
      gapTokens c (Grammar.gap.run c.rest) ++ [docToken c (Grammar.gap.run c.rest) k] := by
    rw [stepAt, hw]
    exact tokens_docRule (quote_not_in_gap hq) hl hdoc
  have hcov := covers_scan covering c
  rw [scan_cons rules hc, htokens, gapTokens, if_pos hpos] at hcov
  rw [KeptAt, scan_gap hpos, scan_cons rules hc, htokens, gapTokens, if_pos hpos,
    List.append_assoc, List.filter_append, List.filter_eq_self.mpr, List.filter_eq_nil_iff.mpr,
    List.append_nil]
  · intro t ht
    obtain ⟨v, hcov⟩ := hcov.tail
    have hge := hcov.le_start ht
    have hlt := hcov.start_lt_stop ht
    rw [c.offset_advance, decide_eq_true_eq]
    exact Nat.not_le_of_lt (Nat.lt_of_le_of_lt hge hlt)
  · intro t ht
    rw [List.mem_singleton.mp ht, c.offset_advance, decide_eq_true_eq]
    exact Nat.le_refl _

/-- Where the tokens of a step start and stop, the tokens before are kept. -/
theorem keptAt_of_mem_stepAt (hc : c.rest ≠ []) (ht : t ∈ (stepAt rules c).tokens)
    (he : e = t.start ∨ e = t.stop) :
    ∃ n ≤ c.rest.length, e = (c.advance n).offset ∧ KeptAt c n := by
  have atStart : c.offset = (c.advance 0).offset ∧ KeptAt c 0 := ⟨rfl, .zero c⟩
  have atStop : KeptAt c (stepAt rules c).length := KeptAt.step hc (.zero _)
  have hlen := stepAt_length_le rules hc
  have hmade := madeAt_of_mem ht
  rw [stepAt] at atStop hlen
  cases hmade with
  | single hw =>
    rw [hw] at atStop hlen
    rcases he with rfl | rfl
    · exact ⟨0, Nat.zero_le _, atStart⟩
    · exact ⟨1, hlen, (c.offset_advance 1).symm, atStop⟩
  | @whole r n kind hw _ _ =>
    rw [hw] at atStop hlen
    rcases he with rfl | rfl
    · exact ⟨0, Nat.zero_le _, atStart⟩
    · exact ⟨n, hlen, (c.offset_advance n).symm, atStop⟩
  | gap hw hr hpos =>
    rcases he with rfl | rfl
    · exact ⟨0, Nat.zero_le _, atStart⟩
    · exact ⟨_, CharSet.run_le _ _, (c.offset_advance _).symm, .gap hw hr hpos⟩
  | @doc r n hw hr =>
    rw [hw] at atStop hlen
    obtain ⟨-, hwin⟩ := winner?_eq_some hw
    obtain ⟨text, q, hq, e⟩ := exists_of_mem_docRules hr
    obtain ⟨-, -, hle, -⟩ := docString?_of_wins? (quote_not_in_gap hq) (e ▸ hwin)
    rcases he with rfl | rfl
    · refine ⟨_, CharSet.run_le _ _, rfl, ?_⟩
      rcases Nat.eq_zero_or_pos (Grammar.gap.run c.rest) with hz | hpos
      · rw [hz]
        exact .zero c
      · exact .gap hw hr hpos
    · refine ⟨n, hlen, ?_, atStop⟩
      rw [Token.stop, docToken, ← Cursor.offset_advance, ← Cursor.advance_add,
        Nat.add_sub_cancel' (by omega)]

/-- Where a token starts or stops, the tokens before are kept. -/
theorem keptAt_of_mem_scan (ht : t ∈ scan rules c) (he : e = t.start ∨ e = t.stop) :
    ∃ n ≤ c.rest.length, e = (c.advance n).offset ∧ KeptAt c n := by
  induction c using scan_induction rules with
  | stop c hc =>
    rw [scan_of_rest_nil rules hc] at ht
    cases ht
  | step c hc ih =>
    rw [scan_cons rules hc, List.mem_append] at ht
    rcases ht with ht | ht
    · exact keptAt_of_mem_stepAt hc ht he
    · obtain ⟨n, hn, hoffset, h⟩ := ih ht
      have hlen := stepAt_length_le rules hc
      rw [stepAt_stop, Cursor.rest_advance, List.length_drop] at hn
      rw [stepAt_stop, ← Cursor.advance_add] at hoffset
      exact ⟨(stepAt rules c).length + n, by omega, hoffset, h.step hc⟩

end Grammar

/-- Cutting a source where a token starts or stops keeps the tokens before the cut, and makes no
others. -/
theorem Lexer.standard_cut : ∃ l, Lexer.standard = .ok l ∧
    ∀ source, ∀ t ∈ l.tokenize source, ∀ e, e = t.start ∨ e = t.stop →
      ∃ before after, source = before ++ after ∧ before.utf8ByteSize = e ∧
        l.tokenize before = (l.tokenize source).filter fun u => u.stop ≤ e := by
  refine ⟨_, standard_eq, fun source t ht e he => ?_⟩
  simp only [tokenize_eq_scan] at ht ⊢
  obtain ⟨n, -, hoffset, hkept⟩ := Grammar.keptAt_of_mem_scan ht he
  have hsize : e = (String.ofList (source.toList.take n)).utf8ByteSize := by
    rw [hoffset, Cursor.offset_advance]
    exact Nat.zero_add _
  refine ⟨String.ofList (source.toList.take n), String.ofList (source.toList.drop n), ?_,
    hsize.symm, ?_⟩
  · rw [← String.ofList_append, List.take_append_drop, String.ofList_toList]
  · rw [String.toList_ofList, hoffset]
    exact hkept

/-- The gap before a text in triple quotes. -/
theorem Lexer.standard_cut_gap : ∃ l, Lexer.standard = .ok l ∧
    ∃ before after, "  \"\"\"a\"\"\"" = before ++ after ∧ before.utf8ByteSize = 2 ∧
      l.tokenize before = (l.tokenize "  \"\"\"a\"\"\"").filter fun u => u.stop ≤ 2 := by
  obtain ⟨l, hl, h⟩ := standard_cut
  refine ⟨l, hl, h "  \"\"\"a\"\"\"" ⟨.text, "  ", 0⟩ ?_ 2 (.inr (by decide))⟩
  cases standard_eq.symm.trans hl
  decide +kernel

end OclScan
