import OclScan.Proofs.Grammar.Tokens

/-!
# Scanning from a line start

A token that starts where a line starts is the first of its step, since the gap before a text in
triple quotes does not end a line (`Grammar.stepAt_boundary`). So the tokens from there on are those
of the text from there on, scanned by itself (`Lexer.standard_restart`).
-/

namespace OclScan

namespace Grammar

variable {c : Cursor} {t : Token} {n : Nat}

theorem byLine : ∀ r ∈ rules, r.ByLine := by
  have h : ∀ r ∈ rules, r.pattern.plan.Steady = true ∧
      ∀ a ∈ r.pattern.plan.conditions, a = .lineStart := by decide
  exact fun r hr => ⟨(h r hr).1, (h r hr).2⟩

theorem newline_not_in_gap : gap.contains '\n' = false := by decide

/-- No line starts after a gap. -/
theorem not_startsLine_of_gap {w : Nat} (hw : 0 < w) (hrun : w = gap.run c.rest) :
    startsLine (c.advance w).before = false := by
  obtain ⟨v, rfl⟩ : ∃ v, w = v + 1 := ⟨w - 1, by omega⟩
  have hle := gap.run_le c.rest
  have hv : v < c.rest.length := by omega
  have hmem : c.rest[v] ∈ c.rest.take (gap.run c.rest) := by
    rw [List.mem_take_iff_getElem]
    exact ⟨v, by omega, rfl⟩
  have hgap := CharSet.contains_of_mem_run hmem
  have hne : c.rest[v] ≠ '\n' := fun e => by
    rw [e, newline_not_in_gap] at hgap
    cases hgap
  rw [Cursor.before_advance hv, List.getElem?_eq_getElem hv]
  simp [startsLine, Assertion.holds, hne]

/-- A token starts where its step does, or where no line starts. -/
theorem stepAt_boundary (ht : t ∈ (stepAt rules c).tokens) :
    ∃ n ≤ c.rest.length, t.start = (c.advance n).offset ∧
      (n = 0 ∨ startsLine (c.advance n).before = false) := by
  cases madeAt_of_mem ht with
  | single _ => exact ⟨0, by omega, rfl, .inl rfl⟩
  | whole _ _ _ => exact ⟨0, by omega, rfl, .inl rfl⟩
  | gap _ _ _ => exact ⟨0, by omega, rfl, .inl rfl⟩
  | doc _ _ =>
    refine ⟨gap.run c.rest, gap.run_le _, rfl, ?_⟩
    by_cases hw : gap.run c.rest = 0
    · exact .inl hw
    · exact .inr (not_startsLine_of_gap (by omega) rfl)

/-- The scan from the cursor is split by the place `n` characters on. -/
def SplitAt (c : Cursor) (n : Nat) : Prop :=
  ∃ ts, scan rules c = ts ++ scan rules (c.advance n) ∧ ∀ u ∈ ts, u.start < (c.advance n).offset

theorem SplitAt.zero (c : Cursor) : SplitAt c 0 := ⟨[], rfl, nofun⟩

/-- What splits the scan after a step splits it. -/
theorem SplitAt.step (hc : c.rest ≠ []) (h : SplitAt (stepAt rules c).stop n) :
    SplitAt c ((stepAt rules c).length + n) := by
  obtain ⟨ts, hts, hlt⟩ := h
  rw [stepAt_stop, ← Cursor.advance_add] at hts hlt
  refine ⟨(stepAt rules c).tokens ++ ts, ?_, fun u hu => ?_⟩
  · rw [scan_cons rules hc, stepAt_stop, hts, List.append_assoc]
  · rcases List.mem_append.mp hu with hu | hu
    · have hcov := covers_stepAt covering hc
      have hu := Nat.lt_of_lt_of_le (hcov.start_lt_stop hu) (hcov.stop_le hu)
      have hle := ((c.advance (stepAt rules c).length).offset_advance n)
      rw [← Cursor.advance_add] at hle
      have hstop : (c.advance (stepAt rules c).length).offset =
          c.offset + (String.ofList (c.rest.take (stepAt rules c).length)).utf8ByteSize :=
        c.offset_advance _
      omega
    · exact hlt u hu

/-- A token that starts where a line starts splits the scan. -/
theorem splitAt_of_mem_scan (ht : t ∈ scan rules c) :
    ∃ n ≤ c.rest.length, t.start = (c.advance n).offset ∧
      (startsLine (c.advance n).before = true → SplitAt c n) := by
  induction c using scan_induction rules with
  | stop c hc =>
    rw [scan_of_rest_nil rules hc] at ht
    cases ht
  | step c hc ih =>
    rw [scan_cons rules hc, List.mem_append] at ht
    rcases ht with ht | ht
    · obtain ⟨n, hn, hs, h⟩ := stepAt_boundary ht
      refine ⟨n, hn, hs, fun hl => ?_⟩
      rcases h with rfl | h
      · exact .zero c
      · rw [hl] at h
        cases h
    · obtain ⟨n, hn, hs, h⟩ := ih ht
      have hlen := stepAt_length_le rules hc
      rw [stepAt_stop, Cursor.rest_advance, List.length_drop] at hn
      rw [stepAt_stop, ← Cursor.advance_add] at hs
      refine ⟨(stepAt rules c).length + n, by omega, hs, fun hl => .step hc (h ?_)⟩
      rwa [stepAt_stop, ← Cursor.advance_add]

end Grammar

/-- A line starts after the text. -/
def AtLineStart (before : String) : Prop := before = "" ∨ before.toList.getLast? = some '\n'

/-- The place after the first part of a text. -/
theorem Cursor.start_advance (before after : List Char) :
    ((Cursor.start (before ++ after)).advance before.length).rest = after ∧
    ((Cursor.start (before ++ after)).advance before.length).offset =
      (String.ofList before).utf8ByteSize ∧
    ((Cursor.start (before ++ after)).advance before.length).before = before.getLast? := by
  refine ⟨by rw [rest_advance]; exact List.drop_left, ?_, ?_⟩
  · rw [offset_advance, take, start, List.take_left, Nat.zero_add]
  · cases hn : before.length with
    | zero =>
      rw [List.length_eq_zero_iff.mp hn]
      rfl
    | succ n =>
      have hlt : n < (before ++ after).length := by rw [List.length_append]; omega
      rw [before_advance hlt, start, List.getElem?_append_left (by omega),
        List.getLast?_eq_getElem?, hn, Nat.succ_sub_one]

/-- Text before a line start at which a token starts does not influence what follows: the tokens
from there on are those of the text from there on by itself, moved to where they stand. -/
theorem Lexer.standard_restart : ∃ l, Lexer.standard = .ok l ∧
    ∀ before after : String, AtLineStart before →
      (∃ t ∈ l.tokenize (before ++ after), t.start = before.utf8ByteSize) →
      (l.tokenize (before ++ after)).filter (fun t => before.utf8ByteSize ≤ t.start) =
        (l.tokenize after).map (Token.shift before.utf8ByteSize) := by
  refine ⟨_, standard_eq, fun before after hline ⟨t, ht, hs⟩ => ?_⟩
  simp only [tokenize_eq_scan, String.toList_append] at ht ⊢
  obtain ⟨n, hn, hstart, hsplit⟩ := Grammar.splitAt_of_mem_scan ht
  obtain ⟨hrest, hoffset, hbefore⟩ := Cursor.start_advance before.toList after.toList
  rw [String.ofList_toList] at hoffset
  have hlen : before.toList.length ≤
      (Cursor.start (before.toList ++ after.toList)).rest.length := by
    rw [Cursor.start, List.length_append]
    omega
  obtain rfl : n = before.toList.length :=
    Cursor.offset_advance_inj hn hlen (by rw [← hstart, hs, hoffset])
  have hl : startsLine before.toList.getLast? = true := by
    rcases hline with rfl | h
    · rfl
    · rw [h]
      rfl
  obtain ⟨ts, hscan, hlt⟩ := hsplit (by rw [hbefore, hl])
  have hmoved : (Cursor.start after.toList).Moved before.utf8ByteSize
      ((Cursor.start (before.toList ++ after.toList)).advance before.toList.length) :=
    ⟨hrest, hoffset, by rw [hbefore, hl]; rfl⟩
  have hge : ∀ u ∈ scan Grammar.rules
      ((Cursor.start (before.toList ++ after.toList)).advance before.toList.length),
      before.utf8ByteSize ≤ u.start := fun u hu => by
    have := (covers_scan Grammar.covering _).le_start hu
    rwa [hoffset] at this
  rw [hscan, List.filter_append, List.filter_eq_nil_iff.mpr fun u hu => ?_, List.nil_append,
    List.filter_eq_self.mpr fun u hu => decide_eq_true (hge u hu),
    scan_moved Grammar.byLine hmoved]
  have := hlt u hu
  rw [hoffset] at this
  simp only [decide_eq_true_eq]
  omega

/-- A name after a comment and a line feed. -/
theorem Lexer.standard_restart_after_comment : ∃ l, Lexer.standard = .ok l ∧
    (l.tokenize "# x\nself").filter (fun t => 4 ≤ t.start) =
      (l.tokenize "self").map (Token.shift 4) := by
  obtain ⟨l, hl, h⟩ := standard_restart
  refine ⟨l, hl, h "# x\n" "self" (.inr (by decide)) ?_⟩
  cases standard_eq.symm.trans hl
  exact ⟨⟨.nameBuiltin, "self", 4⟩, by decide +kernel, rfl⟩

end OclScan
