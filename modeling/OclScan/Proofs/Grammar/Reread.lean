import OclScan.Proofs.Grammar.Names
import OclScan.Proofs.Grammar.Winner

/-!
# Scanning the text of a token

The text of a token, scanned by itself, gives that token again (`Lexer.standard_reread`). The rule
that made the token wins on its text as well (`Grammar.winner?_piece`): no rule before it has a
match there that it did not have, except that a line starts now. But a text in triple quotes is
longer than what is read where no line starts, which is a gap or an empty string
(`Grammar.wins?_docRule_piece`).
-/

namespace OclScan

namespace Grammar

variable {c : Cursor} {r a : Rule} {rs ss : List Rule} {m : Match} {n : Nat} {t : Token}

theorem conditions_of_mem_laterRules : ∀ r ∈ laterRules, r.pattern.plan.conditions = [] := by decide

/-- Where a line starts, or no line is asked for, the start of a text is as good. -/
theorem agreeOn_none (hr : r ∈ rules) (h : r ∈ docRules → startsLine c.before = true) :
    AgreeOn r.pattern.plan.conditions c.before none := by
  rcases mem_rules.mp hr with rfl | hd | hr
  · exact nofun
  · exact (byLine r hr).agreeOn (h hd).symm
  · rw [conditions_of_mem_laterRules r hr]
    exact nofun

/-! ## Text in triple quotes -/

/-- Where no line starts, what is read is no text in triple quotes. -/
theorem wins?_docRule_piece (hl : startsLine c.before = false)
    (hwin : winner? rules c = some (r, n)) : ∀ a ∈ docRules, a.wins? (c.piece n) = none := by
  have hd : ∀ a ∈ docRules, a.wins? c = none :=
    wins?_docRules_eq_none fun h => by rw [hl] at h; cases h
  intro a ha
  obtain ⟨text, q, hq, rfl⟩ := exists_of_mem_docRules ha
  cases hw : (docRule text q).wins? (c.piece n) with
  | none => rfl
  | some m =>
    obtain ⟨-, hdoc, hle, hlen⟩ := docString?_of_wins? (quote_not_in_gap hq) hw
    obtain ⟨-, -, hquotes⟩ := docString?_eq_some hdoc
    rw [Cursor.rest_piece] at hquotes hle hlen
    rw [List.length_take] at hlen
    cases hc : c.rest with
    | nil =>
      rw [hc, List.length_nil] at hlen
      omega
    | cons x u =>
      by_cases hx : gap.contains x = true
      · -- All that is read is a gap.
        rw [winner?_gap hc hx hd] at hwin
        obtain ⟨-, rfl⟩ := Prod.mk.inj (Option.some.inj hwin)
        rw [run_take_run gap c.rest _ (by omega), List.length_take] at hle
        omega
      · -- All that is read is an empty string.
        have hrun : gap.run (c.rest.take n) = 0 := by
          rw [hc, show n = n - 1 + 1 by omega, List.take_succ_cons]
          exact CharSet.run_of_not_mem (Bool.eq_false_iff.mpr hx) _
        rw [hrun, List.drop_zero] at hquotes
        obtain ⟨v, hv⟩ := hquotes.trans (List.take_prefix n c.rest)
        obtain ⟨r', hr'⟩ := winner?_quotes hq hv.symm hd
        rw [hr'] at hwin
        obtain ⟨-, rfl⟩ := Prod.mk.inj (Option.some.inj hwin)
        omega

/-! ## Tokens -/

/-- What makes one token of a text wins on that text. -/
theorem winner?_piece (hr : r ∉ docRules) (hwin : winner? rules c = some (r, n)) :
    winner? rules (c.piece n) = some (r, n) := by
  obtain ⟨rs, ss, h, hrwin, hnone⟩ := winner?_eq_some_iff.mp hwin
  have hmem : ∀ a ∈ rs, a ∈ rules := fun a ha => h ▸ List.mem_append_left _ ha
  have hrule : r ∈ rules := h ▸ List.mem_append_right _ List.mem_cons_self
  refine winner?_eq_some_iff.mpr ⟨rs, ss, h, ?_, fun a ha => ?_⟩
  · exact Rule.wins?_cutAt (plain r hrule).steady
      ⟨rfl, agreeOn_none hrule fun hd => absurd hd hr⟩ hrwin (Nat.le_refl n)
  · by_cases hl : a ∈ docRules → startsLine c.before = true
    · exact Rule.wins?_cutAt_eq_none (plain a (hmem a ha)).steady
        ⟨rfl, agreeOn_none (hmem a ha) hl⟩ (hnone a ha)
        fun m hm => stop_le hwin (hmem a ha) (hnone a ha) hm
    · obtain ⟨hd, hl⟩ := Classical.not_imp.mp hl
      exact wins?_docRule_piece (Bool.eq_false_iff.mpr hl) hwin a hd

/-- The token of a text, scanned by itself. -/
def Rereads (t : Token) : Prop :=
  scan rules (.start t.text.toList) = [⟨t.kind, t.text, 0⟩]

theorem start_take (c : Cursor) (n : Nat) : Cursor.start (c.take n).toList = c.piece n := by
  rw [Cursor.toList_take, Cursor.piece]

theorem rereads_of_winner? {k : Kind} (hn : 0 < n) (hle : n ≤ c.rest.length)
    (hk : r.action = .token k) (h : winner? rules (c.piece n) = some (r, n)) (o : Nat) :
    Rereads ⟨k, c.take n, o⟩ := by
  have hlen := Cursor.length_piece hle
  have hne : (c.piece n).rest ≠ [] := fun e => by
    rw [e, List.length_nil] at hlen
    omega
  rw [Rereads, start_take, scan_of_winner? hne (by rw [hlen]; exact h), hlen, Rule.tokens, hk,
    Cursor.take_piece (by omega)]
  rfl

/-- A gap before a text in triple quotes is read by the rule for gaps. -/
theorem rereads_gap {w : Nat} (hw : 0 < w) (h : w = gap.run c.rest) (o : Nat) :
    Rereads ⟨.text, c.take w, o⟩ := by
  have hle : w ≤ c.rest.length := h ▸ gap.run_le c.rest
  have hrun : gap.run (c.piece w).rest = (c.piece w).rest.length :=
    run_take_run gap c.rest w (by omega)
  have hlen := Cursor.length_piece hle
  cases hc : (c.piece w).rest with
  | nil =>
    rw [hc, List.length_nil] at hlen
    omega
  | cons x u =>
    have hx : gap.contains x = true := by
      rw [← Bool.not_eq_false]
      intro hx
      rw [hc, CharSet.run_of_not_mem hx] at hrun
      cases hrun
    have hwin := winner?_gap hc hx (wins?_docRules_eq_none fun _ => by omega)
    rw [hrun, hlen] at hwin
    exact rereads_of_winner? hw hle rfl hwin o

/-- A text in triple quotes without the gap is read by the same rule. -/
theorem rereads_doc (ha : a ∈ docRules) (hwin : a.wins? c = some n) :
    Rereads (docToken c (gap.run c.rest) n) := by
  obtain ⟨text, q, hq, rfl⟩ := exists_of_mem_docRules ha
  have hgap := quote_not_in_gap hq
  obtain ⟨-, hdoc, hle, hlen⟩ := docString?_of_wins? hgap hwin
  generalize gap.run c.rest = w at hdoc hle ⊢
  have hdrop : docString? q (c.advance w).rest = some (0, n - w) := by
    rw [Cursor.rest_advance]
    exact docString?_drop hgap hdoc
  have htake : docString? q ((c.advance w).piece (n - w)).rest = some (0, n - w) :=
    docString?_take hgap hdrop
  have hlength : ((c.advance w).piece (n - w)).rest.length = n - w := by
    refine Cursor.length_piece ?_
    rw [Cursor.rest_advance, List.length_drop]
    omega
  have hwinner : winner? rules ((c.advance w).piece (n - w)) = some (docRule text q, n - w) :=
    winner?_doc ha ((wins?_docRule hgap).mpr ⟨rfl, 0, htake⟩)
  have hne : ((c.advance w).piece (n - w)).rest ≠ [] := fun e => by
    rw [e, List.length_nil] at hlength
    omega
  rw [Rereads, docToken, start_take, scan_of_winner? hne (by rw [hlength]; exact hwinner),
    hlength, tokens_docRule hgap rfl htake, docToken, Cursor.advance_zero, Nat.sub_zero,
    Cursor.take_piece (by omega)]
  rfl

/-- A character that no rule reads is read by none if it stands alone. -/
theorem rereads_single (hc : c.rest ≠ []) (h : winner? rules c = none) (o : Nat) :
    Rereads ⟨.text, c.take 1, o⟩ := by
  obtain ⟨x, u, hx⟩ := List.exists_cons_of_ne_nil hc
  have hone : (c.piece 1).rest = [x] := by
    rw [Cursor.rest_piece, hx, List.take_succ_cons, List.take_zero]
  have hwinner : winner? rules (c.piece 1) = none := by
    refine winner?_eq_none_iff.mpr fun a ha => ?_
    by_cases hd : a ∈ docRules
    · exact wins?_docRules_eq_none (fun _ => by rw [hone, List.length_singleton]; omega) a hd
    · refine Rule.wins?_cutAt_eq_none (plain a ha).steady
        ⟨rfl, agreeOn_none ha fun h => absurd h hd⟩ (winner?_eq_none_iff.mp h a ha) fun m hm => ?_
      rw [stop_eq_zero h ha hm]
      exact Nat.zero_le 1
  rw [Rereads, start_take, scan_singleton hone hwinner, Cursor.take_piece (by omega)]
  rfl

/-- The tokens of a step, by what they are made of. -/
theorem rereads_of_mem_stepAt (hc : c.rest ≠ []) (ht : t ∈ (stepAt rules c).tokens) :
    Rereads t := by
  cases madeAt_of_mem ht with
  | single h => exact rereads_single hc h _
  | whole h hd hk =>
    obtain ⟨-, hwin⟩ := winner?_eq_some h
    exact rereads_of_winner? (Rule.wins?_pos hwin) (Rule.wins?_le hwin) hk (winner?_piece hd h) _
  | gap _ _ hpos => exact rereads_gap hpos rfl _
  | doc h hd => exact rereads_doc hd (winner?_eq_some h).2

theorem rereads_of_mem_scan (ht : t ∈ scan rules c) : Rereads t := by
  induction c using scan_induction rules with
  | stop c hc =>
    rw [scan_of_rest_nil rules hc] at ht
    cases ht
  | step c hc ih =>
    rw [scan_cons rules hc, List.mem_append] at ht
    exact ht.elim (rereads_of_mem_stepAt hc) ih

end Grammar

/-- The text of a token of the lexer for constraints, scanned by itself, is that token alone. -/
theorem Lexer.standard_reread : ∃ l, Lexer.standard = .ok l ∧
    ∀ source, ∀ t ∈ l.tokenize source, l.tokenize t.text = [⟨t.kind, t.text, 0⟩] := by
  refine ⟨_, standard_eq, fun source t ht => ?_⟩
  rw [tokenize_eq_scan] at ht ⊢
  exact Grammar.rereads_of_mem_scan ht

/-- A text in triple quotes, without its gap. -/
theorem Lexer.standard_reread_doc : ∃ l, Lexer.standard = .ok l ∧
    l.tokenize "\"\"\"a\"\"\"" = [⟨.stringDoc, "\"\"\"a\"\"\"", 0⟩] := by
  obtain ⟨l, hl, h⟩ := standard_reread
  refine ⟨l, hl, h "  \"\"\"a\"\"\"" ⟨.stringDoc, "\"\"\"a\"\"\"", 2⟩ ?_⟩
  cases standard_eq.symm.trans hl
  decide +kernel

end OclScan
