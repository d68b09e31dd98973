import OclScan.Proofs.Grammar.Restart
import OclScan.Proofs.Grammar.Strings
import OclScan.Proofs.Scan.Winner

/-!
# Which rule of the grammar wins

The rules for text in triple quotes are tried before those for gaps and for strings. One of them
wins where the text stands (`Grammar.winner?_doc`). Where they do not win, a gap is read whole
(`Grammar.winner?_gap`), and a quote starts a string, if there is one (`Grammar.winner?_string`); of
three quotes a string takes two (`Grammar.winner?_quotes`). No rule that does not win matches beyond
the step (`Grammar.stop_le`, `Grammar.stop_eq_zero`), since rules with words match names.
-/

namespace OclScan

namespace Grammar

open Plan

variable {c : Cursor} {x q : Char} {s : CharSet} {t : List Char} {n : Nat} {r a : Rule} {m : Match}

theorem plain : ∀ r ∈ rules, r.Plain := by
  have h : ∀ r ∈ rules, r.pattern.plan.Steady = true ∧ r.pattern.plan.Reads = true := by decide
  exact fun r hr => ⟨(h r hr).1, (h r hr).2⟩

/-- A run is read to its end before what leads on from everywhere. -/
theorem first_run_some (loop j : Nat) (s : CharSet) {k : Goal} {σ : Slots} {f : Place → Match}
    (hk : ∀ y, k σ y = some (f y)) (x : Place) :
    (Plan.loop loop true (.set j s)).first k σ x = some (f (x.skip (s.run x.rest))) := by
  rw [first_run loop j s k σ x fun i _ h => (nomatch h.symm.trans (hk _)), hk]

/-- At the end of a plan, characters of a set are read as far as they go. -/
theorem first_loop_final (loop j : Nat) (s : CharSet) (σ : Slots) (x : Place) :
    (Plan.loop loop true (.set j s)).first (final 0) σ x =
      some ⟨0, x.index + s.run x.rest, σ⟩ := by
  rw [first_run_some loop j s (fun _ => rfl) x, Place.index_skip (s.run_le x.rest)]

/-- A character of a set is read if it is there, if leaving it cannot do better. -/
theorem first_maybe (number j : Nat) (s : CharSet) (k : Goal) (σ : Slots) (x : Place)
    (h : k σ (x.skip (s.next x.rest)) = none → k σ x = none) :
    (maybe number (.set j s)).first k σ x = k σ (x.skip (s.next x.rest)) := by
  obtain ⟨b, i, _ | ⟨c, t⟩⟩ := x
  · exact Option.none_or
  · by_cases hc : s.contains c = true
    · rw [CharSet.next_of_mem hc] at h ⊢
      have hread : (maybe number (.set j s)).first k σ ⟨b, i, c :: t⟩ =
          (k σ ⟨some c, i + 1, t⟩).or (k σ ⟨b, i, c :: t⟩) := by
        simp only [maybe, Plan.first, hc, if_true]
      rw [hread]
      rw [Place.skip_cons, Place.skip_zero] at h ⊢
      cases e : k σ ⟨some c, i + 1, t⟩ with
      | none => exact h e
      | some m => rfl
    · rw [Bool.not_eq_true] at hc
      simp only [CharSet.next_of_not_mem hc, Place.skip_zero, maybe, Plan.first, hc,
        Bool.false_eq_true, if_false, Option.none_or]

theorem first_maybe_final (number j : Nat) (s : CharSet) (σ : Slots) (x : Place) :
    (maybe number (.set j s)).first (final 0) σ x = some ⟨0, x.index + s.next x.rest, σ⟩ := by
  rw [first_maybe number j s (final 0) σ x nofun, final, Place.index_skip (s.next_le x.rest)]

/-- One character or more of a set are read as far as they go. -/
theorem matchAt?_run (loop j : Nat) (hx : s.contains x = true) (b : Option Char) (t : List Char) :
    (run loop j s).matchAt? 0 b (x :: t) = some ⟨0, s.run (x :: t), []⟩ := by
  rw [matchAt?_eq_first rfl, List.replicate_zero, run, Plan.first, first_set_of_mem hx,
    first_loop_final, CharSet.run_of_mem hx, Nat.add_comm]

theorem wins?_tokenRule {text : String} {plan : Plan} {k : Kind} {origin : String} {σ : Slots}
    (h : plan.matchAt? 0 c.before c.rest = some ⟨0, n, σ⟩) (hn : 0 < n) :
    (tokenRule text plan k origin).wins? c = some n :=
  Rule.wins?_eq_some_iff.mpr ⟨⟨0, n, σ⟩, h, hn, rfl, rfl⟩

theorem wins?_tokenRule_eq_none {text : String} {plan : Plan} {k : Kind} {origin : String}
    (h : plan.matchAt? 0 c.before c.rest = none) : (tokenRule text plan k origin).wins? c = none := by
  have hm : (tokenRule text plan k origin).pattern.matchAt? c = none := h
  rw [Rule.wins?, hm]

theorem wins?_gapsRule (hx : gap.contains x = true) (hc : c.rest = x :: t) :
    gapsRule.wins? c = some (gap.run c.rest) := by
  have hm : gaps.matchAt? 0 c.before c.rest = some ⟨0, gap.run c.rest, []⟩ := by
    rw [hc]
    exact matchAt?_run 0 1 hx c.before t
  refine wins?_tokenRule hm ?_
  rw [hc, CharSet.run_of_mem hx]
  exact Nat.succ_pos _

/-- A line feed apart, the rules for text in triple quotes come first. -/
theorem winner?_laterRules (hc : c.rest = x :: t) (hx : x ≠ '\n')
    (hd : ∀ r ∈ docRules, r.wins? c = none) : winner? rules c = winner? laterRules c := by
  have hnewline : newlineRule.wins? c = none :=
    (plain newlineRule List.mem_cons_self).wins?_eq_none hc
      (by simp [newlineRule, tokenRule, newline, starts_set, hx])
  exact winner?_append_of_none fun r hr => (List.mem_cons.mp hr).elim (fun e => e ▸ hnewline) (hd r)

/-- Where another rule wins, no text in triple quotes stands. -/
theorem wins?_docRules_of_winner? (h : winner? rules c = some (r, n))
    (hr : r ∉ newlineRule :: docRules) : ∀ a ∈ docRules, a.wins? c = none := by
  have hfirst : winner? (newlineRule :: docRules) c = none := by
    cases hw : winner? (newlineRule :: docRules) c with
    | none => rfl
    | some w =>
      rw [rules, winner?_append, hw, Option.some_or] at h
      cases h
      exact absurd (winner?_eq_some hw).1 hr
  exact fun a ha => winner?_eq_none_iff.mp hfirst a (List.mem_cons_of_mem _ ha)

theorem run_take_run (s : CharSet) (u : List Char) (n : Nat) (hn : n ≤ s.run u) :
    s.run (u.take n) = (u.take n).length := by
  refine CharSet.run_eq_length fun x hx => CharSet.contains_of_mem_run (t := u) ?_
  exact List.take_subset_take_left u hn hx

/-- A gap is read whole, where it does not come before a text in triple quotes. -/
theorem winner?_gap (hc : c.rest = x :: t) (hx : gap.contains x = true)
    (hd : ∀ r ∈ docRules, r.wins? c = none) :
    winner? rules c = some (gapsRule, gap.run c.rest) := by
  have hne : x ≠ '\n' := fun e => by
    rw [e, newline_not_in_gap] at hx
    cases hx
  rw [winner?_laterRules hc hne hd]
  exact winner?_cons_of_some (wins?_gapsRule hx hc)

theorem quote_ne (hq : q ∈ quotes) : q ≠ '\n' ∧ q ≠ '\\' := by
  simp only [quotes, List.mem_cons, List.not_mem_nil, or_false] at hq
  rcases hq with rfl | rfl <;> decide

/-- A text in triple quotes does not start with a line feed. -/
theorem wins?_newlineRule_of_doc {w : Nat} (hq : q ∈ quotes)
    (h : docString? q c.rest = some (w, n)) : newlineRule.wins? c = none := by
  obtain ⟨rfl, -, u, hu⟩ := docString?_eq_some h
  cases hn : newlineRule.wins? c with
  | none => rfl
  | some k =>
    obtain ⟨x, t, hc, hx⟩ := (plain newlineRule List.mem_cons_self).exists_starts hn
    obtain rfl : x = '\n' := by simpa [newlineRule, tokenRule, newline, starts_set] using hx
    rw [hc, CharSet.run_of_not_mem newline_not_in_gap, List.drop_zero] at hu
    exact absurd (List.cons.inj hu).1 (quote_ne hq).1

theorem docRule_unique :
    ∀ r ∈ docRules, ∀ a ∈ docRules, a.pattern.plan = r.pattern.plan → a = r := by decide

/-- A text in triple quotes is read where it stands. -/
theorem winner?_doc {r : Rule} (hr : r ∈ docRules) (h : r.wins? c = some n) :
    winner? rules c = some (r, n) := by
  obtain ⟨text, q, hq, rfl⟩ := exists_of_mem_docRules hr
  obtain ⟨-, hdoc, -, -⟩ := docString?_of_wins? (quote_not_in_gap hq) h
  cases hw : winner? (newlineRule :: docRules) c with
  | none =>
    rw [winner?_eq_none_iff.mp hw _ (List.mem_cons_of_mem _ hr)] at h
    cases h
  | some w =>
    obtain ⟨a, k⟩ := w
    obtain ⟨hmem, hk⟩ := winner?_eq_some hw
    rcases List.mem_cons.mp hmem with rfl | ha
    · rw [wins?_newlineRule_of_doc hq hdoc] at hk
      cases hk
    · -- The rule that wins asks for the same quotes, and so is the same.
      obtain ⟨text', q', hq', e⟩ := exists_of_mem_docRules ha
      obtain ⟨-, hdoc', -, -⟩ := docString?_of_wins? (quote_not_in_gap hq') (e ▸ hk)
      obtain rfl := docString?_quote_unique hdoc hdoc'
      obtain rfl := docRule_unique _ hr a ha (by rw [e]; rfl)
      obtain rfl := Option.some.inj (h.symm.trans hk)
      rw [rules, winner?_append, hw, Option.some_or]

/-! ## Strings -/

theorem filter_laterRules_quote : ∀ q ∈ quotes, ∃ text,
    laterRules.filter (fun r => r.pattern.plan.starts q) =
      [tokenRule text (string q) .string root] := by
  intro q hq
  simp only [quotes, List.mem_cons, List.not_mem_nil, or_false] at hq
  rcases hq with rfl | rfl
  · exact ⟨_, rfl⟩
  · exact ⟨_, rfl⟩

/-- A quote that does not start a text in triple quotes starts a string, if there is one. -/
theorem winner?_string (hq : q ∈ quotes) (hc : c.rest = q :: t)
    (hd : ∀ r ∈ docRules, r.wins? c = none) : ∃ r, r.action = .token .string ∧
      winner? rules c = (inString? q t).map fun n => (r, n + 2) := by
  obtain ⟨text, hfilter⟩ := filter_laterRules_quote q hq
  obtain ⟨hnewline, hbackslash⟩ := quote_ne hq
  let r := tokenRule text (string q) .string root
  have hmatch : r.pattern.matchAt? c = (inString? q t).map fun n => ⟨0, n + 2, []⟩ :=
    (congrArg ((string q).matchAt? 0 c.before) hc).trans (matchAt?_string hbackslash c.before t)
  have hwins : r.wins? c = (inString? q t).map (· + 2) := by
    rw [Rule.wins?, hmatch]
    cases inString? q t with
    | none => rfl
    | some n => exact if_pos ⟨Nat.succ_pos _, rfl⟩
  refine ⟨r, rfl, ?_⟩
  rw [winner?_laterRules hc hnewline hd,
    winner?_filter (fun r hr => plain r (mem_rules.mpr (.inr (.inr hr)))) hc, hfilter, winner?_cons,
    hwins, Option.map_map]
  exact Option.or_none

/-- Where two quotes do not start a text in triple quotes, they are an empty string. -/
theorem winner?_quotes (hq : q ∈ quotes) (hc : c.rest = q :: q :: t)
    (hd : ∀ r ∈ docRules, r.wins? c = none) : ∃ r, winner? rules c = some (r, 2) := by
  obtain ⟨r, -, h⟩ := winner?_string hq hc hd
  rw [inString?_quote] at h
  exact ⟨r, h⟩

/-! ## Words -/

theorem IsName.matchAt? (hr : IsName r) (c : Cursor) :
    r.pattern.matchAt? c = nameRule.pattern.matchAt? c := by
  rw [Pattern.matchAt?, hr.plan, hr.groups]
  rfl

/-- Where a name starts, the winner reads the name. -/
theorem word_stop_le (hwin : winner? rules c = some (r, n)) (ha : IsName a) (hmem : a ∈ rules)
    (hm : a.pattern.matchAt? c = some m) : m.stop ≤ n := by
  obtain ⟨hr, hrwin⟩ := winner?_eq_some hwin
  obtain ⟨x, t, hc, hx⟩ := (plain r hr).exists_starts hrwin
  have hstart : nameStart.contains x = true := by
    rw [← starts_identifier, ← ha.plan, ← Bool.not_eq_false]
    intro hx
    rw [(plain a hmem).matchAt?_eq_none hc hx] at hm
    cases hm
  obtain ⟨m', hm', -, -, rfl⟩ := Rule.wins?_eq_some_iff.mp hrwin
  rw [(isName_of_starts hstart hr hx).matchAt?, ← ha.matchAt?, hm] at hm'
  cases hm'
  omega

/-- A rule that does not win has no longer match than the winner. -/
theorem stop_le (hwin : winner? rules c = some (r, n)) (hmem : a ∈ rules)
    (hnone : a.wins? c = none) (hm : a.pattern.matchAt? c = some m) : m.stop ≤ n := by
  by_cases hw : a.words = none
  · rw [Rule.stop_of_wins?_eq_none hw hnone hm]
    omega
  · exact word_stop_le hwin (isName_of_words a hmem hw) hmem hm

/-- Where no rule wins, none matches more than the empty text: a word is a name too. -/
theorem stop_eq_zero (h : winner? rules c = none) (hmem : a ∈ rules)
    (hm : a.pattern.matchAt? c = some m) : m.stop = 0 := by
  have hnone := winner?_eq_none_iff.mp h
  by_cases hw : a.words = none
  · exact Rule.stop_of_wins?_eq_none hw (hnone a hmem) hm
  · rw [(isName_of_words a hmem hw).matchAt?] at hm
    exact Rule.stop_of_wins?_eq_none rfl (hnone _ nameRule_mem) hm

end Grammar

end OclScan
