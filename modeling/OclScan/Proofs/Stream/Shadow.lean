import OclScan.Proofs.Resolve.Inclusion
import OclScan.Proofs.Stream.Partition

/-!
# Rules that are never chosen

A stream makes each step by the first rule that wins (`chosen?`, `firstWin_eq_bind`). A rule that is
shadowed by an earlier one is never it, so lexers with and without it are alike: their streams make
the same steps and give the same tokens (`Lexer.Alike`), though what they remember differs. A
rule-set that is included a second time makes shadowed rules only (`Lexer.shadowed_dead`).
-/

namespace OclScan

/-- The index of the first probe that wins at the cursor, once brought up to date. -/
def chosen? (c : Cursor) (ps : List Probe) : Option Nat :=
  ps.findIdx? fun p => ((p.refresh c).wins? c).isSome

/-- What the probe with the given index wins at the cursor. -/
def winAt? (c : Cursor) (ps : List Probe) (i : Nat) : Option (Rule × Nat) :=
  ps[i]?.bind fun p => ((p.refresh c).wins? c).map (p.rule, ·)

variable {c : Cursor} {ps : List Probe} {rules rules' : List Rule} {r s : Rule} {i j : Nat}

/-- The first win is that of the chosen rule. -/
theorem firstWin_eq_bind (c : Cursor) (ps : List Probe) :
    (firstWin c ps).1 = (chosen? c ps).bind (winAt? c ps) := by
  induction ps with
  | nil => rfl
  | cons p ps ih =>
    rw [chosen?, List.findIdx?_cons, firstWin]
    cases hw : (p.refresh c).wins? c with
    | some n =>
      simp [winAt?, hw, Probe.rule_refresh]
    | none =>
      rw [chosen?] at ih
      simp only [Option.isSome_none, Bool.false_eq_true, if_false, Option.bind_map]
      exact ih

/-- What is remembered has no part in the choice. -/
theorem chosen?_eq (h : ∀ p ∈ ps, p.Sound c) :
    chosen? c ps = (ps.map Probe.rule).findIdx? fun r => (r.wins? c).isSome := by
  induction ps with
  | nil => rfl
  | cons p ps ih =>
    obtain ⟨hp, hps⟩ := List.forall_mem_cons.mp h
    rw [chosen?] at ih ⊢
    rw [List.map_cons, List.findIdx?_cons, List.findIdx?_cons, hp.wins?_refresh, ih hps]

/-- A shadowed rule is not the first that wins. -/
theorem findIdx?_ne_of_shadows (hij : i < j) (hi : rules[i]? = some r) (hj : rules[j]? = some s)
    (h : r.Shadows s) (c : Cursor) :
    (rules.findIdx? fun r => (r.wins? c).isSome) ≠ some j := by
  intro hfind
  obtain ⟨hlt, hwins, hbefore⟩ := List.findIdx?_eq_some_iff_getElem.mp hfind
  have hr : r.wins? c = none := by
    have hfails := hbefore i hij
    rwa [(List.getElem?_eq_some_iff.mp hi).2, Option.not_isSome_iff_eq_none] at hfails
  rw [(List.getElem?_eq_some_iff.mp hj).2, h.wins?_eq_none hr] at hwins
  cases hwins

namespace Lexer

/-- A rule that is shadowed by an earlier one makes no step. -/
theorem chosen?_ne_of_shadows (hij : i < j) (hi : rules[i]? = some r) (hj : rules[j]? = some s)
    (h : r.Shadows s) (source : String) :
    ∀ st ∈ ((mk rules).stream source).states, chosen? st.cursor st.probes ≠ some j := by
  intro st hst
  obtain ⟨hsound, hrules, -⟩ := Stream.mem_statesUpTo (Stream.sound_start _ _) st hst
  rw [Stream.rules_start, Stream.rules] at hrules
  rw [chosen?_eq hsound, hrules]
  exact findIdx?_ne_of_shadows hij hi hj h st.cursor

/-- The streams of two lexers make the same steps, and give the same tokens. -/
structure Alike (l l' : Lexer) : Prop where
  steps : ∀ source,
    (l'.stream source).states.map Stream.step = (l.stream source).states.map Stream.step
  tokens : ∀ source, l'.tokenize source = l.tokenize source
  take : ∀ source k, ((l'.stream source).take k).1 = ((l.stream source).take k).1

theorem states_stream (rules : List Rule) (source : String) :
    ((mk rules).stream source).states.map Stream.step = steps rules (.start source.toList) := by
  rw [stream, Stream.states_step (Stream.sound_start _ _), Stream.rules_start]
  rfl

theorem take_stream (rules : List Rule) (source : String) (k : Nat) :
    (((mk rules).stream source).take k).1 = (scan rules (.start source.toList)).take k := by
  rw [stream, Stream.take_eq (Stream.sound_start _ _), Stream.remaining, Stream.rules_start]
  rfl

/-- Lexers are alike if their rules have the same winners. -/
theorem alike_of_winner? (h : ∀ c, winner? rules' c = winner? rules c) :
    Alike ⟨rules⟩ ⟨rules'⟩ := by
  have hsteps := steps_congr h
  have hscan (c : Cursor) : scan rules' c = scan rules c := by rw [scan, hsteps, scan]
  refine ⟨fun source => ?_, fun source => ?_, fun source k => ?_⟩
  · rw [states_stream, hsteps, states_stream]
  · rw [tokenize_eq_scan, hscan, tokenize_eq_scan]
  · rw [take_stream, hscan, take_stream]

theorem ofTable_eq_ok_iff {t : Table} {entry : String} {l : Lexer} :
    ofTable t entry = .ok l ↔ t.resolve entry = .ok l.rules := by
  rw [ofTable]
  cases t.resolve entry with
  | error e => exact iff_of_false nofun nofun
  | ok rs =>
    obtain ⟨rules⟩ := l
    simp [Except.map]

theorem exists_ofTable_iff {t : Table} {entry : String} :
    (∃ l, ofTable t entry = .ok l) ↔ ∃ rs, t.resolve entry = .ok rs :=
  ⟨fun ⟨l, h⟩ => ⟨l.rules, ofTable_eq_ok_iff.mp h⟩, fun ⟨rs, h⟩ => ⟨⟨rs⟩, ofTable_eq_ok_iff.mpr h⟩⟩

/-- A rule that comes after one which shadows it makes no step, and can be left out of the list,
whatever the two make of their matches. So it does not matter if a rule-set ends with a further
inclusion of what it includes. -/
theorem shadowed_dead :
    (∀ (rules : List Rule) (i j : Nat) (r s : Rule), i < j → rules[i]? = some r →
      rules[j]? = some s → r.Shadows s →
        (∀ source, ∀ st ∈ ((mk rules).stream source).states,
          chosen? st.cursor st.probes ≠ some j ∧
            (firstWin st.cursor st.probes).1 =
              (chosen? st.cursor st.probes).bind (winAt? st.cursor st.probes)) ∧
        Alike ⟨rules⟩ ⟨rules.eraseIdx j⟩) ∧
    ∀ (before after : Table) (name inner : String) (ds : List Definition),
      Table.Includes (before ++ ⟨name, ds⟩ :: after) ds inner → ∀ entry,
        ((∃ l', ofTable (before ++ ⟨name, ds ++ [.ruleSet inner]⟩ :: after) entry = .ok l') ↔
          ∃ l, ofTable (before ++ ⟨name, ds⟩ :: after) entry = .ok l) ∧
        ∀ l l', ofTable (before ++ ⟨name, ds⟩ :: after) entry = .ok l →
          ofTable (before ++ ⟨name, ds ++ [.ruleSet inner]⟩ :: after) entry = .ok l' →
          Alike l l' := by
  refine ⟨fun rules i j r s hij hi hj h => ⟨fun source st hst => ⟨?_, ?_⟩, ?_⟩,
    fun before after name inner ds h entry => ?_⟩
  · exact chosen?_ne_of_shadows hij hi hj h source st hst
  · exact firstWin_eq_bind st.cursor st.probes
  · exact alike_of_winner? (winner?_eraseIdx hij hi hj h)
  · obtain ⟨hiff, hwin⟩ := Table.resolve_repeated before after h entry
    rw [exists_ofTable_iff, exists_ofTable_iff]
    refine ⟨hiff, fun l l' hl hl' => alike_of_winner? ?_⟩
    exact hwin l.rules l'.rules (ofTable_eq_ok_iff.mp hl) (ofTable_eq_ok_iff.mp hl')

/-- A rule for one of two words after a rule for both, with another kind; and a rule-set that is
included again, after rules that win before it. -/
theorem shadowed_dead_words :
    let root : List Definition := [.words ["if", "in"] .keyword, .ruleSet "a"]
    let rest : Table := [⟨"a", [.words ["in"] .operatorWord, .pattern "[a-z]+" (.token .name)]⟩]
    ∃ l l' r s, ofTable (⟨"root", root⟩ :: rest) "root" = .ok l ∧
      ofTable (⟨"root", root ++ [.ruleSet "a"]⟩ :: rest) "root" = .ok l' ∧
      l.rules[0]? = some r ∧ l.rules[1]? = some s ∧ r.Shadows s ∧ s.action ≠ r.action ∧
      l.rules.length = 3 ∧ l'.rules.length = 5 ∧
      (∀ st ∈ (l.stream "in x").states, chosen? st.cursor st.probes ≠ some 1) ∧
      Alike l ⟨l.rules.eraseIdx 1⟩ ∧ Alike l l' ∧
      (l'.tokenize "in x").map Token.kind = [.keyword, .text, .name] := by
  intro root rest
  have hfirst : ((ofTable (⟨"root", root⟩ :: rest) "root").toOption.map fun l =>
      (l.rules.length, l.rules[0]?.bind fun r => l.rules[1]?.map fun s =>
        decide (r.Shadows s ∧ s.action ≠ r.action))) = some (3, some true) := by decide +kernel
  have hsecond : ((ofTable (⟨"root", root ++ [.ruleSet "a"]⟩ :: rest) "root").toOption.map fun l =>
      (l.rules.length, (l.tokenize "in x").map Token.kind)) =
        some (5, [.keyword, .text, .name]) := by decide +kernel
  cases hl : ofTable (⟨"root", root⟩ :: rest) "root" with
  | error e =>
    rw [hl] at hfirst
    cases hfirst
  | ok l =>
    cases hl' : ofTable (⟨"root", root ++ [.ruleSet "a"]⟩ :: rest) "root" with
    | error e =>
      rw [hl'] at hsecond
      cases hsecond
    | ok l' =>
      rw [hl] at hfirst
      rw [hl'] at hsecond
      obtain ⟨hlength, hrules⟩ := Prod.mk.inj (Option.some.inj hfirst)
      obtain ⟨hlength', hkinds⟩ := Prod.mk.inj (Option.some.inj hsecond)
      obtain ⟨r, hr, hrules⟩ := Option.bind_eq_some_iff.mp hrules
      obtain ⟨s, hs, hshadows⟩ := Option.map_eq_some_iff.mp hrules
      obtain ⟨hshadows, haction⟩ := of_decide_eq_true hshadows
      obtain ⟨hdead, hincl⟩ := shadowed_dead
      obtain ⟨hnever, halike⟩ := hdead l.rules 0 1 r s (by decide) hr hs hshadows
      have hincludes : Table.Includes ([] ++ ⟨"root", root⟩ :: rest) root "a" :=
        ⟨"a", by decide, .refl _ _⟩
      exact ⟨l, l', r, s, rfl, rfl, hr, hs, hshadows, haction, hlength, hlength',
        fun st hst => (hnever "in x" st hst).1, halike,
        (hincl [] rest "root" "a" root hincludes "root").2 l l' hl hl', hkinds⟩

end Lexer

end OclScan
