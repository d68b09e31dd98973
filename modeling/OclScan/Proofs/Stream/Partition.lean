import OclScan.Proofs.Pattern.Groups
import OclScan.Proofs.Resolve.Resolution
import OclScan.Proofs.Scan.Parts
import OclScan.Proofs.Stream.Lookahead

/-!
# The steps of a stream

A stream makes the steps of a scan (`Stream.statesUpTo_step`), whatever it remembers. So for every
table that resolves the steps cut the source into parts, and each yields tokens of its part only
(`Lexer.ofTable_partition`). What is remembered when a rule wins is the match that a search from the
cursor finds again for the groups (`Stream.Proper.winner`).
-/

namespace OclScan

namespace Probe

variable {p : Probe} {c : Cursor} {n : Nat}

theorem ahead_of_wins? (h : p.wins? c = some n) : p.ahead = .at c.offset n := by
  rw [wins?] at h
  split at h
  · rename_i start length ha
    simp only [Option.ite_none_right_eq_some, Option.some.injEq] at h
    obtain ⟨⟨rfl, -⟩, -, rfl⟩ := h
    exact ha
  · cases h

/-- A match at the cursor that is remembered ends by the end of the text. -/
theorem Sound.length_le (h : p.Sound c) (ha : (p.refresh c).ahead = .at c.offset n) :
    n ≤ c.rest.length := by
  have hs := h.refresh
  simp only [Sound, ha] at hs
  obtain ⟨k, hk, -, ⟨m, hm, rfl⟩, -⟩ := hs (Nat.le_refl _)
  have hle := (Pattern.matchAt?_within hm).stop_le
  rw [Cursor.rest_advance, List.length_drop] at hle
  omega

end Probe

/-- The rule that wins is remembered with the match by which it wins. -/
theorem firstWin_eq_some {c : Cursor} {ps : List Probe} {r : Rule} {n : Nat}
    (h : (firstWin c ps).1 = some (r, n)) :
    ∃ p ∈ (firstWin c ps).2, p.rule = r ∧ p.ahead = .at c.offset n := by
  induction ps with
  | nil => cases h
  | cons p ps ih =>
    simp only [firstWin] at h ⊢
    cases hw : (p.refresh c).wins? c with
    | some k =>
      rw [hw] at h
      cases h
      exact ⟨_, List.mem_cons_self, rfl, Probe.ahead_of_wins? hw⟩
    | none =>
      rw [hw] at h
      obtain ⟨q, hq, hrule, hahead⟩ := ih h
      exact ⟨q, List.mem_cons_of_mem _ hq, hrule, hahead⟩

namespace Stream

/-- The step that the stream makes next. -/
def step (s : Stream) : Step := .make s.cursor (firstWin s.cursor s.probes).1

/-- The states in which the stream makes its next `n` steps, or those to the end of the source. -/
def statesUpTo : Nat → Stream → List Stream
  | 0, _ => []
  | n + 1, s => if s.cursor.rest.isEmpty then [] else s :: statesUpTo n s.advance

/-- The states in which the stream makes its steps to the end of the source. -/
def states (s : Stream) : List Stream := s.statesUpTo s.cursor.rest.length

variable {s : Stream}

theorem step_eq (h : s.Sound) : s.step = stepAt s.rules s.cursor :=
  congrArg (Step.make s.cursor) (firstWin_eq h).1

/-- By induction on the number of steps, as the next. -/
theorem statesUpTo_step (h : s.Sound) (n : Nat) :
    (s.statesUpTo n).map step = stepsUpTo s.rules n s.cursor := by
  induction n generalizing s with
  | zero => rfl
  | succ n ih =>
    rw [statesUpTo, stepsUpTo]
    split
    · rfl
    · rename_i hr
      rw [List.isEmpty_iff] at hr
      rw [List.map_cons, ih (h.advance hr), rules_advance h, advance_eq h, step_eq h]

theorem mem_statesUpTo (h : s.Sound) {n : Nat} : ∀ s' ∈ s.statesUpTo n,
    s'.Sound ∧ s'.rules = s.rules ∧ s'.cursor.rest ≠ [] := by
  induction n generalizing s with
  | zero => exact nofun
  | succ n ih =>
    rw [statesUpTo]
    split
    · exact nofun
    · rename_i hr
      rw [List.isEmpty_iff] at hr
      refine List.forall_mem_cons.mpr ⟨⟨h, rfl, hr⟩, fun s' hs' => ?_⟩
      obtain ⟨hsound, hrules, hne⟩ := ih (h.advance hr) s' hs'
      exact ⟨hsound, hrules.trans (rules_advance h), hne⟩

theorem states_step (h : s.Sound) : s.states.map step = steps s.rules s.cursor :=
  statesUpTo_step h _

/-- The tokens that remain are those that have been made and those of the steps. -/
theorem remaining_eq (h : s.Sound) :
    s.remaining = s.pending ++ s.states.flatMap fun s => s.step.tokens := by
  rw [remaining, scan, ← states_step h, List.flatMap_map]

/-- What holds of the next step of a stream of `source`. -/
structure Proper (source : String) (s : Stream) : Prop where
  /-- A match at the cursor, whose text is compared with words, ends by the end of the source. -/
  compared : ∀ p ∈ s.probes, ∀ n, (p.refresh s.cursor).ahead = .at s.cursor.offset n →
    n ≤ s.cursor.rest.length
  /-- The match by which a rule is chosen is the one that a search for the groups finds. The groups
  start before they end and lie within it. -/
  winner : ∀ r n, (firstWin s.cursor s.probes).1 = some (r, n) →
    (∃ p ∈ (firstWin s.cursor s.probes).2, p.rule = r ∧ p.ahead = .at s.cursor.offset n) ∧
      ∃ m, r.pattern.find? s.cursor = some m ∧ r.pattern.matchAt? s.cursor = some m ∧
        m.start = 0 ∧ m.stop = n ∧
        ∀ g first last, m.group? g = some (first, last) → first ≤ last ∧ last ≤ n
  /-- Every token is a part of the source, and lies within what the step reads. -/
  tokens : ∀ t ∈ s.step.tokens,
    t.PartOf source 0 ∧ s.step.whole.start ≤ t.start ∧ t.stop ≤ s.step.whole.stop
  /-- There is no token if all groups of the match are unset or empty. -/
  silent : s.step.tokens = [] ↔ ∃ r n kinds m,
    (firstWin s.cursor s.probes).1 = some (r, n) ∧ r.action = .byGroups kinds ∧
      r.pattern.matchAt? s.cursor = some m ∧ ∀ g, 1 ≤ g → g ≤ r.pattern.groups →
        ∀ first last, m.group? g = some (first, last) → first = last

variable {t : Table} {entry : String} {source : String}

/-- A rule that wins has its match at the cursor, and its groups in order. -/
theorem winner_of_sound (h : s.Sound) (ht : t.resolve entry = .ok s.rules) {r : Rule} {n : Nat}
    (hw : (firstWin s.cursor s.probes).1 = some (r, n)) :
    r ∈ s.rules ∧ ∃ m, r.pattern.matchAt? s.cursor = some m ∧ m.start = 0 ∧ m.stop = n ∧
      ∀ g first last, m.group? g = some (first, last) → first ≤ last ∧ last ≤ n := by
  rw [(firstWin_eq h).1] at hw
  obtain ⟨hmem, hwin⟩ := winner?_eq_some hw
  obtain ⟨m, hm, -, -, rfl⟩ := Rule.wins?_eq_some_iff.mp hwin
  obtain ⟨text, hread⟩ := Table.read_of_resolve ht hmem
  have hwithin := Pattern.matchAt?_within hm
  exact ⟨hmem, m, hm, hwithin.start_eq, rfl, fun g first last hg =>
    ⟨Pattern.group?_le hread hm hg, (hwithin.group? hg).2⟩⟩

theorem step_tokens_eq_nil_iff (h : s.Sound) (ht : t.resolve entry = .ok s.rules) :
    s.step.tokens = [] ↔ ∃ r n kinds m, (firstWin s.cursor s.probes).1 = some (r, n) ∧
      r.action = .byGroups kinds ∧ r.pattern.matchAt? s.cursor = some m ∧
      ∀ g, 1 ≤ g → g ≤ r.pattern.groups →
        ∀ first last, m.group? g = some (first, last) → first = last := by
  have hwin := (firstWin_eq h).1
  rw [step_eq h, stepAt_tokens_eq_nil_iff]
  constructor
  · rintro ⟨r, n, hw, hnil⟩
    obtain ⟨kinds, hk, hempty⟩ := Rule.tokens_eq_nil_iff.mp hnil
    obtain ⟨hmem, m, hm, -, -, hgroups⟩ := winner_of_sound h ht (hwin.trans hw)
    refine ⟨r, n, kinds, m, hwin.trans hw, hk, hm, fun g hpos hle first last hg => ?_⟩
    rw [Table.groups_of_resolve ht hmem hk] at hle
    have hlast := hempty m hm (g - 1) (by omega) first last (by rwa [Nat.sub_add_cancel hpos])
    have hfirst := (hgroups g first last hg).1
    omega
  · rintro ⟨r, n, kinds, m, hw, hk, hm, hempty⟩
    obtain ⟨hmem, -⟩ := winner_of_sound h ht hw
    refine ⟨r, n, hwin.symm.trans hw, Rule.tokens_eq_nil_iff.mpr ⟨kinds, hk, ?_⟩⟩
    intro m' hm' g hg first last hgroup
    cases hm.symm.trans hm'
    have hle : g + 1 ≤ r.pattern.groups := by
      rw [Table.groups_of_resolve ht hmem hk]
      exact hg
    exact Nat.le_of_eq (hempty (g + 1) (Nat.succ_pos g) hle first last hgroup).symm

theorem proper_of_sound (h : s.Sound) (hc : s.cursor.rest ≠ [])
    (ht : t.resolve entry = .ok s.rules)
    (hwhole : ∃ before after, source = before ++ s.step.whole.text ++ after ∧
      s.step.whole.start = 0 + before.utf8ByteSize) :
    s.Proper source where
  compared p hp n ha := (h p hp).length_le ha
  winner r n hw := by
    obtain ⟨-, m, hm, hstart, hstop, hgroups⟩ := winner_of_sound h ht hw
    exact ⟨firstWin_eq_some hw, m, Pattern.find?_of_matchAt? hm, hm, hstart, hstop, hgroups⟩
  tokens t ht := by
    rw [step_eq h] at ht hwhole ⊢
    have hpart := stepAt_partOf hc t ht
    exact ⟨hpart.trans hwhole, hpart.le_start, hpart.stop_le⟩
  silent := step_tokens_eq_nil_iff h ht

variable {rules : List Rule}

/-- The steps of a stream read the source, one after the other. -/
theorem covers_states (rules : List Rule) (source : String) :
    Covers 0 ((start rules source.toList).states.map fun s => s.step.whole) source.toList := by
  have hsteps := states_step (sound_start rules source.toList)
  have hcovers := covers_steps rules (Cursor.start source.toList)
  rw [rules_start] at hsteps
  rw [show steps rules (Cursor.start source.toList) = _ from hsteps.symm, List.map_map] at hcovers
  exact hcovers

theorem proper_of_mem_states (ht : t.resolve entry = .ok rules) (source : String) :
    ∀ s ∈ (start rules source.toList).states, s.Proper source := by
  intro s hmem
  obtain ⟨hsound, hrules, hne⟩ := mem_statesUpTo (sound_start rules source.toList) s hmem
  rw [rules_start] at hrules
  obtain ⟨before, after, hslice, hstart, -⟩ :=
    (covers_states rules source).tiles.slice _ (List.mem_map_of_mem hmem)
  rw [← hrules] at ht
  exact proper_of_sound hsound hne ht ⟨before, after, hslice, by rw [← hstart, Nat.zero_add]⟩

/-- Tokens of different steps do not overlap, and come in the order of the steps. -/
theorem pairwise_states (ht : t.resolve entry = .ok rules) (source : String) :
    (start rules source.toList).states.Pairwise fun s s' =>
      ∀ x ∈ s.step.tokens, ∀ y ∈ s'.step.tokens, x.stop ≤ y.start := by
  have hproper := proper_of_mem_states ht source
  refine (List.pairwise_map.mp (covers_states rules source).pairwise).imp_of_mem ?_
  intro s s' hmem hmem' hle x hx y hy
  obtain ⟨-, -, hstop⟩ := (hproper s hmem).tokens x hx
  obtain ⟨-, hstart, -⟩ := (hproper s' hmem').tokens y hy
  exact Nat.le_trans hstop (Nat.le_trans hle hstart)

end Stream

/-- Where no rule makes tokens by groups, the tokens cut the source. -/
theorem Lexer.tiles_of_token {rules : List Rule} (h : ∀ r ∈ rules, ∃ kind, r.action = .token kind)
    (source : String) : Tiles source ((Lexer.mk rules).tokenize source) := by
  have hcovering : ∀ r ∈ rules, r.Covering := fun r hr =>
    have ⟨_, hk⟩ := h r hr
    Rule.covering_of_token hk
  rw [tokenize_eq_scan]
  exact (covers_scan hcovering (Cursor.start source.toList)).tiles

/-- The steps cut the source into parts that are not empty, one after the other; each makes its
tokens of its part; and the stream gives these tokens, in the order of the steps, and no others.
Where no rule makes tokens by groups, the tokens cut the source themselves. -/
theorem Lexer.ofTable_partition {t : Table} {entry : String} {l : Lexer}
    (h : Lexer.ofTable t entry = .ok l) (source : String) :
    let states := (l.stream source).states
    Tiles source (states.map fun s => s.step.whole) ∧
      (∀ s ∈ states, s.Proper source) ∧
      (states.Pairwise fun s s' =>
        ∀ x ∈ s.step.tokens, ∀ y ∈ s'.step.tokens, x.stop ≤ y.start) ∧
      l.tokenize source = (states.flatMap fun s => s.step.tokens) ∧
      (∀ k, ((l.stream source).take k).1 = (states.flatMap fun s => s.step.tokens).take k) ∧
      ((∀ set ∈ t, ∀ text kinds, .pattern text (.byGroups kinds) ∉ set.rules) →
        Tiles source (l.tokenize source)) := by
  intro states
  obtain ⟨rules, ht, rfl⟩ := map_eq_ok h
  have hs := Stream.sound_start rules source.toList
  have htokens : (Stream.start rules source.toList).remaining =
      states.flatMap fun s => s.step.tokens := Stream.remaining_eq hs
  refine ⟨(Stream.covers_states rules source).tiles, Stream.proper_of_mem_states ht source,
    Stream.pairwise_states ht source, (Stream.toList_eq hs).trans htokens, fun k => ?_, ?_⟩
  · rw [← htokens]
    exact Stream.take_eq hs k
  · exact fun hsingle => tiles_of_token (fun r hr => Table.token_of_resolve ht hsingle hr) source

/-- Groups that are nested, repeated or unset make tokens that overlap, and an empty group makes
none, though its step is made. -/
theorem Lexer.ofTable_partition_groups :
    let t : Table := [⟨"root", [.pattern "((a)(b)?)+" (.byGroups [.name, .text, .operator]),
      .pattern "()!" (.byGroups [.text])]⟩]
    ∃ l, Lexer.ofTable t "root" = .ok l ∧
      ((l.stream "ab!a?").states.map fun s => s.step.tokens.map Token.text) =
        [["ab", "a", "b"], [], ["a", "a"], ["?"]] ∧
      Tiles "ab!a?" ((l.stream "ab!a?").states.map fun s => s.step.whole) ∧
      ∀ s ∈ (l.stream "ab!a?").states, s.Proper "ab!a?" := by
  intro t
  have hsteps : ((Lexer.ofTable t "root").toOption.map fun l =>
      (l.stream "ab!a?").states.map fun s => s.step.tokens.map Token.text) =
        some [["ab", "a", "b"], [], ["a", "a"], ["?"]] := by decide +kernel
  cases h : Lexer.ofTable t "root" with
  | error e =>
    rw [h] at hsteps
    cases hsteps
  | ok l =>
    rw [h] at hsteps
    obtain ⟨htiles, hproper, -⟩ := Lexer.ofTable_partition h "ab!a?"
    exact ⟨l, rfl, Option.some.inj hsteps, htiles, hproper⟩

end OclScan
