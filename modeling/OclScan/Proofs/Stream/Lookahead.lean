import OclScan.Lexer
import OclScan.Proofs.Scan.Steps

/-!
# What a stream remembers does not show

A probe is sound at a cursor if what it remembers is what a search from there finds, or lies behind
the cursor (`Probe.Sound`). Searching makes a probe sound (`Probe.sound_search`), and it stays so
when the cursor moves on (`Probe.Sound.advance`), so a probe wins as its rule does
(`Probe.Sound.wins?_refresh`). A stream whose probes are sound is described by what it still has to
give: the tokens that have been made and those of a scan from its cursor (`Stream.remaining`).
-/

namespace OclScan

namespace Probe

/-- What the probe remembers is what a search from the cursor finds, or lies behind the cursor. -/
def Sound (c : Cursor) (p : Probe) : Prop :=
  match p.ahead with
  | .unknown => True
  | .nowhere => ∀ n, p.rule.pattern.matchAt? (c.advance n) = none
  | .at start length => c.offset ≤ start →
      ∃ n ≤ c.rest.length, (c.advance n).offset = start ∧
        (∃ m, p.rule.pattern.matchAt? (c.advance n) = some m ∧ m.stop = length) ∧
        ∀ j < n, p.rule.pattern.matchAt? (c.advance j) = none

variable {p : Probe} {c : Cursor}

theorem rule_search (p : Probe) (c : Cursor) : (p.search c).rule = p.rule := by
  rw [search]
  split <;> rfl

theorem rule_refresh (p : Probe) (c : Cursor) : (p.refresh c).rule = p.rule := by
  rw [refresh]
  split
  · rfl
  · split
    · rfl
    · exact rule_search p c
  · exact rule_search p c

theorem sound_search (p : Probe) (c : Cursor) : (p.search c).Sound c := by
  rw [search]
  cases h : p.rule.pattern.find? c with
  | none => exact fun n => Pattern.find?_eq_none h n
  | some m =>
    obtain ⟨n, hn, m', hm', rfl, hj⟩ := Pattern.find?_eq_some h
    have hs : m'.start = 0 := (Pattern.matchAt?_within hm').start_eq
    have e₁ : (m'.shift n).start = n := by rw [Match.shift, hs, Nat.zero_add]
    have e₂ : (m'.shift n).stop - (m'.shift n).start = m'.stop := by
      rw [e₁]
      exact Nat.add_sub_cancel m'.stop n
    exact fun _ => ⟨n, hn, by rw [e₁], ⟨m', hm', e₂.symm⟩, hj⟩

/-- A match that is known and not behind the cursor is the next one from there too: no match starts
between. -/
theorem Sound.advance (h : p.Sound c) {k : Nat} (hk : k ≤ c.rest.length) :
    p.Sound (c.advance k) := by
  simp only [Sound] at h ⊢
  split at h
  · trivial
  · intro n
    rw [← Cursor.advance_add]
    exact h _
  · intro hs
    have hle : c.offset ≤ (c.advance k).offset := by
      rw [Cursor.offset_advance]
      omega
    obtain ⟨n, hn, e, hm, hj⟩ := h (by omega)
    have hkn : k ≤ n := by
      refine Nat.le_of_not_lt fun hlt => ?_
      have := Cursor.offset_advance_lt (c := c) hlt (by omega)
      omega
    obtain ⟨d, rfl⟩ := Nat.exists_eq_add_of_le hkn
    rw [Cursor.advance_add] at e hm
    refine ⟨d, ?_, e, hm, fun j hjd => ?_⟩
    · rw [Cursor.rest_advance, List.length_drop]
      omega
    · rw [← Cursor.advance_add]
      exact hj _ (by omega)

theorem Sound.refresh (h : p.Sound c) : (p.refresh c).Sound c := by
  rw [Probe.refresh]
  split
  · exact h
  · split
    · exact h
    · exact sound_search p c
  · exact sound_search p c

theorem ahead_search (p : Probe) (c : Cursor) : (p.search c).ahead = .nowhere ∨
    ∃ start length, (p.search c).ahead = .at start length ∧ c.offset ≤ start := by
  rw [search]
  split
  · refine .inr ⟨_, _, rfl, ?_⟩
    rw [Cursor.offset_advance]
    omega
  · exact .inl rfl

theorem ahead_refresh (p : Probe) (c : Cursor) : (p.refresh c).ahead = .nowhere ∨
    ∃ start length, (p.refresh c).ahead = .at start length ∧ c.offset ≤ start := by
  rw [refresh]
  split
  · rename_i h
    exact .inl h
  · rename_i start length h
    split
    · rename_i hle
      exact .inr ⟨start, length, h, hle⟩
    · exact ahead_search p c
  · exact ahead_search p c

/-- A sound probe that has been refreshed wins as its rule does. -/
theorem Sound.wins?_refresh (h : p.Sound c) : (p.refresh c).wins? c = p.rule.wins? c := by
  have hs := h.refresh
  rw [← rule_refresh p c]
  rcases ahead_refresh p c with ha | ⟨start, length, ha, hle⟩
  · simp only [Sound, ha] at hs
    have hnone := hs 0
    rw [Cursor.advance_zero] at hnone
    simp only [wins?, ha, Rule.wins?, hnone]
  · simp only [Sound, ha] at hs
    obtain ⟨n, hn, e, ⟨m, hm, hl⟩, hj⟩ := hs hle
    cases n with
    | zero =>
      rw [Cursor.advance_zero] at e hm
      simp only [wins?, ha, Rule.wins?, hm, e, hl, true_and]
      by_cases hpos : 0 < length
      · simp only [hpos, true_and, if_true]
      · simp only [hpos, false_and, if_false]
    | succ n =>
      have hlt := Cursor.offset_advance_lt (c := c) (m := 0) (n := n + 1) (by omega) (by omega)
      rw [Cursor.advance_zero, e] at hlt
      have hnone := hj 0 (by omega)
      rw [Cursor.advance_zero] at hnone
      simp only [wins?, ha, Rule.wins?, hnone, Nat.ne_of_gt hlt, false_and, if_false]

end Probe

/-- Looking for the first rule that wins finds it, and keeps the probes sound. -/
theorem firstWin_eq {c : Cursor} {ps : List Probe} (h : ∀ p ∈ ps, p.Sound c) :
    (firstWin c ps).1 = winner? (ps.map Probe.rule) c ∧
      (firstWin c ps).2.map Probe.rule = ps.map Probe.rule ∧
      ∀ p ∈ (firstWin c ps).2, p.Sound c := by
  induction ps with
  | nil => exact ⟨rfl, rfl, h⟩
  | cons p ps ih =>
    obtain ⟨hp, hps⟩ := List.forall_mem_cons.mp h
    obtain ⟨ih₁, ih₂, ih₃⟩ := ih hps
    have hw := hp.wins?_refresh
    rw [winner?, List.map_cons, List.findSome?_cons, ← hw]
    simp only [firstWin]
    cases (p.refresh c).wins? c with
    | some n =>
      simp only [Option.map_some, List.map_cons, Probe.rule_refresh, true_and]
      exact List.forall_mem_cons.mpr ⟨hp.refresh, hps⟩
    | none =>
      simp only [Option.map_none, List.map_cons, Probe.rule_refresh, ih₂, true_and]
      exact ⟨ih₁, List.forall_mem_cons.mpr ⟨hp.refresh, ih₃⟩⟩

namespace Stream

/-- The rules that the stream tries. -/
def rules (s : Stream) : List Rule := s.probes.map Probe.rule

/-- What the stream remembers is right at its cursor. -/
def Sound (s : Stream) : Prop := ∀ p ∈ s.probes, p.Sound s.cursor

/-- The tokens that the stream has still to give. -/
def remaining (s : Stream) : List Token := s.pending ++ scan s.rules s.cursor

variable {s : Stream}

theorem sound_start (rules : List Rule) (source : List Char) : (start rules source).Sound := by
  intro p hp
  obtain ⟨r, -, rfl⟩ := List.mem_map.mp hp
  trivial

@[simp] theorem rules_start (rules : List Rule) (source : List Char) :
    (start rules source).rules = rules := by
  simp [start, Stream.rules, Function.comp_def]

theorem advance_eq (h : s.Sound) : s.advance =
    ⟨(stepAt s.rules s.cursor).stop, s.pending ++ (stepAt s.rules s.cursor).tokens,
      (firstWin s.cursor s.probes).2⟩ := by
  simp only [advance, (firstWin_eq h).1]
  rfl

theorem rules_advance (h : s.Sound) : s.advance.rules = s.rules := by
  rw [advance_eq h]
  exact (firstWin_eq h).2.1

theorem rest_advance_lt (h : s.Sound) (hr : s.cursor.rest ≠ []) :
    s.advance.cursor.rest.length < s.cursor.rest.length := by
  rw [advance_eq h]
  exact stepAt_stop_lt s.rules hr

theorem Sound.advance (h : s.Sound) (hr : s.cursor.rest ≠ []) : s.advance.Sound := by
  rw [advance_eq h]
  intro p hp
  rw [stepAt_stop]
  exact ((firstWin_eq h).2.2 p hp).advance (stepAt_length_le s.rules hr)

theorem remaining_advance (h : s.Sound) (hr : s.cursor.rest ≠ []) :
    s.advance.remaining = s.remaining := by
  rw [remaining, rules_advance h, remaining, scan_cons s.rules hr, advance_eq h,
    List.append_assoc]

/-- From `s` the token `t` is taken, if there is one, which leads to `s'`. -/
structure Takes (s : Stream) (t : Option Token) (s' : Stream) : Prop where
  token : t = s.remaining.head?
  remaining : s'.remaining = s.remaining.tail
  rules : s'.rules = s.rules
  sound : s'.Sound

theorem takes_pending (h : s.Sound) {t : Token} {ts : List Token} (hp : s.pending = t :: ts) :
    s.Takes (some t) { s with pending := ts } :=
  ⟨by rw [Stream.remaining, hp]; rfl, by rw [Stream.remaining, Stream.remaining, hp]; rfl, rfl, h⟩

theorem remaining_of_end (hp : s.pending = []) (hr : s.cursor.rest = []) : s.remaining = [] := by
  rw [remaining, hp, scan_of_rest_nil s.rules hr, List.append_nil]

/-- By induction on the number of steps that may be made. -/
theorem nextWithin_takes {n : Nat} (h : s.Sound) (hn : s.cursor.rest.length ≤ n) :
    s.Takes (s.nextWithin n).1 (s.nextWithin n).2 := by
  induction n generalizing s with
  | zero =>
    have hr : s.cursor.rest = [] := List.length_eq_zero_iff.mp (Nat.le_zero.mp hn)
    unfold nextWithin
    split
    · exact takes_pending h ‹_›
    · have e := remaining_of_end ‹_› hr
      exact ⟨by rw [e]; rfl, by rw [e]; rfl, rfl, h⟩
  | succ n ih =>
    unfold nextWithin
    split
    · exact takes_pending h ‹_›
    simp only [List.isEmpty_iff]
    split
    · have e := remaining_of_end ‹_› ‹_›
      exact ⟨by rw [e]; rfl, by rw [e]; rfl, rfl, h⟩
    · rename_i hr
      have hlt := rest_advance_lt h hr
      have ht := ih (h.advance hr) (by omega)
      have e := remaining_advance h hr
      exact ⟨e ▸ ht.token, e ▸ ht.remaining, ht.rules.trans (rules_advance h), ht.sound⟩

theorem next_takes (h : s.Sound) : s.Takes s.next.1 s.next.2 := nextWithin_takes h (by omega)

theorem take_eq (h : s.Sound) (n : Nat) : (s.take n).1 = s.remaining.take n := by
  induction n generalizing s with
  | zero => rfl
  | succ n ih =>
    have ht := next_takes h
    unfold take
    split
    · rename_i t s' e
      rw [e] at ht
      obtain ⟨ts, hts⟩ := List.head?_eq_some_iff.mp ht.token.symm
      have hrest := ht.remaining
      rw [hts, List.tail_cons] at hrest
      rw [hts, List.take_succ_cons, ← hrest, ← ih ht.sound]
    · rename_i s' e
      rw [e] at ht
      rw [List.head?_eq_none_iff.mp ht.token.symm, List.take_nil]

/-- By induction on the number of steps that may be made. -/
theorem drainWithin_eq {n : Nat} (h : s.Sound) (hn : s.cursor.rest.length ≤ n) :
    (s.drainWithin n).1 = s.remaining := by
  induction n generalizing s with
  | zero =>
    have hr : s.cursor.rest = [] := List.length_eq_zero_iff.mp (Nat.le_zero.mp hn)
    rw [remaining, scan_of_rest_nil s.rules hr, List.append_nil]
    rfl
  | succ n ih =>
    by_cases hr : s.cursor.rest = []
    · rw [remaining, scan_of_rest_nil s.rules hr, List.append_nil]
      simp only [drainWithin, hr, List.isEmpty_nil, if_true]
    have h' : ({ s with pending := [] } : Stream).Sound := h
    have hlt := rest_advance_lt h' hr
    simp only [drainWithin, List.isEmpty_iff, hr, if_false]
    rw [ih (h'.advance hr) (by simp only at hlt ⊢; omega), remaining_advance h' hr]
    rfl

theorem toList_eq (h : s.Sound) : s.toList = s.remaining := drainWithin_eq h (by omega)

/-- The stream after `n` tokens have been asked for. -/
def after (s : Stream) : Nat → Stream
  | 0 => s
  | n + 1 => after s.next.2 n

theorem Sound.after (h : s.Sound) (n : Nat) :
    (s.after n).Sound ∧ (s.after n).rules = s.rules := by
  induction n generalizing s with
  | zero => exact ⟨h, rfl⟩
  | succ n ih =>
    have ht := next_takes h
    obtain ⟨ih₁, ih₂⟩ := ih ht.sound
    exact ⟨ih₁, ih₂.trans ht.rules⟩

end Stream

theorem Lexer.tokenize_eq_scan (rules : List Rule) (source : String) :
    (Lexer.mk rules).tokenize source = scan rules (.start source.toList) := by
  rw [tokenize, stream, Stream.toList_eq (Stream.sound_start _ _), Stream.remaining,
    Stream.rules_start]
  rfl

/-- However many tokens have been taken, those to come are the ones that have been made and those
of a scan from the cursor, which remembers nothing; and each rule wins by what is remembered, once
brought up to date, exactly as it wins by matching at the cursor. -/
theorem Lexer.remaining_after (l : Lexer) (source : String) (n : Nat) :
    let s := (l.stream source).after n
    s.toList = s.pending ++ scan l.rules s.cursor ∧
      (∀ k, (s.take k).1 = (s.pending ++ scan l.rules s.cursor).take k) ∧
      s.next.1 = (s.pending ++ scan l.rules s.cursor).head? ∧
      s.probes.map Probe.rule = l.rules ∧
      ∀ p ∈ s.probes, (p.refresh s.cursor).wins? s.cursor = p.rule.wins? s.cursor := by
  intro s
  have hs : s.Sound := ((Stream.sound_start l.rules source.toList).after n).1
  have hr : s.rules = l.rules :=
    ((Stream.sound_start l.rules source.toList).after n).2.trans (Stream.rules_start ..)
  have e : s.remaining = s.pending ++ scan l.rules s.cursor := by
    rw [Stream.remaining, hr]
  rw [← e]
  exact ⟨Stream.toList_eq hs, Stream.take_eq hs, (Stream.next_takes hs).token, hr,
    fun p hp => (hs p hp).wins?_refresh⟩

end OclScan
