import OclScan.Proofs.Grammar.Emission

/-!
# Comments

A hash sign starts a comment up to the end of the line (`Grammar.stepAt_hash`), and two slashes one
that takes the line feed with it (`Grammar.stepAt_lineComment`). A slash and a star start a comment
if a star and a slash follow, which then end it where they stand first
(`Grammar.stepAt_blockComment`). Any other slash is left to the rule for operators
(`Grammar.winner?_slash`).
-/

namespace OclScan

/-- What ends a comment over several lines. -/
def commentEnd : List Char := ['*', '/']

/-- A comment starts with a slash before `t`. -/
def OpensComment (t : List Char) : Prop :=
  t.head? = some '/' ∨ t.head? = some '*' ∧ commentEnd <:+: t.drop 1

/-- The number of characters in a line, its line feed included. -/
def lineLength (t : List Char) : Nat :=
  Grammar.inLine.run t + (CharSet.char '\n').next (t.drop (Grammar.inLine.run t))

namespace Grammar

open Plan

variable {c : Cursor} {t body after : List Char}

theorem matchAt?_hashComment (b : Option Char) (t : List Char) :
    hashComment.matchAt? 0 b ('#' :: t) = some ⟨0, inLine.run t + 1, []⟩ := by
  have hhash : (CharSet.char '#').contains '#' = true := by simp
  rw [matchAt?_eq_first rfl, List.replicate_zero, hashComment, Plan.first, first_set_of_mem hhash,
    first_loop_final, Nat.zero_add, Nat.add_comm]

theorem filter_hash : ∃ text, rules.filter (fun r => r.pattern.plan.starts '#') =
    [tokenRule text hashComment .comment root] := ⟨_, rfl⟩

/-- The step at a hash sign. -/
theorem stepAt_hash (hc : c.rest = '#' :: t) :
    stepAt rules c = .single c (inLine.run t + 1) .comment := by
  obtain ⟨text, hfilter⟩ := filter_hash
  have hm : hashComment.matchAt? 0 c.before c.rest = some ⟨0, inLine.run t + 1, []⟩ := by
    rw [hc, matchAt?_hashComment]
  have hwin := winner?_filter plain hc
  rw [hfilter, winner?_cons_of_some (wins?_tokenRule hm (Nat.succ_pos _))] at hwin
  exact stepAt_eq_single hwin rfl

/-! ## After a slash -/

/-- What is read after two characters that have to be there. -/
theorem matchAt?_pair {p : Plan} (hp : p.Steady = true) (x y : Char) (b : Option Char)
    (t : List Char) : (seq (.set 0 (.char x)) (seq (.set 1 (.char y)) p)).matchAt? 0 b (x :: t) =
      if t.head? = some y then p.first (final 0) [] ⟨some y, 2, t.drop 1⟩ else none := by
  have hx : (CharSet.char x).contains x = true := by simp
  rw [matchAt?_eq_first (by exact hp), List.replicate_zero, Plan.first, first_set_of_mem hx]
  cases t with
  | nil => rfl
  | cons z t =>
    by_cases hz : z = y
    · simp [Plan.first, hz]
    · simp [Plan.first, hz]

/-- The rest of the line is read whatever it is. -/
theorem matchAt?_lineComment (b : Option Char) (t : List Char) :
    lineComment.matchAt? 0 b ('/' :: t) =
      if t.head? = some '/' then some ⟨0, 2 + lineLength (t.drop 1), []⟩ else none := by
  have hline (x : Place) : (loop 2 true (.set 3 inLine)).first
      ((maybe 4 (.set 5 (.char '\n'))).first (final 0)) [] x =
        some ⟨0, x.index + lineLength x.rest, []⟩ := by
    rw [first_run_some 2 3 inLine (first_maybe_final 4 5 _ []) x, Place.rest_skip,
      Place.index_skip (inLine.run_le x.rest), Nat.add_assoc]
    rfl
  exact (matchAt?_pair rfl '/' '/' b t).trans (by rw [Plan.first, hline])

theorem matchAt?_blockComment (b : Option Char) (t : List Char) :
    blockComment.matchAt? 0 b ('/' :: t) =
      if t.head? = some '*' then (findWord? commentEnd (t.drop 1)).map fun j => ⟨0, j + 4, []⟩
      else none := by
  have hlast (y : Place) : (seq (.set 4 (.char '*')) (.set 5 (.char '/'))).first (final 0) [] y =
      if commentEnd <+: y.rest then some ⟨0, (y.skip 2).index, []⟩ else none :=
    (Spells.char 4 '*').seq (Spells.char 5 '/') _ _ y
  have hbody (u : List Char) : (loop 2 false (.set 3 .all)).first
      ((seq (.set 4 (.char '*')) (.set 5 (.char '/'))).first (final 0)) [] ⟨some '*', 2, u⟩ =
        (findWord? commentEnd u).map fun j => ⟨0, j + 4, []⟩ := by
    refine (first_upto 2 3 (List.cons_ne_nil '*' ['/']) hlast _).trans ?_
    change (findWord? commentEnd u).map _ = _
    cases hj : findWord? commentEnd u with
    | none => rfl
    | some j =>
      have hlen := (findWord?_eq_some hj).1.length_le
      simp only [List.length_drop, commentEnd, List.length_cons, List.length_nil] at hlen
      have hindex : (((Place.mk (some '*') 2 u).skip j).skip 2).index = j + 4 := by
        rw [← Place.skip_add (show j ≤ u.length by omega),
          Place.index_skip (show j + 2 ≤ u.length by omega)]
        simp only
        omega
      rw [Option.map_some, Option.map_some, hindex]
  exact (matchAt?_pair rfl '/' '*' b t).trans (by rw [Plan.first, hbody])

theorem filter_slash : ∃ text₁ text₂ text₃, rules.filter (fun r => r.pattern.plan.starts '/') =
    [tokenRule text₁ lineComment .commentSingle root,
      tokenRule text₂ blockComment .commentMultiline root,
      tokenRule text₃ operator .operator root] := ⟨_, _, _, rfl⟩

/-- The step at two slashes. -/
theorem stepAt_lineComment (hc : c.rest = '/' :: '/' :: t) :
    stepAt rules c = .single c (2 + lineLength t) .commentSingle := by
  obtain ⟨_, _, _, hfilter⟩ := filter_slash
  have hm : lineComment.matchAt? 0 c.before c.rest = some ⟨0, 2 + lineLength t, []⟩ := by
    rw [hc, matchAt?_lineComment, if_pos List.head?_cons, List.drop_succ_cons, List.drop_zero]
  have hwin := winner?_filter plain hc
  rw [hfilter, winner?_cons_of_some (wins?_tokenRule hm (by omega))] at hwin
  exact stepAt_eq_single hwin rfl

theorem wins?_lineComment_eq_none {text : String} {k : Kind} {origin : String}
    (hc : c.rest = '/' :: t) (h : t.head? ≠ some '/') :
    (tokenRule text lineComment k origin).wins? c = none :=
  wins?_tokenRule_eq_none (by rw [hc, matchAt?_lineComment, if_neg h])

/-- The step at a slash and a star, where a star and a slash follow. -/
theorem stepAt_blockComment (hc : c.rest = '/' :: '*' :: t) (hup : UpTo commentEnd t body after) :
    stepAt rules c = .single c (body.length + 4) .commentMultiline := by
  obtain ⟨_, _, _, hfilter⟩ := filter_slash
  have hm : blockComment.matchAt? 0 c.before c.rest = some ⟨0, body.length + 4, []⟩ := by
    rw [hc, matchAt?_blockComment, if_pos List.head?_cons, List.drop_succ_cons, List.drop_zero,
      hup.findWord?_eq, Option.map_some]
  have hline : ('*' :: t).head? ≠ some '/' := by simp
  have hwin := winner?_filter plain hc
  rw [hfilter, winner?_cons_of_none (wins?_lineComment_eq_none hc hline),
    winner?_cons_of_some (wins?_tokenRule hm (by omega))] at hwin
  exact stepAt_eq_single hwin rfl

/-- A slash that starts no comment is left to the rule for operators. -/
theorem winner?_slash (hc : c.rest = '/' :: t) (h : ¬ OpensComment t) :
    ∃ text, winner? rules c = winner? [tokenRule text operator .operator root] c := by
  obtain ⟨_, _, text, hfilter⟩ := filter_slash
  obtain ⟨hline, hblock⟩ := not_or.mp h
  have hnone : blockComment.matchAt? 0 c.before c.rest = none := by
    rw [hc, matchAt?_blockComment]
    split
    · rename_i hstar
      rw [Option.map_eq_none_iff, ← Option.not_isSome_iff_eq_none, findWord?_isSome_iff]
      exact fun hend => hblock ⟨hstar, hend⟩
    · rfl
  refine ⟨text, ?_⟩
  rw [winner?_filter plain hc, hfilter, winner?_cons_of_none (wins?_lineComment_eq_none hc hline),
    winner?_cons_of_none (wins?_tokenRule_eq_none hnone)]

end Grammar

end OclScan
