import OclScan.Proofs.Pattern.Cut
import OclScan.Proofs.Scan.Steps

/-!
# Which rule wins

The first rule of a list that wins at a cursor. Rules that cannot start with the next character can
be left out (`winner?_filter`). In a text cut off after the match, a rule that did not win wins only
if it had a longer match (`Rule.wins?_cutAt_eq_none`), and the winner wins as before
(`Rule.wins?_cutAt`).
-/

namespace OclScan

variable {c : Cursor} {n : Nat} {r : Rule} {rules : List Rule}

namespace Rule

theorem wins?_eq_none_iff : r.wins? c = none ↔
    ∀ m, r.pattern.matchAt? c = some m → 0 < m.stop → r.accepts (c.take m.stop) = false := by
  simp only [wins?]
  cases r.pattern.matchAt? c with
  | none => simp
  | some m => simp

/-- A rule without words that does not win matches nothing but the empty text. -/
theorem stop_of_wins?_eq_none (hw : r.words = none) (h : r.wins? c = none) {m : Match}
    (hm : r.pattern.matchAt? c = some m) : m.stop = 0 := by
  refine Nat.eq_zero_of_not_pos fun hpos => ?_
  have := wins?_eq_none_iff.mp h m hm hpos
  rw [accepts, hw] at this
  cases this

/-- Each round of a loop reads, and every match reads. -/
structure Plain (r : Rule) : Prop where
  steady : r.pattern.plan.Steady = true
  reads : r.pattern.plan.Reads = true

/-- A rule matches only where its plan can start with the next character. -/
theorem Plain.matchAt?_eq_none (hr : r.Plain) {x : Char} {t : List Char} (hc : c.rest = x :: t)
    (hx : r.pattern.plan.starts x = false) : r.pattern.matchAt? c = none := by
  rw [Pattern.matchAt?, hc]
  exact Plan.matchAt?_of_not_starts hr.steady hr.reads hx _ _ _

theorem Plain.wins?_eq_none (hr : r.Plain) {x : Char} {t : List Char} (hc : c.rest = x :: t)
    (hx : r.pattern.plan.starts x = false) : r.wins? c = none := by
  rw [wins?, hr.matchAt?_eq_none hc hx]

/-- A rule that wins can start with the next character. -/
theorem Plain.exists_starts (hr : r.Plain) (h : r.wins? c = some n) :
    ∃ x t, c.rest = x :: t ∧ r.pattern.plan.starts x = true := by
  have hpos := wins?_pos h
  have hle := wins?_le h
  cases hc : c.rest with
  | nil =>
    rw [hc, List.length_nil] at hle
    omega
  | cons x t =>
    refine ⟨x, t, rfl, ?_⟩
    rw [← Bool.not_eq_false]
    intro hx
    rw [hr.wins?_eq_none hc hx] at h
    cases h

end Rule

/-! ## The first rule that wins -/

theorem winner?_cons (r : Rule) (rules : List Rule) (c : Cursor) :
    winner? (r :: rules) c = ((r.wins? c).map (r, ·)).or (winner? rules c) := by
  rw [winner?, List.findSome?_cons, winner?]
  cases (r.wins? c).map (r, ·) <;> rfl

theorem winner?_cons_of_none (h : r.wins? c = none) : winner? (r :: rules) c = winner? rules c := by
  rw [winner?_cons, h]
  rfl

theorem winner?_cons_of_some (h : r.wins? c = some n) : winner? (r :: rules) c = some (r, n) := by
  rw [winner?_cons, h]
  rfl

theorem winner?_append (rs ss : List Rule) (c : Cursor) :
    winner? (rs ++ ss) c = (winner? rs c).or (winner? ss c) := by
  rw [winner?, List.findSome?_append, winner?, winner?]

theorem winner?_append_of_none {rs ss : List Rule} (h : ∀ r ∈ rs, r.wins? c = none) :
    winner? (rs ++ ss) c = winner? ss c := by
  rw [winner?_append, winner?_eq_none_iff.mpr h, Option.none_or]

/-- The winner stands after rules that do not win. -/
theorem winner?_eq_some_iff : winner? rules c = some (r, n) ↔
    ∃ rs ss, rules = rs ++ r :: ss ∧ r.wins? c = some n ∧ ∀ s ∈ rs, s.wins? c = none := by
  rw [winner?, List.findSome?_eq_some_iff]
  constructor
  · rintro ⟨rs, s, ss, rfl, hs, h⟩
    obtain ⟨m, hm, e⟩ := Option.map_eq_some_iff.mp hs
    cases e
    exact ⟨rs, ss, rfl, hm, fun s hs => Option.map_eq_none_iff.mp (h s hs)⟩
  · rintro ⟨rs, ss, rfl, hr, h⟩
    exact ⟨rs, r, ss, rfl, by rw [hr]; rfl, fun s hs => Option.map_eq_none_iff.mpr (h s hs)⟩

/-- Rules that cannot start with the next character can be left out. -/
theorem winner?_filter (hr : ∀ r ∈ rules, r.Plain) {x : Char} {t : List Char}
    (hc : c.rest = x :: t) :
    winner? rules c = winner? (rules.filter fun r => r.pattern.plan.starts x) c := by
  induction rules with
  | nil => rfl
  | cons r rs ih =>
    obtain ⟨hr, hrs⟩ := List.forall_mem_cons.mp hr
    by_cases hx : r.pattern.plan.starts x = true
    · rw [List.filter_cons, if_pos hx, winner?_cons, winner?_cons, ih hrs]
    · have hnone := hr.wins?_eq_none hc (Bool.eq_false_iff.mpr hx)
      rw [List.filter_cons, if_neg hx, winner?_cons_of_none hnone, ih hrs]

/-- A step over all of the text is the whole scan. -/
theorem scan_of_winner? (hc : c.rest ≠ []) (h : winner? rules c = some (r, c.rest.length)) :
    scan rules c = r.tokens c c.rest.length := by
  have hstop : (stepAt rules c).stop.rest = [] := by
    rw [stepAt_stop, Cursor.rest_advance, stepAt, h]
    exact List.drop_length
  rw [scan_cons rules hc, scan_of_rest_nil rules hstop, List.append_nil, stepAt, h, Step.make]

theorem scan_singleton {x : Char} (hc : c.rest = [x]) (h : winner? rules c = none) :
    scan rules c = [⟨.text, c.take 1, c.offset⟩] := by
  have hstop : (stepAt rules c).stop.rest = [] := by
    rw [stepAt_stop, Cursor.rest_advance, stepAt, h, hc]
    rfl
  rw [scan_cons rules (by rw [hc]; exact List.cons_ne_nil _ _), scan_of_rest_nil rules hstop,
    List.append_nil, stepAt, h, Step.make]

/-! ## Texts that are cut -/

/-- `c'` stands before the next `n` characters of `c`, and no more. -/
structure Cursor.CutAt (A : List Assertion) (n : Nat) (c c' : Cursor) : Prop where
  rest : c'.rest = c.rest.take n
  before : AgreeOn A c.before c'.before

theorem Cursor.CutAt.take {A : List Assertion} {c' : Cursor} {m : Nat} (h : c.CutAt A n c')
    (hm : m ≤ n) : c'.take m = c.take m := by
  rw [Cursor.take, h.rest, List.take_take, Nat.min_eq_left hm, Cursor.take]

/-- The start of the text that consists of the next `n` characters only. -/
def Cursor.piece (c : Cursor) (n : Nat) : Cursor := .start (c.rest.take n)

@[simp] theorem Cursor.rest_piece (c : Cursor) (n : Nat) : (c.piece n).rest = c.rest.take n := rfl

theorem Cursor.length_piece (h : n ≤ c.rest.length) : (c.piece n).rest.length = n := by
  rw [rest_piece, List.length_take]
  omega

theorem Cursor.take_piece {m : Nat} (h : m ≤ n) : (c.piece n).take m = c.take m := by
  rw [take, rest_piece, List.take_take, Nat.min_eq_left h, take]

namespace Rule

variable {c' : Cursor} (hs : r.pattern.plan.Steady = true)
  (hc : c.CutAt r.pattern.plan.conditions n c')

include hs hc

theorem matchAt?_cutAt : CutTo n (r.pattern.matchAt? c) (r.pattern.matchAt? c') := by
  rw [Pattern.matchAt?, Pattern.matchAt?, hc.rest]
  exact Plan.matchAt?_cut hs _ hc.before c.rest n

/-- What wins before the cut wins with the same characters. -/
theorem wins?_cutAt {k : Nat} (h : r.wins? c = some k) (hk : k ≤ n) : r.wins? c' = some k := by
  obtain ⟨m, hm, hpos, hacc, rfl⟩ := wins?_eq_some_iff.mp h
  refine wins?_eq_some_iff.mpr ⟨m, (matchAt?_cutAt hs hc).some m hm hk, hpos, ?_, rfl⟩
  rwa [hc.take hk]

/-- What does not win, and has no match beyond the cut, does not win. -/
theorem wins?_cutAt_eq_none (h : r.wins? c = none)
    (hle : ∀ m, r.pattern.matchAt? c = some m → m.stop ≤ n) : r.wins? c' = none := by
  have hcut := matchAt?_cutAt hs hc
  cases hm : r.pattern.matchAt? c with
  | none => rw [wins?, hcut.none hm]
  | some m =>
    refine wins?_eq_none_iff.mpr fun m' hm' hpos => ?_
    cases (hcut.some m hm (hle m hm)).symm.trans hm'
    rw [hc.take (hle m hm)]
    exact wins?_eq_none_iff.mp h m hm hpos

end Rule

end OclScan
