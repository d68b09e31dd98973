import OclScan.Proofs.Grammar.Rules
import OclScan.Proofs.Pattern.Runs
import OclScan.Proofs.Scan.Moved

/-!
# Text in triple quotes

Where a text in triple quotes begins and ends (`docString?`), and that this is what the plan for it
matches at the start of a line, and only there (`Grammar.matchAt?_doc`): the gap and the text in
quotes are its two groups, and make up the whole match.
-/

namespace OclScan

open Grammar

/-- Where the text in triple quotes begins that stands at the start of `t`, after a gap, and where
it ends: with the first three quotes that follow. -/
def docString? (q : Char) (t : List Char) : Option (Nat × Nat) :=
  let w := gap.run t
  if [q, q, q] <+: t.drop w then
    (findWord? [q, q, q] (t.drop (w + 3))).map fun j => (w, w + 3 + j + 3)
  else none

theorem docString?_eq_some {q : Char} {t : List Char} {w n : Nat}
    (h : docString? q t = some (w, n)) : w = gap.run t ∧ w + 6 ≤ n ∧ [q, q, q] <+: t.drop w := by
  simp only [docString?] at h
  split at h
  · obtain ⟨j, -, e⟩ := Option.map_eq_some_iff.mp h
    obtain ⟨rfl, rfl⟩ := Prod.mk.inj e
    exact ⟨rfl, by omega, ‹_›⟩
  · cases h

/-- Only one of the quotes stands three times after the gap. -/
theorem docString?_quote_unique {q q' : Char} {t : List Char} {w n w' n' : Nat}
    (h : docString? q t = some (w, n)) (h' : docString? q' t = some (w', n')) : q = q' := by
  obtain ⟨rfl, -, u, hu⟩ := docString?_eq_some h
  obtain ⟨rfl, -, u', hu'⟩ := docString?_eq_some h'
  exact (List.cons.inj (hu.trans hu'.symm)).1

/-- Without the gap, the text in quotes stands at the start. -/
theorem docString?_drop {q : Char} {t : List Char} {w n : Nat} (hq : gap.contains q = false)
    (h : docString? q t = some (w, n)) : docString? q (t.drop w) = some (0, n - w) := by
  obtain ⟨rfl, -, u, hu⟩ := docString?_eq_some h
  have hrun : gap.run (t.drop (gap.run t)) = 0 := by
    rw [← hu]
    exact CharSet.run_of_not_mem hq _
  simp only [docString?] at h ⊢
  split at h
  · rename_i hp
    obtain ⟨j, hj, e⟩ := Option.map_eq_some_iff.mp h
    rw [hrun, List.drop_zero, if_pos hp, List.drop_drop, Nat.zero_add, hj, Option.map_some]
    have e := (Prod.mk.inj e).2
    rw [show 3 + j + 3 = n - gap.run t by omega]
  · cases h

namespace Grammar

open Plan

variable {q : Char} {σ : Slots} {x : Place}

theorem tripleFrom_spells (q : Char) (j : Nat) : (tripleFrom q j).Spells [q, q, q] :=
  (Spells.char j q).seq ((Spells.char (j + 1) q).seq (Spells.char (j + 2) q))

/-- The text in quotes, from the end of the gap on. -/
def docFrom (q : Char) : Goal :=
  (seq (.slot 1) (seq (.slot 2) (seq (tripleFrom q 2)
    (seq (.loop 5 false (.set 6 .all)) (seq (tripleFrom q 7) (.slot 3)))))).first (final 0)

theorem doc_first (q : Char) (σ : Slots) (x : Place) : (doc q).first (final 0) σ x =
    if Assertion.lineStart.holds x.before x.rest.head? then
      (loop 0 true (set 1 gap)).first (docFrom q) (σ.set 0 (some x.index)) x
    else none := rfl

theorem docFrom_eq (q : Char) (σ : Slots) (x : Place) : docFrom q σ x =
    if [q, q, q] <+: x.rest then
      (findWord? [q, q, q] (x.rest.drop 3)).map fun j =>
        ⟨0, x.index + 3 + j + 3, ((σ.set 1 (some x.index)).set 2 (some x.index)).set 3
          (some (x.index + 3 + j + 3))⟩
    else none := by
  have last : ∀ y : Place, (seq (tripleFrom q 7) (.slot 3)).first (final 0)
      ((σ.set 1 (some x.index)).set 2 (some x.index)) y =
      if [q, q, q] <+: y.rest then some ⟨0, (y.skip 3).index,
        ((σ.set 1 (some x.index)).set 2 (some x.index)).set 3 (some (y.skip 3).index)⟩ else none :=
    fun y => tripleFrom_spells q 7 _ _ y
  have open3 : docFrom q σ x = if [q, q, q] <+: x.rest then
      (loop 5 false (.set 6 .all)).first ((seq (tripleFrom q 7) (.slot 3)).first (final 0))
        ((σ.set 1 (some x.index)).set 2 (some x.index)) (x.skip 3) else none :=
    tripleFrom_spells q 2 _ _ x
  rw [open3]
  split
  · rename_i hp
    rw [first_upto 5 6 (List.cons_ne_nil _ _) last, Place.rest_skip]
    cases hj : findWord? [q, q, q] (x.rest.drop 3) with
    | none => rfl
    | some j =>
      have hp := hp.length_le
      have hlen := (findWord?_eq_some hj).1.length_le
      simp only [List.length_drop, List.length_cons, List.length_nil] at hp hlen
      have e : (((x.skip 3).skip j).skip 3).index = x.index + 3 + j + 3 := by
        rw [← Place.skip_add hp, ← Place.skip_add (by omega), Place.index_skip (by omega)]
        omega
      simp only [Option.map_some, e]
  · rfl

/-- What is recorded when the gap ends at `w` and the text in quotes at `n`. -/
def docMatch (w n : Nat) : Match := ⟨0, n, [some 0, some w, some w, some n]⟩

/-- The gap ends before the first quote, since a quote is not part of it. -/
theorem matchAt?_doc (hq : gap.contains q = false) (b : Option Char) (t : List Char) :
    (doc q).matchAt? 4 b t =
      if startsLine b then (docString? q t).map fun (w, n) => docMatch w n else none := by
  rw [matchAt?_eq_first (by rfl), doc_first, show startsLine b = Assertion.lineStart.holds b t.head?
    from (Assertion.holds_congr rfl b none t.head?)]
  split
  · have early : ∀ i < gap.run t, ∀ σ, docFrom q σ ((Place.mk b 0 t).skip i) = none := by
      intro i hi σ
      rw [docFrom_eq, Place.rest_skip, if_neg]
      rintro ⟨u, hu⟩
      have hmem : q ∈ t.take (gap.run t) := by
        have : (t.take (gap.run t)).drop i = (t.drop i).take (gap.run t - i) := List.drop_take
        refine List.mem_of_mem_drop (i := i) ?_
        rw [this, ← hu, show gap.run t - i = (gap.run t - i - 1) + 1 by omega]
        exact List.mem_cons_self
      rw [CharSet.contains_of_mem_run hmem] at hq
      cases hq
    rw [first_run 0 1 gap _ _ _ fun i hi _ => early i hi _, docFrom_eq, Place.rest_skip,
      Place.index_skip (gap.run_le t), List.drop_drop, docString?]
    simp only [Nat.zero_add]
    split
    · rw [Option.map_map]
      rfl
    · rfl
  · rfl

/-- The text after the end does not matter. -/
theorem docString?_take {t : List Char} {w n : Nat} (hq : gap.contains q = false)
    (h : docString? q t = some (w, n)) : docString? q (t.take n) = some (w, n) := by
  have hback : LooksBack (doc q).conditions := fun a ha => by
    rw [List.mem_singleton.mp (show a ∈ [.lineStart] from ha)]
    rfl
  have hcut := matchAt?_cut (p := doc q) rfl 4 (.refl hback none) t n
  have hline : startsLine none = true := rfl
  simp only [matchAt?_doc hq, hline, if_true] at hcut
  have hm := hcut.some (docMatch w n) (by rw [h]; rfl) (Nat.le_refl _)
  obtain ⟨⟨w', n'⟩, h', e⟩ := Option.map_eq_some_iff.mp hm
  obtain ⟨rfl, rfl, -⟩ : n' = n ∧ w' = w ∧ n' = n := by simpa [docMatch] using e
  exact h'

end Grammar

end OclScan
