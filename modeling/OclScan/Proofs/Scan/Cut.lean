import OclScan.Proofs.Scan.Cover
import OclScan.Proofs.Scan.Moved
import OclScan.Proofs.Scan.Winner

/-!
# Scanning a text that is cut

The text up to the place `n` characters on (`Cursor.cut`). A rule that wins before the cut makes the
same tokens of its match (`Rule.tokens_cut`), so a step that does not go beyond the cut, and whose
winner still wins, is made as before (`scan_cut`).
-/

namespace OclScan

variable {c : Cursor} {k n : Nat} {r : Rule} {rules : List Rule}

namespace Cursor

/-- The cursor, in the text that ends `n` characters on. -/
def cut (c : Cursor) (n : Nat) : Cursor := { c with rest := c.rest.take n }

@[simp] theorem rest_cut (c : Cursor) (n : Nat) : (c.cut n).rest = c.rest.take n := rfl

theorem take_cut (h : k ≤ n) : (c.cut n).take k = c.take k := by
  rw [take, rest_cut, List.take_take, Nat.min_eq_left h, take]

theorem advance_cut (h : k ≤ n) : (c.cut n).advance k = (c.advance k).cut (n - k) := by
  induction k generalizing c n with
  | zero => rfl
  | succ k ih =>
    obtain ⟨n, rfl⟩ : ∃ m, n = m + 1 := ⟨n - 1, by omega⟩
    obtain ⟨b, o, rest⟩ := c
    cases rest with
    | nil => simp only [cut, advance_of_rest_nil, List.take_nil]
    | cons x xs =>
      have hstart : (Cursor.mk b o (x :: xs)).cut (n + 1) = ⟨b, o, x :: xs.take n⟩ := rfl
      rw [hstart, advance_cons, advance_cons, Nat.add_sub_add_right]
      exact ih (c := ⟨some x, o + x.utf8Size, xs⟩) (Nat.le_of_succ_le_succ h)

theorem cutAt_cut {A : List Assertion} (h : LooksBack A) (c : Cursor) (n : Nat) :
    c.CutAt A n (c.cut n) := ⟨rfl, .refl h c.before⟩

end Cursor

namespace Rule

theorem ByLine.looksBack (hr : r.ByLine) : LooksBack r.pattern.plan.conditions := fun a ha => by
  rw [hr.conditions a ha]
  rfl

theorem ByLine.cutAt (hr : r.ByLine) (c : Cursor) (n : Nat) :
    c.CutAt r.pattern.plan.conditions n (c.cut n) := c.cutAt_cut hr.looksBack n

theorem groupToken?_cut {m : Match} {l : Nat} (hm : m.Within 0 l) (h : m.stop ≤ n) (kind : Kind)
    (i : Nat) : groupToken? (c.cut n) m kind i = groupToken? c m kind i := by
  simp only [groupToken?]
  cases hg : m.group? i with
  | none => rfl
  | some g =>
    obtain ⟨first, last⟩ := g
    have hlast := (hm.group? hg).2
    simp only
    split
    · rw [Cursor.advance_cut (by omega), Cursor.take_cut (by omega)]
      rfl
    · rfl

/-- What wins before the cut makes the same tokens. -/
theorem tokens_cut (hr : r.ByLine) (h : r.wins? c = some k) (hk : k ≤ n) :
    r.tokens (c.cut n) k = r.tokens c k := by
  obtain ⟨m, hm, -, -, rfl⟩ := wins?_eq_some_iff.mp h
  have hcut := (matchAt?_cutAt hr.steady (hr.cutAt c n)).some m hm hk
  simp only [tokens, hm, hcut, Cursor.take_cut hk]
  cases r.action with
  | token kind => rfl
  | byGroups kinds => simp only [groupToken?_cut (Pattern.matchAt?_within hm) hk]

end Rule

/-- A step before the cut is the first of the text that is cut, if its winner still wins. -/
theorem scan_cut (hr : ∀ r ∈ rules, r.ByLine) (hc : c.rest ≠ [])
    (hw : winner? rules (c.cut n) = winner? rules c) (hn : (stepAt rules c).length ≤ n) :
    scan rules (c.cut n) = (stepAt rules c).tokens ++
      scan rules ((stepAt rules c).stop.cut (n - (stepAt rules c).length)) := by
  have hpos := stepAt_length_pos rules c
  have hstep : (stepAt rules (c.cut n)).length = (stepAt rules c).length ∧
      (stepAt rules (c.cut n)).tokens = (stepAt rules c).tokens := by
    simp only [stepAt, hw] at hn hpos ⊢
    cases hwin : winner? rules c with
    | none =>
      rw [hwin] at hn
      exact ⟨rfl, by simp only [Step.make, Cursor.take_cut (show 1 ≤ n from hn)]; rfl⟩
    | some w =>
      rw [hwin] at hn
      obtain ⟨hmem, h⟩ := winner?_eq_some hwin
      exact ⟨rfl, Rule.tokens_cut (hr _ hmem) h hn⟩
  have hne : (c.cut n).rest ≠ [] := by
    rw [Cursor.rest_cut, Ne, List.take_eq_nil_iff, not_or]
    exact ⟨by omega, hc⟩
  rw [scan_cons rules hne, hstep.2, stepAt_stop, hstep.1, Cursor.advance_cut hn, stepAt_stop]

end OclScan
