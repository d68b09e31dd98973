import OclScan.Pattern
import OclScan.Proofs.Cursor
import OclScan.Proofs.Pattern.Span

/-!
# Searching from a cursor

What a pattern finds from a cursor on, in terms of what it matches at the places from there on: it
finds the match at the first place that has one (`Pattern.find?_eq_some`), and nothing only if no
place has one (`Pattern.find?_eq_none`).
-/

namespace OclScan

namespace Plan

variable (p : Plan) (slots : Nat)

theorem matchFrom_eq_shift {b : Option Char} {t : List Char} (i : Nat) :
    p.matchFrom slots b i t = (p.matchAt? slots b t).map (Match.shift i) := by
  rw [← matchFrom_zero, ← matchFrom_shift, Nat.zero_add]

/-- By induction on the text. -/
theorem leftmost_eq_none (c : Cursor) (i : Nat) (h : p.leftmost slots c.before i c.rest = none)
    (n : Nat) : p.matchAt? slots (c.advance n).before (c.advance n).rest = none := by
  obtain ⟨b, o, rest⟩ := c
  induction rest generalizing b o i n with
  | nil =>
    rw [leftmost, matchFrom_eq_shift, Option.map_eq_none_iff] at h
    rw [Cursor.advance_of_rest_nil rfl]
    exact h
  | cons x xs ih =>
    rw [leftmost, Option.or_eq_none_iff, matchFrom_eq_shift, Option.map_eq_none_iff] at h
    cases n with
    | zero => exact h.1
    | succ n => exact ih (i + 1) n (some x) (o + x.utf8Size) h.2

theorem leftmost_eq_some (c : Cursor) (i : Nat) {m : Match}
    (h : p.leftmost slots c.before i c.rest = some m) :
    ∃ n ≤ c.rest.length, ∃ m',
      p.matchAt? slots (c.advance n).before (c.advance n).rest = some m' ∧ m = m'.shift (i + n) ∧
      ∀ j < n, p.matchAt? slots (c.advance j).before (c.advance j).rest = none := by
  obtain ⟨b, o, rest⟩ := c
  induction rest generalizing b o i with
  | nil =>
    rw [leftmost, matchFrom_eq_shift, Option.map_eq_some_iff] at h
    obtain ⟨m', hm', e⟩ := h
    exact ⟨0, by omega, m', hm', e.symm, fun j hj => by omega⟩
  | cons x xs ih =>
    rw [leftmost, Option.or_eq_some_iff, matchFrom_eq_shift, Option.map_eq_some_iff,
      Option.map_eq_none_iff] at h
    rcases h with ⟨m', hm', e⟩ | ⟨hnone, h⟩
    · exact ⟨0, by omega, m', hm', e.symm, fun j hj => by omega⟩
    obtain ⟨n, hn, m', hm', e, hj⟩ := ih (i + 1) (some x) (o + x.utf8Size) h
    refine ⟨n + 1, Nat.succ_le_succ hn, m', hm', ?_, fun j hjn => ?_⟩
    · rw [e, Nat.add_assoc, Nat.add_comm 1 n]
    · cases j with
      | zero => exact hnone
      | succ j => exact hj j (by omega)

end Plan

namespace Pattern

variable {p : Pattern} {c : Cursor} {m : Match}

theorem matchAt?_within (h : p.matchAt? c = some m) : m.Within 0 c.rest.length := by
  have hw := Plan.matchFrom_within (i := 0) h
  rwa [Nat.zero_add] at hw

theorem find?_eq_none (h : p.find? c = none) (n : Nat) : p.matchAt? (c.advance n) = none :=
  p.plan.leftmost_eq_none (2 * p.groups) c 0 (by rw [← Plan.find?_eq_leftmost]; exact h) n

theorem find?_eq_some (h : p.find? c = some m) :
    ∃ n ≤ c.rest.length, ∃ m', p.matchAt? (c.advance n) = some m' ∧ m = m'.shift n ∧
      ∀ j < n, p.matchAt? (c.advance j) = none := by
  obtain ⟨n, hn, m', hm', e, hj⟩ := p.plan.leftmost_eq_some (2 * p.groups) c 0
    (by rw [← Plan.find?_eq_leftmost]; exact h)
  exact ⟨n, hn, m', hm', by rw [e, Nat.zero_add], hj⟩

/-- Where a pattern matches at the cursor, a search finds that match. -/
theorem find?_of_matchAt? (h : p.matchAt? c = some m) : p.find? c = some m := by
  cases hf : p.find? c with
  | none =>
    have hnone := find?_eq_none hf 0
    rw [Cursor.advance_zero, h] at hnone
    cases hnone
  | some m' =>
    obtain ⟨n, -, m'', hm, rfl, hbefore⟩ := find?_eq_some hf
    cases n with
    | zero =>
      cases h.symm.trans hm
      rw [Match.shift_zero]
    | succ n =>
      have hnone := hbefore 0 (Nat.succ_pos n)
      rw [Cursor.advance_zero, h] at hnone
      cases hnone

end Pattern

end OclScan
