import OclScan.Scan
import OclScan.Proofs.Pattern.Search

/-!
# Steps of a scan

Each step reads one character of the text or more (`stepAt_length_pos`) and none beyond its end
(`stepAt_length_le`), so a scan is one step followed by the scan from where it stops (`steps_cons`).
What holds at the end of the text, and before a step if it holds after it, holds everywhere
(`scan_induction`).
-/

namespace OclScan

variable {c : Cursor} {n : Nat}

namespace Rule

variable {r : Rule}

theorem wins?_eq_some_iff : r.wins? c = some n ↔
    ∃ m, r.pattern.matchAt? c = some m ∧ 0 < m.stop ∧ r.accepts (c.take m.stop) = true ∧
      m.stop = n := by
  simp only [wins?]
  cases r.pattern.matchAt? c with
  | none => simp
  | some m => simp [and_assoc]

theorem wins?_pos (h : r.wins? c = some n) : 0 < n := by
  obtain ⟨m, -, hm, -, rfl⟩ := wins?_eq_some_iff.mp h
  exact hm

theorem wins?_le (h : r.wins? c = some n) : n ≤ c.rest.length := by
  obtain ⟨m, hm, -, -, rfl⟩ := wins?_eq_some_iff.mp h
  exact (Pattern.matchAt?_within hm).stop_le

end Rule

variable {rules : List Rule}

theorem winner?_eq_some {r : Rule} (h : winner? rules c = some (r, n)) :
    r ∈ rules ∧ r.wins? c = some n := by
  obtain ⟨r', hr', h⟩ := List.exists_of_findSome?_eq_some h
  obtain ⟨n', hn', e⟩ := Option.map_eq_some_iff.mp h
  cases e
  exact ⟨hr', hn'⟩

theorem winner?_eq_none_iff : winner? rules c = none ↔ ∀ r ∈ rules, r.wins? c = none := by
  simp only [winner?, List.findSome?_eq_none_iff, Option.map_eq_none_iff]

@[simp] theorem stepAt_start (rules : List Rule) (c : Cursor) : (stepAt rules c).start = c := by
  rw [stepAt]
  cases winner? rules c <;> rfl

theorem stepAt_length_pos (rules : List Rule) (c : Cursor) : 0 < (stepAt rules c).length := by
  rw [stepAt]
  cases h : winner? rules c with
  | none => exact Nat.zero_lt_one
  | some w => exact Rule.wins?_pos (winner?_eq_some h).2

theorem stepAt_length_le (rules : List Rule) (h : c.rest ≠ []) :
    (stepAt rules c).length ≤ c.rest.length := by
  rw [stepAt]
  cases hw : winner? rules c with
  | none => exact List.length_pos_iff.mpr h
  | some w => exact Rule.wins?_le (winner?_eq_some hw).2

theorem stepAt_stop (rules : List Rule) (c : Cursor) :
    (stepAt rules c).stop = c.advance (stepAt rules c).length := by
  rw [Step.stop, stepAt_start]

/-- What is left after a step is shorter. -/
theorem stepAt_stop_lt (rules : List Rule) (h : c.rest ≠ []) :
    (stepAt rules c).stop.rest.length < c.rest.length := by
  have h₀ := List.length_pos_iff.mpr h
  have h₁ := stepAt_length_pos rules c
  rw [stepAt_stop, Cursor.rest_advance, List.length_drop]
  omega

/-- Induction over the steps of a scan. -/
@[elab_as_elim]
theorem scan_induction (rules : List Rule) {motive : Cursor → Prop}
    (stop : ∀ c, c.rest = [] → motive c)
    (step : ∀ c, c.rest ≠ [] → motive (stepAt rules c).stop → motive c) (c : Cursor) :
    motive c := by
  induction hn : c.rest.length using Nat.strongRecOn generalizing c with
  | ind n ih =>
    subst hn
    by_cases h : c.rest = []
    · exact stop c h
    · exact step c h (ih _ (stepAt_stop_lt rules h) _ rfl)

theorem stepsUpTo_of_rest_nil (rules : List Rule) (h : c.rest = []) (n : Nat) :
    stepsUpTo rules n c = [] := by
  cases n with
  | zero => rfl
  | succ n => simp only [stepsUpTo, h, List.isEmpty_nil, if_true]

/-- More steps than characters are not needed. -/
theorem stepsUpTo_eq (rules : List Rule) {m n : Nat} (hm : c.rest.length ≤ m)
    (hn : c.rest.length ≤ n) : stepsUpTo rules m c = stepsUpTo rules n c := by
  induction m generalizing c n with
  | zero =>
    have h : c.rest = [] := List.length_eq_zero_iff.mp (Nat.le_zero.mp hm)
    rw [stepsUpTo_of_rest_nil rules h, stepsUpTo_of_rest_nil rules h]
  | succ m ih =>
    by_cases h : c.rest = []
    · rw [stepsUpTo_of_rest_nil rules h, stepsUpTo_of_rest_nil rules h]
    have hlt := stepAt_stop_lt rules h
    cases n with
    | zero => omega
    | succ n =>
      simp only [stepsUpTo]
      rw [ih (c := (stepAt rules c).stop) (n := n) (by omega) (by omega)]

theorem steps_of_rest_nil (rules : List Rule) (h : c.rest = []) : steps rules c = [] :=
  stepsUpTo_of_rest_nil rules h _

theorem steps_cons (rules : List Rule) (h : c.rest ≠ []) :
    steps rules c = stepAt rules c :: steps rules (stepAt rules c).stop := by
  have hlt := stepAt_stop_lt rules h
  rw [steps, stepsUpTo_eq rules (by omega) (Nat.le_succ _), stepsUpTo,
    if_neg (by rwa [List.isEmpty_iff])]
  exact congrArg _ (stepsUpTo_eq rules (by omega) (by omega))

theorem scan_of_rest_nil (rules : List Rule) (h : c.rest = []) : scan rules c = [] := by
  rw [scan, steps_of_rest_nil rules h, List.flatMap_nil]

theorem scan_cons (rules : List Rule) (h : c.rest ≠ []) :
    scan rules c = (stepAt rules c).tokens ++ scan rules (stepAt rules c).stop := by
  rw [scan, steps_cons rules h, List.flatMap_cons, scan]

end OclScan
