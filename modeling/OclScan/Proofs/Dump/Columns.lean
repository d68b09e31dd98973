import Mathlib.Order.MinMax
import OclScan.Proofs.Dump.Summary

/-!
# The columns of a summary

The count of a line starts two columns after its name, or after the width where the name is shorter
(`countColumn_entryLine`). The width is the length of the longest name of a kind that occurs
(`lt_nameWidth_iff`), so the counts of kinds start at one column. The label of the total has no part
in the width: the count of the total starts at that column only if there are no other counts, or one
of the names is as long as the label (`isAligned_summary_iff`).
-/

namespace OclScan.Dump

/-- The column where the count of a line starts: after the name and the spaces. -/
def countColumn (line : List Char) : Nat :=
  (line.takeWhile (· != ' ')).length + ((line.dropWhile (· != ' ')).takeWhile (· == ' ')).length

/-- The columns where the counts of a summary start, line by line. -/
def countColumns (dump : String) : List Nat :=
  (lines dump.toList).map fun line => countColumn (line.takeWhile (· != '\n'))

/-- Whether the counts of all lines start at the same column. -/
def IsAligned (dump : String) : Prop := ∀ i ∈ countColumns dump, ∀ j ∈ countColumns dump, i = j

/-! ## The width -/

variable {counts : List (Kind × Nat)}

theorem lt_foldl_max_iff {n w : Nat} :
    n < counts.foldl (fun w (k, _) => max w k.dotted.length) w ↔
      n < w ∨ ∃ e ∈ counts, n < e.1.dotted.length := by
  induction counts generalizing w with
  | nil => simp
  | cons e counts ih => rw [List.foldl_cons, ih, lt_max_iff, List.exists_mem_cons_iff, or_assoc]

theorem lt_nameWidth_iff {n : Nat} :
    n < nameWidth counts ↔ ∃ e ∈ counts, n < e.1.dotted.length := by
  rw [nameWidth, lt_foldl_max_iff]
  exact or_iff_right (Nat.not_lt_zero n)

theorem length_le_nameWidth {e : Kind × Nat} (h : e ∈ counts) :
    e.1.dotted.length ≤ nameWidth counts :=
  Nat.le_of_not_lt fun hlt => Nat.lt_irrefl _ (lt_nameWidth_iff.mpr ⟨e, h, hlt⟩)

/-! ## The columns -/

theorem countColumn_entryLine {e : String × Nat} (h : IsName e.1) (width : Nat) :
    countColumn (entryLine width e) = max width e.1.length + 2 := by
  have hdigits : (toString e.2).toList.takeWhile (· == ' ') = [] := by
    obtain ⟨d, ds, hds, hd⟩ := exists_toString_cons e.2
    rw [hds]
    exact List.takeWhile_cons_of_neg hd
  rw [countColumn, takeWhile_entryLine h, dropWhile_entryLine h,
    List.takeWhile_append_of_pos (eq_space_of_mem_replicate _), hdigits, List.append_nil,
    List.length_replicate, String.length_toList]
  omega

theorem countColumns_join {es : List (String × Nat)} (h : ∀ e ∈ es, IsName e.1) (width : Nat) :
    countColumns (.join (es.map fun e => summaryLine width e.1 e.2)) =
      es.map fun e => max width e.1.length + 2 := by
  rw [countColumns, lines_join_summaryLine h, List.map_map]
  refine List.map_congr_left fun e he => ?_
  rw [Function.comp_apply, takeWhile_line (newline_not_mem_entryLine (h e he) width),
    countColumn_entryLine (h e he)]

/-- The counts of kinds start at one column. -/
theorem countColumns_summary (ts : List Token) :
    countColumns (summary ts) =
      (countKinds ts).map (fun _ => nameWidth (countKinds ts) + 2) ++
        [max (nameWidth (countKinds ts)) "total".length + 2] := by
  rw [summary_eq_join, countColumns_join isName_of_mem_entries, entries, List.map_append,
    List.map_map, List.map_singleton]
  refine congrArg (· ++ _) (List.map_congr_left fun e he => ?_)
  rw [Function.comp_apply, Nat.max_eq_left (length_le_nameWidth he)]

/-- Text and names are the kinds with a name shorter than the label of the total. -/
theorem total_le_length_dotted_iff (k : Kind) :
    "total".length ≤ k.dotted.length ↔ k ≠ .text ∧ k ≠ .name := by
  cases k <;> decide

theorem total_le_nameWidth_iff {ts : List Token} :
    "total".length ≤ nameWidth (countKinds ts) ↔ ∃ t ∈ ts, t.kind ≠ .text ∧ t.kind ≠ .name := by
  have hwidth : "total".length ≤ nameWidth (countKinds ts) ↔
      ∃ e ∈ countKinds ts, "total".length ≤ e.1.dotted.length := lt_nameWidth_iff (n := 4)
  rw [hwidth]
  constructor
  · rintro ⟨⟨k, n⟩, he, hlength⟩
    obtain ⟨t, ht, rfl⟩ := List.mem_map.mp (mem_countKinds.mp he).1
    exact ⟨t, ht, (total_le_length_dotted_iff t.kind).mp hlength⟩
  · rintro ⟨t, ht, hkind⟩
    exact ⟨(t.kind, _), mem_countKinds.mpr ⟨List.mem_map_of_mem ht, rfl⟩,
      (total_le_length_dotted_iff t.kind).mpr hkind⟩

/-- The counts of kinds start at one column, two after the longest name, and the count of the total
at that column or two after its label, whichever is further right. So the counts of all lines start
at the same column exactly if there are no tokens, or one of a kind other than text and names. -/
theorem isAligned_summary_iff (ts : List Token) :
    IsAligned (summary ts) ↔ ts = [] ∨ ∃ t ∈ ts, t.kind ≠ .text ∧ t.kind ≠ .name := by
  rw [IsAligned, countColumns_summary, ← total_le_nameWidth_iff]
  constructor
  · intro h
    rw [or_iff_not_imp_left]
    intro hne
    obtain ⟨t, ht⟩ := List.exists_mem_of_ne_nil ts hne
    have hcount := mem_countKinds.mpr ⟨List.mem_map_of_mem ht, rfl⟩
    have heq := h _ (List.mem_append_left _ (List.mem_map_of_mem hcount)) _
      (List.mem_append_right _ (List.mem_singleton_self _))
    omega
  · rintro (rfl | hle)
    · exact fun i hi j hj => (List.mem_singleton.mp hi).trans (List.mem_singleton.mp hj).symm
    · rw [Nat.max_eq_left hle, List.map_const', ← List.replicate_succ']
      exact fun i hi j hj => (List.eq_of_mem_replicate hi).trans (List.eq_of_mem_replicate hj).symm

/-- Two names: the label of the total is longer than theirs. -/
theorem not_isAligned_summary_names :
    let ts : List Token := [⟨.name, "a", 0⟩, ⟨.text, " ", 1⟩, ⟨.name, "b", 2⟩]
    summary ts = "Text  1\nName  2\ntotal  3\n" ∧ countColumns (summary ts) = [6, 6, 7] ∧
      ¬ IsAligned (summary ts) := by
  intro ts
  have hcolumns : countColumns (summary ts) = [6, 6, 7] := by decide
  refine ⟨by decide, hcolumns, fun h => ?_⟩
  rw [IsAligned, hcolumns] at h
  exact absurd (h 6 (by decide) 7 (by decide)) (by decide)

end OclScan.Dump
