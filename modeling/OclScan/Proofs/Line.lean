import OclScan.Line

/-!
# Lines of a text

A line is a text with one line feed, at its end (`IsLine`). A text that is put together of lines is
split into these lines again (`lines_join`), and has as many line feeds as lines (`count_join`).
-/

namespace OclScan

/-- A line with its line feed, the only one in it. -/
def IsLine (s : List Char) : Prop := ∃ u, '\n' ∉ u ∧ s = u ++ ['\n']

/-- Each member of a list without `a` passes the test of being another. -/
theorem bne_of_notMem {α : Type} [DecidableEq α] {a : α} {l : List α} (h : a ∉ l) :
    ∀ x ∈ l, (x != a) = true := by
  intro x hx
  rw [bne_iff_ne]
  rintro rfl
  exact h hx

/-- A line without its line feed. -/
theorem takeWhile_line {u : List Char} (h : '\n' ∉ u) :
    (u ++ ['\n']).takeWhile (· != '\n') = u := by
  rw [List.takeWhile_append_of_pos (bne_of_notMem h), List.takeWhile_cons_of_neg (by decide),
    List.append_nil]

/-- The line that has been begun ends at the first line feed. By induction on what comes before
it. -/
theorem splitLines_append {u : List Char} (h : '\n' ∉ u) (line v : List Char) :
    splitLines line (u ++ '\n' :: v) = (line.reverse ++ u ++ ['\n']) :: splitLines [] v := by
  induction u generalizing line with
  | nil => simp [splitLines]
  | cons c u ih =>
    rw [List.mem_cons, not_or] at h
    obtain ⟨hc, hu⟩ := h
    rw [List.cons_append, splitLines, if_neg (Ne.symm hc), ih hu, List.reverse_cons]
    simp only [List.append_assoc, List.cons_append, List.nil_append]

namespace IsLine

variable {s u : List Char}

theorem count (hs : IsLine s) : s.count '\n' = 1 := by
  obtain ⟨v, hv, rfl⟩ := hs
  rw [List.count_append, List.count_eq_zero_of_not_mem hv]
  rfl

theorem lines_append (hs : IsLine s) (v : List Char) : lines (s ++ v) = s :: lines v := by
  obtain ⟨u, hu, rfl⟩ := hs
  rw [lines, List.append_assoc]
  exact splitLines_append hu [] v

end IsLine

theorem lines_flatten {ls : List (List Char)} (h : ∀ l ∈ ls, IsLine l) :
    lines ls.flatten = ls := by
  induction ls with
  | nil => rfl
  | cons l ls ih =>
    obtain ⟨hl, hls⟩ := List.forall_mem_cons.mp h
    rw [List.flatten_cons, hl.lines_append, ih hls]

theorem count_flatten {ls : List (List Char)} (h : ∀ l ∈ ls, IsLine l) :
    ls.flatten.count '\n' = ls.length := by
  induction ls with
  | nil => rfl
  | cons l ls ih =>
    obtain ⟨hl, hls⟩ := List.forall_mem_cons.mp h
    rw [List.flatten_cons, List.count_append, hl.count, ih hls, List.length_cons, Nat.add_comm]

variable {ls : List String}

theorem toList_join_flatten (ls : List String) :
    (String.join ls).toList = (ls.map String.toList).flatten := by
  rw [String.toList_join, List.flatMap_def]

theorem isLine_of_mem_map (h : ∀ l ∈ ls, IsLine l.toList) :
    ∀ l ∈ ls.map String.toList, IsLine l := by
  intro l hl
  obtain ⟨s, hs, rfl⟩ := List.mem_map.mp hl
  exact h s hs

/-- Lines that are joined are the lines of the text. -/
theorem lines_join (h : ∀ l ∈ ls, IsLine l.toList) :
    lines (String.join ls).toList = ls.map String.toList := by
  rw [toList_join_flatten, lines_flatten (isLine_of_mem_map h)]

theorem count_join (h : ∀ l ∈ ls, IsLine l.toList) :
    (String.join ls).toList.count '\n' = ls.length := by
  rw [toList_join_flatten, count_flatten (isLine_of_mem_map h), List.length_map]

end OclScan
