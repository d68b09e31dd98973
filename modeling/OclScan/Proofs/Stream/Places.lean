import OclScan.Proofs.Stream.Partition

/-!
# Where a stream stands

What holds at the start of a source, and is kept by every step of a scan, holds wherever a stream
makes a step (`Stream.forall_mem_states`). So a stream stands between two parts of its source
(`Lexer.between_of_mem_states`).
-/

namespace OclScan

/-- The place between two parts of a text. -/
def Cursor.between (u v : List Char) : Cursor :=
  ⟨u.getLast?, (String.ofList u).utf8ByteSize, v⟩

namespace Cursor

@[simp] theorem rest_between (u v : List Char) : (between u v).rest = v := rfl

@[simp] theorem offset_between (u v : List Char) :
    (between u v).offset = (String.ofList u).utf8ByteSize := rfl

@[simp] theorem before_between (u v : List Char) : (between u v).before = u.getLast? := rfl

theorem take_between (u w v : List Char) :
    (between u (w ++ v)).take w.length = String.ofList w := by
  rw [take, rest_between, List.take_left]

/-- By induction on what is passed. -/
theorem advance_between (u w v : List Char) :
    (between u (w ++ v)).advance w.length = between (u ++ w) v := by
  induction w generalizing u with
  | nil => rw [List.append_nil, List.length_nil, advance_zero, List.nil_append]
  | cons x w ih =>
    have hplace : (between u (x :: w ++ v)).advance (w.length + 1) =
        (between (u ++ [x]) (w ++ v)).advance w.length := by
      rw [between, List.cons_append, advance_cons, between, List.getLast?_concat,
        utf8ByteSize_ofList_append, utf8ByteSize_ofList_cons x [], String.ofList_nil,
        String.utf8ByteSize_empty, Nat.add_zero]
    rw [List.length_cons, hplace, ih, List.append_assoc, List.singleton_append]

end Cursor

namespace Stream

variable {s : Stream} {P : Cursor → Prop}

/-- By induction on the number of steps. -/
theorem forall_mem_statesUpTo (h : s.Sound) {n : Nat} (start : P s.cursor)
    (step : ∀ c, c.rest ≠ [] → P c → P (stepAt s.rules c).stop) :
    ∀ s' ∈ s.statesUpTo n, P s'.cursor := by
  induction n generalizing s with
  | zero => exact fun _ hmem => absurd hmem List.not_mem_nil
  | succ n ih =>
    rw [statesUpTo]
    split
    · exact fun _ hmem => absurd hmem List.not_mem_nil
    · rename_i hr
      rw [List.isEmpty_iff] at hr
      refine List.forall_mem_cons.mpr ⟨start, ih (h.advance hr) ?_ ?_⟩
      · rw [advance_eq h]
        exact step _ hr start
      · rw [rules_advance h]
        exact step

/-- What holds at the start, and is kept by every step, holds wherever a step is made. -/
theorem forall_mem_states {rules : List Rule} {source : List Char} (h : P (.start source))
    (step : ∀ c, c.rest ≠ [] → P c → P (stepAt rules c).stop) :
    ∀ s ∈ (start rules source).states, P s.cursor := by
  refine forall_mem_statesUpTo (sound_start rules source) h ?_
  rw [rules_start]
  exact step

end Stream

/-- A step between two parts of a text ends between two parts of the text. -/
theorem stepAt_stop_between (rules : List Rule) (u : List Char) {v : List Char} (hv : v ≠ []) :
    ∃ u' v', u' ++ v' = u ++ v ∧ (stepAt rules (.between u v)).stop = .between u' v' := by
  let n := (stepAt rules (.between u v)).length
  have hlength : (v.take n).length = n := List.length_take_of_le (stepAt_length_le rules hv)
  refine ⟨u ++ v.take n, v.drop n, ?_, ?_⟩
  · rw [List.append_assoc, List.take_append_drop]
  · rw [← Cursor.advance_between, List.take_append_drop, hlength, stepAt_stop]

namespace Lexer

variable {rules : List Rule} {source : String} {s : Stream}

/-- A stream stands in its source. -/
theorem between_of_mem_states (h : s ∈ ((mk rules).stream source).states) :
    ∃ u v, source.toList = u ++ v ∧ s.cursor = .between u v := by
  let P (c : Cursor) : Prop := ∃ u v, source.toList = u ++ v ∧ c = .between u v
  have start : P (.start source.toList) := ⟨[], source.toList, rfl, rfl⟩
  refine Stream.forall_mem_states start (fun c hc ⟨u, v, hsource, hplace⟩ => ?_) s h
  subst hplace
  obtain ⟨u', v', happend, hstop⟩ := stepAt_stop_between rules u hc
  exact ⟨u', v', hsource.trans happend.symm, hstop⟩

end Lexer

end OclScan
