import OclScan.Glob

/-!
# Globs with an asterisk

A glob of an asterisk and plain characters reads as a run and these characters (`read?_run`). It
matches the texts that end in them (`matchesParts_run_plain`), wherever else they occur.
-/

namespace OclScan.Glob

/-- Whether a text spells a glob. -/
def isGlob (text : String) : Bool := (read? text).isSome

/-- A character that stands for itself in a glob. -/
def IsPlain (c : Char) : Prop := c ≠ '?' ∧ c ≠ '*' ∧ c ≠ '['

instance : DecidablePred IsPlain := fun _ => inferInstanceAs (Decidable (_ ∧ _ ∧ _))

/-! ## Reading -/

theorem readParts?_plain {w : List Char} {fuel : Nat} (h : ∀ c ∈ w, IsPlain c) (atStart : Bool)
    (hfuel : w.length ≤ fuel) : readParts? fuel atStart w = some (w.map .char) := by
  induction w generalizing fuel atStart with
  | nil => rw [readParts?]; rfl
  | cons c w ih =>
    obtain ⟨⟨hone, hrun, hclass⟩, hw⟩ := List.forall_mem_cons.mp h
    cases fuel with
    | zero => cases hfuel
    | succ fuel =>
      have hrest := ih hw (c == '/') (Nat.le_of_succ_le_succ hfuel)
      -- the last case of the reader applies, as the three facts on `c` exclude the others
      simp only [readParts?, hrest, Option.map_some, List.map_cons]

theorem read?_run {w : List Char} (h : ∀ c ∈ w, IsPlain c) :
    read? (String.ofList ('*' :: w)) = some ⟨.run :: w.map .char⟩ := by
  have hmore : w.takeWhile (· == '*') = [] ∧ w.dropWhile (· == '*') = w := by
    cases w with
    | nil => exact ⟨rfl, rfl⟩
    | cons c w =>
      have hc : ¬ (c == '*') = true := by
        rw [beq_iff_eq]
        exact (h c List.mem_cons_self).2.1
      exact ⟨List.takeWhile_cons_of_neg hc, List.dropWhile_cons_of_neg hc⟩
  have hlen : (String.ofList ('*' :: w)).length = w.length + 1 := by
    rw [String.length_ofList, List.length_cons]
  rw [read?, hlen, String.toList_ofList, readParts?, hmore.1, hmore.2]
  simp only [List.length_nil, readParts?_plain h false (Nat.le_refl _), Option.map_some]

/-! ## Matching -/

/-- The rests of a text are its ends. -/
theorem anyRest_iff {accepts : List Char → Bool} {cs : List Char} :
    anyRest accepts cs = true ↔ ∃ t, t <:+ cs ∧ accepts t = true := by
  induction cs with
  | nil =>
    rw [anyRest]
    exact ⟨fun h => ⟨[], List.suffix_rfl, h⟩, fun ⟨t, ht, h⟩ => List.suffix_nil.mp ht ▸ h⟩
  | cons c cs ih =>
    rw [anyRest, Bool.or_eq_true, ih]
    simp only [List.suffix_cons_iff, or_and_right, exists_or, exists_eq_left]

theorem matchesParts_plain {w cs : List Char} :
    matchesParts (w.map .char) cs = true ↔ cs = w := by
  induction w generalizing cs with
  | nil => rw [List.map_nil, matchesParts, List.isEmpty_iff]
  | cons d w ih =>
    cases cs with
    | nil => simp [matchesParts]
    | cons c cs =>
      rw [List.map_cons, matchesParts, Bool.and_eq_true, beq_iff_eq, ih, List.cons_eq_cons]

theorem matchesParts_run_plain {w cs : List Char} :
    matchesParts (.run :: w.map .char) cs = true ↔ w <:+ cs := by
  rw [matchesParts, anyRest_iff]
  simp only [matchesParts_plain]
  exact ⟨fun ⟨_, ht, heq⟩ => heq ▸ ht, fun h => ⟨w, h, rfl⟩⟩

end OclScan.Glob
