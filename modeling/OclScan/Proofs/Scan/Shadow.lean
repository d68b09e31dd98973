import OclScan.Proofs.Scan.Winner

/-!
# Shadowed rules

A rule shadows another one of the same pattern if it admits every text that the other admits
(`Rule.Shadows`): it wins wherever the other would (`Rule.Shadows.wins?_eq_none`). Rules that are
shadowed by rules before them change no winner (`winner?_append_of_shadowed`), and lists of rules
with the same winners make the same steps (`steps_congr`).
-/

namespace OclScan

variable {c : Cursor} {r s : Rule} {rs ss : List Rule}

namespace Rule

/-- The rule has the pattern of `s` and, if it has words, all the words of `s`, which then has
words too. -/
def Shadows (r s : Rule) : Prop :=
  s.pattern = r.pattern ∧ ∀ ws ∈ r.words, ∃ vs ∈ s.words, ∀ w ∈ vs, w ∈ ws

instance (r s : Rule) : Decidable (r.Shadows s) :=
  inferInstanceAs (Decidable (s.pattern = r.pattern ∧
    ∀ ws ∈ r.words, ∃ vs ∈ s.words, ∀ w ∈ vs, w ∈ ws))

theorem Shadows.refl (r : Rule) : r.Shadows r := ⟨rfl, fun ws hws => ⟨ws, hws, fun _ hw => hw⟩⟩

theorem Shadows.accepts (h : r.Shadows s) {text : String} (hs : s.accepts text = true) :
    r.accepts text = true := by
  rw [Rule.accepts]
  cases hr : r.words with
  | none => rfl
  | some ws =>
    obtain ⟨vs, hvs, hsub⟩ := h.2 ws hr
    rw [Rule.accepts, Option.mem_def.mp hvs] at hs
    exact List.contains_iff_mem.mpr (hsub text (List.contains_iff_mem.mp hs))

/-- Where the shadowing rule does not win, the shadowed one does not. -/
theorem Shadows.wins?_eq_none (h : r.Shadows s) (hr : r.wins? c = none) : s.wins? c = none := by
  rw [wins?_eq_none_iff] at hr ⊢
  intro m hm hpos
  rw [h.1] at hm
  have hrejects := hr m hm hpos
  rw [← Bool.not_eq_true] at hrejects ⊢
  exact fun hs => hrejects (h.accepts hs)

end Rule

/-- Rules that are shadowed by earlier ones change no winner. -/
theorem winner?_append_of_shadowed (h : ∀ s ∈ ss, ∃ r ∈ rs, r.Shadows s) (c : Cursor) :
    winner? (rs ++ ss) c = winner? rs c := by
  rw [winner?_append]
  cases hw : winner? rs c with
  | some w => rfl
  | none =>
    rw [winner?_eq_none_iff] at hw
    rw [Option.none_or, winner?_eq_none_iff]
    intro s hs
    obtain ⟨r, hr, hshadows⟩ := h s hs
    exact hshadows.wins?_eq_none (hw r hr)

/-- A shadowed rule can be left out. -/
theorem winner?_eraseIdx {rules : List Rule} {i j : Nat} (hij : i < j) (hi : rules[i]? = some r)
    (hj : rules[j]? = some s) (h : r.Shadows s) (c : Cursor) :
    winner? (rules.eraseIdx j) c = winner? rules c := by
  obtain ⟨hlt, hget⟩ := List.getElem?_eq_some_iff.mp hj
  have hmem : r ∈ rules.take j := by
    refine List.mem_of_getElem? (i := i) ?_
    rw [List.getElem?_take_of_lt hij, hi]
  have hsplit : rules = rules.take j ++ [s] ++ rules.drop (j + 1) := by
    rw [← hget, List.take_append_getElem hlt, List.take_append_drop]
  have hshadowed : ∀ s' ∈ [s], ∃ r ∈ rules.take j, r.Shadows s' := by
    simpa using ⟨r, hmem, h⟩
  calc winner? (rules.eraseIdx j) c
      = (winner? (rules.take j) c).or (winner? (rules.drop (j + 1)) c) := by
        rw [List.eraseIdx_eq_take_drop_succ, winner?_append]
    _ = (winner? (rules.take j ++ [s]) c).or (winner? (rules.drop (j + 1)) c) := by
        rw [winner?_append_of_shadowed hshadowed]
    _ = winner? rules c := by
        rw [← winner?_append, ← hsplit]

/-- Lists of rules with the same winners make the same steps. -/
theorem steps_congr {rules rules' : List Rule} (h : ∀ c, winner? rules' c = winner? rules c)
    (c : Cursor) : steps rules' c = steps rules c := by
  have hstep (c : Cursor) : stepAt rules' c = stepAt rules c := by rw [stepAt, h c, stepAt]
  induction c using scan_induction rules with
  | stop c hc => rw [steps_of_rest_nil rules' hc, steps_of_rest_nil rules hc]
  | step c hc ih => rw [steps_cons rules' hc, steps_cons rules hc, hstep, ih]

end OclScan
