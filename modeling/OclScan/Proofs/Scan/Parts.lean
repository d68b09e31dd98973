import OclScan.Proofs.Scan.Cover

/-!
# The parts that steps read

The steps of a scan read the text from its start to its end (`covers_steps`), and every token is a
part of what its step reads (`stepAt_partOf`), whatever rules there are: capture groups may be
nested, empty or unset, and so tokens of one step may overlap and there may be none
(`stepAt_tokens_eq_nil_iff`).
-/

namespace OclScan

/-- The token is a part, not empty, of the text `u`, which starts at the offset `o`. -/
structure Token.PartOf (u : String) (o : Nat) (t : Token) : Prop where
  nonempty : t.text ≠ ""
  slice : ∃ before after, u = before ++ t.text ++ after ∧ t.start = o + before.utf8ByteSize

namespace Token.PartOf

variable {u v : String} {o p : Nat} {t : Token}

theorem le_start (h : t.PartOf u o) : o ≤ t.start := by
  obtain ⟨before, after, -, hs⟩ := h.slice
  omega

theorem stop_le (h : t.PartOf u o) : t.stop ≤ o + u.utf8ByteSize := by
  obtain ⟨before, after, rfl, hs⟩ := h.slice
  rw [Token.stop, hs, String.utf8ByteSize_append, String.utf8ByteSize_append]
  omega

/-- A part of a part is a part. -/
theorem trans (h : t.PartOf v p) (hv : ∃ before after, u = before ++ v ++ after ∧
    p = o + before.utf8ByteSize) : t.PartOf u o := by
  obtain ⟨before, after, rfl, rfl⟩ := hv
  obtain ⟨hne, before', after', rfl, hs⟩ := h
  refine ⟨hne, before ++ before', after' ++ after, by simp only [String.append_assoc], ?_⟩
  rw [hs, String.utf8ByteSize_append, Nat.add_assoc]

end Token.PartOf

/-- What the step reads, as one token. -/
def Step.whole (s : Step) : Token := ⟨.text, s.start.take s.length, s.start.offset⟩

variable {c : Cursor} {n : Nat}

namespace Rule

variable {r : Rule} {t : Token}

/-- The token of a group is the part that the group matches. -/
theorem partOf_of_groupToken? {m : Match} (hm : m.Within 0 n) (hn : n ≤ c.rest.length)
    {kind : Kind} {group : Nat} (h : groupToken? c m kind group = some t) :
    t.PartOf (c.take m.stop) c.offset := by
  rw [groupToken?] at h
  split at h
  · rename_i first last hg
    rw [Option.ite_none_right_eq_some] at h
    obtain ⟨hlt, h⟩ := h
    cases h
    have hlast := (hm.group? hg).2
    have hstop := hm.stop_le
    refine ⟨Cursor.take_ne_empty ?_ (by omega), c.take first, (c.advance last).take (m.stop - last),
      ?_, Cursor.offset_advance c first⟩
    · rw [Cursor.rest_advance, Ne, List.drop_eq_nil_iff]
      omega
    · rw [← Cursor.take_add, show first + (last - first) = last by omega, ← Cursor.take_add,
        show last + (m.stop - last) = m.stop by omega]
  · cases h

/-- Every token of a rule is a part of its match. -/
theorem tokens_partOf (h : r.wins? c = some n) :
    ∀ t ∈ r.tokens c n, t.PartOf (c.take n) c.offset := by
  have hle := wins?_le h
  obtain ⟨m, hm, hpos, -, rfl⟩ := wins?_eq_some_iff.mp h
  intro t ht
  rw [tokens] at ht
  split at ht
  · cases List.mem_singleton.mp ht
    refine ⟨Cursor.take_ne_empty ?_ hpos, "", "", by simp, by simp⟩
    exact List.ne_nil_of_length_pos (by omega)
  · simp only [hm, List.mem_filterMap] at ht
    obtain ⟨⟨kind, group⟩, -, ht⟩ := ht
    exact partOf_of_groupToken? (Pattern.matchAt?_within hm) (Nat.le_refl _) ht

/-- A rule makes no token if it makes them by groups and all groups are empty or unset. -/
theorem tokens_eq_nil_iff : r.tokens c n = [] ↔ ∃ kinds, r.action = .byGroups kinds ∧
    ∀ m, r.pattern.matchAt? c = some m → ∀ g < kinds.length, ∀ first last,
      m.group? (g + 1) = some (first, last) → last ≤ first := by
  rw [tokens]
  cases r.action with
  | token kind => simp
  | byGroups kinds =>
    simp only [Action.byGroups.injEq, exists_eq_left']
    cases hm : r.pattern.matchAt? c with
    | none => simp
    | some m =>
      simp only [List.filterMap_eq_nil_iff, Option.some.injEq, forall_eq']
      constructor
      · intro h g hg first last hgroup
        have hnone := h (kinds[g], g + 1) (by
          rw [List.mk_mem_zipIdx_iff_le_and_getElem?_sub]
          simp [hg])
        simp only [groupToken?, hgroup] at hnone
        split at hnone
        · cases hnone
        · omega
      · intro h x hx
        obtain ⟨kind, group⟩ := x
        rw [List.mk_mem_zipIdx_iff_le_and_getElem?_sub] at hx
        obtain ⟨hpos, hx⟩ := hx
        have hlt := (List.getElem?_eq_some_iff.mp hx).1
        simp only [groupToken?]
        split
        · rename_i first last hgroup
          have hle := h (group - 1) hlt first last (by rwa [Nat.sub_add_cancel hpos])
          rw [if_neg (by omega)]
        · rfl

end Rule

variable {rules : List Rule}

/-- Every token of a step is a part of what the step reads. -/
theorem stepAt_partOf (hc : c.rest ≠ []) : ∀ t ∈ (stepAt rules c).tokens,
    t.PartOf (stepAt rules c).whole.text (stepAt rules c).whole.start := by
  rw [stepAt]
  cases hw : winner? rules c with
  | none =>
    intro t ht
    cases List.mem_singleton.mp ht
    exact ⟨Cursor.take_ne_empty hc Nat.one_pos, "", "", by simp [Step.make, Step.whole], rfl⟩
  | some w => exact Rule.tokens_partOf (winner?_eq_some hw).2

theorem stepAt_tokens_eq_nil_iff : (stepAt rules c).tokens = [] ↔
    ∃ r n, winner? rules c = some (r, n) ∧ r.tokens c n = [] := by
  rw [stepAt]
  cases hw : winner? rules c with
  | none => simp [Step.make]
  | some w =>
    constructor
    · exact fun h => ⟨w.1, w.2, rfl, h⟩
    · rintro ⟨r, n, e, h⟩
      cases e
      exact h

/-- The steps of a scan read the text, one after the other. -/
theorem covers_steps (rules : List Rule) (c : Cursor) :
    Covers c.offset ((steps rules c).map Step.whole) c.rest := by
  induction c using scan_induction rules with
  | stop c h =>
    rw [steps_of_rest_nil rules h, h]
    exact .nil
  | step c h ih =>
    have hne : c.rest.take (stepAt rules c).length ≠ [] := by
      rw [Ne, List.take_eq_nil_iff, not_or]
      exact ⟨Nat.ne_of_gt (stepAt_length_pos rules c), h⟩
    have hwhole : (stepAt rules c).whole = ⟨.text, c.take (stepAt rules c).length, c.offset⟩ := by
      rw [Step.whole, stepAt_start]
    rw [stepAt_stop, Cursor.offset_advance, Cursor.rest_advance] at ih
    rw [steps_cons rules h, List.map_cons, hwhole, stepAt_stop]
    have hc := Covers.cons (k := .text) hne ih
    rwa [List.take_append_drop] at hc

end OclScan
