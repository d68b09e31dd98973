import Mathlib.Data.Nat.Find
import OclScan.Proofs.Text.Hex
import OclScan.Pattern.CharSet

/-!
# Sets of characters are compared at their points

Characters that no edge of a set lies between are both in the set or both not
(`CharSet.contains_congr`), and the points of a set leave out no part between its edges
(`CharSet.exists_point`). So sets that agree at finitely many points agree (`CharSet.same_iff`).
-/

namespace OclScan

namespace Text

/-- No edge lies between `m` and `n`. -/
def SameSide (edges : List Nat) (m n : Nat) : Prop := ∀ b ∈ edges, b ≤ m ↔ b ≤ n

variable {m n : Nat} {E F : List Nat} {c d v : Char}

theorem SameSide.of_append (h : SameSide (E ++ F) m n) : SameSide E m n ∧ SameSide F m n :=
  ⟨fun b hb => h b (List.mem_append_left F hb), fun b hb => h b (List.mem_append_right E hb)⟩

/-- A code point alone between two edges is like no other. -/
theorem SameSide.eq (h : SameSide E m n) (hm : m ∈ E) (hm' : m + 1 ∈ E) : m = n := by
  have := h m hm
  have := h (m + 1) hm'
  omega

theorem SameSide.symm (h : SameSide E m n) : SameSide E n m := fun b hb => (h b hb).symm

theorem inRuns_congr {runs : List (Nat × Nat)} (h : SameSide (runEdges runs) m n) :
    inRuns m runs = inRuns n runs := by
  induction runs with
  | nil => rfl
  | cons r runs ih =>
    obtain ⟨first, last⟩ := r
    obtain ⟨hr, hruns⟩ := SameSide.of_append (E := [first, last + 1]) h
    have hfirst : m < first ↔ n < first := by
      have := hr first (by simp)
      omega
    have hlast : m ≤ last ↔ n ≤ last := by
      have := hr (last + 1) (by simp)
      omega
    simp only [inRuns, hfirst, hlast, ih hruns]

/-- A stretch has an edge at each of its code points and after the last. -/
theorem alternates_congr {a : Nat × Nat}
    (h : SameSide (List.range' a.1 (a.2 + 2 - a.1)) m n) :
    RunSet.alternates m a = RunSet.alternates n a := by
  have inside {k l : Nat} (h : SameSide (List.range' a.1 (a.2 + 2 - a.1)) k l)
      (hk : RunSet.alternates k a = true) : k = l := by
    simp only [RunSet.alternates, Bool.and_eq_true, decide_eq_true_eq] at hk
    exact h.eq (List.mem_range'_1.mpr (by omega)) (List.mem_range'_1.mpr (by omega))
  rw [Bool.eq_iff_iff]
  exact ⟨fun hm => inside h hm ▸ hm, fun hn => inside h.symm hn ▸ hn⟩

theorem RunSet.contains_congr {s : RunSet} (h : SameSide s.edges c.toNat d.toNat) :
    s.contains c = s.contains d := by
  obtain ⟨hruns, halternating⟩ := SameSide.of_append h
  have halt : ∀ a ∈ s.alternating, alternates c.toNat a = alternates d.toNat a := fun a ha =>
    alternates_congr fun b hb => halternating b (List.mem_flatMap.mpr ⟨a, ha, hb⟩)
  rw [contains, contains, inRuns_congr hruns]
  congr 1
  rw [Bool.eq_iff_iff, List.any_eq_true, List.any_eq_true]
  exact exists_congr fun a => and_congr_right fun ha => by rw [halt a ha]

namespace CaseRun

variable {r : CaseRun}

theorem of_upper? (h : r.upper? m = some n) :
    (r.first ≤ m ∧ m ≤ r.last ∧ (m - r.first) % r.step = 0) ∧ m + r.distance = n := by
  unfold upper? at h
  split at h
  · rename_i hm
    exact ⟨hm, Option.some.inj h⟩
  · cases h

theorem upper?_of_lower? (h : r.lower? n = some m) : r.upper? m = some n := by
  unfold lower? at h
  split at h
  · rename_i hn
    obtain ⟨hdistance, hupper⟩ := hn
    cases h
    obtain ⟨l, hl⟩ := Option.isSome_iff_exists.mp hupper
    rw [hl, ← (of_upper? hl).2, Nat.sub_add_cancel hdistance]
  · cases h

theorem mem_pairs (h : r.upper? m = some n) : (m, n) ∈ r.pairs := by
  obtain ⟨⟨hfirst, hlast, hstep⟩, rfl⟩ := of_upper? h
  have hk := Nat.div_le_div_right (c := r.step) (Nat.sub_le_sub_right hlast r.first)
  have hm : r.first + r.step * ((m - r.first) / r.step) = m := by
    rw [Nat.mul_div_cancel' (Nat.dvd_of_mod_eq_zero hstep)]
    omega
  exact List.mem_map.mpr ⟨_, List.mem_range.mpr (Nat.lt_succ_of_le hk), by rw [hm]⟩

end CaseRun

/-- A case variant stands after the character in a pair, or before it. -/
theorem mem_casePairs (h : v ∈ caseVariants c) : ∃ n, v = Char.ofNat n ∧
    ((c.toNat, n) ∈ casePairs ∨ (n, c.toNat) ∈ casePairs) := by
  obtain ⟨r, hr, h⟩ := List.mem_flatMap.mp h
  obtain ⟨n, hn, rfl⟩ := List.mem_map.mp h
  have paired {k l : Nat} (h : r.upper? k = some l) : (k, l) ∈ casePairs :=
    List.mem_flatMap.mpr ⟨r, hr, CaseRun.mem_pairs h⟩
  refine ⟨n, rfl, (List.mem_append.mp hn).imp (fun hn => ?_) (fun hn => ?_)⟩
  · exact paired (Option.mem_toList.mp hn)
  · exact paired (CaseRun.upper?_of_lower? (Option.mem_toList.mp hn))

end Text

namespace CharSet

open Text

variable {s t : CharSet} {c d : Char}

@[simp] theorem contains_char (c d : Char) : (char c).contains d = decide (d = c) := by
  simp only [char, contains, ← Bool.decide_and, UInt32.le_iff_toNat_le, Char.ext_iff,
    ← UInt32.toNat_inj]
  congr 1
  exact propext (by omega)

@[simp] theorem contains_all (c : Char) : all.contains c = true := rfl

/-- A character that is in a set by a case variant is alone between two edges. -/
theorem eq_of_variant (h : SameSide (anyCase s).edges c.toNat d.toNat)
    (hv : (caseVariants c).any s.contains = true) : c = d := by
  obtain ⟨v, hmem, hs⟩ := List.any_eq_true.mp hv
  obtain ⟨n, rfl, hpair⟩ := mem_casePairs hmem
  have hedge {b : Nat} (hb : b ∈ [c.toNat, c.toNat + 1]) : b ∈ (anyCase s).edges := by
    refine List.mem_append_right _ (List.mem_flatMap.mpr ?_)
    rcases hpair with hpair | hpair
    · exact ⟨_, hpair, List.mem_append_left _ (by simpa only [hs, if_true] using hb)⟩
    · exact ⟨_, hpair, List.mem_append_right _ (by simpa only [hs, if_true] using hb)⟩
  exact Char.toNat_inj.mp (h.eq (hedge (by simp)) (hedge (by simp)))

/-- By induction on the set. -/
theorem contains_congr (h : SameSide s.edges c.toNat d.toNat) : s.contains c = s.contains d := by
  induction s with
  | none => rfl
  | range first last =>
    have hfirst : first.toNat ≤ c.toNat ↔ first.toNat ≤ d.toNat := h _ (by simp [edges])
    have hlast : c.toNat ≤ last.toNat ↔ d.toNat ≤ last.toNat := by
      have := h (last.toNat + 1) (by simp [edges])
      omega
    simp only [contains, UInt32.le_iff_toNat_le]
    exact congrArg₂ _ (decide_eq_decide.mpr hfirst) (decide_eq_decide.mpr hlast)
  | property p =>
    have := inRuns_congr h
    cases p <;> exact this
  | table s => exact RunSet.contains_congr h
  | union s t ihs iht =>
    obtain ⟨hs, ht⟩ := SameSide.of_append h
    rw [contains, contains, ihs hs, iht ht]
  | inter s t ihs iht =>
    obtain ⟨hs, ht⟩ := SameSide.of_append h
    rw [contains, contains, ihs hs, iht ht]
  | compl s ih => rw [contains, contains, ih h]
  | anyCase s ih =>
    have hs := ih (SameSide.of_append h).1
    rw [contains, contains, hs]
    congr 1
    rw [Bool.eq_iff_iff]
    exact ⟨fun hv => eq_of_variant h hv ▸ hv, fun hv => eq_of_variant h.symm hv ▸ hv⟩

/-! ## Points -/

/-- No edge lies between the greatest point up to a character and the character: an edge is a point
or a surrogate, and after the surrogates there is a point. -/
theorem exists_point (s : CharSet) (c : Char) :
    ∃ d ∈ s.points, SameSide s.edges d.toNat c.toNat := by
  let marks := (0 :: 0xe000 :: s.edges).filter fun n => n.isValidChar
  let n := Nat.findGreatest (· ∈ marks) c.toNat
  have hn : n ∈ marks := Nat.findGreatest_spec (Nat.zero_le _) (by simp [marks])
  have hvalid : n.isValidChar := by simpa using (List.mem_filter.mp hn).2
  have hle : n ≤ c.toNat := Nat.findGreatest_le _
  have hlast {b : Nat} (hb : b ∈ 0 :: 0xe000 :: s.edges) (hb' : b.isValidChar) (h : b ≤ c.toNat) :
      b ≤ n :=
    Nat.le_findGreatest h (List.mem_filter.mpr ⟨hb, decide_eq_true hb'⟩)
  refine ⟨Char.ofNat n, List.mem_map.mpr ⟨n, hn, rfl⟩, fun b hb => ?_⟩
  rw [toNat_ofNat_of_isValidChar hvalid]
  refine ⟨fun h => Nat.le_trans h hle, fun h => ?_⟩
  by_cases hb' : b.isValidChar
  · exact hlast (by simp [hb]) hb' h
  · have hc : c.toNat.isValidChar := c.valid
    have := hlast (b := 0xe000) (by simp) (by decide)
    unfold Nat.isValidChar at hb' hc
    omega

/-- Sets that agree at their points have the same characters. -/
theorem same_iff : s.same t = true ↔ ∀ c, s.contains c = t.contains c := by
  rw [same, Bool.or_eq_true, List.all_eq_true]
  constructor
  · rintro (h | h) c
    · rw [eq_of_beq h]
    · obtain ⟨d, hd, hside⟩ := (union s t).exists_point c
      obtain ⟨hs, ht⟩ := SameSide.of_append hside
      rw [← contains_congr hs, ← contains_congr ht]
      exact eq_of_beq (h d hd)
  · exact fun h => .inr fun c _ => by rw [h c, beq_self_eq_true]

/-- Two spellings of one set. -/
example : (union (char 'b') (char 'a')).same (compl (compl (range 'a' 'b'))) = true := by decide

instance : Decidable (∀ c, s.contains c = t.contains c) := decidable_of_iff _ same_iff

/-- The set has a single character if there is one that all its characters are. -/
theorem isSingle_iff : s.isSingle = true ↔ ∃ c, ∀ d, s.contains d = decide (d = c) := by
  simp only [isSingle]
  cases h : s.points.find? s.contains with
  | some c =>
    have hc := List.find?_some h
    simp only [same_iff, contains_char]
    refine ⟨fun h => ⟨c, h⟩, fun ⟨c', h⟩ => ?_⟩
    rw [h c, decide_eq_true_eq] at hc
    rw [hc]
    exact h
  | none =>
    refine iff_of_false (by simp) fun ⟨c, hall⟩ => ?_
    obtain ⟨d, hd, hside⟩ := s.exists_point c
    have hnot := List.find?_eq_none.mp h d hd
    rw [contains_congr hside, hall c] at hnot
    exact hnot (by simp)

end CharSet

end OclScan
