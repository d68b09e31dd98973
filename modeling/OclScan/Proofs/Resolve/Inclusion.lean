import OclScan.Proofs.Resolve.Locality
import OclScan.Proofs.Scan.Shadow

/-!
# Inclusions that are repeated

A rule-set includes another one directly or through others (`Table.Includes`). Where an inclusion of
what is included anyway is added at the end of a rule-set (`Table.Repeats`), trails lead to the same
definitions as before, with no more rule-sets open (`Table.Repeats.reaches_of_reaches`), so the
table resolves if it did (`Table.Repeats.resolvable_iff`). The rules that are added stand in the
list already, further to the front, and change no winner (`Table.Repeats.unfolds`).
-/

namespace OclScan

namespace Table

/-- Among the definitions is an inclusion that is or leads to one of the rule-set `inner`. -/
def Includes (t : Table) (ds : List Definition) (inner : String) : Prop :=
  ∃ mid, .ruleSet mid ∈ ds ∧ t.Reachable mid inner

/-- In the second table, a rule-set ends with a further inclusion of what it includes. -/
structure Repeats (t t' : Table) (name inner : String) (ds : List Definition) : Prop where
  find : t.find? name = some ⟨name, ds⟩
  find' : t'.find? name = some ⟨name, ds ++ [.ruleSet inner]⟩
  other : ∀ x, x ≠ name → t'.find? x = t.find? x
  includes : t.Includes ds inner

variable {t t' : Table} {name inner origin x y : String} {ds : List Definition} {d : Definition}
  {trail trail' : List Location} {path path' : List String} {rs : List Rule}

/-- A trail to an inclusion goes on with one from what is included. -/
theorem Reaches.trans (h : t.Reaches x trail (.ruleSet y)) (h' : t.Reaches y trail' d) :
    t.Reaches x (trail ++ trail') d := by
  generalize hd : Definition.ruleSet y = e at h
  induction h with
  | here h => exact .inside (hd ▸ h) h'
  | inside h _ ih => exact .inside h (ih hd)

theorem Includes.reaches (h : t.Includes ds inner) (hfind : t.find? name = some ⟨name, ds⟩) :
    ∃ trail, t.Reaches name trail (.ruleSet inner) := by
  obtain ⟨mid, hmid, hreach⟩ := h
  obtain ⟨i, hi⟩ := holds_of_mem hfind hmid
  rcases hreach with rfl | ⟨trail, hreach⟩
  · exact ⟨_, .here hi⟩
  · exact ⟨_, .inside hi hreach⟩

/-- Definitions stand for the rules of what they include directly, among others. -/
theorem Unfolds.exists_of_mem (h : t.Unfolds origin ds rs) (hmem : .ruleSet inner ∈ ds) :
    ∃ rs', t.StandsFor inner rs' ∧ rs' ⊆ rs := by
  induction h with
  | nil => cases hmem
  | pattern _ _ ih =>
    obtain ⟨rs', hrs', hsub⟩ := ih (by simpa using hmem)
    exact ⟨rs', hrs', List.subset_cons_of_subset _ hsub⟩
  | words _ _ ih =>
    obtain ⟨rs', hrs', hsub⟩ := ih (by simpa using hmem)
    exact ⟨rs', hrs', List.subset_cons_of_subset _ hsub⟩
  | @ruleSet _ _ set rs₁ _ _ hset hin _ _ ih =>
    rcases List.mem_cons.mp hmem with e | hmem
    · cases e
      exact ⟨rs₁, ⟨set, hset, hin⟩, List.subset_append_left _ _⟩
    · obtain ⟨rs', hrs', hsub⟩ := ih hmem
      exact ⟨rs', hrs', List.subset_append_of_subset_right _ hsub⟩

/-- A rule-set stands for the rules of what inclusions lead to. By induction on the trail. -/
theorem StandsFor.exists_of_reaches (hreach : t.Reaches x trail (.ruleSet inner))
    (h : t.StandsFor x rs) : ∃ rs', t.StandsFor inner rs' ∧ rs' ⊆ rs := by
  have direct {x y : String} {i : Nat} {rs : List Rule} (hd : t.Holds x i (.ruleSet y))
      (h : t.StandsFor x rs) : ∃ rs', t.StandsFor y rs' ∧ rs' ⊆ rs := by
    obtain ⟨set, hset, hi⟩ := hd
    obtain ⟨set', hset', hunfolds⟩ := h
    cases hset.symm.trans hset'
    exact hunfolds.exists_of_mem (List.mem_of_getElem? hi)
  generalize hd : Definition.ruleSet inner = d at hreach
  induction hreach generalizing rs with
  | here hi => exact direct (hd ▸ hi) h
  | inside hi _ ih =>
    obtain ⟨rs₁, h₁, hsub₁⟩ := direct hi h
    obtain ⟨rs₂, h₂, hsub₂⟩ := ih h₁ hd
    exact ⟨rs₂, h₂, List.Subset.trans hsub₂ hsub₁⟩

/-- Definitions stand for the rules of all that they include. -/
theorem Unfolds.exists_of_includes (h : t.Unfolds origin ds rs) (hincl : t.Includes ds inner) :
    ∃ rs', t.StandsFor inner rs' ∧ rs' ⊆ rs := by
  obtain ⟨mid, hmid, hreach⟩ := hincl
  obtain ⟨rs₁, h₁, hsub₁⟩ := h.exists_of_mem hmid
  rcases hreach with rfl | ⟨trail, hreach⟩
  · exact ⟨rs₁, h₁, hsub₁⟩
  · obtain ⟨rs₂, h₂, hsub₂⟩ := h₁.exists_of_reaches hreach
    exact ⟨rs₂, h₂, List.Subset.trans hsub₂ hsub₁⟩

/-- What can be used where some rule-sets are open can be used where fewer are. -/
theorem Usable.mono (h : t.Usable path d) (hsub : path' ⊆ path) : t.Usable path' d := by
  cases d with
  | pattern text action => cases action <;> exact h
  | words ws kind => trivial
  | ruleSet y => exact ⟨fun hy => h.1 (hsub hy), h.2⟩

/-- A table resolves if everything that is reached can be used. -/
theorem exists_resolve_iff (t : Table) (entry : String) :
    (∃ rs, t.resolve entry = .ok rs) ↔ t.Resolvable entry := by
  refine ⟨fun ⟨rs, h⟩ => (resolvable_of_eq_ok h).1, fun hr => ?_⟩
  cases h : t.resolve entry with
  | ok rs => exact ⟨rs, rfl⟩
  | error e => exact absurd hr (not_resolvable_of_eq_error h)

/-! ## The table with the inclusion -/

namespace Repeats

/-- What a rule-set holds it still holds. -/
theorem holds (h : t.Repeats t' name inner ds) {i : Nat} (hd : t.Holds x i d) :
    t'.Holds x i d := by
  obtain ⟨set, hset, hi⟩ := hd
  by_cases hx : x = name
  · subst hx
    cases h.find.symm.trans hset
    refine ⟨_, h.find', ?_⟩
    exact (List.getElem?_append_left (List.getElem?_eq_some_iff.mp hi).1).trans hi
  · exact ⟨set, (h.other x hx).trans hset, hi⟩

/-- Nothing but the inclusion is new. -/
theorem holds_or (h : t.Repeats t' name inner ds) {i : Nat} (hd : t'.Holds x i d) :
    t.Holds x i d ∨ x = name ∧ d = .ruleSet inner := by
  obtain ⟨set, hset, hi⟩ := hd
  by_cases hx : x = name
  · subst hx
    cases h.find'.symm.trans hset
    rcases Nat.lt_or_ge i ds.length with hlt | hge
    · rw [List.getElem?_append_left hlt] at hi
      exact .inl ⟨_, h.find, hi⟩
    · rw [List.getElem?_append_right hge] at hi
      exact .inr ⟨rfl, List.mem_singleton.mp (List.mem_of_getElem? hi)⟩
  · exact .inl ⟨set, (h.other x hx).symm.trans hset, hi⟩

theorem exists_find_iff (h : t.Repeats t' name inner ds) (x : String) :
    (∃ set, t'.find? x = some set) ↔ ∃ set, t.find? x = some set := by
  by_cases hx : x = name
  · subst hx
    exact iff_of_true ⟨_, h.find'⟩ ⟨_, h.find⟩
  · rw [h.other x hx]

/-- Trails still lead where they led. -/
theorem reaches (h : t.Repeats t' name inner ds) (hreach : t.Reaches x trail d) :
    t'.Reaches x trail d := by
  induction hreach with
  | here hd => exact .here (h.holds hd)
  | inside hd _ ih => exact .inside (h.holds hd) ih

/-- A trail through the new inclusion leads where one through the old ones leads, on which at least
as many rule-sets are open. -/
theorem reaches_of_reaches (h : t.Repeats t' name inner ds) (hreach : t'.Reaches x trail d) :
    ∃ trail', t.Reaches x trail' d ∧ openSets trail ⊆ openSets trail' := by
  obtain ⟨trail₀, hreach₀⟩ := h.includes.reaches h.find
  have hname : name ∈ openSets trail₀ := List.mem_of_mem_head? hreach₀.head?
  induction hreach with
  | @here x i d hd =>
    rcases h.holds_or hd with hd | ⟨rfl, rfl⟩
    · exact ⟨_, .here hd, fun _ hy => hy⟩
    · exact ⟨trail₀, hreach₀, by simpa [openSets] using hname⟩
  | @inside x i y trail d hd _ ih =>
    obtain ⟨trail', hreach', hsub⟩ := ih
    rcases h.holds_or hd with hd | ⟨rfl, e⟩
    · exact ⟨_, .inside hd hreach', List.cons_subset_cons _ hsub⟩
    · cases e
      refine ⟨_, hreach₀.trans hreach', ?_⟩
      have happend : openSets (trail₀ ++ trail') = openSets trail₀ ++ openSets trail' :=
        List.map_append
      rw [happend]
      exact List.cons_subset.mpr
        ⟨List.mem_append_left _ hname, List.subset_append_of_subset_right _ hsub⟩

theorem usable_iff (h : t.Repeats t' name inner ds) :
    t'.Usable path d ↔ t.Usable path d := by
  cases d with
  | pattern text action => cases action <;> exact Iff.rfl
  | words ws kind => exact Iff.rfl
  | ruleSet y => exact and_congr_right fun _ => h.exists_find_iff y

theorem resolvable_iff (h : t.Repeats t' name inner ds) (entry : String) :
    t'.Resolvable entry ↔ t.Resolvable entry := by
  refine and_congr (h.exists_find_iff entry)
    ⟨fun hu trail d hreach => ?_, fun hu trail d hreach => ?_⟩
  · exact h.usable_iff.mp (hu trail d (h.reaches hreach))
  · obtain ⟨trail', hreach', hsub⟩ := h.reaches_of_reaches hreach
    exact h.usable_iff.mpr ((hu trail' d hreach').mono hsub)

/-- Definitions stand for rules with the same winners. By induction on the unfolding; where the
rule-set with the new inclusion is unfolded, the rules that are added are among those before
them. -/
theorem unfolds {ds₀ : List Definition} (h : t.Repeats t' name inner ds)
    (hu : t.Unfolds origin ds₀ rs) :
    ∃ rs', t'.Unfolds origin ds₀ rs' ∧ ∀ c, winner? rs' c = winner? rs c := by
  induction hu with
  | nil => exact ⟨[], .nil, fun _ => rfl⟩
  | pattern hp _ ih =>
    obtain ⟨rs', hrs', hwin⟩ := ih
    exact ⟨_, .pattern hp hrs', fun c => by rw [winner?_cons, hwin, winner?_cons]⟩
  | words hp _ ih =>
    obtain ⟨rs', hrs', hwin⟩ := ih
    exact ⟨_, .words hp hrs', fun c => by rw [winner?_cons, hwin, winner?_cons]⟩
  | @ruleSet origin x set rs₁ ds₁ rs₂ hset _ _ ihin ih =>
    obtain ⟨rs₁', hrs₁, hwin₁⟩ := ihin
    obtain ⟨rs₂', hrs₂, hwin₂⟩ := ih
    by_cases hx : x = name
    · subst hx
      cases h.find.symm.trans hset
      have hincl : t'.Includes ds inner := by
        obtain ⟨mid, hmid, hreach⟩ := h.includes
        exact ⟨mid, hmid, hreach.imp id fun ⟨trail, hreach⟩ => ⟨trail, h.reaches hreach⟩⟩
      obtain ⟨rs₃, ⟨set₃, hset₃, hrs₃⟩, hsub⟩ := hrs₁.exists_of_includes hincl
      have hshadowed : ∀ s ∈ rs₃, ∃ r ∈ rs₁', r.Shadows s :=
        fun s hs => ⟨s, hsub hs, .refl s⟩
      refine ⟨_, .ruleSet h.find' (hrs₁.append (.ruleSet hset₃ hrs₃ .nil)) hrs₂, fun c => ?_⟩
      rw [winner?_append, List.append_nil, winner?_append_of_shadowed hshadowed, hwin₁, hwin₂,
        winner?_append]
    · refine ⟨_, .ruleSet ((h.other x hx).trans hset) hrs₁ hrs₂, fun c => ?_⟩
      rw [winner?_append, hwin₁, hwin₂, winner?_append]

/-- Both tables resolve to rules with the same winners. -/
theorem winner?_eq (h : t.Repeats t' name inner ds) {entry : String} {rs' : List Rule}
    (hrs : t.resolve entry = .ok rs) (hrs' : t'.resolve entry = .ok rs') (c : Cursor) :
    winner? rs' c = winner? rs c := by
  obtain ⟨-, set, hset, hunfolds⟩ := resolvable_of_eq_ok hrs
  have hentry : t.Unfolds entry [.ruleSet entry] (rs ++ []) := .ruleSet hset hunfolds .nil
  obtain ⟨_, hentry', hwin⟩ := h.unfolds hentry
  cases hentry' with
  | @ruleSet _ _ set' rs₁ _ _ hset' hin hnil =>
    cases hnil
    have hstands : t'.StandsFor entry rs₁ := ⟨set', hset', hin⟩
    rw [List.append_nil, List.append_nil] at hwin
    rw [hstands.unique (resolvable_of_eq_ok hrs').2, hwin]

end Repeats

/-! ## Adding an inclusion -/

theorem find?_append_cons (before after : Table) (set : RuleSet) (x : String) :
    Table.find? (before ++ set :: after) x =
      (before.find? x).or (if set.name = x then some set else after.find? x) := by
  rw [find?, find?, List.find?_append, List.find?_cons]
  by_cases hx : set.name = x
  · rw [if_pos hx, beq_iff_eq.mpr hx]
  · rw [if_neg hx, beq_eq_false_iff_ne.mpr hx]
    rfl

/-- Tables with the same rule-sets resolve alike. -/
theorem resolve_congr (h : ∀ x, t'.find? x = t.find? x) (entry : String) :
    t'.resolve entry = t.resolve entry := by
  have hagrees : Agrees (fun _ => False) (t.resolve entry) (t'.resolve entry) :=
    expand_agrees t.deep t'.deep fun x _ => .inl (h x)
  exact hagrees.eq fun _ _ => id

/-- An inclusion is repeated at the end of a rule-set, or the rule-set does not count, since an
earlier one has its name. -/
theorem repeats_or_same (before after : Table) {name inner : String} {ds : List Definition}
    (h : Table.Includes (before ++ ⟨name, ds⟩ :: after) ds inner) :
    Table.Repeats (before ++ ⟨name, ds⟩ :: after)
        (before ++ ⟨name, ds ++ [.ruleSet inner]⟩ :: after) name inner ds ∨
      ∀ x, Table.find? (before ++ ⟨name, ds ++ [.ruleSet inner]⟩ :: after) x =
        Table.find? (before ++ ⟨name, ds⟩ :: after) x := by
  have hother (x : String) (hx : x ≠ name) :
      Table.find? (before ++ ⟨name, ds ++ [.ruleSet inner]⟩ :: after) x =
        Table.find? (before ++ ⟨name, ds⟩ :: after) x := by
    rw [find?_append_cons, find?_append_cons, if_neg hx.symm, if_neg hx.symm]
  cases hbefore : before.find? name with
  | none =>
    refine .inl ⟨?_, ?_, hother, h⟩
    · rw [find?_append_cons, hbefore, if_pos rfl, Option.none_or]
    · rw [find?_append_cons, hbefore, if_pos rfl, Option.none_or]
  | some set =>
    refine .inr fun x => ?_
    by_cases hx : x = name
    · rw [find?_append_cons, find?_append_cons, hx, hbefore, Option.some_or, Option.some_or]
    · exact hother x hx

/-- A table resolves with an inclusion that is repeated at the end of a rule-set if it does without,
to rules with the same winners. -/
theorem resolve_repeated (before after : Table) {name inner : String} {ds : List Definition}
    (h : Table.Includes (before ++ ⟨name, ds⟩ :: after) ds inner) (entry : String) :
    ((∃ rs, resolve (before ++ ⟨name, ds ++ [.ruleSet inner]⟩ :: after) entry = .ok rs) ↔
      ∃ rs, resolve (before ++ ⟨name, ds⟩ :: after) entry = .ok rs) ∧
    ∀ rs rs', resolve (before ++ ⟨name, ds⟩ :: after) entry = .ok rs →
      resolve (before ++ ⟨name, ds ++ [.ruleSet inner]⟩ :: after) entry = .ok rs' →
      ∀ c, winner? rs' c = winner? rs c := by
  rcases repeats_or_same before after h with hrepeats | hsame
  · refine ⟨?_, fun rs rs' => hrepeats.winner?_eq⟩
    rw [exists_resolve_iff, exists_resolve_iff, hrepeats.resolvable_iff]
  · rw [resolve_congr hsame]
    refine ⟨Iff.rfl, fun rs rs' hrs hrs' c => ?_⟩
    cases hrs.symm.trans hrs'
    rfl

end Table

end OclScan
