import OclScan.Proofs.Resolve.FirstFault

/-!
# Resolving a rule table

A table resolves exactly where every definition that is reached can be used, and then to the rules
that its entry stands for (`Table.resolve_unfolds`), each of which comes from a definition that is
reached (`Table.makes_of_resolve`). Where it does not, the error tells the first
fault that is reached (`Table.resolve_eq_error`), and what it names is in the table
(`Table.Evidence`).
-/

namespace OclScan

namespace Table

variable {t : Table} {entry name : String} {d : Definition} {trail : List Location}
  {l : Location} {e : ConfigError} {rs : List Rule}

/-- The rule-set `entry` exists, and every definition that is reached from it can be used where it
stands. -/
def Resolvable (t : Table) (entry : String) : Prop :=
  (∃ set, t.find? entry = some set) ∧
    ∀ trail d, t.Reaches entry trail d → t.Usable (openSets trail) d

/-- The definitions of the rule-set `entry` stand for the rules. -/
def StandsFor (t : Table) (entry : String) (rs : List Rule) : Prop :=
  ∃ set, t.find? entry = some set ∧ t.Unfolds entry set.rules rs

theorem StandsFor.unique {rs' : List Rule} (h : t.StandsFor entry rs)
    (h' : t.StandsFor entry rs') : rs' = rs := by
  obtain ⟨set, hset, h⟩ := h
  obtain ⟨set', hset', h'⟩ := h'
  cases hset.symm.trans hset'
  exact h.unique h'

theorem deep (t : Table) : t.Deep t.length [] := ⟨List.nodup_nil, List.nil_subset _, Nat.le_refl _⟩

theorem resolvable_of_eq_ok (h : t.resolve entry = .ok rs) :
    t.Resolvable entry ∧ t.StandsFor entry rs := by
  obtain ⟨-, hunfolds, hsound⟩ := expand_eq_ok h
  refine ⟨⟨?_, fun trail d hreach => ?_⟩, hunfolds⟩
  · obtain ⟨set, hset, -⟩ := hunfolds
    exact ⟨set, hset⟩
  · exact usable_iff.mpr fun f hf => hsound trail f ⟨d, hreach, hf⟩

/-- What is reported is a fault. -/
theorem not_resolvable_of_eq_error (h : t.resolve entry = .error e) : ¬ t.Resolvable entry := by
  rintro ⟨⟨set, hset⟩, hu⟩
  have hentry : t.Usable [] (.ruleSet entry) := ⟨List.not_mem_nil, set, hset⟩
  cases expand_eq_error t.deep h with
  | inclusion hf _ => exact usable_iff.mp hentry _ hf
  | inside trail _ hfirst =>
    obtain ⟨d, hreach, hf⟩ := hfirst.fault
    exact usable_iff.mp (hu trail d hreach) _ hf

/-- A table resolves exactly if its entry exists and every definition that is reached can be used
where it stands, and it resolves to the rules that its entry stands for. -/
theorem resolve_unfolds (t : Table) (entry : String) :
    ((∃ rs, t.resolve entry = .ok rs) ↔ t.Resolvable entry) ∧
      ∀ rs, t.resolve entry = .ok rs ↔ t.Resolvable entry ∧ t.StandsFor entry rs := by
  have resolves : t.Resolvable entry → ∃ rs, t.resolve entry = .ok rs := by
    intro hr
    cases h : t.resolve entry with
    | ok rs => exact ⟨rs, rfl⟩
    | error e => exact absurd hr (not_resolvable_of_eq_error h)
  refine ⟨⟨fun ⟨rs, h⟩ => (resolvable_of_eq_ok h).1, resolves⟩, fun rs => ⟨resolvable_of_eq_ok, ?_⟩⟩
  rintro ⟨hr, hstands⟩
  obtain ⟨rs', h⟩ := resolves hr
  rw [h, (resolvable_of_eq_ok h).2.unique hstands]

/-- A rule-set that two others include stands for its rules in both places. -/
example : (resolve [⟨"root", [.ruleSet "a", .ruleSet "b"]⟩, ⟨"a", [.ruleSet "c"]⟩,
      ⟨"b", [.ruleSet "c"]⟩, ⟨"c", [.pattern "x" (.token .name)]⟩] "root").toOption.map
    (List.map Rule.origin) = some ["c", "c"] := by
  decide +kernel

/-! ## Rules -/

/-- Each rule is what a definition stands for that is reached and can be used. -/
theorem makes_of_resolve (h : t.resolve entry = .ok rs) {r : Rule} (hr : r ∈ rs) :
    ∃ trail d, t.Reaches entry trail d ∧ Makes d r ∧ t.Usable (openSets trail) d := by
  obtain ⟨⟨-, husable⟩, set, hset, hunfolds⟩ := resolvable_of_eq_ok h
  obtain ⟨trail, d, hreach, hmakes⟩ := hunfolds.reaches (fun d => holds_of_mem hset) r hr
  exact ⟨trail, d, hreach, hmakes, husable trail d hreach⟩

/-- A rule that makes tokens by groups has a kind for each group of its pattern. -/
theorem groups_of_resolve (h : t.resolve entry = .ok rs) {r : Rule} (hr : r ∈ rs)
    {kinds : List Kind} (hk : r.action = .byGroups kinds) : r.pattern.groups = kinds.length := by
  obtain ⟨trail, d, -, hmakes, husable⟩ := makes_of_resolve h hr
  cases d with
  | pattern text action =>
    cases hmakes.2.symm.trans hk
    obtain ⟨p, hp, hgroups⟩ := husable
    cases hmakes.1.symm.trans hp
    exact hgroups
  | words ws kind => cases hmakes.2.symm.trans hk
  | ruleSet name => cases hmakes

/-- Each rule has a pattern that was read from a text. -/
theorem read_of_resolve (h : t.resolve entry = .ok rs) {r : Rule} (hr : r ∈ rs) :
    ∃ text, Pattern.read text = .ok r.pattern := by
  obtain ⟨-, d, -, hmakes, -⟩ := makes_of_resolve h hr
  cases d with
  | pattern text action => exact ⟨text, hmakes.1⟩
  | words ws kind => exact ⟨identifierText, hmakes.1⟩
  | ruleSet name => cases hmakes

/-- A rule makes one token if no definition of the table makes tokens by groups. -/
theorem token_of_resolve (h : t.resolve entry = .ok rs)
    (ht : ∀ set ∈ t, ∀ text kinds, .pattern text (.byGroups kinds) ∉ set.rules) {r : Rule}
    (hr : r ∈ rs) : ∃ kind, r.action = .token kind := by
  obtain ⟨trail, d, hreach, hmakes, -⟩ := makes_of_resolve h hr
  obtain ⟨set, hset, hd⟩ := hreach.mem
  cases d with
  | pattern text action =>
    cases action with
    | token kind => exact ⟨kind, hmakes.2⟩
    | byGroups kinds => exact absurd hd (ht set hset text kinds)
  | words ws kind => exact ⟨kind, hmakes.2⟩
  | ruleSet name => cases hmakes

/-! ## Errors -/

/-- The trail ends with the place of the definition. -/
theorem Reaches.holds (h : t.Reaches name trail d) (hl : trail.getLast? = some l) :
    t.Holds l.ruleSet l.index d := by
  induction h with
  | here hd =>
    cases hl
    exact hd
  | @inside _ _ _ trail _ _ hreach ih =>
    refine ih ?_
    rw [List.getLast?_cons] at hl
    cases htrail : trail.getLast? with
    | some l' =>
      rw [htrail] at hl
      exact hl
    | none =>
      rw [List.getLast?_eq_none_iff.mp htrail] at hreach
      cases hreach

/-- The first open rule-set is the one that the trail starts from. -/
theorem Reaches.head? (h : t.Reaches name trail d) : (openSets trail).head? = some name := by
  cases h <;> rfl

/-- Each open rule-set includes the next; the last includes what the definition includes. -/
theorem Reaches.includes {inner : String} (h : t.Reaches name trail (.ruleSet inner)) (i : Nat)
    (a b : String) (ha : (openSets trail ++ [inner])[i]? = some a)
    (hb : (openSets trail ++ [inner])[i + 1]? = some b) : ∃ j, t.Holds a j (.ruleSet b) := by
  generalize hd : Definition.ruleSet inner = d at h
  induction h generalizing i with
  | @here _ j _ h =>
    subst hd
    cases i with
    | zero =>
      cases ha
      cases hb
      exact ⟨j, h⟩
    | succ i => simp [openSets] at hb
  | @inside _ j inner' trail _ h hreach ih =>
    cases i with
    | succ i => exact ih i ha hb hd
    | zero =>
      cases ha
      have hhead := hreach.head?
      rw [List.head?_eq_getElem?] at hhead
      have hb' : (openSets trail ++ [inner])[0]? = some b := hb
      rw [List.getElem?_append_left (List.getElem?_eq_some_iff.mp hhead).1, hhead] at hb'
      cases hb'
      exact ⟨j, h⟩

/-- The error tells the first fault that is reached from `entry`, and its place. -/
def FirstFault (t : Table) (entry : String) (e : ConfigError) : Prop :=
  ∃ trail d, t.Reaches entry trail d ∧ t.Offends (openSets trail) d e.fault ∧
    trail.getLast? = some e.location ∧
    ∀ trail' d' f, t.Reaches entry trail' d' → t.Offends (openSets trail') d' f →
      ¬ Before trail' trail

/-- The definition at `l` is reached from `entry`. -/
def ReachedAt (t : Table) (entry : String) (l : Location) (d : Definition) : Prop :=
  t.Holds l.ruleSet l.index d ∧ ∃ trail, t.Reaches entry trail d ∧ trail.getLast? = some l

/-- The chain leads from `entry` through inclusions to one at `l` that closes it. -/
structure CycleAt (t : Table) (entry : String) (l : Location) (chain : List String) : Prop where
  head : chain.head? = some entry
  includes : ∀ (i : Nat) a b, chain[i]? = some a → chain[i + 1]? = some b →
    ∃ j, t.Holds a j (.ruleSet b)
  closes : ∃ path last, chain = path ++ [last] ∧ path.Nodup ∧ last ∈ path ∧
    path.getLast? = some l.ruleSet ∧ t.Holds l.ruleSet l.index (.ruleSet last)

/-- What the error names is in the table, at its location. -/
def Evidence (t : Table) (entry : String) (e : ConfigError) : Prop :=
  match e.fault with
  | .undefinedRuleSet name => t.ReachedAt entry e.location (.ruleSet name) ∧ t.find? name = none
  | .cyclicInclude chain => t.CycleAt entry e.location chain
  | .invalidPattern text message => ∃ action, t.ReachedAt entry e.location (.pattern text action) ∧
      ((∃ e', Pattern.read text = .error e' ∧ message = unreadablePattern) ∨
        ∃ p kinds, Pattern.read text = .ok p ∧ action = .byGroups kinds ∧
          p.groups ≠ kinds.length ∧ message = groupsMessage p.groups kinds.length)
  | .serialization _ => False

/-- A fault at the end of a trail on which no rule-set is open twice shows what it names. -/
theorem evidence_of_offends (hreach : t.Reaches entry trail d)
    (hf : t.Offends (openSets trail) d e.fault) (hl : trail.getLast? = some e.location)
    (hnodup : (openSets trail).Nodup) : t.Evidence entry e := by
  have hholds := hreach.holds hl
  have hat : t.ReachedAt entry e.location d := ⟨hholds, trail, hreach, hl⟩
  obtain ⟨fault, location⟩ := e
  cases hf with
  | unreadable hp => exact ⟨_, hat, .inl ⟨_, hp, rfl⟩⟩
  | groups hp hne => exact ⟨_, hat, .inr ⟨_, _, hp, rfl, hne, rfl⟩⟩
  | undefined hnone => exact ⟨hat, hnone⟩
  | cyclic hmem =>
    refine ⟨?_, hreach.includes, _, _, rfl, hnodup, hmem, ?_, hholds⟩
    · rw [List.head?_append, hreach.head?]
      rfl
    · rw [openSets, List.getLast?_map, hl]
      rfl

/-- A table that does not resolve has no such entry, which is told without a place, or the error
tells the first fault that is reached, and what it names is in the table. Where a rule-set is
called `<null>`, its first definition has the place that tells a missing entry, and only the name
of the undefined rule-set tells the two apart; where none is, the place does. -/
theorem resolve_eq_error (h : t.resolve entry = .error e) :
    (e = ⟨.undefinedRuleSet entry, .nowhere⟩ ↔ t.find? entry = none) ∧
      (t.find? Location.nowhere.ruleSet = none →
        (e.location = .nowhere ↔ t.find? entry = none)) ∧
      (t.find? entry ≠ none → t.FirstFault entry e ∧ t.Evidence entry e) := by
  cases expand_eq_error t.deep h with
  | inclusion hf hl =>
    obtain ⟨fault, location⟩ := e
    subst hl
    cases hf with
    | cyclic hmem => cases hmem
    | undefined hnone =>
      exact ⟨iff_of_true rfl hnone, fun _ => iff_of_true rfl hnone, fun hne => absurd hnone hne⟩
  | inside trail hu hfirst =>
    obtain ⟨-, set, hset⟩ := hu
    obtain ⟨⟨d, hreach, hf⟩, hl, hnodup, hmin⟩ := hfirst
    rw [List.nil_append] at hf hnodup
    have hev := evidence_of_offends hreach hf hl hnodup
    have hne : t.find? entry ≠ none := by
      rw [hset]
      exact nofun
    refine ⟨iff_of_false (fun e' => ?_) hne, fun hnull => iff_of_false (fun hl' => ?_) hne,
      fun _ => ⟨⟨trail, d, hreach, hf, hl, ?_⟩, hev⟩⟩
    · subst e'
      exact hne hev.2
    · -- a fault inside a rule-set is told at a definition of it, so that rule-set is in the table
      obtain ⟨set', hset', -⟩ := hreach.holds (hl.trans (congrArg some hl'))
      cases hnull.symm.trans hset'
    · exact fun trail' d' f hreach' hf' => hmin trail' f ⟨d', hreach', hf'⟩

/-- The entry is in the table, and yet the place of the error is that of a missing entry. -/
theorem resolve_eq_error_at_nowhere :
    let t : Table := [⟨"root", [.ruleSet "<null>"]⟩, ⟨"<null>", [.ruleSet "x"]⟩]
    let e : ConfigError := ⟨.undefinedRuleSet "x", .nowhere⟩
    t.resolve "root" = .error e ∧ ¬ (e.location = .nowhere ↔ t.find? "root" = none) := by
  intro t e
  exact ⟨rfl, fun h => absurd (h.mp rfl) (by decide)⟩

/-- A chain may lead to a cycle that its first rule-set is not part of, and be reported where the
cycle is closed. -/
theorem resolve_eq_error_cycle :
    let t : Table := [⟨"root", [.ruleSet "a"]⟩, ⟨"a", [.pattern "x" (.token .name), .ruleSet "b"]⟩,
      ⟨"b", [.ruleSet "a"]⟩]
    let e : ConfigError := ⟨.cyclicInclude ["root", "a", "b", "a"], ⟨"b", 0⟩⟩
    t.resolve "root" = .error e ∧ t.FirstFault "root" e ∧ t.Evidence "root" e := by
  intro t e
  have h : t.resolve "root" = .error e := rfl
  exact ⟨h, (resolve_eq_error h).2.2 (by decide)⟩

end Table

end OclScan
