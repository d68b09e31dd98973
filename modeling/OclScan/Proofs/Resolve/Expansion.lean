import OclScan.Proofs.Except
import OclScan.Proofs.Resolve.Unfolding

/-!
# Expanding rule-sets

Where expanding a rule-set gives rules, they are those that it stands for, and there is no fault in
it (`Table.expand_eq_ok`). By induction on the depth: the parts of a rule-set are its definitions,
in order (`Table.expand_succ`), and one that is an inclusion is expanded at a smaller depth.
-/

namespace OclScan

namespace Table

variable {t : Table} {depth : Nat} {path : List String} {name : String} {set : RuleSet}
  {l : Location} {d : Definition} {e : ConfigError} {rs : List Rule}

/-! ## Parts -/

/-- The rules that a definition at `l` stands for. -/
def part (t : Table) (depth : Nat) (path : List String) (l : Location) :
    Definition → Except ConfigError (List Rule)
  | .pattern text action => return [← patternRule text action l]
  | .words ws kind => return [← wordsRule ws kind l]
  | .ruleSet inner => t.expand depth path inner l

theorem expand_of_mem (hn : name ∈ path) (depth : Nat) (l : Location) :
    t.expand depth path name l = .error ⟨.cyclicInclude (path ++ [name]), l⟩ := by
  rw [expand, if_pos (List.contains_iff_mem.mpr hn)]

theorem expand_of_find?_eq_none (hn : name ∉ path) (h : t.find? name = none) (depth : Nat)
    (l : Location) : t.expand depth path name l = .error ⟨.undefinedRuleSet name, l⟩ := by
  rw [expand, if_neg (by rwa [List.contains_iff_mem]), h]

/-- A rule-set that cannot be included is not expanded. -/
theorem expand_of_not_usable (h : ¬ t.Usable path (.ruleSet name)) :
    ∃ f, t.Offends path (.ruleSet name) f ∧
      ∀ depth l, t.expand depth path name l = .error ⟨f, l⟩ := by
  by_cases hn : name ∈ path
  · exact ⟨_, .cyclic hn, expand_of_mem hn⟩
  · cases hset : t.find? name with
    | some set => exact absurd ⟨hn, set, hset⟩ h
    | none => exact ⟨_, .undefined hset, expand_of_find?_eq_none hn hset⟩

theorem expand_zero (hn : name ∉ path) (h : t.find? name = some set) (l : Location) :
    t.expand 0 path name l = .error ⟨.cyclicInclude (path ++ [name]), l⟩ := by
  rw [expand, if_neg (by rwa [List.contains_iff_mem]), h]

theorem expand_succ (hn : name ∉ path) (h : t.find? name = some set) (depth : Nat)
    (l : Location) : t.expand (depth + 1) path name l =
      (set.rules.zipIdx.mapM fun p => t.part depth (path ++ [name]) ⟨name, p.2⟩ p.1).map
        List.flatten := by
  rw [expand, if_neg (by rwa [List.contains_iff_mem]), h]
  -- each definition is taken apart as by `part`
  refine .trans (congrArg (· >>= _) (congrArg (set.rules.zipIdx.mapM ·) (funext fun ⟨d, i⟩ => ?_)))
    (bind_pure_comp ..)
  cases d <;> rfl

theorem readPattern_eq_ok {text : String} {p : Pattern} (h : readPattern text l = .ok p) :
    Pattern.read text = .ok p := by
  rw [readPattern] at h
  split at h
  · cases h
    assumption
  · cases h

theorem readPattern_eq_error {text : String} (h : readPattern text l = .error e) :
    (∃ e', Pattern.read text = .error e') ∧ e = ⟨.invalidPattern text unreadablePattern, l⟩ := by
  rw [readPattern] at h
  split at h
  · cases h
  · cases h
    exact ⟨⟨_, ‹_›⟩, rfl⟩

theorem patternRule_eq_ok {text : String} {action : Action} {r : Rule}
    (h : patternRule text action l = .ok r) : ∃ p, Pattern.read text = .ok p ∧
      r = ⟨p, action, none, l.ruleSet⟩ ∧ t.Usable path (.pattern text action) := by
  obtain ⟨p, hp, h⟩ := bind_eq_ok h
  have hread := readPattern_eq_ok hp
  cases action with
  | token kind => exact ⟨p, hread, (Except.ok.inj h).symm, p, hread⟩
  | byGroups kinds =>
    simp only at h
    split at h
    · exact ⟨p, hread, (Except.ok.inj h).symm, p, hread, ‹_›⟩
    · cases h

theorem patternRule_eq_error {text : String} {action : Action}
    (h : patternRule text action l = .error e) :
    t.Offends path (.pattern text action) e.fault ∧ e.location = l := by
  rcases bind_eq_error h with hp | ⟨p, hp, h⟩
  · obtain ⟨⟨e', he'⟩, rfl⟩ := readPattern_eq_error hp
    exact ⟨.unreadable he', rfl⟩
  · cases action with
    | token kind => cases h
    | byGroups kinds =>
      simp only at h
      split at h
      · cases h
      · cases h
        exact ⟨.groups (readPattern_eq_ok hp) ‹_›, rfl⟩

/-- The pattern of identifiers can be read. -/
theorem readPattern_identifierText : ∃ p, Pattern.read identifierText = .ok p ∧
    ∀ l, readPattern identifierText l = .ok p := by
  have h : (Pattern.read identifierText).toOption.isSome = true := by decide +kernel
  cases hp : Pattern.read identifierText with
  | error e =>
    rw [hp] at h
    cases h
  | ok p => exact ⟨p, rfl, fun l => by rw [readPattern, hp]⟩

/-- What expanding the rule-set `name` with `path` open tells, if it gives rules. -/
structure Expanded (t : Table) (path : List String) (name : String) (rs : List Rule) : Prop where
  closed : name ∉ path
  unfolds : ∃ set, t.find? name = some set ∧ t.Unfolds name set.rules rs
  sound : ∀ trail f, ¬ t.FaultAt path name trail f

theorem part_eq_ok
    (ih : ∀ {name rs}, t.expand depth path name l = .ok rs → t.Expanded path name rs)
    (h : t.part depth path l d = .ok rs) :
    t.Unfolds l.ruleSet [d] rs ∧ ∀ tail f, ¬ t.FaultFrom path d tail f := by
  have alone (hd : ∀ name, d ≠ .ruleSet name) (hu : t.Usable path d) :
      ∀ tail f, ¬ t.FaultFrom path d tail f := by
    rintro tail f (⟨-, hf⟩ | ⟨name, e, -⟩)
    · exact usable_iff.mp hu f hf
    · exact hd name e
  cases d with
  | pattern text action =>
    obtain ⟨r, hr, h⟩ := bind_eq_ok h
    cases h
    obtain ⟨p, hp, rfl, hu⟩ := patternRule_eq_ok hr
    exact ⟨.pattern hp .nil, alone nofun hu⟩
  | words ws kind =>
    obtain ⟨r, hr, h⟩ := bind_eq_ok h
    cases h
    obtain ⟨p, hp, hread⟩ := readPattern_identifierText
    rw [wordsRule, hread] at hr
    cases hr
    exact ⟨.words hp .nil, alone nofun trivial⟩
  | ruleSet name =>
    obtain ⟨hclosed, ⟨set, hset, hunfolds⟩, hsound⟩ := ih h
    refine ⟨?_, ?_⟩
    · have hu : t.Unfolds l.ruleSet [.ruleSet name] (rs ++ []) := .ruleSet hset hunfolds .nil
      rwa [List.append_nil] at hu
    · have hu : t.Usable path (.ruleSet name) := ⟨hclosed, set, hset⟩
      rintro tail f (⟨-, hf⟩ | ⟨name', e, hf⟩)
      · exact usable_iff.mp hu f hf
      · cases e
        exact hsound tail f hf

theorem parts_eq_ok
    (hpart : ∀ i d rs, t.part depth path ⟨name, i⟩ d = .ok rs → t.Unfolds name [d] rs)
    {ds : List Definition} {k : Nat} {parts : List (List Rule)}
    (h : (ds.zipIdx k).mapM (fun p => t.part depth path ⟨name, p.2⟩ p.1) = .ok parts) :
    t.Unfolds name ds parts.flatten ∧
      ∀ j d, ds[j]? = some d → ∃ rs, t.part depth path ⟨name, k + j⟩ d = .ok rs := by
  induction ds generalizing k parts with
  | nil =>
    cases h
    exact ⟨.nil, nofun⟩
  | cons d ds ih =>
    rw [List.zipIdx_cons, List.mapM_cons] at h
    obtain ⟨rs, hrs, h⟩ := bind_eq_ok h
    obtain ⟨parts', hparts, h⟩ := bind_eq_ok h
    cases h
    obtain ⟨hunfolds, hok⟩ := ih hparts
    refine ⟨(hpart k d rs hrs).append hunfolds, fun j d' hd => ?_⟩
    cases j with
    | zero =>
      cases hd
      exact ⟨rs, hrs⟩
    | succ j =>
      rw [Nat.add_comm j, ← Nat.add_assoc]
      exact hok j d' hd

/-- Where expanding gives rules, there is no fault, and the rules are those that the rule-set stands
for. -/
theorem expand_eq_ok (h : t.expand depth path name l = .ok rs) : t.Expanded path name rs := by
  induction depth generalizing path name l rs with
  | zero =>
    by_cases hu : t.Usable path (.ruleSet name)
    · obtain ⟨hn, set, hset⟩ := hu
      rw [expand_zero hn hset] at h
      cases h
    · obtain ⟨f, -, herror⟩ := expand_of_not_usable hu
      rw [herror] at h
      cases h
  | succ depth ih =>
    by_cases hu : t.Usable path (.ruleSet name)
    · obtain ⟨hn, set, hset⟩ := hu
      rw [expand_succ hn hset] at h
      obtain ⟨parts, hparts, rfl⟩ := map_eq_ok h
      obtain ⟨hunfolds, hok⟩ := parts_eq_ok (fun i d rs h => (part_eq_ok ih h).1) hparts
      refine ⟨hn, ⟨set, hset, hunfolds⟩, fun trail f hf => ?_⟩
      obtain ⟨i, d, tail, ⟨set', hset', hd⟩, -, hfrom⟩ := faultAt_iff.mp hf
      cases hset.symm.trans hset'
      obtain ⟨rs, hrs⟩ := hok i d hd
      rw [Nat.zero_add] at hrs
      exact (part_eq_ok ih hrs).2 tail f hfrom
    · obtain ⟨f, -, herror⟩ := expand_of_not_usable hu
      rw [herror] at h
      cases h

end Table

end OclScan
