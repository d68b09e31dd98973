import OclScan.Resolve

/-!
# What a rule table stands for

A rule table is read by unfolding its inclusions, depth first and in textual order. A trail leads
through inclusions to a definition (`Table.Reaches`); its rule-sets are those that are open there,
and its indices give the order of the text (`Table.Before`). A definition offends if it cannot be
used where it stands (`Table.Offends`, `Table.usable_iff`); a fault of a rule-set is at the end of a
trail from it (`Table.FaultAt`, `Table.faultAt_iff`). Where there is none, the definitions of a
rule-set stand for one list of rules (`Table.Unfolds`, `Table.Unfolds.unique`), and a trail leads to
what each rule stands for (`Table.Unfolds.reaches`).
-/

namespace OclScan

namespace Table

/-- Definition `i` of the rule-set `name` is `d`. -/
def Holds (t : Table) (name : String) (i : Nat) (d : Definition) : Prop :=
  ∃ set, t.find? name = some set ∧ set.rules[i]? = some d

/-- The trail leads from the rule-set `name` to the definition `d`: it ends with the place of `d`,
and every place before is an inclusion of the rule-set of the next. -/
inductive Reaches (t : Table) : String → List Location → Definition → Prop
  | here {name i d} : t.Holds name i d → Reaches t name [⟨name, i⟩] d
  | inside {name i inner trail d} : t.Holds name i (.ruleSet inner) → Reaches t inner trail d →
      Reaches t name (⟨name, i⟩ :: trail) d

/-- The rule-sets that are open at the end of a trail, the outermost first. -/
def openSets (trail : List Location) : List String := trail.map Location.ruleSet

/-- A trail comes before another in the order of the text: its index is less where they part, or it
ends there. -/
def Before (trail trail' : List Location) : Prop :=
  List.Lex (· < ·) (trail.map Location.index) (trail'.map Location.index)

theorem not_before_nil (trail : List Location) : ¬ Before trail [] := List.not_lex_nil

theorem before_cons {l l' : Location} {trail trail' : List Location} :
    Before (l :: trail) (l' :: trail') ↔
      l.index < l'.index ∨ l.index = l'.index ∧ Before trail trail' := List.cons_lex_cons_iff

/-- The definition has the fault where the rule-sets `path` are open. -/
inductive Offends (t : Table) (path : List String) : Definition → Fault → Prop
  /-- The pattern cannot be read. -/
  | unreadable {text action e} : Pattern.read text = .error e →
      Offends t path (.pattern text action) (.invalidPattern text unreadablePattern)
  /-- There is not one kind for each group. -/
  | groups {text kinds p} : Pattern.read text = .ok p → p.groups ≠ kinds.length →
      Offends t path (.pattern text (.byGroups kinds))
        (.invalidPattern text (groupsMessage p.groups kinds.length))
  /-- The rule-set is open. -/
  | cyclic {name} : name ∈ path → Offends t path (.ruleSet name) (.cyclicInclude (path ++ [name]))
  /-- There is no such rule-set. -/
  | undefined {name} : t.find? name = none →
      Offends t path (.ruleSet name) (.undefinedRuleSet name)

/-- The definition can be used where the rule-sets `path` are open: its pattern can be read, with
one group for each kind if kinds are listed; its rule-set exists and is not open. -/
def Usable (t : Table) (path : List String) : Definition → Prop
  | .pattern text (.token _) => ∃ p, Pattern.read text = .ok p
  | .pattern text (.byGroups kinds) => ∃ p, Pattern.read text = .ok p ∧ p.groups = kinds.length
  | .words _ _ => True
  | .ruleSet name => name ∉ path ∧ ∃ set, t.find? name = some set

variable {t : Table} {path : List String} {d : Definition}

/-- What can be used is what has no fault. -/
theorem usable_iff : t.Usable path d ↔ ∀ f, ¬ t.Offends path d f := by
  cases d with
  | words ws kind => exact ⟨fun _ _ => nofun, fun _ => trivial⟩
  | pattern text action =>
    cases hp : Pattern.read text with
    | error e =>
      refine ⟨fun h => ?_, fun h => absurd (.unreadable hp) (h _)⟩
      cases action <;> simp [Usable, hp] at h
    | ok p =>
      cases action with
      | token kind =>
        refine ⟨fun _ f => ?_, fun _ => ⟨p, hp⟩⟩
        rintro ⟨e⟩
        cases hp.symm.trans e
      | byGroups kinds =>
        constructor
        · rintro ⟨p', hp', hk⟩ f (⟨e⟩ | ⟨hp'', hne⟩)
          · cases hp'.symm.trans e
          · cases hp'.symm.trans hp''
            exact hne hk
        · intro h
          refine ⟨p, hp, Decidable.byContradiction fun hne => h _ (.groups hp hne)⟩
  | ruleSet name =>
    constructor
    · rintro ⟨hopen, set, hset⟩ f (_ | _ | hmem | hnone)
      · exact hopen hmem
      · rw [hset] at hnone
        cases hnone
    · intro h
      refine ⟨fun hmem => h _ (.cyclic hmem), ?_⟩
      cases hset : t.find? name with
      | some set => exact ⟨set, rfl⟩
      | none => exact absurd (.undefined hset) (h _)

/-- There is a fault at the end of the trail from the rule-set `name`; `path` are the rule-sets that
are open before. -/
def FaultAt (t : Table) (path : List String) (name : String) (trail : List Location) (f : Fault) :
    Prop := ∃ d, t.Reaches name trail d ∧ t.Offends (path ++ openSets trail) d f

/-- There is a fault at the definition, or at the end of a trail through what it includes. -/
def FaultFrom (t : Table) (path : List String) (d : Definition) (trail : List Location)
    (f : Fault) : Prop :=
  (trail = [] ∧ t.Offends path d f) ∨ ∃ name, d = .ruleSet name ∧ t.FaultAt path name trail f

variable {name : String} {trail : List Location} {f : Fault}

theorem faultAt_iff : t.FaultAt path name trail f ↔ ∃ i d tail, t.Holds name i d ∧
    trail = ⟨name, i⟩ :: tail ∧ t.FaultFrom (path ++ [name]) d tail f := by
  have hsets (i : Nat) (tail : List Location) :
      path ++ openSets (⟨name, i⟩ :: tail) = (path ++ [name]) ++ openSets tail :=
    (List.append_assoc path [name] _).symm
  constructor
  · rintro ⟨d, hreach, hf⟩
    cases hreach with
    | @here _ i _ hd => exact ⟨i, d, [], hd, rfl, .inl ⟨rfl, hf⟩⟩
    | @inside _ i inner tail _ hd hreach =>
      exact ⟨i, .ruleSet inner, tail, hd, rfl, .inr ⟨inner, rfl, d, hreach, hsets i tail ▸ hf⟩⟩
  · rintro ⟨i, d, tail, hd, rfl, ⟨rfl, hf⟩ | ⟨inner, rfl, d', hreach, hf⟩⟩
    · exact ⟨d, .here hd, hf⟩
    · exact ⟨d', .inside hd hreach, hsets i tail ▸ hf⟩

theorem Holds.unique {i : Nat} {d' : Definition} (h : t.Holds name i d) (h' : t.Holds name i d') :
    d' = d := by
  obtain ⟨set, hset, hd⟩ := h
  obtain ⟨set', hset', hd'⟩ := h'
  cases hset.symm.trans hset'
  exact Option.some.inj (hd'.symm.trans hd)

theorem holds_of_mem {set : RuleSet} (hset : t.find? name = some set) (hd : d ∈ set.rules) :
    ∃ i, t.Holds name i d :=
  (List.mem_iff_getElem?.mp hd).imp fun _ hi => ⟨set, hset, hi⟩

/-- The definitions of the rule-set `origin` stand for the rules: an inclusion for the rules of the
rule-set it names, in its place, and every other definition for one rule. -/
inductive Unfolds (t : Table) : String → List Definition → List Rule → Prop
  | nil {origin} : Unfolds t origin [] []
  | pattern {origin text action p ds rs} : Pattern.read text = .ok p → Unfolds t origin ds rs →
      Unfolds t origin (.pattern text action :: ds) (⟨p, action, none, origin⟩ :: rs)
  | words {origin ws kind p ds rs} : Pattern.read identifierText = .ok p →
      Unfolds t origin ds rs →
      Unfolds t origin (.words ws kind :: ds) (⟨p, .token kind, some ws, origin⟩ :: rs)
  | ruleSet {origin name set rs ds rs'} : t.find? name = some set →
      Unfolds t name set.rules rs → Unfolds t origin ds rs' →
      Unfolds t origin (.ruleSet name :: ds) (rs ++ rs')

variable {origin : String} {ds ds' : List Definition} {rs rs' : List Rule}

theorem Unfolds.append (h : Unfolds t origin ds rs) (h' : Unfolds t origin ds' rs') :
    Unfolds t origin (ds ++ ds') (rs ++ rs') := by
  induction h with
  | nil => exact h'
  | pattern hp _ ih => exact .pattern hp (ih h')
  | words hp _ ih => exact .words hp (ih h')
  | ruleSet hset hin _ _ ih =>
    rw [List.append_assoc]
    exact .ruleSet hset hin (ih h')

/-- Definitions stand for one list of rules. -/
theorem Unfolds.unique (h : Unfolds t origin ds rs) (h' : Unfolds t origin ds rs') : rs' = rs := by
  induction h generalizing rs' with
  | nil =>
    cases h'
    rfl
  | pattern hp _ ih =>
    cases h' with
    | pattern hp' h' =>
      cases hp.symm.trans hp'
      rw [ih h']
  | words hp _ ih =>
    cases h' with
    | words hp' h' =>
      cases hp.symm.trans hp'
      rw [ih h']
  | ruleSet hset _ _ ihin ih =>
    cases h' with
    | ruleSet hset' hin' h' =>
      cases hset.symm.trans hset'
      rw [ihin hin', ih h']

/-- The rule is what the definition, which is no inclusion, stands for. -/
def Makes : Definition → Rule → Prop
  | .pattern text action, r => Pattern.read text = .ok r.pattern ∧ r.action = action
  | .words _ kind, r => Pattern.read identifierText = .ok r.pattern ∧ r.action = .token kind
  | .ruleSet _, _ => False

/-- Each rule is what a definition stands for to which a trail leads. -/
theorem Unfolds.reaches (h : t.Unfolds name ds rs) (hds : ∀ d ∈ ds, ∃ i, t.Holds name i d) :
    ∀ r ∈ rs, ∃ trail d, t.Reaches name trail d ∧ Makes d r := by
  induction h with
  | nil => exact nofun
  | pattern hp _ ih =>
    obtain ⟨⟨i, hd⟩, hds⟩ := List.forall_mem_cons.mp hds
    exact List.forall_mem_cons.mpr ⟨⟨_, _, .here hd, hp, rfl⟩, ih hds⟩
  | words hp _ ih =>
    obtain ⟨⟨i, hd⟩, hds⟩ := List.forall_mem_cons.mp hds
    exact List.forall_mem_cons.mpr ⟨⟨_, _, .here hd, hp, rfl⟩, ih hds⟩
  | ruleSet hset _ _ ihin ih =>
    obtain ⟨⟨i, hd⟩, hds⟩ := List.forall_mem_cons.mp hds
    intro r hr
    rcases List.mem_append.mp hr with hr | hr
    · obtain ⟨trail, d, hreach, hmakes⟩ := ihin (fun d => holds_of_mem hset) r hr
      exact ⟨_, d, .inside hd hreach, hmakes⟩
    · exact ih hds r hr

/-- A trail leads to a definition of the table. -/
theorem Reaches.mem (h : t.Reaches name trail d) : ∃ set ∈ t, d ∈ set.rules := by
  induction h with
  | here hd =>
    obtain ⟨set, hset, hd⟩ := hd
    exact ⟨set, List.mem_of_find?_eq_some hset, List.mem_of_getElem? hd⟩
  | inside _ _ ih => exact ih

end Table

end OclScan
