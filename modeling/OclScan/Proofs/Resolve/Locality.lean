import OclScan.Proofs.Resolve.Resolution

/-!
# What resolving reads

Resolving a table reads the rule-sets that are reached from its entry through inclusions
(`Table.Reachable`), of several with one name the first, and nothing else
(`Table.resolve_reads`). Two tables that agree on these are expanded in step
(`Table.expand_agrees`). Where they disagree only because the first table lacks a rule-set, they
are expanded in step up to the place where it is missed, so that what is appended to a table can
only make up for a rule-set that is missed.
-/

namespace OclScan

namespace Table

variable {t t' : Table} {depth depth' : Nat} {path : List String} {entry name inner : String}
  {l : Location} {e : ConfigError}

/-- Inclusions lead from the rule-set `entry` to the name. -/
def Reachable (t : Table) (entry name : String) : Prop :=
  name = entry ∨ ∃ trail, t.Reaches entry trail (.ruleSet name)

theorem Reachable.refl (t : Table) (entry : String) : t.Reachable entry entry := .inl rfl

/-- What is reached from an included rule-set is reached. -/
theorem Reachable.inside {i : Nat} (hd : t.Holds entry i (.ruleSet inner))
    (h : t.Reachable inner name) : t.Reachable entry name := by
  rcases h with rfl | ⟨trail, h⟩
  · exact .inr ⟨_, .here hd⟩
  · exact .inr ⟨_, .inside hd h⟩

/-- Names that no inclusion leads out of are all that is reached from one of them. -/
theorem Reachable.of_closed {names : List String}
    (hclosed : ∀ a ∈ names, ∀ i b, t.Holds a i (.ruleSet b) → b ∈ names)
    (h : t.Reachable entry name) (hentry : entry ∈ names) : name ∈ names := by
  rcases h with rfl | ⟨trail, h⟩
  · exact hentry
  · generalize hd : Definition.ruleSet name = d at h
    induction h with
    | here h => exact hclosed _ hentry _ _ (hd ▸ h)
    | inside h _ ih => exact ih (hclosed _ hentry _ _ h) hd

/-- The second table has the same rule-set of the name as the first, or the first table has none and
to miss it is excused. -/
def Shares (P : ConfigError → Prop) (t t' : Table) (name : String) : Prop :=
  t'.find? name = t.find? name ∨ t.find? name = none ∧ ∀ l, P ⟨.undefinedRuleSet name, l⟩

/-- A definition stands for the same rules in both tables, if what it includes does. -/
theorem part_agrees {P : ConfigError → Prop} (d : Definition)
    (h : ∀ inner, d = .ruleSet inner →
      Agrees P (t.expand depth path inner l) (t'.expand depth' path inner l)) :
    Agrees P (t.part depth path l d) (t'.part depth' path l d) := by
  cases d with
  | pattern text action => exact .refl _
  | words ws kind => exact .refl _
  | ruleSet inner => exact h inner rfl

/-- A rule-set that cannot be included fails in the same way, or is missed. -/
theorem expand_agrees_of_not_usable {P : ConfigError → Prop}
    (hu : ¬ t.Usable path (.ruleSet name)) (h : Shares P t t' name) :
    Agrees P (t.expand depth path name l) (t'.expand depth' path name l) := by
  by_cases hn : name ∈ path
  · rw [expand_of_mem hn, expand_of_mem hn]
    exact .refl _
  cases hset : t.find? name with
  | some set => exact absurd ⟨hn, set, hset⟩ hu
  | none =>
    rw [expand_of_find?_eq_none hn hset]
    rcases h with hsame | ⟨-, hP⟩
    · rw [expand_of_find?_eq_none hn (hsame.trans hset)]
      exact .refl _
    · exact .inr ⟨_, rfl, hP l⟩

/-- Tables that share what is reached are expanded in step. The depth does not matter, as long as it
is enough for each table. -/
theorem expand_agrees {P : ConfigError → Prop} (ht : t.Deep depth path) (ht' : t'.Deep depth' path)
    (h : ∀ inner, t.Reachable name inner → Shares P t t' inner) :
    Agrees P (t.expand depth path name l) (t'.expand depth' path name l) := by
  have hname := h name (.refl t name)
  induction depth generalizing depth' path name l with
  | zero =>
    refine expand_agrees_of_not_usable (fun ⟨hn, set, hset⟩ => ?_) hname
    exact absurd (ht.pos hn hset) (Nat.lt_irrefl 0)
  | succ depth ih =>
    by_cases hu : t.Usable path (.ruleSet name)
    · obtain ⟨hn, set, hset⟩ := hu
      have hset' : t'.find? name = some set := by
        rcases hname with hsame | ⟨hnone, -⟩
        · exact hsame.trans hset
        · exact absurd (hset.symm.trans hnone) nofun
      obtain ⟨depth', rfl⟩ := Nat.exists_eq_add_one.mpr (ht'.pos hn hset')
      rw [expand_succ hn hset, expand_succ hn hset']
      refine (Agrees.mapM fun ⟨d, i⟩ hmem => part_agrees d ?_).map _
      rintro inner rfl
      have hd : t.Holds name i (.ruleSet inner) :=
        ⟨set, hset, (List.mem_zipIdx_iff_getElem?.mp hmem)⟩
      have hinner : ∀ a, t.Reachable inner a → Shares P t t' a := fun a ha => h a (.inside hd ha)
      exact ih (ht.push hn hset) (ht'.push hn hset') hinner (hinner inner (.refl t inner))
    · exact expand_agrees_of_not_usable hu hname

/-- Appending to a table adds what it lacks and changes nothing else. -/
theorem shares_append (t extra : Table) (name : String) :
    Shares (fun e => ∃ name, e.fault = .undefinedRuleSet name) t (t ++ extra) name := by
  have happend : (t ++ extra).find? name = (t.find? name).or (extra.find? name) :=
    List.find?_append
  cases hset : t.find? name with
  | some set => exact .inl (by rw [happend, hset]; rfl)
  | none => exact .inr ⟨hset, fun l => ⟨name, rfl⟩⟩

/-- What does not miss a rule-set resolves as before when rule-sets are appended. -/
theorem resolve_append (extra : Table)
    (h : ∀ e name, t.resolve entry = .error e → e.fault ≠ .undefinedRuleSet name) :
    (t ++ extra).resolve entry = t.resolve entry := by
  have hagrees : Agrees (fun e => ∃ name, e.fault = .undefinedRuleSet name) (t.resolve entry)
      ((t ++ extra).resolve entry) :=
    expand_agrees t.deep (t ++ extra).deep fun inner _ => shares_append t extra inner
  exact hagrees.eq fun e he ⟨name, hname⟩ => h e name he hname

/-- Resolving reads the rule-sets that are reached, of several with one name the first. Tables that
agree on these resolve alike, to rules or to an error, whatever else they hold in whatever order. And
rule-sets that are appended change neither the rules nor an error other than that a rule-set is
missed. -/
theorem resolve_reads (t : Table) (entry : String) :
    (∀ t' : Table, (∀ name, t.Reachable entry name → t'.find? name = t.find? name) →
      t'.resolve entry = t.resolve entry) ∧
    ∀ extra : Table,
      (∀ rs, t.resolve entry = .ok rs → (t ++ extra).resolve entry = .ok rs) ∧
      (∀ chain l, t.resolve entry = .error ⟨.cyclicInclude chain, l⟩ →
        (t ++ extra).resolve entry = .error ⟨.cyclicInclude chain, l⟩) ∧
      ∀ text message l, t.resolve entry = .error ⟨.invalidPattern text message, l⟩ →
        (t ++ extra).resolve entry = .error ⟨.invalidPattern text message, l⟩ := by
  refine ⟨fun t' h => ?_, fun extra => ⟨fun rs h => ?_, fun chain l h => ?_,
    fun text message l h => ?_⟩⟩
  · have hagrees : Agrees (fun _ => False) (t.resolve entry) (t'.resolve entry) :=
      expand_agrees t.deep t'.deep fun inner hinner => .inl (h inner hinner)
    exact hagrees.eq fun _ _ => id
  all_goals
    rw [← h]
    refine resolve_append extra fun e name he => ?_
    rw [h] at he
    cases he <;> exact nofun

/-- A table that does not resolve, with its rule-sets in another order, another rule-set shadowed and
one that is not reached left out; and with rule-sets appended, one of which it lacks. -/
theorem resolve_reads_broken :
    let root : RuleSet := ⟨"root", [.ruleSet "a", .ruleSet "c"]⟩
    let a : RuleSet := ⟨"a", [.pattern "x" (.byGroups [.name])]⟩
    let t : Table := [root, a, ⟨"b", [.ruleSet "b"]⟩]
    let t' : Table := [a, ⟨"a", []⟩, root]
    let extra : Table := [⟨"c", []⟩, ⟨"a", []⟩]
    let e : ConfigError := ⟨.invalidPattern "x" (groupsMessage 0 1), ⟨"a", 0⟩⟩
    (∀ name, t.Reachable "root" name → t'.find? name = t.find? name) ∧
      t.resolve "root" = .error e ∧ t'.resolve "root" = .error e ∧
      (t ++ extra).resolve "root" = .error e := by
  intro root a t t' extra e
  have h : t.resolve "root" = .error e := rfl
  have hshares : ∀ name, t.Reachable "root" name → t'.find? name = t.find? name := by
    intro name hname
    have hmem : name ∈ ["root", "a", "c"] := by
      refine hname.of_closed ?_ (by decide)
      rintro x hx i y ⟨set, hset, hy⟩
      have hy := List.mem_of_getElem? hy
      simp only [List.mem_cons, List.not_mem_nil, or_false] at hx
      rcases hx with rfl | rfl | rfl
      · obtain rfl : root = set := Option.some.inj hset
        simpa [root] using Or.inr hy
      · obtain rfl : a = set := Option.some.inj hset
        simp [a] at hy
      · cases hset
    simp only [List.mem_cons, List.not_mem_nil, or_false] at hmem
    rcases hmem with rfl | rfl | rfl <;> rfl
  obtain ⟨hlocal, happend⟩ := resolve_reads t "root"
  exact ⟨hshares, h, (hlocal t' hshares).trans h, (happend extra).2.2 _ _ _ h⟩

end Table

end OclScan
