import OclScan.Proofs.Resolve.Expansion

/-!
# The first fault of a rule table

Where expanding a rule-set fails, it tells the first fault in it (`Table.expand_eq_error`). The
depth is enough, since the open rule-sets are different ones of the table (`Table.Deep.pos`).
-/

namespace OclScan

namespace Table

variable {t : Table} {depth : Nat} {path : List String} {name : String} {set : RuleSet}
  {l : Location} {d : Definition} {e : ConfigError}

/-- The open rule-sets are different ones of the table, and `depth` is enough for the others. -/
structure Deep (t : Table) (depth : Nat) (path : List String) : Prop where
  nodup : path.Nodup
  subset : path ⊆ t.map RuleSet.name
  length_le : t.length ≤ depth + path.length

theorem Deep.push_path (h : t.Deep depth path) (hn : name ∉ path) (hset : t.find? name = some set) :
    (path ++ [name]).Nodup ∧ path ++ [name] ⊆ t.map RuleSet.name := by
  have hone : [name].Nodup := List.nodup_cons.mpr ⟨List.not_mem_nil, List.nodup_nil⟩
  refine ⟨List.nodup_append.mpr ⟨h.nodup, hone, ?_⟩, ?_⟩
  · rintro a ha b hb rfl
    exact hn (List.mem_singleton.mp hb ▸ ha)
  · intro a ha
    rcases List.mem_append.mp ha with ha | ha
    · exact h.subset ha
    · have hname : set.name = name := by simpa using List.find?_some hset
      rw [List.mem_singleton.mp ha, ← hname]
      exact List.mem_map_of_mem (List.mem_of_find?_eq_some hset)

/-- There is no more to open than rule-sets. -/
theorem Deep.pos (h : t.Deep depth path) (hn : name ∉ path) (hset : t.find? name = some set) :
    0 < depth := by
  obtain ⟨hnodup, hsubset⟩ := h.push_path hn hset
  have hlen := hnodup.length_le_of_subset hsubset
  have := h.length_le
  simp only [List.length_append, List.length_singleton, List.length_map] at hlen
  omega

theorem Deep.push (h : t.Deep (depth + 1) path) (hn : name ∉ path)
    (hset : t.find? name = some set) : t.Deep depth (path ++ [name]) := by
  obtain ⟨hnodup, hsubset⟩ := h.push_path hn hset
  refine ⟨hnodup, hsubset, ?_⟩
  have := h.length_le
  simp only [List.length_append, List.length_singleton]
  omega

/-- The error tells the fault at the end of the trail, and no fault comes before. -/
structure FirstAt (t : Table) (path : List String) (name : String) (trail : List Location)
    (e : ConfigError) : Prop where
  fault : t.FaultAt path name trail e.fault
  location : trail.getLast? = some e.location
  nodup : (path ++ openSets trail).Nodup
  first : ∀ trail' f, t.FaultAt path name trail' f → ¬ Before trail' trail

/-- The same, from a definition at `l` on. -/
structure FirstFrom (t : Table) (path : List String) (l : Location) (d : Definition)
    (tail : List Location) (e : ConfigError) : Prop where
  fault : t.FaultFrom path d tail e.fault
  location : (l :: tail).getLast? = some e.location
  nodup : (path ++ openSets tail).Nodup
  first : ∀ tail' f, t.FaultFrom path d tail' f → ¬ Before tail' tail

/-- A fault of the definition itself comes first. -/
theorem FirstFrom.here (hpath : path.Nodup) (h : t.Offends path d e.fault) (hl : e.location = l) :
    t.FirstFrom path l d [] e where
  fault := .inl ⟨rfl, h⟩
  location := by rw [hl]; rfl
  nodup := by rwa [openSets, List.map_nil, List.append_nil]
  first tail' _ _ := not_before_nil tail'

/-- The first fault in a rule-set that can be included is the first of the inclusion. -/
theorem FirstAt.inside (h : t.FirstAt path name trail e)
    (hu : t.Usable path (.ruleSet name)) (l : Location) :
    t.FirstFrom path l (.ruleSet name) trail e where
  fault := .inr ⟨name, rfl, h.fault⟩
  location := by rw [List.getLast?_cons, h.location]; rfl
  nodup := h.nodup
  first tail' f := by
    rintro (⟨-, hf⟩ | ⟨name', e, hf⟩)
    · exact absurd hf (usable_iff.mp hu f)
    · cases e
      exact h.first tail' f hf

/-- What expanding the rule-set `name`, included at `l`, with `path` open tells if it fails. -/
inductive Failed (t : Table) (path : List String) (name : String) (l : Location) (e : ConfigError) :
    Prop
  /-- The inclusion is at fault. -/
  | inclusion : t.Offends path (.ruleSet name) e.fault → e.location = l → Failed t path name l e
  /-- The first fault is found inside. -/
  | inside (trail : List Location) : t.Usable path (.ruleSet name) → t.FirstAt path name trail e →
      Failed t path name l e

theorem part_eq_error (hpath : path.Nodup)
    (ih : ∀ {name e}, t.expand depth path name l = .error e → t.Failed path name l e)
    (h : t.part depth path l d = .error e) : ∃ tail, t.FirstFrom path l d tail e := by
  cases d with
  | pattern text action =>
    rcases bind_eq_error h with hr | ⟨r, -, h⟩
    · obtain ⟨hf, hl⟩ := patternRule_eq_error hr
      exact ⟨[], .here hpath hf hl⟩
    · cases h
  | words ws kind =>
    obtain ⟨p, -, hread⟩ := readPattern_identifierText
    rw [part, wordsRule, hread] at h
    cases h
  | ruleSet name =>
    cases ih h with
    | inclusion hf hl => exact ⟨[], .here hpath hf hl⟩
    | inside trail hu hfirst => exact ⟨trail, hfirst.inside hu l⟩

/-- Of the definitions of a rule-set, the first that fails has the first fault. -/
theorem FirstFrom.firstAt {j : Nat} {tail : List Location} (hd : t.Holds name j d)
    (h : t.FirstFrom (path ++ [name]) ⟨name, j⟩ d tail e)
    (hbefore : ∀ i < j, ∀ d', t.Holds name i d' →
      ∀ tail f, ¬ t.FaultFrom (path ++ [name]) d' tail f) :
    t.FirstAt path name (⟨name, j⟩ :: tail) e where
  fault := faultAt_iff.mpr ⟨j, d, tail, hd, rfl, h.fault⟩
  location := h.location
  nodup := by
    have := h.nodup
    rwa [List.append_assoc] at this
  first trail' f hf := by
    obtain ⟨i, d', tail', hd', rfl, hfrom⟩ := faultAt_iff.mp hf
    rw [before_cons]
    rintro (hlt | ⟨rfl, htail⟩)
    · exact hbefore i hlt d' hd' tail' f hfrom
    · cases hd.unique hd'
      exact h.first tail' f hfrom htail

theorem failed_of_not_usable (hu : ¬ t.Usable path (.ruleSet name))
    (h : t.expand depth path name l = .error e) : t.Failed path name l e := by
  obtain ⟨f, hf, herror⟩ := expand_of_not_usable hu
  rw [herror] at h
  cases h
  exact .inclusion hf rfl

/-- Where expanding fails, it tells the first fault. -/
theorem expand_eq_error (hdeep : t.Deep depth path) (h : t.expand depth path name l = .error e) :
    t.Failed path name l e := by
  induction depth generalizing path name l e with
  | zero =>
    by_cases hu : t.Usable path (.ruleSet name)
    · obtain ⟨hn, set, hset⟩ := hu
      exact absurd (hdeep.pos hn hset) (Nat.lt_irrefl 0)
    · exact failed_of_not_usable hu h
  | succ depth ih =>
    by_cases hu : t.Usable path (.ruleSet name)
    · obtain ⟨hn, set, hset⟩ := hu
      rw [expand_succ hn hset] at h
      obtain ⟨j, ⟨d, j'⟩, hd, hfail, hbefore⟩ := mapM_eq_error (map_eq_error h)
      rw [List.getElem?_zipIdx, Nat.zero_add] at hd
      obtain ⟨_, hrule, ⟨rfl, rfl⟩⟩ := Option.map_eq_some_iff.mp hd
      have hpush := hdeep.push hn hset
      obtain ⟨tail, hfirst⟩ := part_eq_error hpush.nodup (ih hpush) hfail
      refine .inside _ ⟨hn, set, hset⟩ (hfirst.firstAt ⟨set, hset, hrule⟩ ?_)
      rintro i hi d' ⟨set', hset', hd'⟩
      cases hset.symm.trans hset'
      obtain ⟨rs, hrs⟩ := hbefore i hi (d', i) (by
        rw [List.getElem?_zipIdx, hd', Nat.zero_add]
        rfl)
      exact (part_eq_ok expand_eq_ok hrs).2
    · exact failed_of_not_usable hu h

end Table

end OclScan
