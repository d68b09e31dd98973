import OclScan.Kind

/-!
# Names of kinds

A kind is known by its dotted name (`Kind.ofDotted?_dotted`).
-/

namespace OclScan.Kind

/-- The kind with the given dotted name. -/
def ofDotted? (s : String) : Option Kind := all.find? fun k => k.dotted == s

theorem ofDotted?_dotted (k : Kind) : ofDotted? k.dotted = some k := by
  cases k <;> decide

theorem dotted_inj {k k' : Kind} (h : k.dotted = k'.dotted) : k = k' := by
  have hk := ofDotted?_dotted k
  rw [h, ofDotted?_dotted k'] at hk
  exact (Option.some.inj hk).symm

end OclScan.Kind
