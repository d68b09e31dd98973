import OclScan.Cursor
import OclScan.Pattern.Reader
import OclScan.Pattern.Match

/-!
# Patterns

A pattern is read from its text once (`Pattern.read`) and matched at a cursor
(`Pattern.matchAt?`). A search finds the first place from a cursor on at which there is a match
(`Pattern.find?`).
-/

namespace OclScan

/-- A pattern that can be matched. -/
structure Pattern where
  /-- The text it was read from. -/
  text : String
  /-- The number of its capture groups. -/
  groups : Nat
  /-- How it reads. -/
  plan : Plan
  deriving DecidableEq, Repr

namespace Pattern

/-- The pattern that a text spells. -/
def read (text : String) : Except PatternFault Pattern := do
  let t ← Tree.read text.toList
  return ⟨text, t.groups, t.plan⟩

/-- The preferred match that starts at the cursor. -/
def matchAt? (p : Pattern) (c : Cursor) : Option Match :=
  p.plan.matchAt? (2 * p.groups) c.before c.rest

/-- The preferred match at the first place from the cursor on at which there is one. -/
def find? (p : Pattern) (c : Cursor) : Option Match :=
  p.plan.find? (2 * p.groups) c.before c.rest

end Pattern

end OclScan
