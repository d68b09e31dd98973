/-!
# Runs of characters

A property of characters is a table of runs: the first and the last code point of each, in
ascending order. A table is read from the front and left at the first run that starts too late.
Scripts with capital and small letters side by side have properties that every second character
has; a table with such stretches lists them apart (`RunSet`).
-/

namespace OclScan.Text

/-- Whether `n` lies in one of the given runs. -/
def inRuns (n : Nat) : List (Nat × Nat) → Bool
  | [] => false
  | (first, last) :: runs => if n < first then false else n ≤ last || inRuns n runs

/-- The code points at which membership in runs may change. -/
def runEdges (runs : List (Nat × Nat)) : List Nat := runs.flatMap fun r => [r.1, r.2 + 1]

/-- A set of characters as a table. -/
structure RunSet where
  /-- The runs. -/
  runs : List (Nat × Nat)
  /-- The stretches of which every second character is in the set, the first and the last
  included. -/
  alternating : List (Nat × Nat) := []
  deriving DecidableEq, Repr

namespace RunSet

/-- Whether `n` is in the stretch, at an even distance from its first code point. -/
def alternates (n : Nat) (stretch : Nat × Nat) : Bool :=
  stretch.1 ≤ n && n ≤ stretch.2 && (n - stretch.1) % 2 == 0

/-- Whether `c` is in the set. -/
def contains (s : RunSet) (c : Char) : Bool :=
  inRuns c.toNat s.runs || s.alternating.any (alternates c.toNat)

/-- The code points at which membership may change. -/
def edges (s : RunSet) : List Nat :=
  runEdges s.runs ++ s.alternating.flatMap fun a => List.range' a.1 (a.2 + 2 - a.1)

/-- The number of runs and of single characters in stretches. -/
def size (s : RunSet) : Nat :=
  s.alternating.foldl (fun n a => n + (a.2 - a.1) / 2 + 1) s.runs.length

end RunSet

end OclScan.Text
