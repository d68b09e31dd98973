import OclScan.Token

/-!
# Summary

How many tokens there are of each kind, in the order of kinds, and in all.
-/

namespace OclScan.Dump

/-- Counts one more token of a kind. The entries stand in the order of their kinds. -/
def countOne (k : Kind) : List (Kind × Nat) → List (Kind × Nat)
  | [] => [(k, 1)]
  | (k', n) :: counts =>
    if k = k' then (k, n + 1) :: counts
    else if k.rank < k'.rank then (k, 1) :: (k', n) :: counts
    else (k', n) :: countOne k counts

/-- The kinds that occur, in order, each with the number of its tokens. -/
def countKinds (ts : List Token) : List (Kind × Nat) :=
  ts.foldl (fun counts t => countOne t.kind counts) []

/-- A name with spaces after it, to the given width. -/
def padded (width : Nat) (name : String) : String :=
  String.ofList (name.toList ++ List.replicate (width - name.length) ' ')

/-- A line of the summary. -/
def summaryLine (width : Nat) (name : String) (n : Nat) : String :=
  padded width name ++ "  " ++ toString n ++ "\n"

/-- The width of the longest name of a kind that occurs. -/
def nameWidth (counts : List (Kind × Nat)) : Nat :=
  counts.foldl (fun w (k, _) => max w k.dotted.length) 0

/-- The sum of the counts. -/
def total (counts : List (Kind × Nat)) : Nat := counts.foldr (fun (_, n) sum => n + sum) 0

/-- The summary of tokens: a line for each kind that occurs, and the total. -/
def summary (ts : List Token) : String :=
  let counts := countKinds ts
  let width := nameWidth counts
  .join (counts.map fun (k, n) => summaryLine width k.dotted n) ++
    summaryLine width "total" (total counts)

end OclScan.Dump
