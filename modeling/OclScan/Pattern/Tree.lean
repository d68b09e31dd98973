import OclScan.Pattern.CharSet
import OclScan.Pattern.Assertion

/-!
# Pattern trees

A pattern as its text spells it. Three rules of the notation are settled here, where trees are
built: alternatives that are one character each are one set (`Tree.choice`), alternatives that all
begin alike share their beginning (`Tree.alternatives`), and a repetition that can only read nothing
is made at most once (`Tree.repeated`).
-/

namespace OclScan

/-- A pattern as its text spells it. -/
inductive Tree
  /-- Nothing, read at once. -/
  | empty
  /-- One character of a set. -/
  | set (s : CharSet)
  /-- A condition on the place. -/
  | assertion (a : Assertion)
  /-- A capture group; groups count from 1. -/
  | group (index : Nat) (t : Tree)
  /-- One after the other. -/
  | seq (t u : Tree)
  /-- The first if it leads on, else the second. -/
  | alt (t u : Tree)
  /-- From `least` to `most` times, `none` for no bound; as often as possible if `greedy`, else
  as seldom as possible. -/
  | times (t : Tree) (least : Nat) (most : Option Nat) (greedy : Bool)
  deriving DecidableEq, Repr

namespace Tree

/-- The parts that are read one after the other. -/
def items : Tree → List Tree
  | empty => []
  | seq t u => t.items ++ u.items
  | t => [t]

/-- The alternatives, in order. -/
def choices : Tree → List Tree
  | alt t u => t.choices ++ u.choices
  | t => [t]

/-- The set that the tree is one character of. -/
def set? : Tree → Option CharSet
  | set s => some s
  | _ => none

/-- One tree for parts read one after the other. -/
def sequence (ts : List Tree) : Tree := row (ts.flatMap items)
where
  row : List Tree → Tree
    | [] => empty
    | [t] => t
    | t :: ts => seq t (row ts)

/-- One tree for alternatives. Two or more that are characters, or two or more that are sets of
several characters, are one set. -/
def choice (ts : List Tree) : Tree :=
  let branches := ts.flatMap choices
  match branches.mapM set? with
  | some (s :: t :: sets) =>
    if (s :: t :: sets).all (·.isSingle) || !(s :: t :: sets).any (·.isSingle) then
      set (sets.foldl .union (.union s t))
    else column branches
  | _ => column branches
where
  column : List Tree → Tree
    | [] => empty
    | [t] => t
    | t :: ts => alt t (column ts)

/-- Whether two trees are built alike, with sets of the same characters in the same places. -/
def alike : Tree → Tree → Bool
  | empty, empty => true
  | set s, set s' => s.same s'
  | assertion a, assertion a' => a == a'
  | group i t, group i' t' => i == i' && t.alike t'
  | seq t u, seq t' u' => t.alike t' && u.alike u'
  | alt t u, alt t' u' => t.alike t' && u.alike u'
  | times t least most greedy, times t' least' most' greedy' =>
    least == least' && most == most' && greedy == greedy' && t.alike t'
  | _, _ => false

/-- What two lists have in common at their start. -/
def shared : List Tree → List Tree → List Tree
  | t :: ts, u :: us => if t.alike u then t :: shared ts us else []
  | _, _ => []

/-- What all rows have in common at their start. -/
def sharedByAll : List (List Tree) → List Tree
  | [] => []
  | row :: rows => rows.foldl shared row

/-- The alternatives `ts` as one tree. Where each has two parts or more and all begin alike, the
common beginning is read first and the alternatives differ after it. -/
def alternatives (ts : List Tree) : Tree :=
  let rows := (ts.flatMap choices).map items
  let start := sharedByAll rows
  if 2 ≤ rows.length ∧ rows.all (fun row => 2 ≤ row.length) ∧ start ≠ [] then
    sequence (start ++ [choice (rows.map fun row => sequence (row.drop start.length))])
  else choice ts

/-- Whether the tree can only read nothing. -/
def readsNothing : Tree → Bool
  | empty => true
  | set _ => false
  | assertion _ => true
  | group _ t => t.readsNothing
  | seq t u => t.readsNothing && u.readsNothing
  | alt t u => t.readsNothing && u.readsNothing
  | times t _ _ _ => t.readsNothing

/-- Whether the tree can read nothing, conditions apart. -/
def mayBeEmpty : Tree → Bool
  | empty => true
  | set _ => false
  | assertion _ => true
  | group _ t => t.mayBeEmpty
  | seq t u => t.mayBeEmpty && u.mayBeEmpty
  | alt t u => t.mayBeEmpty || u.mayBeEmpty
  | times t least _ _ => t.mayBeEmpty || least == 0

/-- `t` repeated. To repeat what reads nothing is to have it at most once; a repetition that is
never made is nothing, groups included, and one made once is its body. -/
def repeated (t : Tree) (least : Nat) (most : Option Nat) (greedy : Bool) : Tree :=
  let (least, most) :=
    if t.readsNothing then (min least 1, some (min (most.getD 1) 1)) else (least, most)
  if most = some 0 then empty
  else if least = 1 ∧ most = some 1 then t
  else times t least most greedy

/-- The greatest index of a group in the tree, or 0. -/
def groups : Tree → Nat
  | empty => 0
  | set _ => 0
  | assertion _ => 0
  | group i t => max i t.groups
  | seq t u => max t.groups u.groups
  | alt t u => max t.groups u.groups
  | times t _ _ _ => t.groups

/-- The number of places in the tree once its repetitions are written out, as an automaton that
reads bytes would have them: the size of a set is an estimate. -/
def weight : Tree → Nat
  | empty => 1
  | set s => 1 + s.extent
  | assertion _ => 1
  | group _ t => t.weight + 2
  | seq t u => t.weight + u.weight
  | alt t u => t.weight + u.weight + 1
  | times t least most _ => t.weight * max 1 (max least (most.getD 0)) + 1

end Tree

end OclScan
