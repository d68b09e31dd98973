import OclScan.Pattern.Tree

/-!
# Plans

A pattern in the form that is matched: repetitions are written out or turned into loops, and a
capture group becomes two steps that record where it starts and ends. Every place of a plan that
reads or chooses has a number of its own, so that the copies of a repeated part are told apart
(`Tree.numbered`).
-/

namespace OclScan

/-- A pattern in the form that is matched. -/
inductive Plan
  /-- Nothing, read at once. -/
  | empty
  /-- One character of a set. -/
  | set (number : Nat) (s : CharSet)
  /-- A condition on the place. -/
  | assertion (a : Assertion)
  /-- Records the place in a slot. -/
  | slot (k : Nat)
  /-- One after the other. -/
  | seq (p q : Plan)
  /-- The first if it leads on, else the second. -/
  | alt (number : Nat) (p q : Plan)
  /-- Any number of times; a further time is preferred to leaving if `greedy`. -/
  | loop (number : Nat) (greedy : Bool) (p : Plan)
  deriving DecidableEq, Repr

/-- A plan being built; the state is the next number to give. -/
abbrev Numbered := StateM Nat

/-- The next number. -/
def Numbered.next : Numbered Nat := fun n => (n, n + 1)

namespace Plan

/-- `p` or nothing. -/
def opt (number : Nat) (greedy : Bool) (p : Plan) : Plan :=
  if greedy then alt number p empty else alt number empty p

/-- `n` times what `make` builds, then what `last` builds. -/
def copies (make last : Numbered Plan) : Nat → Numbered Plan
  | 0 => last
  | n + 1 => do
    let p ← make
    let q ← copies make last n
    return seq p q

/-- Up to `n` times. Each time may only follow the one before. -/
def upTo (greedy : Bool) (make : Numbered Plan) : Nat → Numbered Plan
  | 0 => return empty
  | n + 1 => do
    let number ← Numbered.next
    let p ← make
    let q ← upTo greedy make n
    return opt number greedy (seq p q)

/-- One time or more. The first time and the further times are the same places of the plan. -/
def oneOrMore (greedy : Bool) (make : Numbered Plan) : Numbered Plan := do
  let number ← Numbered.next
  let p ← make
  return seq p (loop number greedy p)

/-- Any number of times. What may read nothing comes before the loop once, so that a time that reads
nothing keeps its rank among the other choices. -/
def anyNumber (greedy mayBeEmpty : Bool) (make : Numbered Plan) : Numbered Plan := do
  let number ← Numbered.next
  if mayBeEmpty then return opt number greedy (← oneOrMore greedy make)
  else return loop number greedy (← make)

/-- From `least` to `most` times. -/
def times (greedy mayBeEmpty : Bool) (make : Numbered Plan) (least : Nat) :
    Option Nat → Numbered Plan
  | some most => copies make (upTo greedy make (most - least)) least
  | none =>
    match least with
    | 0 => anyNumber greedy mayBeEmpty make
    | n + 1 => copies make (oneOrMore greedy make) n

end Plan

/-- The plan of a pattern. Group `i` starts at slot `2 (i - 1)` and ends at the slot after it. -/
def Tree.numbered : Tree → Numbered Plan
  | empty => return .empty
  | set s => return .set (← Numbered.next) s
  | assertion a => return .assertion a
  | group i t => return .seq (.slot (2 * (i - 1))) (.seq (← t.numbered) (.slot (2 * (i - 1) + 1)))
  | seq t u => return .seq (← t.numbered) (← u.numbered)
  | alt t u => return .alt (← Numbered.next) (← t.numbered) (← u.numbered)
  | times t least most greedy => Plan.times greedy t.mayBeEmpty t.numbered least most

/-- The plan of a pattern, numbered from 0. -/
def Tree.plan (t : Tree) : Plan := (t.numbered 0).1

end OclScan
