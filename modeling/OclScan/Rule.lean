import OclScan.Token
import OclScan.Pattern

/-!
# Rules

What a rule table holds (`RuleSet`, `Definition`) and what it becomes (`Rule`). A rule at a cursor
wins with the length of a match that is not empty and whose text its words admit (`Rule.wins?`);
it then yields one token for the match, or one for each capture group that is not empty
(`Rule.tokens`).
-/

namespace OclScan

/-- What a rule makes of a match. -/
inductive Action
  /-- One token for the whole match. -/
  | token (kind : Kind)
  /-- One token for each capture group, with the kind listed for it. -/
  | byGroups (kinds : List Kind)
  deriving DecidableEq, Repr

/-- One entry of a rule-set. -/
inductive Definition
  /-- A rule with a pattern. -/
  | pattern (text : String) (action : Action)
  /-- A rule for identifiers that are listed. -/
  | words (words : List String) (kind : Kind)
  /-- The rules of another rule-set. -/
  | ruleSet (name : String)
  deriving DecidableEq, Repr

/-- A named list of definitions. -/
structure RuleSet where
  name : String
  rules : List Definition
  deriving DecidableEq, Repr

/-- A rule table. Of rule-sets with one name the first counts. -/
abbrev Table := List RuleSet

/-- The rule-set with the given name. -/
def Table.find? (t : Table) (name : String) : Option RuleSet :=
  List.find? (fun set => set.name == name) t

/-- A rule that is ready to be tried. -/
structure Rule where
  pattern : Pattern
  action : Action
  /-- The words that the matched text must be one of. -/
  words : Option (List String)
  /-- The rule-set that defines the rule. -/
  origin : String
  deriving DecidableEq, Repr

namespace Rule

/-- Whether the words of the rule admit `text`. -/
def accepts (r : Rule) (text : String) : Bool :=
  match r.words with
  | none => true
  | some words => words.contains text

/-- Adds a word to a list in ascending order. -/
def insertWord (w : String) : List String → List String
  | [] => [w]
  | v :: vs => if w < v then w :: v :: vs else if w = v then v :: vs else v :: insertWord w vs

/-- The words of the rule in ascending order, each once. -/
def wordList (r : Rule) : Option (List String) := r.words.map fun ws => ws.foldr insertWord []

/-- The length of the match with which the rule wins at the cursor. -/
def wins? (r : Rule) (c : Cursor) : Option Nat :=
  match r.pattern.matchAt? c with
  | some m => if 0 < m.stop ∧ r.accepts (c.take m.stop) then some m.stop else none
  | none => none

/-- The token for a capture group of a match at the cursor. -/
def groupToken? (c : Cursor) (m : Match) (kind : Kind) (group : Nat) : Option Token :=
  match m.group? group with
  | some (first, last) =>
    if first < last then
      let place := c.advance first
      some ⟨kind, place.take (last - first), place.offset⟩
    else none
  | none => none

/-- The tokens that the rule makes of its match of length `n` at the cursor. -/
def tokens (r : Rule) (c : Cursor) (n : Nat) : List Token :=
  match r.action with
  | .token kind => [⟨kind, c.take n, c.offset⟩]
  | .byGroups kinds =>
    match r.pattern.matchAt? c with
    | some m => (kinds.zipIdx 1).filterMap fun (kind, group) => groupToken? c m kind group
    | none => []

end Rule

end OclScan
