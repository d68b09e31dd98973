import OclScan.Rule
import OclScan.ConfigError

/-!
# Resolving a rule table

From a table and the name of the rule-set to start with to a flat list of rules
(`Table.resolve`): every inclusion is replaced by the rules it stands for, in place. The first
definition that cannot be used is reported.
-/

namespace OclScan

/-- The pattern of identifiers, by which rules with words match. -/
def identifierText : String := "[\\p\x7bL\x7d$_][\\p\x7bL\x7d\\p\x7bN\x7d$_]*"

/-- How a pattern that cannot be read is told. The pattern engine words a diagnosis of its own for
each such pattern; this constant stands for all of them. -/
def unreadablePattern : String := "<regex>"

/-- The pattern that a definition at `l` spells. -/
def readPattern (text : String) (l : Location) : Except ConfigError Pattern :=
  match Pattern.read text with
  | .ok p => .ok p
  | .error _ => .error ⟨.invalidPattern text unreadablePattern, l⟩

/-- How a number of kinds that does not fit the number of groups is told. -/
def groupsMessage (groups kinds : Nat) : String :=
  toString groups ++ " capture groups but " ++ toString kinds ++ " token kinds"

/-- The rule of a definition with a pattern. -/
def patternRule (text : String) (action : Action) (l : Location) : Except ConfigError Rule := do
  let p ← readPattern text l
  let rule : Rule := ⟨p, action, none, l.ruleSet⟩
  match action with
  | .token _ => .ok rule
  | .byGroups kinds =>
    if p.groups = kinds.length then .ok rule
    else .error ⟨.invalidPattern text (groupsMessage p.groups kinds.length), l⟩

/-- The rule of a definition with words. -/
def wordsRule (words : List String) (kind : Kind) (l : Location) : Except ConfigError Rule := do
  let p ← readPattern identifierText l
  return ⟨p, .token kind, some words, l.ruleSet⟩

namespace Table

/-- The rules that the rule-set `name` stands for. `path` are the rule-sets that are open, the
outermost first, and `l` is where `name` is included. The open rule-sets are different ones of the
table, so `depth` need not exceed their number. -/
def expand (t : Table) : Nat → List String → String → Location → Except ConfigError (List Rule)
  | depth, path, name, l =>
    if path.contains name then .error ⟨.cyclicInclude (path ++ [name]), l⟩
    else
      match t.find? name with
      | none => .error ⟨.undefinedRuleSet name, l⟩
      | some set =>
        match depth with
        | 0 => .error ⟨.cyclicInclude (path ++ [name]), l⟩
        | depth + 1 => do
          let parts ← set.rules.zipIdx.mapM fun (d, i) =>
            match d with
            | .pattern text action => return [← patternRule text action ⟨name, i⟩]
            | .words words kind => return [← wordsRule words kind ⟨name, i⟩]
            | .ruleSet included => t.expand depth (path ++ [name]) included ⟨name, i⟩
          return parts.flatten

/-- The flat list of rules that the table stands for, starting with the rule-set `entry`. -/
def resolve (t : Table) (entry : String) : Except ConfigError (List Rule) :=
  t.expand t.length [] entry .nowhere

end Table

end OclScan
