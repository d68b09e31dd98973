import OclScan.Text.Quoted

/-!
# Configuration errors

What can be wrong with a rule table, where, and how it is told.
-/

namespace OclScan

/-- What is wrong. -/
inductive Fault
  /-- No rule-set has the name. -/
  | undefinedRuleSet (name : String)
  /-- A rule-set includes itself; the chain ends where it started to repeat. -/
  | cyclicInclude (chain : List String)
  /-- A pattern cannot be used. -/
  | invalidPattern (pattern message : String)
  /-- Tokens cannot be written, or are not written as they should be. -/
  | serialization (message : String)
  deriving DecidableEq, Repr

namespace Fault

/-- The name of the kind of fault. -/
def name : Fault → String
  | undefinedRuleSet _ => "UndefinedRuleSet"
  | cyclicInclude _ => "CyclicInclude"
  | invalidPattern _ _ => "InvalidPattern"
  | serialization _ => "Serialization"

/-- The names of a chain, with arrows between them. -/
def arrows (chain : List String) : String := " -> ".intercalate chain

/-- What is wrong, in words. -/
def message : Fault → String
  | undefinedRuleSet name => "include of undefined rule-set " ++ Text.quote name
  | cyclicInclude chain => "cyclic include: " ++ arrows chain
  | invalidPattern pattern message => "invalid pattern " ++ Text.quote pattern ++ ": " ++ message
  | serialization message => "error serializing tokens: " ++ message

/-- Advice, where there is some. -/
def tip? : Fault → Option String
  | undefinedRuleSet name =>
    some ("No rule-set named \x60" ++ name ++ "\x60, is the include misspelled?")
  | cyclicInclude chain =>
    some ("Rule-set \x60" ++ chain.getLast?.getD "" ++ "\x60 includes itself through \x60" ++
      arrows chain ++ "\x60")
  | invalidPattern pattern _ => some ("Check the regular expression \x60" ++ pattern ++ "\x60")
  | serialization _ => none

end Fault

/-- A definition of a rule table: the rule-set and the index in it. -/
structure Location where
  ruleSet : String
  index : Nat
  deriving DecidableEq, Repr

namespace Location

/-- The location of faults that no definition has. -/
def nowhere : Location := ⟨"<null>", 0⟩

/-- The text of a location. -/
def display (l : Location) : String := l.ruleSet ++ "[" ++ toString l.index ++ "]"

end Location

/-- A fault and where it was found. -/
structure ConfigError where
  fault : Fault
  location : Location
  deriving DecidableEq, Repr

/-- What is wrong and where, in words. -/
def ConfigError.message (e : ConfigError) : String :=
  e.fault.message ++ " at " ++ e.location.display

end OclScan
