import OclScan.Grammar
import OclScan.Stream

/-!
# Lexers

A lexer is a resolved rule table. It serves any number of sources.
-/

namespace OclScan

/-- A resolved rule table. -/
structure Lexer where
  rules : List Rule
  deriving DecidableEq, Repr

namespace Lexer

/-- The lexer for a rule table, starting with the rule-set `entry`. -/
def ofTable (t : Table) (entry : String) : Except ConfigError Lexer :=
  (t.resolve entry).map Lexer.mk

/-- The lexer for constraints. -/
def standard : Except ConfigError Lexer := ofTable Grammar.table Grammar.root

/-- The tokens of a source, one at a time. -/
def stream (l : Lexer) (source : String) : Stream := .start l.rules source.toList

/-- The tokens of a source. -/
def tokenize (l : Lexer) (source : String) : List Token := (l.stream source).toList

/-- The indices of the rules that admit `text`. -/
def accepting (l : Lexer) (text : String) : List Nat :=
  (l.rules.zipIdx.filter fun (r, _) => r.accepts text).map (·.2)

end Lexer

end OclScan
