import OclScan.Dump.Raw

/-!
# Located dump

The lines of the raw dump, each after the line and column of its token. Both count from 1, columns
in bytes. Lines are counted along the texts of the tokens, which are meant to follow one another
from the start of the source.
-/

namespace OclScan.Dump

/-- Where the lines of the source have been counted to. -/
structure LineCount where
  /-- The number of the current line. -/
  line : Nat
  /-- The offset at which it starts. -/
  start : Nat
  deriving DecidableEq, Repr

namespace LineCount

/-- At the start of the source. -/
def initial : LineCount := ⟨1, 0⟩

/-- Counts along a text that starts at the given offset. -/
def along (n : LineCount) (offset : Nat) : List Char → LineCount
  | [] => n
  | c :: cs =>
    let next := offset + c.utf8Size
    if c = '\n' then along ⟨n.line + 1, next⟩ next cs else along n next cs

/-- Counts along a token. -/
def after (n : LineCount) (t : Token) : LineCount := n.along t.start t.text.toList

/-- The column of a token in the current line. -/
def column (n : LineCount) (t : Token) : Nat := t.start - n.start + 1

end LineCount

/-- The line of a token. -/
def locatedLine (n : LineCount) (t : Token) : String :=
  toString n.line ++ ":" ++ toString (n.column t) ++ "\t" ++ rawLine t

/-- The lines of tokens, each with the line count before it. -/
def locatedLines (n : LineCount) : List Token → List String
  | [] => []
  | t :: ts => locatedLine n t :: locatedLines (n.after t) ts

/-- The lines of tokens from the start of the source. -/
def located (ts : List Token) : String := .join (locatedLines .initial ts)

end OclScan.Dump
