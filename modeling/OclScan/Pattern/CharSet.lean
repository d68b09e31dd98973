import OclScan.Text.Letter
import OclScan.Text.Number
import OclScan.Text.Digit
import OclScan.Text.Word
import OclScan.Text.Blank
import OclScan.Text.CaseFold

/-!
# Sets of characters

What one place of a pattern may read: a range, a property, a table of characters, or a set built
from others (`CharSet.contains`). Membership changes at finitely many code points, the edges of the
set, so that two sets are compared at finitely many characters (`CharSet.same`).
-/

namespace OclScan

/-- A property of characters that a pattern can name. -/
inductive CharProperty
  | letter
  | number
  | digit
  | word
  | blank
  deriving DecidableEq, Repr

/-- Whether `c` has the property. -/
def CharProperty.holds : CharProperty → Char → Bool
  | .letter, c => Text.isLetter c
  | .number, c => Text.isNumber c
  | .digit, c => Text.isDigit c
  | .word, c => Text.isWord c
  | .blank, c => Text.isBlank c

/-- The runs of the characters with the property. -/
def CharProperty.runs : CharProperty → List (Nat × Nat)
  | .letter => Text.letterRuns
  | .number => Text.numberRuns
  | .digit => Text.digitRuns
  | .word => Text.wordRuns
  | .blank => Text.blankRuns

/-- A set of characters. -/
inductive CharSet
  /-- No character. -/
  | none
  /-- The characters from `first` to `last`, both included. -/
  | range (first last : Char)
  /-- The characters with a property. -/
  | property (p : CharProperty)
  /-- The characters of a table. -/
  | table (s : Text.RunSet)
  /-- The characters in either set. -/
  | union (s t : CharSet)
  /-- The characters in both sets. -/
  | inter (s t : CharSet)
  /-- The characters not in the set. -/
  | compl (s : CharSet)
  /-- The characters of the set and their case variants. -/
  | anyCase (s : CharSet)
  deriving DecidableEq, Repr

namespace CharSet

/-- Whether `c` is in the set. -/
def contains : CharSet → Char → Bool
  | none, _ => false
  | range first last, c => first.val ≤ c.val && c.val ≤ last.val
  | property p, c => p.holds c
  | table s, c => s.contains c
  | union s t, c => s.contains c || t.contains c
  | inter s t, c => s.contains c && t.contains c
  | compl s, c => !s.contains c
  | anyCase s, c => s.contains c || (Text.caseVariants c).any s.contains

/-- One character alone. -/
def char (c : Char) : CharSet := range c c

/-- Every character. -/
def all : CharSet := compl none

/-- Every character but the line feed. -/
def notNewline : CharSet := compl (char '\n')

/-- The characters of ASCII. -/
def ascii : CharSet := range '\x00' '\x7f'

/-- The characters in the first set and not in the second. -/
def diff (s t : CharSet) : CharSet := inter s (compl t)

/-- The characters in exactly one of the sets. -/
def symmDiff (s t : CharSet) : CharSet := union (diff s t) (diff t s)

/-- The set with `c` added. -/
def insert (s : CharSet) (c : Char) : CharSet := union s (char c)

/-- The union of ranges. -/
def ofRanges (rs : List (Char × Char)) : CharSet :=
  rs.foldl (fun s r => union s (range r.1 r.2)) none

/-- The union of sets. -/
def unionAll (ss : List CharSet) : CharSet := ss.foldl union none

/-! ## Comparing sets -/

/-- The code points at which membership may change. With case variants, each character that has a
variant in the set may be a part of its own. -/
def edges : CharSet → List Nat
  | none => []
  | range first last => [first.toNat, last.toNat + 1]
  | property p => Text.runEdges p.runs
  | table s => s.edges
  | union s t => s.edges ++ t.edges
  | inter s t => s.edges ++ t.edges
  | compl s => s.edges
  | anyCase s =>
    let around (n variant : Nat) := if s.contains (Char.ofNat variant) then [n, n + 1] else []
    s.edges ++ Text.casePairs.flatMap fun p => around p.1 p.2 ++ around p.2 p.1

/-- One character at least of each part into which the edges divide all characters. A part may
start among the surrogates, which are not characters. -/
def points (s : CharSet) : List Char :=
  ((0 :: 0xe000 :: s.edges).filter fun n => n.isValidChar).map Char.ofNat

/-- Whether the sets have the same characters. -/
def same (s t : CharSet) : Bool :=
  s == t || (union s t).points.all fun c => s.contains c == t.contains c

/-- Whether the set has one character only. -/
def isSingle (s : CharSet) : Bool :=
  match s.points.find? s.contains with
  | some c => s.same (char c)
  | Option.none => false

/-! ## Size -/

/-- An estimate of what a set takes beyond one place in an automaton that reads bytes: a character
beyond ASCII is several bytes, and a run is a way of its own. -/
def extent : CharSet → Nat
  | none => 0
  | range first last =>
    if last.toNat < 128 then 0 else if first = last then first.utf8Size - 1 else 8
  | property p => 2 * p.runs.length
  | table s => 2 * s.size
  | union s t => s.extent + t.extent
  | inter s t => s.extent + t.extent
  | compl s => s.extent + 8
  | anyCase s => 2 * s.extent + 2

end CharSet

end OclScan
