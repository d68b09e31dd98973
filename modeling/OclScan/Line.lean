/-!
# Lines

Where an offset lies in terms of lines. A line ends with its line feed; positions and columns count
bytes, so a position may lie within a character.
-/

namespace OclScan

/-- A place in a line. -/
structure LinePlace where
  /-- The number of the line, from 1. -/
  number : Nat
  /-- The line with its line feed. -/
  text : String
  /-- The bytes of the line before the place. -/
  column : Nat
  deriving DecidableEq, Repr

/-- Splits a text into lines; `line` is the current one, its last character first. -/
def splitLines (line : List Char) : List Char → List (List Char)
  | [] => if line.isEmpty then [] else [line.reverse]
  | c :: cs =>
    if c = '\n' then (c :: line).reverse :: splitLines [] cs else splitLines (c :: line) cs

/-- The lines of a text, each with its line feed. -/
def lines (cs : List Char) : List (List Char) := splitLines [] cs

/-- The place of `position` in lines of which the first has the given number and offset. -/
def placeIn? (position number start : Nat) : List (List Char) → Option LinePlace
  | [] => none
  | line :: more =>
    let stop := start + (String.ofList line).utf8ByteSize
    if start ≤ position ∧ position < stop then
      some ⟨number, String.ofList line, position - start⟩
    else placeIn? position (number + 1) stop more

/-- The line of a position in a text, none past the end of the text. -/
def lineAt? (source : String) (position : Nat) : Option LinePlace :=
  placeIn? position 1 0 (lines source.toList)

end OclScan
