/-!
# Globs

Patterns for file names: `?` is one character, `*` any number of them, square brackets a class and
`**` any number of whole components. A glob is read once (`Glob.read?`); a malformed one is no
glob.
-/

namespace OclScan

/-- The members of a class: the characters between two bounds, both included. -/
abbrev GlobRange := Char × Char

/-- A part of a glob. -/
inductive GlobPart
  /-- The character itself. -/
  | char (c : Char)
  /-- One character. -/
  | any
  /-- Any number of characters. -/
  | run
  /-- Any number of components with their slashes, or all that is left. -/
  | components
  /-- One character in one of the ranges. -/
  | within (ranges : List GlobRange)
  /-- One character in none of the ranges. -/
  | without (ranges : List GlobRange)
  deriving DecidableEq, Repr

/-- A glob. -/
structure Glob where
  parts : List GlobPart
  deriving DecidableEq, Repr

namespace Glob

/-- Whether a character lies in one of the ranges. -/
def inRanges (rs : List GlobRange) (c : Char) : Bool :=
  rs.any fun (first, last) => first.val ≤ c.val && c.val ≤ last.val

/-- The ranges of a class. A hyphen between two characters makes a range of them. -/
def classRanges : List Char → List GlobRange
  | a :: '-' :: b :: cs => (a, b) :: classRanges cs
  | a :: cs => (a, a) :: classRanges cs
  | [] => []

/-- Reads a class after its opening bracket and the sign of complement. The first character is a
member even if it is a closing bracket. -/
def readClass? : List Char → Option (List GlobRange × List Char)
  | [] => none
  | c :: cs =>
    if cs.contains ']' then
      some (classRanges (c :: cs.takeWhile (· != ']')), (cs.dropWhile (· != ']')).drop 1)
    else none

/-- Reads `**` after its asterisks: it has to be a whole component. `atStart` says whether one
starts there. -/
def readComponents? (atStart : Bool) (cs : List Char) : Option (List Char) :=
  if atStart then
    match cs with
    | [] => some []
    | '/' :: cs => some cs
    | _ => none
  else none

/-- Reads parts from where `atStart` says whether a component starts. Every part reads a character,
so `fuel` need not exceed the length of the text. -/
def readParts? : Nat → Bool → List Char → Option (List GlobPart)
  | _, _, [] => some []
  | 0, _, _ => none
  | fuel + 1, atStart, c :: cs =>
    match c with
    | '?' => (readParts? fuel false cs).map (.any :: ·)
    | '*' =>
      let more := cs.takeWhile (· == '*')
      let rest := cs.dropWhile (· == '*')
      match more.length with
      | 0 => (readParts? fuel false rest).map (.run :: ·)
      | 1 => (readComponents? atStart rest).bind fun rest =>
          (readParts? fuel true rest).map (.components :: ·)
      | _ => none
    | '[' =>
      match cs with
      | '!' :: cs => (readClass? cs).bind fun (rs, rest) =>
          (readParts? fuel false rest).map (.without rs :: ·)
      | _ => (readClass? cs).bind fun (rs, rest) =>
          (readParts? fuel false rest).map (.within rs :: ·)
    | _ => (readParts? fuel (c == '/') cs).map (.char c :: ·)

/-- The glob that a text spells. -/
def read? (text : String) : Option Glob :=
  (readParts? text.length true text.toList).map Glob.mk

/-- Whether `accepts` holds of the text or of a part of it after some characters. -/
def anyRest (accepts : List Char → Bool) : List Char → Bool
  | [] => accepts []
  | c :: cs => accepts (c :: cs) || anyRest accepts cs

/-- Whether `accepts` holds of the text after a slash in it, or of the end of the text. -/
def anyComponentRest (accepts : List Char → Bool) : List Char → Bool
  | [] => accepts []
  | c :: cs => (c == '/' && accepts cs) || anyComponentRest accepts cs

/-- Whether parts spell a text. -/
def matchesParts : List GlobPart → List Char → Bool
  | [], cs => cs.isEmpty
  | .char d :: ps, c :: cs => c == d && matchesParts ps cs
  | .any :: ps, _ :: cs => matchesParts ps cs
  | .within rs :: ps, c :: cs => inRanges rs c && matchesParts ps cs
  | .without rs :: ps, c :: cs => !inRanges rs c && matchesParts ps cs
  | .run :: ps, cs => anyRest (matchesParts ps) cs
  | .components :: ps, cs => matchesParts ps cs || anyComponentRest (matchesParts ps) cs
  | _, [] => false

/-- Whether the glob matches a text. -/
def accepts (g : Glob) (text : String) : Bool := matchesParts g.parts text.toList

end Glob

end OclScan
