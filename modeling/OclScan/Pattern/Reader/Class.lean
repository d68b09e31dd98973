import OclScan.Pattern.Reader.Escape

/-!
# Character classes in patterns

What stands between square brackets (`Class.read`): characters, ranges, escapes and further
classes, joined by union or by one of the operators `&&`, `--` and `~~`, which bind weaker than
union and group to the left.
-/

namespace OclScan

/-- The depth of notations that stand side by side: two or more are one level around the deepest. -/
def depthOfParts (depths : List Nat) : Nat :=
  depths.foldl max 0 + if depths.length < 2 then 0 else 1

namespace Class

/-- An operator between two parts of a class. -/
inductive Operator
  | inter
  | diff
  | symmDiff
  deriving DecidableEq, Repr

/-- The set that an operator makes of its sides. -/
def Operator.apply : Operator → CharSet → CharSet → CharSet
  | .inter => CharSet.inter
  | .diff => CharSet.diff
  | .symmDiff => CharSet.symmDiff

/-- A set with the depth of its notation: how many classes and operators stand in one another. -/
structure Nested where
  set : CharSet
  depth : Nat

/-- A class that has been opened and not closed. -/
structure Open where
  /-- Whether the class is the complement of what stands in it. -/
  negated : Bool
  /-- The left side of the last operator, once there is one. -/
  left : Option (Nested × Operator)
  /-- The union that is being read. -/
  union : CharSet
  /-- The depths of its members. -/
  depths : List Nat

namespace Open

/-- What has been read, the operator applied to both sides with their case variants. -/
def content (m : Mode) (o : Open) : Nested :=
  let depth := depthOfParts o.depths
  match o.left with
  | none => ⟨o.union, depth⟩
  | some (s, op) => ⟨op.apply (m.fold s.set) (m.fold o.union), max s.depth depth + 1⟩

/-- Adds a set to the union. -/
def add (o : Open) (s : CharSet) (depth : Nat) : Open :=
  { o with union := .union o.union s, depths := depth :: o.depths }

/-- Starts the right side of an operator. -/
def operator (m : Mode) (o : Open) (op : Operator) : Open :=
  { o with left := some (o.content m, op), union := .none, depths := [] }

/-- The set that the closed class stands for. -/
def close (m : Mode) (o : Open) : Except PatternFault Nested := do
  let content := o.content m
  return ⟨← m.close o.negated content.set, content.depth + 1⟩

end Open

/-- Splits off the sign of complement. -/
def readNegated : List Char → Bool × List Char
  | '^' :: cs => (true, cs)
  | cs => (false, cs)

/-- Reads a named ASCII set, written `[:name:]`, after its opening bracket, if there is one: the
set and whether its complement is meant. -/
def readAscii? : List Char → Option (Bool × CharSet × List Char)
  | ':' :: cs =>
    let (negated, cs) := readNegated cs
    let name := cs.takeWhile (· != ':')
    match cs.drop name.length with
    | ':' :: ']' :: rest => (CharSet.asciiSet? name).map fun s => (negated, s, rest)
    | _ => none
  | _ => none

/-- Reads one character or escape of a class. -/
def readItem (m : Mode) : List Char → Except PatternFault (Escape × List Char)
  | [] => .error .unclosedClass
  | '\\' :: cs => Escape.read m cs
  | c :: cs => .ok (.char c false, cs)

/-- The set that one item stands for. -/
def itemSet (m : Mode) : Escape → Except PatternFault CharSet
  | .char c _ => if m.unicode || c.toNat < 128 then .ok (.char c) else .error .beyondAscii
  | .set s => .ok s
  | .assertion _ => .error .badClassEscape

/-- The set of the characters from one item to another. -/
def rangeSet (m : Mode) : Escape → Escape → Except PatternFault CharSet
  | .char first _, .char last _ =>
    if last.val < first.val then .error .reversedRange
    else if m.unicode || last.toNat < 128 then .ok (.range first last)
    else .error .beyondAscii
  | _, _ => .error .badRangeEnd

/-- Whether the text after a hyphen goes on with the end of a range. -/
def endsRange (m : Mode) (cs : List Char) : Bool :=
  (m.skip cs).head? != some ']' && (m.skip cs).head? != some '-'

/-- Reads an item, or a range from one character to another. -/
def readRange (m : Mode) (cs : List Char) : Except PatternFault (CharSet × List Char) := do
  let (first, rest) ← readItem m cs
  match m.skip rest with
  | '-' :: more =>
    if endsRange m more then
      let (last, rest) ← readItem m (m.skip more)
      return (← rangeSet m first last, rest)
    else return (← itemSet m first, '-' :: more)
  | rest => return (← itemSet m first, rest)

/-- Reads what may stand first in a class only: the sign of complement, then hyphens, then, if
there was no hyphen, a closing bracket. -/
def readOpening (m : Mode) (cs : List Char) : Open × List Char :=
  let (negated, cs) := readNegated (m.skip cs)
  let (hyphens, cs) := m.span (· == '-') cs.length (m.skip cs)
  let o : Open := ⟨negated, none, .none, []⟩
  if hyphens.isEmpty then
    match cs with
    | ']' :: cs => (o.add (.char ']') 0, cs)
    | _ => (o, cs)
  else ({ o.add (.char '-') 0 with depths := hyphens.map fun _ => 0 }, cs)

/-- Reads on in class `o`, which stands in the classes `outer`. Every turn reads a character, so
`fuel` need not exceed the length of the text. -/
def readFrom (m : Mode) :
    Nat → Open → List Open → List Char → Except PatternFault (Nested × List Char)
  | 0, _, _, _ => .error .unclosedClass
  | fuel + 1, o, outer, cs =>
    match m.skip cs with
    | [] => .error .unclosedClass
    | '[' :: cs =>
      match readAscii? cs with
      | some (negated, s, rest) => do
        readFrom m fuel (o.add (← m.close negated s) 0) outer rest
      | none =>
        let (inner, rest) := readOpening m cs
        readFrom m fuel inner (o :: outer) rest
    | ']' :: cs => do
      let closed ← o.close m
      match outer with
      | [] => return (closed, cs)
      | up :: outer => readFrom m fuel (up.add closed.set closed.depth) outer cs
    | '&' :: '&' :: cs => readFrom m fuel (o.operator m .inter) outer cs
    | '-' :: '-' :: cs => readFrom m fuel (o.operator m .diff) outer cs
    | '~' :: '~' :: cs => readFrom m fuel (o.operator m .symmDiff) outer cs
    | cs => do
      let (s, rest) ← readRange m cs
      readFrom m fuel (o.add s 0) outer rest

/-- Reads a class after its opening bracket. -/
def read (m : Mode) (cs : List Char) : Except PatternFault (Nested × List Char) :=
  let (o, rest) := readOpening m cs
  readFrom m (cs.length + 1) o [] rest

end Class

end OclScan
