import OclScan.Json.Value
import OclScan.Text.Hex

/-!
# Reading JSON

The value that a text spells (`Value.read?`). Of members with one key the last counts; arrays and
objects nest to a limited depth.
-/

namespace OclScan.Json

/-- Whether `c` is white space between the parts of a value. -/
def isSpace (c : Char) : Bool := c == ' ' || c == '\t' || c == '\n' || c == '\r'

/-- Skips white space. -/
def skip (cs : List Char) : List Char := cs.dropWhile isSpace

/-- Reads the four digits of an escaped unit. -/
def readUnit? : List Char → Option (Nat × List Char)
  | a :: b :: c :: d :: cs => (Text.hexNumber? [a, b, c, d]).map (·, cs)
  | _ => none

/-- Reads an escaped character after its first two characters: one unit, or two where the first is
the leading half of a pair. A half alone is refused. -/
def readEscapedUnit? (cs : List Char) : Option (Char × List Char) := do
  let (high, rest) ← readUnit? cs
  if 0xd800 ≤ high ∧ high < 0xdc00 then
    match rest with
    | '\\' :: 'u' :: rest =>
      let (low, rest) ← readUnit? rest
      if 0xdc00 ≤ low ∧ low < 0xe000 then
        some (Char.ofNat (0x10000 + (high - 0xd800) * 1024 + (low - 0xdc00)), rest)
      else none
    | _ => none
  else if 0xdc00 ≤ high ∧ high < 0xe000 then none
  else some (Char.ofNat high, rest)

/-- Reads one character of a string. -/
def readChar? : List Char → Option (Char × List Char)
  | '\\' :: '"' :: cs => some ('"', cs)
  | '\\' :: '\\' :: cs => some ('\\', cs)
  | '\\' :: '/' :: cs => some ('/', cs)
  | '\\' :: 'b' :: cs => some ('\x08', cs)
  | '\\' :: 'f' :: cs => some ('\x0c', cs)
  | '\\' :: 'n' :: cs => some ('\n', cs)
  | '\\' :: 'r' :: cs => some ('\r', cs)
  | '\\' :: 't' :: cs => some ('\t', cs)
  | '\\' :: 'u' :: cs => readEscapedUnit? cs
  | '\\' :: _ => none
  | c :: cs => if c.toNat < 32 then none else some (c, cs)
  | [] => none

/-- Reads a string after its opening quote; `read` are the characters before, the last first. -/
def readString? (read : List Char) : Nat → List Char → Option (String × List Char)
  | 0, _ => none
  | fuel + 1, cs =>
    match cs with
    | '"' :: rest => some (String.ofList read.reverse, rest)
    | _ => (readChar? cs).bind fun (c, rest) => readString? (c :: read) fuel rest

/-- Reads a word that stands for a value. -/
def readWord? (word : String) (v : Value) (cs : List Char) : Option (Value × List Char) :=
  if word.toList.isPrefixOf cs then some (v, cs.drop word.length) else none

mutual

/-- Reads a value; arrays and objects may nest `depth` deep. -/
def readValue? : Nat → Nat → List Char → Option (Value × List Char)
  | 0, _, _ => none
  | fuel + 1, depth, cs =>
    match skip cs with
    | [] => none
    | 'n' :: cs => readWord? "null" .null ('n' :: cs)
    | 't' :: cs => readWord? "true" (.bool true) ('t' :: cs)
    | 'f' :: cs => readWord? "false" (.bool false) ('f' :: cs)
    | '"' :: cs => (readString? [] (cs.length + 1) cs).map fun (s, rest) => (.string s, rest)
    | '[' :: cs =>
      if depth = 0 then none
      else
        match skip cs with
        | ']' :: rest => some (.array [], rest)
        | _ => (readItems? fuel (depth - 1) cs).map fun (vs, rest) => (.array vs, rest)
    | '\x7b' :: cs =>
      if depth = 0 then none
      else
        match skip cs with
        | '\x7d' :: rest => some (.object [], rest)
        | _ => (readMembers? fuel (depth - 1) [] cs).map fun (ms, rest) => (.object ms, rest)
    | cs => (Number.read? cs).map fun (n, rest) => (.number n, rest)

/-- Reads the items of an array that is not empty, with its closing bracket. -/
def readItems? : Nat → Nat → List Char → Option (List Value × List Char)
  | 0, _, _ => none
  | fuel + 1, depth, cs => do
    let (v, rest) ← readValue? fuel depth cs
    match skip rest with
    | ',' :: rest =>
      let (vs, rest) ← readItems? fuel depth rest
      return (v :: vs, rest)
    | ']' :: rest => return ([v], rest)
    | _ => none

/-- Reads the members of an object that is not empty, with its closing brace, and sets them in
`ms`. -/
def readMembers? :
    Nat → Nat → List (String × Value) → List Char → Option (List (String × Value) × List Char)
  | 0, _, _, _ => none
  | fuel + 1, depth, ms, cs =>
    match skip cs with
    | '"' :: cs => do
      let (key, rest) ← readString? [] (cs.length + 1) cs
      match skip rest with
      | ':' :: rest =>
        let (v, rest) ← readValue? fuel depth rest
        match skip rest with
        | ',' :: rest => readMembers? fuel depth (setMember key v ms) rest
        | '\x7d' :: rest => return (setMember key v ms, rest)
        | _ => none
      | _ => none
    | _ => none

end

/-- How deep arrays and objects may nest. -/
def greatestDepth : Nat := 127

/-- The value that a text spells, white space around it apart. -/
def Value.read? (text : String) : Option Value :=
  let cs := text.toList
  match readValue? (2 * cs.length + 2) greatestDepth cs with
  | some (v, rest) => if (skip rest).isEmpty then some v else none
  | none => none

end OclScan.Json
