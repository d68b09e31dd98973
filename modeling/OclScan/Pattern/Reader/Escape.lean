import OclScan.Pattern.Reader.Mode
import OclScan.Pattern.Reader.Property
import OclScan.Text.Hex

/-!
# Escapes in patterns

What a backslash and the characters after it stand for (`Escape.read`): a character, a set of
characters, or an assertion.
-/

namespace OclScan

/-- What an escape stands for. -/
inductive Escape
  /-- A character; `byte` tells whether it is written as one byte, with two digits. -/
  | char (c : Char) (byte : Bool)
  | set (s : CharSet)
  | assertion (a : Assertion)
  deriving DecidableEq, Repr

namespace Escape

/-- Reads what stands in braces, after the opening brace. -/
def readBraced (m : Mode) (cs : List Char) : Except PatternFault (List Char × List Char) :=
  let (inside, rest) := m.span (· != '}') cs.length (m.skip cs)
  match rest with
  | [] => .error .unfinishedEscape
  | _ :: rest => .ok (inside, rest)

/-- Reads a character written by its code point: `width` digits, or any number in braces. -/
def readHex (m : Mode) (width : Nat) (cs : List Char) : Except PatternFault (Escape × List Char) :=
  let character (digits : List Char) (byte : Bool) (rest : List Char) :
      Except PatternFault (Escape × List Char) :=
    match Text.hexChar? digits with
    | some c => .ok (.char c byte, rest)
    | none => .error .unfinishedEscape
  match m.skip cs with
  | '{' :: cs => do
    let (digits, rest) ← readBraced m cs
    character digits false (m.skip rest)
  | cs =>
    let (digits, rest) := m.span (fun _ => true) width cs
    if digits.length == width then character digits (width == 2) rest
    else .error .unfinishedEscape

/-- Reads the name of a property: one letter, or any text in braces. -/
def readProperty (m : Mode) (negated : Bool) (cs : List Char) :
    Except PatternFault (Escape × List Char) := do
  let (name, rest) ←
    match m.skip cs with
    | [] => .error .unfinishedEscape
    | '{' :: cs => readBraced m cs
    | c :: cs => .ok ([c], m.skip cs)
  match CharSet.ofProperty? name with
  | none => .error .unknownProperty
  | some s => if m.unicode then return (.set (← m.close negated s), rest) else .error .beyondAscii

/-- The conditions on words that have names. -/
def wordEdges : List (List String × WordEdge) := [
  (["start"], .start),
  (["end"], .stop),
  (["start-half"], .startHalf),
  (["end-half"], .stopHalf)]

/-- Whether the name of a condition on words may have `c` in it. -/
def namesEdge (c : Char) : Bool := c.isAlpha || c == '-'

/-- Reads the name in braces that may follow the escape for the edge of a word. Braces in which
something else stands are the counts of a repetition, and are left. -/
def readWordEdge (m : Mode) : List Char → Except PatternFault (WordEdge × List Char)
  | '{' :: cs =>
    match m.skip cs with
    | [] => .error .unknownWordEdge
    | c :: more =>
      if namesEdge c then
        let (name, rest) := m.span namesEdge cs.length (c :: more)
        match lookupName? wordEdges name, rest with
        | some kind, '}' :: rest => .ok (kind, rest)
        | _, _ => .error .unknownWordEdge
      else .ok (.change, '{' :: cs)
  | cs => .ok (.change, cs)

/-- Whether a backslash before `c` only takes away its special meaning. -/
def isPlain (c : Char) : Bool :=
  c.toNat < 128 && !c.isAlphanum && c != '<' && c != '>'

/-- Reads the escape after a backslash. -/
def read (m : Mode) : List Char → Except PatternFault (Escape × List Char)
  | [] => .error .unfinishedEscape
  | c :: cs =>
    let chr (d : Char) : Except PatternFault (Escape × List Char) := .ok (.char d false, cs)
    let set (p : CharProperty) (negated : Bool) : Except PatternFault (Escape × List Char) :=
      (m.property p negated).map fun s => (.set s, cs)
    let place (a : Assertion) : Except PatternFault (Escape × List Char) := .ok (.assertion a, cs)
    match c with
    | 'n' => chr '\n'
    | 't' => chr '\t'
    | 'r' => chr '\r'
    | 'f' => chr '\x0c'
    | 'v' => chr '\x0b'
    | 'a' => chr '\x07'
    | 'x' => readHex m 2 cs
    | 'u' => readHex m 4 cs
    | 'U' => readHex m 8 cs
    | 'd' => set .digit false
    | 'D' => set .digit true
    | 's' => set .blank false
    | 'S' => set .blank true
    | 'w' => set .word false
    | 'W' => set .word true
    | 'p' => readProperty m false cs
    | 'P' => readProperty m true cs
    | 'A' => place .textStart
    | 'z' => place .textEnd
    | 'b' => (readWordEdge m cs).map fun (kind, rest) => (.assertion (m.wordEdge kind), rest)
    | 'B' => place (m.wordEdge .noChange)
    | '<' => place (m.wordEdge .start)
    | '>' => place (m.wordEdge .stop)
    | _ =>
      if c.isDigit then .error .backReference
      else if isPlain c then chr c
      else .error .unknownEscape

end Escape

end OclScan
