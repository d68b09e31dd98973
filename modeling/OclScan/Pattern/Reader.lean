import OclScan.Pattern.Tree
import OclScan.Pattern.Reader.Class

/-!
# Reading patterns

The text of a pattern as a tree (`Tree.read`). The reader keeps the groups that are open, takes
one element at a time and never looks back, so each element reads at least one character.

Patterns have literals, `.`, `^`, `$`, classes, groups with and without capture and with names,
alternatives, greedy and lazy repetitions, the escapes of `Escape.read`, the sets of
`CharSet.ofProperty?` and the modes of `Mode`; `^` and `$` stand for the edges of lines from the
start. Refused are, besides what is not spelled right, look-around, back references, sets by other
properties than those of `CharSet.ofProperty?`, and without Unicode what would read a part of a
character. A pattern is also refused that is nested too deeply or too large. How large a pattern
would be as an automaton is estimated (`Tree.weight`).
-/

namespace OclScan

namespace Reader

/-- A tree with the depth of its notation: how many groups, classes, repetitions and rows of parts
stand in one another. -/
structure Nested where
  tree : Tree
  depth : Nat

/-- A group that is open, or the pattern as a whole. -/
structure Level where
  /-- The index of a capture group. -/
  capture : Option Nat
  /-- The modes outside the group. -/
  outer : Mode
  /-- The alternatives before the current one, the last first. -/
  branches : List Nested
  /-- The parts of the current alternative, the last first; `none` where modes are set. -/
  items : List (Option Nested)

namespace Level

/-- A group in which nothing has been read. -/
def start (capture : Option Nat) (outer : Mode) : Level := ⟨capture, outer, [], []⟩

/-- The current alternative. -/
def branch (l : Level) : Nested where
  tree := .sequence (l.items.reverse.filterMap fun item => item.map (·.tree))
  depth := depthOfParts (l.items.map fun item => (item.map (·.depth)).getD 0)

/-- All that the group holds. -/
def content (l : Level) : Nested :=
  let branches := (l.branch :: l.branches).reverse
  ⟨.alternatives (branches.map (·.tree)), depthOfParts (branches.map (·.depth))⟩

/-- The closed group. -/
def close (l : Level) : Nested :=
  let ⟨t, depth⟩ := l.content
  match l.capture with
  | some i => ⟨.group i t, depth + 1⟩
  | none => ⟨t, depth + 1⟩

end Level

/-- Where the reader stands. -/
structure State where
  /-- The innermost open group. -/
  level : Level
  /-- The groups around it, the innermost first. -/
  above : List Level
  mode : Mode
  /-- The number of capture groups so far. -/
  groups : Nat
  /-- The names of groups so far. -/
  names : List (List Char)

namespace State

/-- Before the first element. -/
def initial : State := ⟨.start none .initial, [], .initial, 0, []⟩

/-- Adds an element to the current alternative. -/
def push (s : State) (t : Nested) : State :=
  { s with level := { s.level with items := some t :: s.level.items } }

/-- Adds one character of a set. -/
def pushSet (s : State) (set : CharSet) (depth : Nat) : State := s.push ⟨.set set, depth⟩

/-- Adds a condition. -/
def pushAssertion (s : State) (a : Assertion) : State := s.push ⟨.assertion a, 0⟩

/-- Adds one character. -/
def pushChar (s : State) (c : Char) (byte : Bool) : Except PatternFault State := do
  return s.pushSet (← s.mode.char c byte) 0

/-- Opens a group. -/
def openGroup (s : State) (capture : Option Nat) (inner : Mode) : State :=
  { s with level := .start capture s.mode, above := s.level :: s.above, mode := inner }

/-- Opens a capture group, which gets the next index. -/
def openCapture (s : State) : State :=
  { s.openGroup (some (s.groups + 1)) s.mode with groups := s.groups + 1 }

/-- Closes the innermost group. -/
def closeGroup (s : State) : Except PatternFault State :=
  match s.above with
  | [] => .error .unopenedGroup
  | up :: above =>
    .ok ({ s with level := up, above := above, mode := s.level.outer }.push s.level.close)

/-- Ends the current alternative. -/
def nextBranch (s : State) : State :=
  let l := s.level
  { s with level := { l with branches := l.branch :: l.branches, items := [] } }

/-- Repeats the last element. -/
def repeatLast (s : State) (least : Nat) (most : Option Nat) (lazy : Bool) :
    Except PatternFault State :=
  match s.level.items with
  | some t :: items =>
    let greedy := lazy == s.mode.swapGreed
    let t : Nested := ⟨t.tree.repeated least most greedy, t.depth + 1⟩
    .ok { s with level := { s.level with items := some t :: items } }
  | _ => .error .nothingToRepeat

/-- Sets the modes for what follows in the group. -/
def setMode (s : State) (m : Mode) : State :=
  { s with mode := m, level := { s.level with items := none :: s.level.items } }

end State

/-- Splits off the mark of a lazy repetition. -/
def readLazy : List Char → Bool × List Char
  | '?' :: cs => (true, cs)
  | cs => (false, cs)

/-- The greatest count of a repetition. -/
def greatestCount : Nat := 4294967295

/-- Reads a count, which white space may surround. -/
def readCount (m : Mode) (cs : List Char) : Except PatternFault (Nat × List Char) :=
  let (digits, rest) := m.span Char.isDigit cs.length (cs.dropWhile Text.isBlank)
  let n := Nat.ofDigitChars 10 digits 0
  if digits.isEmpty || greatestCount < n then .error .badCount
  else .ok (n, rest.dropWhile Text.isBlank)

/-- Reads the counts of a repetition after its opening brace. -/
def readCounts (m : Mode) (cs : List Char) :
    Except PatternFault (Nat × Option Nat × List Char) := do
  let (least, rest) ← readCount m (m.skip cs)
  match rest with
  | '}' :: rest => .ok (least, some least, m.skip rest)
  | ',' :: rest =>
    match m.skip rest with
    | '}' :: rest => .ok (least, none, m.skip rest)
    | rest =>
      let (most, rest) ← readCount m rest
      match rest with
      | '}' :: rest =>
        if least ≤ most then .ok (least, some most, m.skip rest) else .error .badCount
      | _ => .error .badCount
  | _ => .error .badCount

/-- Whether the name of a group may start with `c`. -/
def startsName (c : Char) : Bool := c == '_' || CharSet.alphabetic.contains c

/-- Whether the name of a group may go on with `c`. -/
def continuesName (c : Char) : Bool :=
  startsName c || Text.isNumber c || c == '.' || c == '[' || c == ']'

/-- Reads the name of a group, with the bracket that ends it. -/
def readName (cs : List Char) : Except PatternFault (List Char × List Char) :=
  let name := cs.takeWhile (· != '>')
  match name, cs.drop name.length with
  | c :: more, '>' :: rest =>
    if startsName c && more.all continuesName then .ok (name, rest) else .error .badGroupOpening
  | _, _ => .error .badGroupOpening

/-- Reads mode letters up to the sign that ends them: a colon, which opens a group, or a closing
parenthesis. `seen` are the letters before; those after a hyphen switch modes off. -/
def readModes (m : Mode) (on : Bool) (seen : List Char) :
    List Char → Except PatternFault (Mode × Bool × List Char)
  | [] => .error .badMode
  | ':' :: cs => if seen.head? = some '-' then .error .badMode else .ok (m, true, cs)
  | ')' :: cs =>
    if seen.isEmpty || seen.head? = some '-' then .error .badMode else .ok (m, false, cs)
  | '-' :: cs => if on then readModes m false ('-' :: seen) cs else .error .badMode
  | c :: cs =>
    match m.switch c on with
    | some m => if seen.contains c then .error .badMode else readModes m on (c :: seen) cs
    | none => .error .badMode

/-- Reads the opening of a group after its parenthesis. -/
def readGroup (s : State) (cs : List Char) : Except PatternFault (State × List Char) :=
  match s.mode.skip cs with
  | '?' :: '=' :: _ => .error .lookAround
  | '?' :: '!' :: _ => .error .lookAround
  | '?' :: '<' :: '=' :: _ => .error .lookAround
  | '?' :: '<' :: '!' :: _ => .error .lookAround
  | '?' :: 'P' :: '<' :: cs => named cs
  | '?' :: '<' :: cs => named cs
  | '?' :: cs => do
    let (m, group, rest) ← readModes s.mode true [] cs
    return (if group then s.openGroup none m else s.setMode m, rest)
  | cs => .ok (s.openCapture, cs)
where
  named (cs : List Char) : Except PatternFault (State × List Char) := do
    let (name, rest) ← readName cs
    if s.names.contains name then .error .duplicateGroupName
    else .ok ({ s.openCapture with names := name :: s.names }, rest)

/-- Reads one element that starts with `c`. -/
def step (s : State) (c : Char) (cs : List Char) : Except PatternFault (State × List Char) :=
  let again (least : Nat) (most : Option Nat) (cs : List Char) :
      Except PatternFault (State × List Char) := do
    let (lazy, rest) := readLazy cs
    return (← s.repeatLast least most lazy, rest)
  match c with
  | '(' => readGroup s cs
  | ')' => do return (← s.closeGroup, cs)
  | '|' => .ok (s.nextBranch, cs)
  | '*' => again 0 none cs
  | '+' => again 1 none cs
  | '?' => again 0 (some 1) cs
  | '{' =>
    if s.level.items.head?.join.isNone then .error .nothingToRepeat
    else do
      let (least, most, rest) ← readCounts s.mode cs
      again least most rest
  | '[' => do
    let (set, rest) ← Class.read s.mode cs
    return (s.pushSet set.set set.depth, rest)
  | '.' => do return (s.pushSet (← s.mode.dot) 0, cs)
  | '^' => .ok (s.pushAssertion s.mode.lineStart, cs)
  | '$' => .ok (s.pushAssertion s.mode.lineEnd, cs)
  | '\\' => do
    let (e, rest) ← Escape.read s.mode cs
    match e with
    | .char d byte => return (← s.pushChar d byte, rest)
    | .set set => return (s.pushSet set 0, rest)
    | .assertion a => return (s.pushAssertion a, rest)
  | _ => do return (← s.pushChar c false, cs)

/-- Reads to the end of the pattern. Every element reads a character, so `fuel` need not exceed the
length of the text by more than one. -/
def readFrom : Nat → State → List Char → Except PatternFault Nested
  | 0, _, _ => .error .tooLarge
  | fuel + 1, s, cs =>
    match s.mode.skip cs with
    | [] => if s.above.isEmpty then .ok s.level.content else .error .unclosedGroup
    | c :: cs => do
      let (s, rest) ← step s c cs
      readFrom fuel s rest

end Reader

/-- The greatest depth of a pattern. -/
def Tree.greatestDepth : Nat := 250

/-- The most places that a pattern may have. -/
def Tree.greatestWeight : Nat := 262144

/-- The tree that the text of a pattern spells. -/
def Tree.read (cs : List Char) : Except PatternFault Tree := do
  let t ← Reader.readFrom (cs.length + 1) .initial cs
  if Tree.greatestDepth < t.depth then .error .tooDeep
  else if Tree.greatestWeight < t.tree.weight then .error .tooLarge
  else .ok t.tree

end OclScan
