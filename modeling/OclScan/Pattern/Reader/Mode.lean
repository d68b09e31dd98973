import OclScan.Pattern.Assertion
import OclScan.Pattern.CharSet
import OclScan.Pattern.Reader.Fault

/-!
# Modes of patterns

What the letters in the opening of a group switch on and off (`Mode.switch`), and what a mode does:
which characters of the text are left out (`Mode.skip`), and what characters, sets, the dot and the
edges of lines and words stand for.
-/

namespace OclScan

/-- The modes in which a part of a pattern is read. -/
structure Mode where
  /-- Characters stand for their case variants too (`i`). -/
  anyCase : Bool := false
  /-- `^` and `$` are the edges of lines (`m`). -/
  multiLine : Bool := true
  /-- `.` is any character, the ends of lines included (`s`). -/
  dotAll : Bool := false
  /-- Carriage returns end lines too (`R`). -/
  returns : Bool := false
  /-- Repetitions are lazy, and greedy where marked (`U`). -/
  swapGreed : Bool := false
  /-- White space is left out, and comments from `#` to the end of the line (`x`). -/
  spaced : Bool := false
  /-- Sets, case and words are those of Unicode, not of ASCII (`u`). -/
  unicode : Bool := true
  deriving DecidableEq, Repr

namespace Mode

/-- The modes at the start of a pattern. -/
def initial : Mode := {}

/-- Switches the mode with the given letter. -/
def switch (m : Mode) (letter : Char) (on : Bool) : Option Mode :=
  match letter with
  | 'i' => some { m with anyCase := on }
  | 'm' => some { m with multiLine := on }
  | 's' => some { m with dotAll := on }
  | 'R' => some { m with returns := on }
  | 'U' => some { m with swapGreed := on }
  | 'x' => some { m with spaced := on }
  | 'u' => some { m with unicode := on }
  | _ => none

/-! ## The text -/

/-- The text from where it is neither white space nor in a comment; `comment` tells whether it
starts in one. -/
def afterSpace (comment : Bool) : List Char → List Char
  | [] => []
  | c :: cs =>
    if comment then afterSpace (c != '\n') cs
    else if c == '#' then afterSpace true cs
    else if Text.isBlank c then afterSpace false cs
    else c :: cs

/-- Leaves out what does not count before the next character. -/
def skip (m : Mode) (cs : List Char) : List Char := if m.spaced then afterSpace false cs else cs

/-- The characters at the start that have `p`, at most `limit`, and what follows them. -/
def span (m : Mode) (p : Char → Bool) : Nat → List Char → List Char × List Char
  | 0, cs => ([], cs)
  | _ + 1, [] => ([], [])
  | limit + 1, c :: cs =>
    if p c then
      let (more, rest) := m.span p limit (m.skip cs)
      (c :: more, rest)
    else ([], c :: cs)

/-! ## Sets -/

/-- The set with the case variants of its characters, where they count. -/
def fold (m : Mode) (s : CharSet) : CharSet :=
  if !m.anyCase then s
  else if m.unicode then .anyCase s
  else .inter (.anyCase s) .ascii

/-- The set, or its complement if `negated`; case variants join first. A complement has characters
beyond ASCII. -/
def close (m : Mode) (negated : Bool) (s : CharSet) : Except PatternFault CharSet :=
  if !negated then .ok (m.fold s)
  else if m.unicode then .ok (.compl (m.fold s))
  else .error .beyondAscii

/-- What the character `c` stands for. Without Unicode, a character beyond ASCII stands for itself,
and not if it is written as one byte. -/
def char (m : Mode) (c : Char) (byte : Bool) : Except PatternFault CharSet :=
  if m.unicode || c.toNat < 128 then .ok (m.fold (.char c))
  else if byte then .error .beyondAscii
  else .ok (.char c)

/-- What an escape of one letter for the property stands for, or for its complement if `negated`.
Digits, white space and words have the case variants of their characters. -/
def property (m : Mode) (p : CharProperty) (negated : Bool) : Except PatternFault CharSet :=
  if m.unicode then .ok (if negated then .compl (.property p) else .property p)
  else if negated then .error .beyondAscii
  else .ok (.table { runs := p.runs.takeWhile (·.2 < 128) })

/-- What `.` stands for. -/
def dot (m : Mode) : Except PatternFault CharSet :=
  if !m.unicode then .error .beyondAscii
  else if m.dotAll then .ok .all
  else if m.returns then .ok (.compl (.union (.char '\r') (.char '\n')))
  else .ok .notNewline

/-! ## Conditions -/

/-- What `^` stands for. -/
def lineStart (m : Mode) : Assertion :=
  if !m.multiLine then .textStart else if m.returns then .returnStart else .lineStart

/-- What `$` stands for. -/
def lineEnd (m : Mode) : Assertion :=
  if !m.multiLine then .textEnd else if m.returns then .returnEnd else .lineEnd

/-- The condition on words. -/
def wordEdge (m : Mode) (kind : WordEdge) : Assertion := .word (!m.unicode) kind

end Mode

end OclScan
