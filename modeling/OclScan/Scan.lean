import OclScan.Rule

/-!
# Scanning

One step of scanning reads a part of the source and makes tokens of it (`Step`). At the cursor the
first rule that wins makes the step; where none wins, one character becomes plain text. Steps
follow one another to the end of the source (`steps`).
-/

namespace OclScan

/-- A part of the source with the tokens made of it. -/
structure Step where
  /-- Where the part starts. -/
  start : Cursor
  /-- Its length in characters. -/
  length : Nat
  tokens : List Token
  deriving DecidableEq, Repr

namespace Step

/-- Where the part ends. -/
def stop (s : Step) : Cursor := s.start.advance s.length

/-- The step that the winning rule makes, or that is made without one. -/
def make (c : Cursor) : Option (Rule × Nat) → Step
  | some (rule, n) => ⟨c, n, rule.tokens c n⟩
  | none => ⟨c, 1, [⟨.text, c.take 1, c.offset⟩]⟩

end Step

/-- The first rule that wins at the cursor, with the length of its match. -/
def winner? (rules : List Rule) (c : Cursor) : Option (Rule × Nat) :=
  rules.findSome? fun r => (r.wins? c).map (r, ·)

/-- The step at the cursor. -/
def stepAt (rules : List Rule) (c : Cursor) : Step := .make c (winner? rules c)

/-- At most `n` steps from the cursor on. -/
def stepsUpTo (rules : List Rule) : Nat → Cursor → List Step
  | 0, _ => []
  | n + 1, c =>
    if c.rest.isEmpty then []
    else
      let s := stepAt rules c
      s :: stepsUpTo rules n s.stop

/-- The steps from the cursor to the end of the source. Each reads a character or more, so there
are at most as many as characters. -/
def steps (rules : List Rule) (c : Cursor) : List Step := stepsUpTo rules c.rest.length c

/-- The tokens from the cursor to the end of the source. -/
def scan (rules : List Rule) (c : Cursor) : List Token := (steps rules c).flatMap Step.tokens

end OclScan
