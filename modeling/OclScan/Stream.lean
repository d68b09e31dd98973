import OclScan.Scan

/-!
# Token streams

Tokens one at a time (`Stream.next`). A stream remembers for each rule where its next match is, so
that a rule which matches far ahead, or nowhere, is not searched for again at every place.
-/

namespace OclScan

/-- What is known of the next match of a rule. -/
inductive Lookahead
  /-- Nothing. -/
  | unknown
  /-- There is none. -/
  | nowhere
  /-- It starts at the offset `start` and reads `length` characters. -/
  | at (start length : Nat)
  deriving DecidableEq, Repr

/-- A rule with what is known of its next match. -/
structure Probe where
  rule : Rule
  ahead : Lookahead
  deriving DecidableEq, Repr

namespace Probe

/-- Searches for the next match from the cursor on. -/
def search (p : Probe) (c : Cursor) : Probe :=
  match p.rule.pattern.find? c with
  | some m => { p with ahead := .at (c.advance m.start).offset (m.stop - m.start) }
  | none => { p with ahead := .nowhere }

/-- Searches if the match that is known lies behind the cursor, or none is known. -/
def refresh (p : Probe) (c : Cursor) : Probe :=
  match p.ahead with
  | .nowhere => p
  | .at start _ => if c.offset ≤ start then p else p.search c
  | .unknown => p.search c

/-- The length with which the rule wins at the cursor, by the match that is known. -/
def wins? (p : Probe) (c : Cursor) : Option Nat :=
  match p.ahead with
  | .at start n =>
    if start = c.offset ∧ 0 < n then if p.rule.accepts (c.take n) then some n else none else none
  | _ => none

end Probe

/-- The first rule that wins at the cursor, with the length of its match, and what is known after
looking for it. Rules after the winner are not looked at. -/
def firstWin (c : Cursor) : List Probe → Option (Rule × Nat) × List Probe
  | [] => (none, [])
  | p :: ps =>
    let p := p.refresh c
    match p.wins? c with
    | some n => (some (p.rule, n), p :: ps)
    | none =>
      let (win, ps) := firstWin c ps
      (win, p :: ps)

/-- The state of a token stream. -/
structure Stream where
  cursor : Cursor
  /-- Tokens that have been made and not been taken. -/
  pending : List Token
  probes : List Probe
  deriving DecidableEq, Repr

namespace Stream

/-- The stream of a source text at its start. -/
def start (rules : List Rule) (source : List Char) : Stream :=
  ⟨.start source, [], rules.map (⟨·, .unknown⟩)⟩

/-- Makes the tokens of the next step. -/
def advance (s : Stream) : Stream :=
  let (win, probes) := firstWin s.cursor s.probes
  let step := Step.make s.cursor win
  ⟨step.stop, s.pending ++ step.tokens, probes⟩

/-- Takes the next token, after at most `n` steps. -/
def nextWithin : Nat → Stream → Option Token × Stream
  | n, s =>
    match s.pending with
    | t :: ts => (some t, { s with pending := ts })
    | [] =>
      match n with
      | 0 => (none, s)
      | n + 1 => if s.cursor.rest.isEmpty then (none, s) else nextWithin n s.advance

/-- Takes the next token, if there is one. A step may make no token, so several may be needed. -/
def next (s : Stream) : Option Token × Stream := s.nextWithin s.cursor.rest.length

/-- Takes up to `n` tokens. -/
def take : Nat → Stream → List Token × Stream
  | 0, s => ([], s)
  | n + 1, s =>
    match s.next with
    | (some t, s) =>
      let (ts, s) := take n s
      (t :: ts, s)
    | (none, s) => ([], s)

/-- Takes all tokens of at most `n` steps. -/
def drainWithin : Nat → Stream → List Token × Stream
  | 0, s => (s.pending, { s with pending := [] })
  | n + 1, s =>
    if s.cursor.rest.isEmpty then (s.pending, { s with pending := [] })
    else
      let (ts, last) := drainWithin n { s with pending := [] }.advance
      (s.pending ++ ts, last)

/-- Takes all tokens that remain. -/
def drain (s : Stream) : List Token × Stream := s.drainWithin s.cursor.rest.length

/-- All tokens that remain. -/
def toList (s : Stream) : List Token := s.drain.1

end Stream

end OclScan
