import OclScan.Pattern.Plan

/-!
# Matching

How a plan reads a text from one place (`Plan.matchAt?`), and where it first can
(`Plan.find?`). Of all the ways to read from a place, the one that every choice on the way prefers
wins: an alternative over those after it, a further round of a greedy loop over leaving it.

The reader goes through the text once. At each place it keeps the ways that are still open, in
order of preference, as what each reads next and what remains after that (`Thread`). What remains
is followed by the first way that comes to it at a place, and by no other (`Front.visit`): another
way could not read anything there that this way cannot. So there are never more ways than places in
the plan, and loops end. Ways come to a remainder in the order in which choices are followed, so a
round of a loop may come back, without reading, to a choice that is still being followed: it ends
there, and what is left of that choice goes on with the places recorded before the round. A search
lets a new way start at every place until one is done; ways that started earlier are preferred.
-/

namespace OclScan

/-- The places that a match has recorded, by slot. -/
abbrev Slots := List (Option Nat)

/-- A place in the text, as a plan sees it. -/
structure Spot where
  /-- The character before, if any. -/
  before : Option Char
  /-- The character after, if any. -/
  after : Option Char
  /-- The number of characters read so far. -/
  index : Nat

/-- A way in which a plan has read the text. Places are numbers of characters from where reading,
or the search, began. -/
structure Match where
  /-- Where the match starts. -/
  start : Nat
  /-- Where it ends. -/
  stop : Nat
  /-- The places recorded. -/
  slots : Slots
  deriving DecidableEq, Repr

/-- Where group `i` starts and ends, if it took part. -/
def Match.group? (m : Match) (i : Nat) : Option (Nat × Nat) :=
  match m.slots[2 * (i - 1)]?.join, m.slots[2 * (i - 1) + 1]?.join with
  | some first, some last => some (first, last)
  | _, _ => none

/-- A way of reading that waits for the next character. -/
structure Thread where
  /-- Where it started. -/
  start : Nat
  /-- What it reads next. -/
  set : CharSet
  /-- What remains after that. -/
  rest : List Plan
  /-- The places recorded so far. -/
  slots : Slots
  deriving DecidableEq, Repr

/-- The ways of reading at one place of the text. -/
structure Front where
  /-- The ways that wait, the least preferred first. -/
  threads : List Thread
  /-- The remainders that some way has come to here. -/
  seen : List (List Plan)
  /-- The first way that is done. All ways that wait are preferred to it. -/
  done : Option Match
  deriving DecidableEq, Repr

namespace Front

/-- Before any way has come here. -/
def empty : Front := ⟨[], [], none⟩

/-- Goes on with a remainder, unless a preferred way has come to it or is done. -/
def visit (f : Front) (rest : List Plan) (go : Front → Front) : Front :=
  if f.done.isSome || f.seen.contains rest then f else go { f with seen := rest :: f.seen }

/-- Lets a way wait, after all others. -/
def wait (f : Front) (t : Thread) : Front := { f with threads := t :: f.threads }

/-- Ends a way, unless a preferred way is done. -/
def finish (f : Front) (m : Match) : Front := { f with done := f.done.or (some m) }

end Front

/-- Follows the ways to read `p` from a place on, in order of preference, up to the characters that
they read; `rest` is what remains after `p`, and `next` follows it. A round of a loop that reads
nothing leads back to the loop, which a way has come to already, and so ends there. -/
def Plan.follow (start : Nat) (spot : Spot) :
    Plan → List Plan → (Slots → Front → Front) → Slots → Front → Front
  | empty, _, next, slots, f => next slots f
  | set n s, rest, _, slots, f => f.visit (set n s :: rest) (·.wait ⟨start, s, rest, slots⟩)
  | assertion a, _, next, slots, f => if a.holds spot.before spot.after then next slots f else f
  | slot k, _, next, slots, f => next (slots.set k (some spot.index)) f
  | seq p q, rest, next, slots, f =>
    p.follow start spot (q :: rest) (q.follow start spot rest next) slots f
  | alt n p q, rest, next, slots, f => f.visit (alt n p q :: rest) fun f =>
      q.follow start spot rest next slots (p.follow start spot rest next slots f)
  | loop n greedy p, rest, next, slots, f => f.visit (loop n greedy p :: rest) fun f =>
      let round := p.follow start spot (loop n greedy p :: rest) (fun _ f => f) slots
      if greedy then next slots (round f) else round (next slots f)

/-- Follows the ways to read what remains. -/
def followAll (start : Nat) (spot : Spot) : List Plan → Slots → Front → Front
  | [], slots, f => f.finish ⟨start, spot.index, slots⟩
  | p :: ps, slots, f => p.follow start spot ps (followAll start spot ps) slots f

/-- Lets ways read `c`, after which they are at `spot`, and follows them from there on, up to the
first way that is done. -/
def Front.read (c : Char) (spot : Spot) (f : Front) : List Thread → Front
  | [] => f
  | t :: ts =>
    if f.done.isSome then f
    else if t.set.contains c then (followAll t.start spot t.rest t.slots f).read c spot ts
    else f.read c spot ts

/-- Lets all ways that wait read `c`, after which they are at `spot`. -/
def Front.step (c : Char) (spot : Spot) (f : Front) : Front :=
  Front.empty.read c spot f.threads.reverse

namespace Plan

/-- Adds the ways that start at `spot`. -/
def enter (p : Plan) (slots : Nat) (spot : Spot) (f : Front) : Front :=
  followAll spot.index spot [p] (List.replicate slots none) f

/-- Reads on at `index`. `best` is the match found so far, to which all ways are preferred. -/
def runFrom (f : Front) (best : Option Match) (index : Nat) : List Char → Option Match
  | [] => best
  | c :: cs =>
    if f.threads.isEmpty then best
    else
      let f := f.step c ⟨some c, cs.head?, index + 1⟩
      runFrom f (f.done.or best) (index + 1) cs

/-- Reads on at `index`, where no way is done yet, and lets new ways start. -/
def searchFrom (p : Plan) (slots : Nat) (f : Front) (index : Nat) : List Char → Option Match
  | [] => none
  | c :: cs =>
    let spot : Spot := ⟨some c, cs.head?, index + 1⟩
    let f := f.step c spot
    let f := if f.done.isSome then f else p.enter slots spot f
    if f.done.isSome then runFrom f f.done (index + 1) cs
    else searchFrom p slots f (index + 1) cs

/-- The preferred way to read `text` with `p` from its start; `before` is the character before the
text and `slots` the number of slots. -/
def matchAt? (p : Plan) (slots : Nat) (before : Option Char) (text : List Char) : Option Match :=
  let f := p.enter slots ⟨before, text.head?, 0⟩ .empty
  runFrom f f.done 0 text

/-- The preferred way to read with `p` from the first place of `text` at which there is one. -/
def find? (p : Plan) (slots : Nat) (before : Option Char) (text : List Char) : Option Match :=
  let f := p.enter slots ⟨before, text.head?, 0⟩ .empty
  if f.done.isSome then runFrom f f.done 0 text else searchFrom p slots f 0 text

end Plan

end OclScan
