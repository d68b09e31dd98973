import OclScan.Lexer

/-!
# Sessions

Several token streams side by side, over the sources of one lexer (`Session.step`). Streams have
numbers in the order in which they are made. A stream moves only when tokens are taken from it; a
copy goes its own way from where it was made.
-/

namespace OclScan

/-- What is asked of a session. -/
inductive Command
  /-- A new stream of a source. -/
  | start (source : Nat)
  /-- A copy of a stream as it stands. -/
  | copy (stream : Nat)
  /-- The next token, which is taken. -/
  | next (stream : Nat)
  /-- Up to `n` tokens, which are taken. -/
  | take (stream n : Nat)
  /-- All tokens that remain, which are taken. -/
  | drain (stream : Nat)
  /-- All tokens that remain, which stay. -/
  | peek (stream : Nat)
  deriving DecidableEq, Repr

/-- What a session answers. -/
inductive Answer
  | stream (number : Nat)
  | token (t : Option Token)
  | tokens (ts : List Token)
  deriving DecidableEq, Repr

/-- Token streams side by side. -/
structure Session where
  lexer : Lexer
  sources : List String
  streams : List Stream
  deriving DecidableEq, Repr

namespace Session

/-- A session without streams. -/
def initial (lexer : Lexer) (sources : List String) : Session := ⟨lexer, sources, []⟩

/-- Adds a stream. -/
def add (s : Session) (stream : Stream) : Answer × Session :=
  (.stream s.streams.length, { s with streams := s.streams ++ [stream] })

/-- Puts a stream in the place of the one with the given number. -/
def put (s : Session) (number : Nat) (stream : Stream) : Session :=
  { s with streams := s.streams.set number stream }

/-- Does what is asked, if there is a source or stream with the given number. -/
def step (s : Session) : Command → Option (Answer × Session)
  | .start i => s.sources[i]?.map fun source => s.add (s.lexer.stream source)
  | .copy i => s.streams[i]?.map s.add
  | .next i => s.streams[i]?.map fun stream =>
      let (t, stream) := stream.next
      (.token t, s.put i stream)
  | .take i n => s.streams[i]?.map fun stream =>
      let (ts, stream) := stream.take n
      (.tokens ts, s.put i stream)
  | .drain i => s.streams[i]?.map fun stream =>
      let (ts, stream) := stream.drain
      (.tokens ts, s.put i stream)
  | .peek i => s.streams[i]?.map fun stream => (.tokens stream.toList, s)

/-- Does one thing after the other. -/
def run (s : Session) : List Command → Option (List Answer × Session)
  | [] => some ([], s)
  | c :: cs => do
    let (answer, s) ← s.step c
    let (answers, s) ← s.run cs
    return (answer :: answers, s)

end Session

end OclScan
