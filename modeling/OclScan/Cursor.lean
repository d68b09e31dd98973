/-!
# Cursors

A place between two characters of a source text, with the text from there on.
-/

namespace OclScan

/-- A place in a source text. -/
structure Cursor where
  /-- The character before, if any. -/
  before : Option Char
  /-- The number of bytes before. -/
  offset : Nat
  /-- The text from here on. -/
  rest : List Char
  deriving DecidableEq, Repr

namespace Cursor

/-- The start of a text. -/
def start (source : List Char) : Cursor := ⟨none, 0, source⟩

/-- The place `n` characters on, or the end of the text. -/
def advance : Nat → Cursor → Cursor
  | 0, c => c
  | n + 1, c =>
    match c.rest with
    | [] => c
    | x :: xs => advance n ⟨some x, c.offset + x.utf8Size, xs⟩

/-- The next `n` characters. -/
def take (c : Cursor) (n : Nat) : String := String.ofList (c.rest.take n)

end Cursor

end OclScan
