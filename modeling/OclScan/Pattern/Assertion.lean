import OclScan.Text.Word

/-!
# Assertions

Conditions on the place between two characters. They read nothing and look one character to
either side.
-/

namespace OclScan

/-- A condition on whether the characters on the two sides of a place belong to words. -/
inductive WordEdge
  /-- One does and the other does not. -/
  | change
  /-- Both do or neither does. -/
  | noChange
  /-- The one after does and the one before does not. -/
  | start
  /-- The one before does and the one after does not. -/
  | stop
  /-- The one before does not. -/
  | startHalf
  /-- The one after does not. -/
  | stopHalf
  deriving DecidableEq, Repr

/-- Whether the condition holds where `before` and `after` tell which side belongs to a word. -/
def WordEdge.holds : WordEdge → (before after : Bool) → Bool
  | change, before, after => before != after
  | noChange, before, after => before == after
  | start, before, after => !before && after
  | stop, before, after => before && !after
  | startHalf, before, _ => !before
  | stopHalf, _, after => !after

/-- A condition on the place between two characters. -/
inductive Assertion
  /-- The start of the text. -/
  | textStart
  /-- The end of the text. -/
  | textEnd
  /-- The start of the text, or just after a line feed. -/
  | lineStart
  /-- The end of the text, or just before a line feed. -/
  | lineEnd
  /-- The start of the text, or just after a line feed, a carriage return or both. -/
  | returnStart
  /-- The end of the text, or just before a line feed, a carriage return or both. -/
  | returnEnd
  /-- A condition on words, of ASCII characters only or of all word characters. -/
  | word (ascii : Bool) (kind : WordEdge)
  deriving DecidableEq, Repr

namespace Assertion

/-- Whether the character on one side, if there is one, belongs to a word. -/
def wordSide (ascii : Bool) : Option Char → Bool
  | some c => Text.isWord c && (!ascii || c.toNat < 128)
  | none => false

/-- Whether the condition holds between `before` and `after`. A carriage return and the line feed
after it end one line: there is no edge of a line between them. -/
def holds : Assertion → (before after : Option Char) → Bool
  | textStart, before, _ => before == none
  | textEnd, _, after => after == none
  | lineStart, before, _ => before == none || before == some '\n'
  | lineEnd, _, after => after == none || after == some '\n'
  | returnStart, before, after =>
    before == none || before == some '\n' || (before == some '\r' && after != some '\n')
  | returnEnd, before, after =>
    after == none || after == some '\r' || (after == some '\n' && before != some '\r')
  | word ascii kind, before, after => kind.holds (wordSide ascii before) (wordSide ascii after)

end Assertion

end OclScan
