import OclScan.Kind
import OclScan.Text.Quoted

/-!
# Tokens

A classified piece of a source text. Offsets count bytes of UTF-8.
-/

namespace OclScan

/-- A classified piece of a source text. -/
structure Token where
  kind : Kind
  text : String
  /-- The offset of the text in the source. -/
  start : Nat
  deriving DecidableEq, Repr

namespace Token

/-- The offset just after the token. -/
def stop (t : Token) : Nat := t.start + t.text.utf8ByteSize

/-- A token in full, with the given name of its kind. -/
def describe (t : Token) (kind : String) : String :=
  "Token \x7b kind: " ++ kind ++ ", text: " ++ Text.quote t.text ++ ", start: " ++
    toString t.start ++ " \x7d"

/-- A token in full, under the dotted name of its kind. -/
def display (t : Token) : String := t.describe t.kind.dotted

/-- A token in full, under the name of its kind in one word. -/
def debug (t : Token) : String := t.describe t.kind.label

end Token

end OclScan
