import OclScan.Token

/-!
# Raw dump

One line for each token: the dotted name of its kind, a tab and the quoted text.
-/

namespace OclScan.Dump

/-- The line of a token. -/
def rawLine (t : Token) : String := t.kind.dotted ++ "\t" ++ Text.quote t.text ++ "\n"

/-- The lines of tokens. -/
def raw (ts : List Token) : String := .join (ts.map rawLine)

end OclScan.Dump
