import OclScan.Token
import OclScan.Json.Text

/-!
# JSON dump

An array of objects with the kind, the text and the start of each token, indented by two spaces.
-/

namespace OclScan.Dump

/-- A field of an object, on a line of its own. -/
def jsonField (name value : String) : String :=
  "    " ++ Json.encodeString name ++ ": " ++ value

/-- The object of a token. -/
def jsonObject (t : Token) : String :=
  "  \x7b\n" ++
    jsonField "kind" (Json.encodeString t.kind.dotted) ++ ",\n" ++
    jsonField "text" (Json.encodeString t.text) ++ ",\n" ++
    jsonField "start" (toString t.start) ++ "\n  \x7d"

/-- The array of tokens. -/
def json : List Token → String
  | [] => "[]"
  | ts => "[\n" ++ ",\n".intercalate (ts.map jsonObject) ++ "\n]"

end OclScan.Dump
