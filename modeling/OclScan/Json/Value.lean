import OclScan.Json.Text
import OclScan.Json.Number

/-!
# JSON values

Values and their shortest text (`Value.write`). The members of an object are kept in ascending
order of their keys, each key once.
-/

namespace OclScan.Json

/-- A value. -/
inductive Value
  | null
  | bool (b : Bool)
  | number (n : Number)
  | string (s : String)
  | array (items : List Value)
  | object (members : List (String × Value))
  deriving Repr

/-- Sets a member in ascending order of keys; a member with the same key is replaced. -/
def setMember (key : String) (v : Value) : List (String × Value) → List (String × Value)
  | [] => [(key, v)]
  | (k, w) :: ms =>
    if key < k then (key, v) :: (k, w) :: ms
    else if key = k then (key, v) :: ms
    else (k, w) :: setMember key v ms

namespace Value

mutual

/-- The text of a value, without white space. -/
def write : Value → String
  | null => "null"
  | bool true => "true"
  | bool false => "false"
  | number n => n.write
  | string s => encodeString s
  | array items => "[" ++ ",".intercalate (writeItems items) ++ "]"
  | object members => "\x7b" ++ ",".intercalate (writeMembers members) ++ "\x7d"

/-- The texts of items. -/
def writeItems : List Value → List String
  | [] => []
  | v :: vs => v.write :: writeItems vs

/-- The texts of members. -/
def writeMembers : List (String × Value) → List String
  | [] => []
  | (k, v) :: ms => (encodeString k ++ ":" ++ v.write) :: writeMembers ms

end

end Value

end OclScan.Json
