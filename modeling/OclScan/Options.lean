import OclScan.Json.Reader

/-!
# Options

What a host passes along with a request: a JSON object with any content. Written again it has its
canonical form, with the keys of every object in ascending order.
-/

namespace OclScan

/-- Options by name, in ascending order. -/
structure Options where
  members : List (String × Json.Value)
  deriving Repr

namespace Options

/-- The options that a text spells. -/
def read? (text : String) : Option Options :=
  match Json.Value.read? text with
  | some (.object members) => some ⟨members⟩
  | _ => none

/-- The text of options. -/
def write (o : Options) : String := (Json.Value.object o.members).write

end Options

end OclScan
