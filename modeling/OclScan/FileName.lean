/-!
# File names

The name of the file that a path leads to. Components stand between slashes; empty ones and single
dots do not count.
-/

namespace OclScan

/-- Splits a text at slashes; `part` is the current component, its last character first. -/
def splitSlashes (part : List Char) : List Char → List (List Char)
  | [] => [part.reverse]
  | c :: cs =>
    if c = '/' then part.reverse :: splitSlashes [] cs else splitSlashes (c :: part) cs

/-- The components of a path that count. -/
def components (path : String) : List String :=
  ((splitSlashes [] path.toList).map String.ofList).filter fun s => s != "" && s != "."

/-- The name of the file that a path leads to, none if the path leads up or nowhere. -/
def fileName? (path : String) : Option String :=
  match (components path).getLast? with
  | some name => if name == ".." then none else some name
  | none => none

end OclScan
