import OclScan.FileName

/-!
# Folders

A folder with files, by their paths in it, and what a path from the folder leads to
(`Folder.read`). Above the folder nothing is known to be there but folders.
-/

namespace OclScan.CommandLine

/-- Why a source cannot be read. -/
inductive ReadFault
  | invalidText
  | notFound
  | notADirectory
  | isADirectory
  /-- Another reason, in the words of the system. -/
  | other (message : String)
  deriving DecidableEq, Repr

/-- The reason in words. -/
def ReadFault.message : ReadFault → String
  | invalidText => "stream did not contain valid UTF-8"
  | notFound => "No such file or directory (os error 2)"
  | notADirectory => "Not a directory (os error 20)"
  | isADirectory => "Is a directory (os error 21)"
  | other message => message

/-- A folder: the files in it and in its subfolders, each by the names that lead to it. -/
structure Folder where
  files : List (List String × ByteArray)

namespace Folder

/-- A folder with files under the given paths. -/
def ofFiles (files : List (String × ByteArray)) : Folder :=
  ⟨files.map fun (path, content) => (components path, content)⟩

/-- What a path leads to. -/
inductive Target
  | file (content : ByteArray)
  /-- The folder that the names lead to. -/
  | folder (names : List String)
  /-- A folder above. -/
  | above

/-- What the names lead to. -/
def lookup? (f : Folder) (names : List String) : Option Target :=
  match f.files.find? (·.1 == names) with
  | some (_, content) => some (.file content)
  | none =>
    if names.isEmpty || f.files.any (fun (path, _) => names.isPrefixOf path) then
      some (.folder names)
    else none

/-- Follows one component of a path. -/
def follow (f : Folder) (t : Target) (name : String) : Except ReadFault Target :=
  match t with
  | .file _ => .error .notADirectory
  | .above => if name == "" || name == "." || name == ".." then .ok .above else .error .notFound
  | .folder names =>
    if name == "" || name == "." then .ok (.folder names)
    else if name == ".." then
      .ok (if names.isEmpty then .above else .folder names.dropLast)
    else
      match f.lookup? (names ++ [name]) with
      | some t => .ok t
      | none => .error .notFound

/-- The content of the file that a path leads to. -/
def read (f : Folder) (path : String) : Except ReadFault ByteArray := do
  let parts := (splitSlashes [] path.toList).map String.ofList
  let start : Target := if path.toList.head? = some '/' then .above else .folder []
  match ← parts.foldlM f.follow start with
  | .file content => .ok content
  | _ => .error .isADirectory

end Folder

end OclScan.CommandLine
