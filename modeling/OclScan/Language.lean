import OclScan.FileName
import OclScan.Glob
import OclScan.Options
import OclScan.Lexer

/-!
# Languages

What a host needs to know to choose a lexer: names, file names and media types.
-/

namespace OclScan

/-- How a host refers to a language. -/
structure Language where
  name : String
  /-- Short names. -/
  aliases : List String
  /-- Globs for names of files. -/
  filenames : List String
  /-- Media types. -/
  mimetypes : List String
  deriving DecidableEq, Repr

namespace Language

/-- The Object Constraint Language. -/
def ocl : Language := ⟨"OCL", ["ocl"], ["*.ocl"], ["text/x-ocl", "application/x-ocl"]⟩

/-- Whether the file that a path leads to has a name that one of the globs matches. -/
def matchesPath (l : Language) (path : String) : Bool :=
  match fileName? path with
  | none => false
  | some name => l.filenames.any fun text => (Glob.read? text).any (·.accepts name)

/-- A text with its ASCII letters in lower case. -/
def lowerCase (s : String) : List Char := s.toList.map Char.toLower

/-- Whether the language has the alias; the case of ASCII letters does not matter. -/
def hasAlias (l : Language) (key : String) : Bool :=
  l.aliases.any fun known => lowerCase known == lowerCase key

/-- Whether the language has the media type. -/
def hasMimetype (l : Language) (key : String) : Bool := l.mimetypes.contains key

end Language

/-- By what a host looks for a language. -/
inductive LookupKey
  | byAlias
  | byFilename
  | byMimetype
  deriving DecidableEq, Repr

namespace LookupKey

/-- The language that is found. -/
def find? (k : LookupKey) (key : String) : Option Language :=
  let found := match k with
    | byAlias => Language.ocl.hasAlias key
    | byFilename => Language.ocl.matchesPath key
    | byMimetype => Language.ocl.hasMimetype key
  if found then some .ocl else none

/-- The lexer of the language that is found. -/
def findLexer (k : LookupKey) (key : String) : Except ConfigError (Option Lexer) :=
  if (k.find? key).isSome then Lexer.standard.map some else .ok none

end LookupKey

/-- The tokens of a source, as a host asks for them. The options change nothing. -/
def Lexer.tokensFor (l : Lexer) (source : String) (_ : Options) : List Token := l.tokenize source

end OclScan
