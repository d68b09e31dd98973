import OclScan.CommandLine.Arguments
import OclScan.CommandLine.Folder
import OclScan.Dump.Format
import OclScan.Lexer

/-!
# Command line

What the program prints and the code it ends with (`CommandLine.run`). The source has to be valid
UTF-8 as a whole; a mark of byte order in front of it belongs to it.
-/

namespace OclScan.CommandLine

/-- What the program prints and the code it ends with. -/
structure Report where
  code : Nat
  stdout : String
  stderr : String
  deriving DecidableEq, Repr

/-- The name and version of the program. -/
def version : String := "ocl-lex 0.1.0"

/-- How the program is called. -/
def usage : String := "Usage: ocl-lex [OPTIONS] [INPUT]"

/-- What help is given. -/
def help : String := "\n".intercalate [
  "Tokenize OCL (Object Constraint Language) source and print the tokens",
  "",
  usage,
  "",
  "Arguments:",
  "  [INPUT]  Input file, or \x60-\x60 to read standard input [default: -]",
  "",
  "Options:",
  "  -f, --format <FORMAT>  Output format [default: raw] [possible values: raw, json, summary]",
  "  -l, --locate           Start raw output lines with the token's \x60line:column\x60",
  "  -v, --verbose          Be verbose; the output stays the same",
  "  -h, --help             Print help",
  "  -V, --version          Print version"]

/-- The report where nothing is scanned. -/
def Stop.report : Stop → Report
  | version => ⟨0, CommandLine.version ++ "\n", ""⟩
  | help => ⟨0, CommandLine.help ++ "\n", ""⟩
  | usage => ⟨2, "", "error: the arguments are not understood\n\n" ++ CommandLine.usage ++ "\n"⟩

/-- An input as it is named on the command line. -/
def Input.name : Input → String
  | stdin => "-"
  | file path => path

/-- The report for a source that cannot be read. -/
def readReport (input : Input) (e : ReadFault) : Report :=
  ⟨1, "", "error: could not read '" ++ input.name ++ "': " ++ e.message ++ "\n"⟩

/-- The report for a rule table that cannot be used. -/
def configReport (e : ConfigError) : Report :=
  let tip := match e.fault.tip? with
    | some text => " (" ++ text ++ ")"
    | none => ""
  ⟨2, "", "Error: " ++ e.fault.name ++ tip ++ "\n-> " ++ e.location.display ++ "\n   " ++
    e.fault.message ++ "\n"⟩

/-- The format in which tokens are written. Locations come with the raw format only. -/
def Invocation.dump (i : Invocation) : Dump.Format :=
  match i.format with
  | .raw => if i.locate then .located else .raw
  | .json => .json
  | .summary => .summary

/-- The text that is printed for tokens. Only JSON lacks a line feed of its own. -/
def Invocation.render (i : Invocation) (ts : List Token) : String :=
  i.dump.write ts ++ if i.format = .json then "\n" else ""

/-- The report for a source. -/
def Invocation.report (i : Invocation) (content : Except ReadFault ByteArray) : Report :=
  match content with
  | .error e => readReport i.input e
  | .ok bytes =>
    match String.fromUTF8? bytes with
    | none => readReport i.input .invalidText
    | some source =>
      match Lexer.standard with
      | .error e => configReport e
      | .ok lexer => ⟨0, i.render (lexer.tokenize source), ""⟩

/-- What the program does with its arguments, given what each input holds. -/
def run (args : List String) (fetch : Input → Except ReadFault ByteArray) : Report :=
  match Invocation.read args with
  | .error stop => stop.report
  | .ok i => i.report (fetch i.input)

/-- What each input holds, given the standard input and the files of a folder. -/
def fetchFrom (stdin : ByteArray) (folder : Folder) : Input → Except ReadFault ByteArray
  | .stdin => .ok stdin
  | .file path => folder.read path

end OclScan.CommandLine
