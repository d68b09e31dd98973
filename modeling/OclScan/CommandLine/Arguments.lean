/-!
# Command line arguments

What the arguments ask for (`Invocation.read`). Options come before or after the input file; short
ones may stand together behind one hyphen, and the value of `-f` may follow at once or as the next
argument. Arguments are taken from left to right and the first that ends the reading decides.
-/

namespace OclScan.CommandLine

/-- How the tokens are printed. -/
inductive OutputFormat
  | raw
  | json
  | summary
  deriving DecidableEq, Repr

/-- The output format with the given name. -/
def OutputFormat.ofName? : String → Option OutputFormat
  | "raw" => some raw
  | "json" => some json
  | "summary" => some summary
  | _ => none

/-- Where the source comes from. -/
inductive Input
  | stdin
  | file (path : String)
  deriving DecidableEq, Repr

/-- What the arguments ask for. -/
structure Invocation where
  input : Input
  format : OutputFormat
  locate : Bool
  verbose : Bool
  deriving DecidableEq, Repr

/-- Why nothing is scanned. -/
inductive Stop
  /-- The version is asked for. -/
  | version
  /-- Help is asked for. -/
  | help
  /-- The arguments make no sense. -/
  | usage
  deriving DecidableEq, Repr

/-- What has been read of the arguments. -/
structure Progress where
  input : Option Input
  format : Option OutputFormat
  locate : Bool
  verbose : Bool
  /-- Whether `-f` waits for its value. -/
  waiting : Bool
  deriving DecidableEq, Repr

namespace Progress

/-- Before the first argument. -/
def initial : Progress := ⟨none, none, false, false, false⟩

/-- Sets the output format, which can be done once. -/
def setFormat (p : Progress) (value : String) : Except Stop Progress :=
  match p.format, OutputFormat.ofName? value with
  | none, some f => .ok { p with format := some f, waiting := false }
  | _, _ => .error .usage

/-- Sets the input, which can be done once. -/
def setInput (p : Progress) (path : String) : Except Stop Progress :=
  if p.input.isSome || path == "" then .error .usage
  else .ok { p with input := some (if path == "-" then .stdin else .file path) }

/-- Asks for locations, which can be done once. -/
def setLocate (p : Progress) : Except Stop Progress :=
  if p.locate then .error .usage else .ok { p with locate := true }

/-- Asks for reports on progress, which can be done once. -/
def setVerbose (p : Progress) : Except Stop Progress :=
  if p.verbose then .error .usage else .ok { p with verbose := true }

/-- Waits for the value of the output format. -/
def awaitFormat (p : Progress) : Except Stop Progress := .ok { p with waiting := true }

/-- The value in an argument that an option letter is followed by. -/
def attached : List Char → String
  | '=' :: cs => String.ofList cs
  | cs => String.ofList cs

/-- Reads option letters behind one hyphen. -/
def readLetters (p : Progress) : List Char → Except Stop Progress
  | [] => .ok p
  | 'l' :: cs => do readLetters (← p.setLocate) cs
  | 'v' :: cs => do readLetters (← p.setVerbose) cs
  | 'f' :: cs => if cs.isEmpty then p.awaitFormat else p.setFormat (attached cs)
  | 'V' :: _ => .error .version
  | 'h' :: _ => .error .help
  | _ => .error .usage

/-- Reads an option by its name, with the value after an equals sign, if any. -/
def readOption (p : Progress) (name : String) (value : Option String) : Except Stop Progress :=
  match name, value with
  | "format", some v => p.setFormat v
  | "format", none => p.awaitFormat
  | "locate", none => p.setLocate
  | "verbose", none => p.setVerbose
  | "version", none => .error .version
  | "help", none => .error .help
  | _, _ => .error .usage

/-- Splits an option at its first equals sign. -/
def splitOption (cs : List Char) : String × Option String :=
  let name := cs.takeWhile (· != '=')
  (String.ofList name,
    if cs.contains '=' then some (String.ofList (cs.drop (name.length + 1))) else none)

/-- Reads the next argument, before `--`. While a value is awaited an argument that is no option is
the value, and an option ends the reading. -/
def readArgument (p : Progress) (arg : String) : Except Stop Progress :=
  match arg.toList with
  | '-' :: '-' :: cs =>
    if p.waiting then .error .usage
    else
      let (name, value) := splitOption cs
      p.readOption name value
  | '-' :: c :: cs => if p.waiting then .error .usage else p.readLetters (c :: cs)
  | _ => if p.waiting then p.setFormat arg else p.setInput arg

/-- Reads arguments to their end. After `--` all are inputs. -/
def readAll (p : Progress) : List String → Except Stop Progress
  | [] => if p.waiting then .error .usage else .ok p
  | "--" :: args => if p.waiting then .error .usage else args.foldlM setInput p
  | arg :: args => do readAll (← p.readArgument arg) args

end Progress

/-- What the arguments ask for. -/
def Invocation.read (args : List String) : Except Stop Invocation := do
  let p ← Progress.readAll .initial args
  return ⟨p.input.getD .stdin, p.format.getD .raw, p.locate, p.verbose⟩

end OclScan.CommandLine
