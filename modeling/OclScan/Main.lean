import OclScan.CommandLine

/-!
# The program

Reads the source that the arguments name and prints its tokens.
-/

namespace OclScan.CommandLine

/-- Whether a code of the system stands for error `n`. Codes also come negated. -/
def isError (n code : UInt32) : Bool := code == n || code == 0 - n

/-- The reason for which a file cannot be read. -/
def readFault : IO.Error → ReadFault
  | .noFileOrDirectory _ _ _ => .notFound
  | .inappropriateType _ code details =>
    if isError 20 code then .notADirectory
    else if isError 21 code then .isADirectory
    else .other details
  | e => .other (toString e)

/-- The bytes of an input. -/
def fetchInput : Input → IO (Except ReadFault ByteArray)
  | .stdin => do return .ok (← (← IO.getStdin).readBinToEnd)
  | .file path => do
    try
      return .ok (← IO.FS.readBinFile path)
    catch e =>
      return .error (readFault e)

end OclScan.CommandLine

open OclScan.CommandLine in
/-- Runs the program. -/
def main (args : List String) : IO UInt32 := do
  let report ← match Invocation.read args with
    | .error stop => pure stop.report
    | .ok i => i.report <$> fetchInput i.input
  (← IO.getStdout).putStr report.stdout
  (← IO.getStderr).putStr report.stderr
  return report.code.toUInt32
