import OclScan.Dump.Located
import OclScan.Dump.Json
import OclScan.Dump.Summary

/-!
# Formats of dumps
-/

namespace OclScan.Dump

/-- A way to write tokens. -/
inductive Format
  | raw
  | located
  | json
  | summary
  deriving DecidableEq, Repr

namespace Format

/-- The name of a format. -/
def name : Format → String
  | raw => "raw"
  | located => "located"
  | json => "json"
  | summary => "summary"

/-- The format with the given name. -/
def ofName? (s : String) : Option Format :=
  [raw, located, json, summary].find? fun f => f.name == s

/-- Writes tokens. -/
def write : Format → List Token → String
  | raw => Dump.raw
  | located => Dump.located
  | json => Dump.json
  | summary => Dump.summary

end Format

end OclScan.Dump
