import OclScan.Pattern.CharSet
import OclScan.Text.Category
import OclScan.Text.Script
import OclScan.Text.Derived

/-!
# Sets of characters by name

The names that patterns know for sets: those of ASCII sets (`CharSet.asciiSet?`), and those of
properties of characters in Unicode 16 (`CharSet.ofProperty?`), which are general categories,
groups of these, scripts, and properties that a character has or has not. Of the last, the ones are
known that tell letters, case, white space, digits, identifiers, mathematics, emoji, ideographs,
extenders, joiners and noncharacters.
-/

namespace OclScan

/-- What a name stands for in a table of names. -/
def lookupName? {α : Type} (table : List (List String × α)) (name : List Char) : Option α :=
  (table.find? fun entry => entry.1.any (·.toList == name)).map (·.2)

namespace CharSet

/-! ## ASCII -/

/-- The named sets of ASCII characters. -/
def asciiSets : List (List String × List (Char × Char)) := [
  (["alnum"], [('0', '9'), ('A', 'Z'), ('a', 'z')]),
  (["alpha"], [('A', 'Z'), ('a', 'z')]),
  (["ascii"], [('\x00', '\x7f')]),
  (["blank"], [('\t', '\t'), (' ', ' ')]),
  (["cntrl"], [('\x00', '\x1f'), ('\x7f', '\x7f')]),
  (["digit"], [('0', '9')]),
  (["graph"], [('!', '~')]),
  (["lower"], [('a', 'z')]),
  (["print"], [(' ', '~')]),
  (["punct"], [('!', '/'), (':', '@'), ('[', '\x60'), ('\x7b', '~')]),
  (["space"], [('\t', '\r'), (' ', ' ')]),
  (["upper"], [('A', 'Z')]),
  (["word"], [('0', '9'), ('A', 'Z'), ('_', '_'), ('a', 'z')]),
  (["xdigit"], [('0', '9'), ('A', 'F'), ('a', 'f')])]

/-- The ASCII set with the given name. -/
def asciiSet? (name : List Char) : Option CharSet := (lookupName? asciiSets name).map ofRanges

/-! ## General categories -/

/-- The union of tables. -/
def ofTables (ts : List Text.RunSet) : CharSet := unionAll (ts.map table)

/-- The characters of some runs. -/
def ofRuns (runs : List (Nat × Nat)) : CharSet := table { runs }

/-- The characters that are assigned. -/
def assigned : CharSet := ofTables (Text.categories.map (·.2))

/-- The marks. -/
def mark : CharSet := ofTables [Text.nonspacingMark, Text.spacingMark, Text.enclosingMark]

/-- Groups of general categories, each with its names. -/
def categoryGroups : List (List String × CharSet) := [
  (["l", "letter"], property .letter),
  (["n", "number"], property .number),
  (["nd", "decimalnumber", "digit"], property .digit),
  (["lc", "casedletter"],
    ofTables [Text.uppercaseLetter, Text.lowercaseLetter, Text.titlecaseLetter]),
  (["m", "mark", "combiningmark"], mark),
  (["p", "punctuation", "punct"],
    ofTables [Text.connectorPunctuation, Text.dashPunctuation, Text.openPunctuation,
      Text.closePunctuation, Text.initialPunctuation, Text.finalPunctuation,
      Text.otherPunctuation]),
  (["s", "symbol"],
    ofTables [Text.mathSymbol, Text.currencySymbol, Text.modifierSymbol, Text.otherSymbol]),
  (["z", "separator"],
    ofTables [Text.spaceSeparator, Text.lineSeparator, Text.paragraphSeparator]),
  (["c", "other"],
    union (ofTables [Text.control, Text.format, Text.privateUse]) (compl assigned)),
  (["cn", "unassigned"], compl assigned),
  (["assigned"], assigned),
  (["any"], all),
  (["ascii"], ascii)]

/-- The general category, or group of categories, with the given name. -/
def ofCategory? (name : List Char) : Option CharSet :=
  (lookupName? categoryGroups name).or ((lookupName? Text.categories name).map table)

/-- The script with the given name. -/
def ofScript? (name : List Char) : Option CharSet := (lookupName? Text.scripts name).map table

/-! ## Properties that a character has or has not -/

/-- The characters with case or used as such, lower. -/
def lowercase : CharSet := union (table Text.lowercaseLetter) (ofRuns Text.otherLowercase)

/-- The characters with case or used as such, upper. -/
def uppercase : CharSet := union (table Text.uppercaseLetter) (ofRuns Text.otherUppercase)

/-- The characters that words are written with. -/
def alphabetic : CharSet :=
  unionAll [property .letter, table Text.letterNumber, ofRuns Text.otherAlphabetic]

/-- What identifiers may start with. -/
def idStart : CharSet :=
  diff (unionAll [property .letter, table Text.letterNumber, ofRuns Text.otherIdStart])
    (ofRuns Text.notIdStart)

/-- What identifiers may go on with. -/
def idContinue : CharSet :=
  unionAll [idStart, table Text.nonspacingMark, table Text.spacingMark, property .digit,
    table Text.connectorPunctuation, ofRuns Text.otherIdContinue]

/-- The properties, each with its names. -/
def properties : List (List String × CharSet) := [
  (["whitespace", "wspace", "space"], property .blank),
  (["alphabetic", "alpha"], alphabetic),
  (["lowercase", "lower"], lowercase),
  (["uppercase", "upper"], uppercase),
  (["cased"], unionAll [lowercase, uppercase, table Text.titlecaseLetter]),
  (["asciihexdigit", "ahex"], ofRanges [('0', '9'), ('A', 'F'), ('a', 'f')]),
  (["hexdigit", "hex"], ofRanges [('0', '9'), ('A', 'F'), ('a', 'f'), ('\uff10', '\uff19'),
    ('\uff21', '\uff26'), ('\uff41', '\uff46')]),
  (["idstart", "ids"], idStart),
  (["idcontinue", "idc"], idContinue),
  (["xidstart", "xids"], diff idStart (ofRuns Text.notXidStart)),
  (["xidcontinue", "xidc"], diff idContinue (ofRuns Text.notXidContinue)),
  (["math"], union (table Text.mathSymbol) (ofRuns Text.otherMath)),
  (["emoji"], ofRuns Text.emoji),
  (["ideographic", "ideo"], ofRuns Text.ideographic),
  (["graphemeextend", "grext"],
    unionAll [table Text.nonspacingMark, table Text.enclosingMark, ofRuns Text.otherExtend]),
  (["joincontrol", "joinc"], range '\u200c' '\u200d'),
  (["noncharactercodepoint", "nchar"], ofRuns Text.noncharacters),
  (["patternwhitespace", "patws"], ofRanges [('\t', '\r'), (' ', ' '), ('\u0085', '\u0085'),
    ('\u200e', '\u200f'), ('\u2028', '\u2029')])]

/-! ## Names -/

/-- The name as it stands in the tables: small letters of ASCII, without spaces, hyphens and
underscores, and without `is` before it. One name is meant with its `is`. -/
def plainName (text : List Char) : List Char :=
  let plain (cs : List Char) := (cs.filter fun c =>
    c.toNat < 128 && c != ' ' && c != '_' && c != '-').map Char.toLower
  match text with
  | i :: s :: cs =>
    if [i, s].map Char.toLower == ['i', 's'] then
      if plain cs == ['c'] then ['i', 's', 'c'] else plain cs
    else plain text
  | _ => plain text

/-- The set that a name stands for: a property, a category or a script. -/
def named? (text : List Char) : Option CharSet :=
  let name := plainName text
  ((ofCategory? name).or (lookupName? properties name)).or (ofScript? name)

/-- The properties that have values, each with its names and the sets of its values. -/
def valuedProperties : List (List String × (List Char → Option CharSet)) := [
  (["gc", "generalcategory"], ofCategory?),
  (["sc", "script"], ofScript?)]

/-- The set in which the property with the first name has the value with the second. -/
def valued? (text value : List Char) : Option CharSet :=
  (lookupName? valuedProperties (plainName text)).bind fun of? => of? (plainName value)

/-- The set that the text in the braces of a property stands for: the name of a set, or the name of
a property and a value with `:` or `=` between them. -/
def ofProperty? (text : List Char) : Option CharSet :=
  let separated (mark : Char) : Option CharSet :=
    let name := text.takeWhile (· != mark)
    valued? name (text.drop (name.length + 1))
  if text.contains ':' then separated ':'
  else if text.contains '=' then separated '='
  else named? text

end CharSet

end OclScan
