import OclScan.Lexicon
import OclScan.Resolve

/-!
# The grammar of constraints

The rule table for the Object Constraint Language. Order matters: a triple quote at the start of a
line is tried before white space and strings, comments before the slash, words with a meaning
before names.
-/

namespace OclScan.Grammar

/-- The rule-set that scanning starts with. -/
def root : String := "root"

/-- White space, comments, punctuation, operators and strings, with the other rule-sets in their
places. -/
def rootRules : List Definition := [
  .pattern "\\n" (.token .whitespace),
  .pattern "^([^\\S\\n]*)(\"\"\"(?s:.*?)\"\"\")" (.byGroups [.text, .stringDoc]),
  .pattern "^([^\\S\\n]*)('''(?s:.*?)''')" (.byGroups [.text, .stringDoc]),
  .pattern "[^\\S\\n]+" (.token .text),
  .pattern "#[^\\n]*" (.token .comment),
  .pattern "//[^\\n]*\\n?" (.token .commentSingle),
  .pattern "/\\*(?s:.*?)\\*/" (.token .commentMultiline),
  .pattern "[\\[\\]\x7b\x7d:(),;]" (.token .punctuation),
  .pattern "\\\\\\n" (.token .text),
  .pattern "\\\\" (.token .text),
  .words Lexicon.operatorWords .operatorWord,
  .pattern "<>|!=|==|->|<<|>>|<=|>=|[\\-\\~+/*%=<>\\&^|.!?]" (.token .operator),
  .ruleSet "keywords",
  .ruleSet "builtins",
  .ruleSet "name",
  .pattern "\"(?:\\\\\\\\|\\\\\"|[^\"])*\"" (.token .string),
  .pattern "'(?:\\\\\\\\|\\\\'|[^'])*'" (.token .string),
  .ruleSet "numbers"]

/-- Keywords, types and constants. -/
def keywordRules : List Definition := [
  .words Lexicon.keywords .keyword,
  .words Lexicon.typeNames .keywordType,
  .words Lexicon.constants .keywordConstant]

/-- Names and operations that come with the language. -/
def builtinRules : List Definition := [
  .words Lexicon.builtinNames .nameBuiltin,
  .words Lexicon.operations .keywordPseudo]

/-- All other names. -/
def nameRules : List Definition := [
  .pattern "@[\\p\x7bL\x7d\\p\x7bN\x7d_$.]+" (.token .nameDecorator),
  .pattern identifierText (.token .name)]

/-- Numbers. -/
def numberRules : List Definition := [
  .pattern "[0-9]+\\.[0-9]+(?:[eE][+-]?[0-9]+)?[fFdD]?" (.token .numberFloat),
  .pattern "0[xX][0-9a-fA-F]+" (.token .numberHex),
  .pattern "[0-9]+[lL]?" (.token .numberInteger)]

/-- The rule table. -/
def table : Table := [
  ⟨root, rootRules⟩,
  ⟨"keywords", keywordRules⟩,
  ⟨"builtins", builtinRules⟩,
  ⟨"name", nameRules⟩,
  ⟨"numbers", numberRules⟩]

end OclScan.Grammar
