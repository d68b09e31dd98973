import OclScan.Kind

/-!
# Lexicon

The words with a meaning of their own. Words are looked up whole, so `contextual` has nothing to
do with `context`. The tables are consulted in order (`Lexicon.classify?`).
-/

namespace OclScan.Lexicon

/-- Logical connectives and type tests spelled as words. -/
def operatorWords : List String := ["and", "or", "xor", "not", "implies", "in", "is"]

/-- Words that structure a constraint. -/
def keywords : List String := [
  "context", "package", "endpackage", "inv", "pre", "post", "body", "def", "init", "derive",
  "let", "if", "then", "else", "endif", "static", "attr", "oper", "library", "metamodel",
  "require", "public", "definitions", "enddefinitions", "endlibrary", "import"]

/-- Primitive and collection types. -/
def typeNames : List String := [
  "Sequence", "Set", "Bag", "OrderedSet", "Collection", "Tuple", "Integer", "Boolean", "Real",
  "String", "UnlimitedNatural", "OclAny", "OclVoid", "OclInvalid", "OclMessage", "OclType"]

/-- Literals spelled as words. -/
def constants : List String := ["true", "false", "null", "invalid"]

/-- Names with a meaning in every context. -/
def builtinNames : List String := ["self", "result", "none"]

/-- Operations of the standard library: of all objects, of collections, iterators, of strings and
numbers. -/
def operations : List String := [
  "oclIsTypeOf", "oclIsKindOf", "oclAsType", "oclIsNew", "oclIsUndefined", "oclIsInvalid",
  "oclType", "allInstances",
  "isUnique", "isEmpty", "notEmpty", "includes", "excludes", "includesAll", "excludesAll",
  "including", "excluding", "count", "size", "sum", "product", "max", "min", "first", "last",
  "at", "indexOf", "append", "prepend", "insertAt", "subSequence", "union", "intersection",
  "symmetricDifference", "flatten", "asSet", "asOrderedSet", "asBag", "asSequence",
  "select", "reject", "collect", "collectNested", "exists", "forAll", "one", "any", "iterate",
  "closure", "sortedBy",
  "concat", "substring", "toUpper", "toLower", "toInteger", "toReal", "toString", "abs", "floor",
  "round", "div", "mod"]

/-- The tables with the kinds of their words, in the order in which they are consulted. -/
def tables : List (List String × Kind) := [
  (operatorWords, .operatorWord),
  (keywords, .keyword),
  (typeNames, .keywordType),
  (constants, .keywordConstant),
  (builtinNames, .nameBuiltin),
  (operations, .keywordPseudo)]

/-- The kind of a word: that of the first table that lists it, none for a plain identifier. -/
def classify? (word : String) : Option Kind :=
  (tables.find? fun (words, _) => words.contains word).map (·.2)

end OclScan.Lexicon
