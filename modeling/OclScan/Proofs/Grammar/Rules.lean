import OclScan.Lexer

/-!
# The rules of the grammar of constraints

What the rule table resolves to (`Lexer.standard_eq`): the flat list of rules, each with the plan
that its pattern is matched by.
-/

namespace OclScan

/-- A statement about all characters of a list is decided one by one. There may be an instance that
goes through all characters that there are. -/
instance (priority := high) decidableForallMemChar (p : Char → Prop) [DecidablePred p]
    (cs : List Char) : Decidable (∀ c ∈ cs, p c) := List.decidableBAll p cs

instance (priority := high) decidableExistsMemChar (p : Char → Prop) [DecidablePred p]
    (cs : List Char) : Decidable (∃ c ∈ cs, p c) := List.decidableBEx p cs

/-- The characters of a list. -/
def CharSet.ofChars (cs : List Char) : CharSet := cs.foldl insert none

namespace Grammar

open CharSet

/-- What strings stand in. -/
def quotes : List Char := ['"', '\'']

/-! ## Plans -/

/-- White space within a line. -/
def gap : CharSet := compl (union (union none (compl (property .blank))) (char '\n'))

/-- The characters up to the end of a line. -/
def inLine : CharSet := compl (ofChars ['\n'])

/-- Decimal digits. -/
def digits : CharSet := ofRanges [('0', '9')]

/-- What a name starts with. -/
def nameStart : CharSet := ((none.union (property .letter)).insert '$').insert '_'

/-- What a name goes on with. -/
def namePart : CharSet :=
  (((none.union (property .letter)).union (property .number)).insert '$').insert '_'

/-- What a decorator goes on with. -/
def dottedPart : CharSet :=
  ((((none.union (property .letter)).union (property .number)).insert '_').insert '$').insert '.'

/-- One character or more of a set. -/
def run (loop j : Nat) (s : CharSet) : Plan := .seq (.set j s) (.loop loop true (.set j s))

/-- `p` or nothing. -/
def maybe (number : Nat) (p : Plan) : Plan := .alt number (.seq p .empty) .empty

def newline : Plan := .set 0 (char '\n')

/-- Three quotes. -/
def tripleFrom (q : Char) (j : Nat) : Plan :=
  .seq (.set j (char q)) (.seq (.set (j + 1) (char q)) (.set (j + 2) (char q)))

/-- Text in triple quotes, with the gap before it, at the start of a line. -/
def doc (q : Char) : Plan :=
  .seq (.assertion .lineStart)
    (.seq (.seq (.slot 0) (.seq (.loop 0 true (.set 1 gap)) (.slot 1)))
      (.seq (.slot 2)
        (.seq
          (.seq (.set 2 (char q)) (.seq (.set 3 (char q)) (.seq (.set 4 (char q))
            (.seq (.loop 5 false (.set 6 all)) (tripleFrom q 7)))))
          (.slot 3))))

def gaps : Plan := run 0 1 gap

def hashComment : Plan := .seq (.set 0 (char '#')) (.loop 1 true (.set 2 inLine))

def lineComment : Plan :=
  .seq (.set 0 (char '/')) (.seq (.set 1 (char '/'))
    (.seq (.loop 2 true (.set 3 inLine)) (maybe 4 (.set 5 (char '\n')))))

def blockComment : Plan :=
  .seq (.set 0 (char '/')) (.seq (.set 1 (char '*'))
    (.seq (.loop 2 false (.set 3 all)) (.seq (.set 4 (char '*')) (.set 5 (char '/')))))

def punctuationChars : List Char := ['[', ']', '\x7b', '\x7d', ':', '(', ')', ',', ';']

def punctuation : Plan := .set 0 (ofChars punctuationChars)

def lineJoin : Plan := .seq (.set 0 (char '\\')) (.set 1 (char '\n'))

def backslash : Plan := .set 0 (char '\\')

/-- A name, or a word with a meaning. -/
def identifier : Plan := .seq (.set 0 nameStart) (.loop 1 true (.set 2 namePart))

/-- The operators of two characters. -/
def operatorPairs : List (Char × Char) :=
  [('<', '>'), ('!', '='), ('=', '='), ('-', '>'), ('<', '<'), ('>', '>'), ('<', '='), ('>', '=')]

/-- The operators of one character. -/
def operatorChars : List Char :=
  ['-', '~', '+', '/', '*', '%', '=', '<', '>', '&', '^', '|', '.', '!', '?']

/-- The pairs in order, and then the characters. -/
def operatorFrom : Nat → List (Char × Char) → Plan
  | j, [] => .set j (ofChars operatorChars)
  | j, (c, d) :: pairs =>
    .alt j (.seq (.set (j + 1) (char c)) (.set (j + 2) (char d))) (operatorFrom (j + 3) pairs)

def operator : Plan := operatorFrom 0 operatorPairs

def decorator : Plan := .seq (.set 0 (char '@')) (run 1 2 dottedPart)

/-- What a string goes on with: a backslash before a backslash or a quote, or any character but a
quote. -/
def stringPart (q : Char) : Plan :=
  .alt 2 (.seq (.set 3 (char '\\')) (.set 4 (char '\\')))
    (.alt 5 (.seq (.set 6 (char '\\')) (.set 7 (char q))) (.set 8 (compl (ofChars [q]))))

def string (q : Char) : Plan :=
  .seq (.set 0 (char q)) (.seq (.loop 1 true (stringPart q)) (.set 9 (char q)))

def float : Plan :=
  .seq (run 0 1 digits) (.seq (.set 2 (char '.')) (.seq (run 3 4 digits)
    (.seq
      (maybe 5 (.seq (.set 6 (ofChars ['e', 'E']))
        (.seq (maybe 7 (.set 8 (ofChars ['+', '-']))) (run 9 10 digits))))
      (maybe 11 (.set 12 (ofChars ['f', 'F', 'd', 'D']))))))

def hexadecimal : Plan :=
  .seq (.set 0 (char '0')) (.seq (.set 1 (ofChars ['x', 'X']))
    (run 2 3 (ofRanges [('0', '9'), ('a', 'f'), ('A', 'F')])))

def integer : Plan := .seq (run 0 1 digits) (maybe 2 (.set 3 (ofChars ['l', 'L'])))

/-! ## Rules -/

/-- A rule that makes one token. -/
def tokenRule (text : String) (plan : Plan) (kind : Kind) (origin : String) : Rule :=
  ⟨⟨text, 0, plan⟩, .token kind, none, origin⟩

/-- A rule for text in triple quotes. -/
def docRule (text : String) (q : Char) : Rule :=
  ⟨⟨text, 2, doc q⟩, .byGroups [.text, .stringDoc], none, root⟩

/-- A rule for words that are listed. -/
def wordRule (words : List String) (kind : Kind) (origin : String) : Rule :=
  ⟨⟨identifierText, 0, identifier⟩, .token kind, some words, origin⟩

def newlineRule : Rule := tokenRule "\\n" newline .whitespace root

def gapsRule : Rule := tokenRule "[^\\S\\n]+" gaps .text root

/-- The rule for names. It stands behind those for words, which have the same pattern. -/
def nameRule : Rule := tokenRule identifierText identifier .name "name"

def docRules : List Rule := [
  docRule "^([^\\S\\n]*)(\"\"\"(?s:.*?)\"\"\")" '"',
  docRule "^([^\\S\\n]*)('''(?s:.*?)''')" '\'']

/-- The rules after the first three. -/
def laterRules : List Rule := [
  gapsRule,
  tokenRule "#[^\\n]*" hashComment .comment root,
  tokenRule "//[^\\n]*\\n?" lineComment .commentSingle root,
  tokenRule "/\\*(?s:.*?)\\*/" blockComment .commentMultiline root,
  tokenRule "[\\[\\]\x7b\x7d:(),;]" punctuation .punctuation root,
  tokenRule "\\\\\\n" lineJoin .text root,
  tokenRule "\\\\" backslash .text root,
  wordRule Lexicon.operatorWords .operatorWord root,
  tokenRule "<>|!=|==|->|<<|>>|<=|>=|[\\-\\~+/*%=<>\\&^|.!?]" operator .operator root,
  wordRule Lexicon.keywords .keyword "keywords",
  wordRule Lexicon.typeNames .keywordType "keywords",
  wordRule Lexicon.constants .keywordConstant "keywords",
  wordRule Lexicon.builtinNames .nameBuiltin "builtins",
  wordRule Lexicon.operations .keywordPseudo "builtins",
  tokenRule "@[\\p\x7bL\x7d\\p\x7bN\x7d_$.]+" decorator .nameDecorator "name",
  nameRule,
  tokenRule "\"(?:\\\\\\\\|\\\\\"|[^\"])*\"" (string '"') .string root,
  tokenRule "'(?:\\\\\\\\|\\\\'|[^'])*'" (string '\'') .string root,
  tokenRule "[0-9]+\\.[0-9]+(?:[eE][+-]?[0-9]+)?[fFdD]?" float .numberFloat "numbers",
  tokenRule "0[xX][0-9a-fA-F]+" hexadecimal .numberHex "numbers",
  tokenRule "[0-9]+[lL]?" integer .numberInteger "numbers"]

/-- The rules in the order in which they are tried. -/
def rules : List Rule := newlineRule :: docRules ++ laterRules

end Grammar

/-- The lexer for constraints has these rules. -/
theorem Lexer.standard_eq : Lexer.standard = .ok ⟨Grammar.rules⟩ := by
  have h : Lexer.standard.toOption = some ⟨Grammar.rules⟩ := by decide +kernel
  cases e : Lexer.standard with
  | error _ => rw [e] at h; cases h
  | ok l => rw [e] at h; cases h; rfl

end OclScan
