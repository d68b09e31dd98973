/-!
# Kinds of tokens

Every token has a kind, and every kind belongs to a category of styling. Kinds and categories are
ordered as they are listed.
-/

namespace OclScan

/-- A broad category of styling. -/
inductive Category
  | text
  | comment
  | operator
  | keyword
  | name
  | string
  | number
  | punctuation
  deriving DecidableEq, Repr

namespace Category

/-- All categories in order. -/
def all : List Category :=
  [text, comment, operator, keyword, name, string, number, punctuation]

/-- The place of a category in the order. -/
def rank (c : Category) : Nat := all.idxOf c

/-- The name of a category. -/
def label : Category → String
  | text => "Text"
  | comment => "Comment"
  | operator => "Operator"
  | keyword => "Keyword"
  | name => "Name"
  | string => "String"
  | number => "Number"
  | punctuation => "Punctuation"

instance : Ord Category := ⟨fun a b => compare a.rank b.rank⟩

end Category

/-- What a token is. -/
inductive Kind
  | text
  | whitespace
  | comment
  | commentSingle
  | commentMultiline
  | operator
  | operatorWord
  | keyword
  | keywordType
  | keywordConstant
  | keywordPseudo
  | name
  | nameBuiltin
  | nameDecorator
  | string
  | stringDoc
  | numberInteger
  | numberFloat
  | numberHex
  | punctuation
  deriving DecidableEq, Repr

namespace Kind

/-- All kinds in order. -/
def all : List Kind :=
  [text, whitespace, comment, commentSingle, commentMultiline, operator, operatorWord, keyword,
    keywordType, keywordConstant, keywordPseudo, name, nameBuiltin, nameDecorator, string,
    stringDoc, numberInteger, numberFloat, numberHex, punctuation]

/-- The place of a kind in the order. -/
def rank (k : Kind) : Nat := all.idxOf k

instance : Ord Kind := ⟨fun a b => compare a.rank b.rank⟩

/-- The category of a kind. -/
def category : Kind → Category
  | text | whitespace => .text
  | comment | commentSingle | commentMultiline => .comment
  | operator | operatorWord => .operator
  | keyword | keywordType | keywordConstant | keywordPseudo => .keyword
  | name | nameBuiltin | nameDecorator => .name
  | string | stringDoc => .string
  | numberInteger | numberFloat | numberHex => .number
  | punctuation => .punctuation

/-- The dotted name of a kind, by which highlighters look up a style. -/
def dotted : Kind → String
  | text => "Text"
  | whitespace => "Text.Whitespace"
  | comment => "Comment"
  | commentSingle => "Comment.Single"
  | commentMultiline => "Comment.Multiline"
  | operator => "Operator"
  | operatorWord => "Operator.Word"
  | keyword => "Keyword"
  | keywordType => "Keyword.Type"
  | keywordConstant => "Keyword.Constant"
  | keywordPseudo => "Keyword.Pseudo"
  | name => "Name"
  | nameBuiltin => "Name.Builtin"
  | nameDecorator => "Name.Decorator"
  | string => "String"
  | stringDoc => "String.Doc"
  | numberInteger => "Number.Integer"
  | numberFloat => "Number.Float"
  | numberHex => "Number.Hex"
  | punctuation => "Punctuation"

/-- The name of a kind in one word. -/
def label : Kind → String
  | text => "Text"
  | whitespace => "Whitespace"
  | comment => "Comment"
  | commentSingle => "CommentSingle"
  | commentMultiline => "CommentMultiline"
  | operator => "Operator"
  | operatorWord => "OperatorWord"
  | keyword => "Keyword"
  | keywordType => "KeywordType"
  | keywordConstant => "KeywordConstant"
  | keywordPseudo => "KeywordPseudo"
  | name => "Name"
  | nameBuiltin => "NameBuiltin"
  | nameDecorator => "NameDecorator"
  | string => "String"
  | stringDoc => "StringDoc"
  | numberInteger => "NumberInteger"
  | numberFloat => "NumberFloat"
  | numberHex => "NumberHex"
  | punctuation => "Punctuation"

/-- The kind with the given name in one word. -/
def ofLabel? (s : String) : Option Kind := all.find? fun k => k.label == s

end Kind

end OclScan
