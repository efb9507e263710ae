import FortranStyle.Text.Case

/-!
# Tokens

A token is a piece of source text with the place where it stands.  Lines and
columns count from one, columns count characters, and the end is the place of the
last character.
-/

namespace FortranStyle

/-- What a token is. -/
inductive TokenKind
  /-- A name that is none of the keywords. -/
  | identifier
  /-- A name spelled like one of the keywords. -/
  | keyword
  | number
  /-- A character literal, quotes included. -/
  | string
  | comment
  /-- An operator, bracket or separator. -/
  | operator
  /-- An ampersand that joins two lines. -/
  | continuation
  /-- The end of a statement. -/
  | endOfLine
  /-- A preprocessor line. -/
  | directive
deriving DecidableEq, Repr

namespace TokenKind

/-- The name of a kind in output. -/
def name : TokenKind → String
  | identifier => "identifier"
  | keyword => "keyword"
  | number => "number"
  | string => "string"
  | comment => "comment"
  | operator => "operator"
  | continuation => "continuation-marker"
  | endOfLine => "end-of-line"
  | directive => "directive"

/-- Comments, continuation markers and directives take no part in a
statement. -/
def isSilent : TokenKind → Bool
  | comment | continuation | directive => true
  | _ => false

/-- Whether a token of this kind belongs to a statement. -/
def isCode (kind : TokenKind) : Bool :=
  !kind.isSilent && kind != endOfLine

end TokenKind

/-- A piece of source text and its place, ends included. -/
structure Token where
  kind : TokenKind
  text : String
  line : Nat
  column : Nat
  endLine : Nat
  endColumn : Nat
deriving DecidableEq, Repr

namespace Token

/-- A token that lies on one line. -/
def onLine (kind : TokenKind) (line column : Nat) (text : List Char) : Token :=
  { kind, text := String.ofList text, line, column, endLine := line,
    endColumn := column + text.length - 1 }

/-- The end of a statement, as a line feed or a semicolon. -/
def statementEnd (mark : Char) (line column : Nat) : Token :=
  onLine .endOfLine line column [mark]

/-- The spelling in small letters. -/
def lower (token : Token) : String :=
  Text.lower token.text

/-- Whether the token belongs to a statement. -/
def isCode (token : Token) : Bool :=
  token.kind.isCode

/-- Names are identifiers and keywords: no word is reserved. -/
def isName (token : Token) : Bool :=
  token.kind == .identifier || token.kind == .keyword

/-- Whether the token is a name with the given spelling in small letters. -/
def isWord (token : Token) (word : String) : Bool :=
  token.isName && token.lower == word

/-- Whether the token is a name with one of the given spellings. -/
def isAmong (token : Token) (words : List String) : Bool :=
  token.isName && words.contains token.lower

/-- Whether the token is the given operator. -/
def isOp (token : Token) (operator : String) : Bool :=
  token.kind == .operator && token.text == operator

/-- Whether the token opens a bracket. -/
def isOpening (token : Token) : Bool :=
  token.isOp "(" || token.isOp "(/" || token.isOp "["

/-- Whether the token closes a bracket. -/
def isClosing (token : Token) : Bool :=
  token.isOp ")" || token.isOp "/)" || token.isOp "]"

/-- A name in small letters, and no spelling for any other token. -/
def word (token : Token) : String :=
  if token.isName then token.lower else ""

end Token

/-- The spelling of a run of tokens in small letters, without blanks between
them. -/
def spelling (tokens : List Token) : String :=
  Text.lower (String.join (tokens.map (·.text)))

end FortranStyle
