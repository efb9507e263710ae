import FortranStyle.Token
import FortranStyle.Vocabulary

/-!
# Lexemes

The pieces of a line that stand on their own: names, numbers, operators and
character literals that close on their line.  Every reader looks at the rest of
the line and answers with a number of characters, so that the text of a token is
a part of its line by construction.
-/

namespace FortranStyle.Lexeme

/-- A character of a name after its first letter, which is an ASCII letter. -/
def isNameChar (c : Char) : Bool :=
  c.isAlphanum || c == '_'

/-- The number of leading characters of a class. -/
def leading (p : Char → Bool) (cs : List Char) : Nat :=
  (cs.takeWhile p).length

/-! ## Numbers -/

/-- The length of an operator spelled with letters between two points. -/
def dottedLength? : List Char → Option Nat
  | '.' :: rest =>
      let letters := leading Char.isAlpha rest
      if letters ≠ 0 ∧ (rest.drop letters).head? = some '.' then some (letters + 2) else none
  | _ => none

/-- The length of a decimal point with the digits after it.  A point that opens
a dotted operator belongs to that operator. -/
def fractionLength (cs : List Char) : Nat :=
  match cs with
  | '.' :: rest => if (dottedLength? cs).isSome then 0 else 1 + leading Char.isDigit rest
  | _ => 0

/-- A letter that introduces an exponent. -/
def isExponentLetter (c : Char) : Bool :=
  ['E', 'e', 'D', 'd', 'Q', 'q'].contains c

/-- A sign. -/
def isSign (c : Char) : Bool :=
  c == '+' || c == '-'

/-- The length of an exponent: its letter, perhaps a sign, and one digit or
more. -/
def exponentLength : List Char → Nat
  | c :: rest =>
      if isExponentLetter c then
        let sign := leading isSign (rest.take 1)
        let digits := leading Char.isDigit (rest.drop sign)
        if digits = 0 then 0 else 1 + sign + digits
      else 0
  | [] => 0

/-- The length of a kind suffix: an underscore and one name character or
more. -/
def kindSuffixLength : List Char → Nat
  | '_' :: rest =>
      let tail := leading isNameChar rest
      if tail = 0 then 0 else 1 + tail
  | _ => 0

/-- The length of a numeric literal: digits, a fraction, an exponent and a kind
suffix, each of which may be missing. -/
def numberLength (cs : List Char) : Nat :=
  let whole := leading Char.isDigit cs
  let mantissa := whole + fractionLength (cs.drop whole)
  let scaled := mantissa + exponentLength (cs.drop mantissa)
  scaled + kindSuffixLength (cs.drop scaled)

/-- Whether a numeric literal starts here: a digit, or a point before one. -/
def startsNumber : List Char → Bool
  | '.' :: d :: _ => d.isDigit
  | c :: _ => c.isDigit
  | [] => false

/-! ## Operators -/

/-- The operators of two characters; the longer operator wins. -/
def pairedOperators : List (Char × Char) :=
  [(':', ':'), ('=', '>'), ('=', '='), ('/', '='), ('<', '='), ('>', '='), ('*', '*'),
    ('/', '/')]

/-- The characters that may stand alone as an operator. -/
def operatorChars : List Char :=
  "=+-*/()<>,:%[].".toList

/-- Whether a bracket and a slash open an array constructor, given what comes
after them: `(/)`, `(/=` and `(//` are generic operator names. -/
def opensConstructor : List Char → Bool
  | ')' :: _ | '=' :: _ | '/' :: _ => false
  | _ => true

/-- The number of characters of an operator after its first, and the number of
array constructors open after it. -/
def operator? (depth : Nat) : List Char → Option (Nat × Nat)
  | [] => none
  | c :: rest =>
      if c ∉ operatorChars then none
      else
        match c, rest, depth with
        | '(', '/' :: after, _ =>
            if opensConstructor after then some (1, depth + 1) else some (0, depth)
        | '/', ')' :: _, inner + 1 => some (1, inner)
        | _, next :: _, _ => some (if (c, next) ∈ pairedOperators then 1 else 0, depth)
        | _, [], _ => some (0, depth)

/-! ## Character literals -/

/-- Whether a character opens a literal. -/
def isQuote (c : Char) : Bool :=
  c == '\'' || c == '"'

/-- The number of characters before the quote that closes a literal.  A doubled
quote stands for the quote itself. -/
def closingQuote? (quote : Char) : List Char → Option Nat
  | [] => none
  | [c] => if c = quote then some 0 else none
  | c :: d :: rest =>
      if c ≠ quote then (closingQuote? quote (d :: rest)).map (· + 1)
      else if d = quote then (closingQuote? quote rest).map (· + 2)
      else some 0

end Lexeme

/-- What a line's rest begins with: the kind of the token, the number of its
characters after the first, and the number of array constructors open after
it. -/
structure Lexeme where
  kind : TokenKind
  tail : Nat
  depth : Nat
deriving DecidableEq, Repr

namespace Lexeme

/-- Names are identifiers unless they are spelled like a keyword. -/
def nameKind (text : List Char) : TokenKind :=
  if Vocabulary.keywords.contains (Text.lower (String.ofList text)) then .keyword else .identifier

/-- The token that the rest of a line begins with, when `depth` array
constructors are open: a closed literal, a name, a number or an operator. -/
def read? (depth : Nat) (cs : List Char) : Option Lexeme :=
  match cs with
  | [] => none
  | c :: rest =>
      if isQuote c then
        (closingQuote? c rest).map fun body => ⟨.string, body + 1, depth⟩
      else if c.isAlpha then
        let tail := leading isNameChar rest
        some ⟨nameKind (c :: rest.take tail), tail, depth⟩
      else if startsNumber cs then
        some ⟨.number, numberLength cs - 1, depth⟩
      else
        match dottedLength? cs with
        | some length => some ⟨.operator, length - 1, depth⟩
        | none => (operator? depth cs).map fun (tail, inner) => ⟨.operator, tail, inner⟩

end Lexeme

end FortranStyle
