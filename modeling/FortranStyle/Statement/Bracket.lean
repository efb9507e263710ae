import FortranStyle.Token

/-!
# Brackets in a run of tokens

Round brackets, square brackets and array constructors are counted alike.  A run
of tokens need not be balanced: a bracket that never closes is taken to close at
the last token, and a closing bracket without a partner counts below zero, which
is nowhere the top level.
-/

namespace FortranStyle.Bracket

/-- The depth behind a token, given the depth in front of it. -/
def depthAfter (depth : Int) (token : Token) : Int :=
  if token.isOpening then depth + 1
  else if token.isClosing then depth - 1
  else depth

/-- The position of the first closing bracket that brings the depth to zero. -/
def closingIndex? (depth : Int) : List Token → Option Nat
  | [] => none
  | token :: rest =>
      if token.isClosing && depthAfter depth token == 0 then some 0
      else (closingIndex? (depthAfter depth token) rest).map (· + 1)

/-- The position of the bracket that closes the first token of a run, or the
last position when nothing closes it. -/
def partner (tokens : List Token) : Nat :=
  (closingIndex? 0 tokens).getD (tokens.length - 1)

/-- The position of the bracket that closes the one at `start`, or the last
position when nothing closes it. -/
def matching (tokens : List Token) (start : Nat) : Nat :=
  start + partner (tokens.drop start)

/-- What stands between the first token of a run and its partner. -/
def inside (tokens : List Token) : List Token :=
  (tokens.take (partner tokens)).drop 1

/-- What stands behind the partner of the first token of a run. -/
def beyond (tokens : List Token) : List Token :=
  tokens.drop (partner tokens + 1)

theorem length_beyond_cons_le (token : Token) (rest : List Token) :
    (beyond (token :: rest)).length ≤ rest.length := by
  simp [beyond]

/-- Cut a run of tokens at every separator outside brackets. -/
def splitFrom (separator : String) (depth : Int) : List Token → List (List Token)
  | [] => [[]]
  | token :: rest =>
      if depth == 0 && !token.isOpening && !token.isClosing && token.isOp separator then
        [] :: splitFrom separator depth rest
      else
        (splitFrom separator (depthAfter depth token) rest).modifyHead (token :: ·)

/-- Cut a run of tokens at every separator outside brackets. -/
def split (separator : String) (tokens : List Token) : List (List Token) :=
  splitFrom separator 0 tokens

/-- The position of the first operator of the given spelling outside brackets,
the depth in front of the run being `depth`. -/
def findFrom? (operator : String) (depth : Int) : List Token → Option Nat
  | [] => none
  | token :: rest =>
      if depth == 0 && !token.isOpening && !token.isClosing && token.isOp operator then some 0
      else (findFrom? operator (depthAfter depth token) rest).map (· + 1)

/-- The position of the first operator of the given spelling outside brackets. -/
def find? (operator : String) (tokens : List Token) : Option Nat :=
  findFrom? operator 0 tokens

/-- The items of a list of a statement, which commas separate. -/
def items (tokens : List Token) : List (List Token) :=
  split "," tokens

end FortranStyle.Bracket
