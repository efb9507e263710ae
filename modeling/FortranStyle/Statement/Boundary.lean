import FortranStyle.Block
import FortranStyle.Statement.Bracket

/-!
# Statements that open and close blocks

A closing statement is `END`, alone or with the name of a kind of block, in one
word or two.  Which statements open a block construct is decided by their shape,
because every one of the opening words may also begin something else.
-/

namespace FortranStyle.Statement

/-- A closing statement: the kind it names, which a bare END leaves out, and
the tokens behind it. -/
structure Closer where
  kind : Option BlockKind
  trailing : List Token
deriving DecidableEq, Repr

/-- The kind of block that a single word such as ENDDO closes. -/
def joinedEnd? (token : Token) : Option BlockKind :=
  BlockKind.all.find? fun kind => token.isWord ("end" ++ kind.word)

/-- Read a closing statement. -/
def closer? : List Token → Option Closer
  | [] => none
  | first :: rest =>
      match joinedEnd? first with
      | some kind => some ⟨some kind, rest⟩
      | none =>
          if first.isWord "end" then
            match rest with
            | [] => some ⟨none, []⟩
            | second :: trailing => (BlockKind.ofWord? second.word).map (⟨some ·, trailing⟩)
          else
            none

/-- Whether the next token opens a round bracket. -/
def startsBracket : List Token → Bool
  | token :: _ => token.isOp "("
  | [] => false

/-- Whether a bracket opens here and nothing follows it. -/
def isOneBracket (tokens : List Token) : Bool :=
  startsBracket tokens && (Bracket.beyond tokens).isEmpty

/-- The kind of block construct that a statement opens. -/
def construct? : List Token → Option ConstructKind
  | [] => none
  | first :: rest =>
      let opens (kind : ConstructKind) (condition : Bool) : Option ConstructKind :=
        if condition then some kind else none
      match first.word with
      | "do" => opens .doLoop (rest.head?.all (·.kind != .number))
      | "if" => opens .ifThen (startsBracket rest && rest.length ≥ 2 &&
          rest.getLast?.any (·.isWord "then"))
      | "select" | "selectcase" | "selecttype" => some .select
      | "where" => opens .whereMask (isOneBracket rest)
      | "forall" => opens .forallLoop (isOneBracket rest)
      | "associate" => opens .associate (startsBracket rest)
      | "block" => opens .block rest.isEmpty
      | "critical" => opens .critical (rest.isEmpty || startsBracket rest)
      | "enum" => opens .enumeration (rest.head?.any (·.isOp ","))
      | _ => none

end FortranStyle.Statement
