import FortranStyle.Statement.Bracket
import FortranStyle.Vocabulary

/-!
# Type specifications

The first part of a type declaration, which may also stand in front of FUNCTION:
the name of a type and perhaps a kind parameter.
-/

namespace FortranStyle.Statement

/-- A type specification: the type in small letters, the kind parameter as it
is written, and the tokens behind the specification. -/
structure TypeSpec where
  name : String
  kind : Option String
  rest : List Token
deriving DecidableEq, Repr

/-- The kind parameter in a bracketed selector: the value of `KIND=`, or else
the first item when it has no keyword.  The first item of a CHARACTER selector
is a length. -/
def kindSelector? (typeName : String) (selector : List Token) : Option String :=
  let items := Bracket.items selector
  let named := items.findSome? fun
    | keyword :: sign :: value :: more =>
        if keyword.isWord "kind" && sign.isOp "=" then some (spelling (value :: more)) else none
    | _ => none
  match named with
  | some kind => some kind
  | none =>
      let first := items.headD []
      if typeName != "character" && !first.isEmpty && (Bracket.find? "=" first).isNone then
        some (spelling first)
      else
        none

/-- Read the kind parameter behind the name of a type: a bracketed selector, or
a star with a size.  A size belongs to intrinsic types only, and the one of
CHARACTER is a length. -/
def TypeSpec.ofSuffix (name : String) : List Token → TypeSpec
  | [] => ⟨name, none, []⟩
  | token :: rest =>
      if token.isOp "(" then
        let kind :=
          if ["type", "class", "procedure"].contains name then none
          else kindSelector? name (Bracket.inside (token :: rest))
        ⟨name, kind, Bracket.beyond (token :: rest)⟩
      else
        match rest with
        | size :: more =>
            if token.isOp "*" && Vocabulary.intrinsicTypes.contains name then
              ⟨name, if name == "character" then none else some size.text,
                if size.isOp "(" then Bracket.beyond (size :: more) else more⟩
            else
              ⟨name, none, token :: rest⟩
        | [] => ⟨name, none, token :: rest⟩

/-- Read the type specification at the start of a statement. -/
def typeSpec : List Token → TypeSpec
  | [] => ⟨"", none, []⟩
  | first :: rest =>
      match rest with
      | second :: more =>
          if first.lower == "double" && second.isName then
            .ofSuffix s!"double {second.lower}" more
          else
            .ofSuffix first.lower rest
      | [] => .ofSuffix first.lower rest

/-- The number of tokens of the type specification at the start of a
statement. -/
def typeSpecLength (tokens : List Token) : Nat :=
  tokens.length - (typeSpec tokens).rest.length

theorem TypeSpec.length_rest_ofSuffix_le (name : String) (tokens : List Token) :
    (TypeSpec.ofSuffix name tokens).rest.length ≤ tokens.length := by
  unfold TypeSpec.ofSuffix
  cases tokens with
  | nil => simp
  | cons token rest =>
    have := Bracket.length_beyond_cons_le token rest
    dsimp only
    split
    · simp only [List.length_cons]; omega
    · cases rest with
      | nil => simp
      | cons size more =>
        have := Bracket.length_beyond_cons_le size more
        simp only
        split
        · dsimp only
          split <;> simp only [List.length_cons] <;> omega
        · simp

theorem length_rest_typeSpec_cons_le (first : Token) (rest : List Token) :
    (typeSpec (first :: rest)).rest.length ≤ rest.length := by
  unfold typeSpec
  cases rest with
  | nil => exact TypeSpec.length_rest_ofSuffix_le _ _
  | cons second more =>
    dsimp only
    split
    · exact Nat.le_trans (TypeSpec.length_rest_ofSuffix_le _ _) (by simp)
    · exact TypeSpec.length_rest_ofSuffix_le _ _

/-- Whether a token is TYPE or CLASS, which open a type specification only when
a bracket follows. -/
def isDerivedTypeWord (token : Token) : Bool :=
  token.isAmong ["type", "class"]

/-- Whether a statement declares entities of a type. -/
def isDeclaration : List Token → Bool
  | [] => false
  | first :: rest =>
      first.isAmong Vocabulary.intrinsicTypes ||
        (first.isAmong ["type", "class", "procedure"] && rest.head?.any (·.isOp "("))

end FortranStyle.Statement
