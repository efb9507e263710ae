import FortranStyle.Program.Record
import FortranStyle.Proofs.Position.Bracket
import FortranStyle.Proofs.Rendering.Clauses

/-!
# The form of USE statements

A USE statement names a module.  In front of the name may stand a nature behind a comma, and
a double colon; behind it an ONLY clause, which lists the names that are imported.  A
statement with USE that names nothing is not read.
-/

namespace FortranStyle.Use

/-- The nature of a module, behind a comma. -/
inductive IsNature : List Token → Bool → Prop
  | nothing : IsNature [] false
  | nature {comma nature : Token} (isComma : comma.isOp "," = true) :
      IsNature [comma, nature] (nature.isWord "intrinsic")

/-- A double colon, which may be left out. -/
inductive IsColons : List Token → Prop
  | nothing : IsColons []
  | colons {sign : Token} (isSign : sign.isOp "::" = true) : IsColons [sign]

/-- An ONLY clause. -/
inductive IsClause : List Token → List String → Prop
  | only {comma word colon : Token} {items : List Token} (isComma : comma.isOp "," = true)
      (isOnly : word.isWord "only" = true) (isColon : colon.isOp ":" = true) :
      IsClause (comma :: word :: colon :: items)
        (((Bracket.items items).filter (!·.isEmpty)).map Statement.localName)

/-- What stands behind the name of a module: an ONLY clause, or something that is none. -/
inductive IsListing : List Token → Option (List String) → Prop
  | only {tokens : List Token} {names : List String} (clause : IsClause tokens names) :
      IsListing tokens (some names)
  | nothing {tokens : List Token} (noClause : ∀ names, ¬IsClause tokens names) :
      IsListing tokens none

/-- A USE statement that names a module. -/
inductive IsUse : List Token → Use → Prop
  | intro {token name : Token} {nature colons listing : List Token} {isIntrinsic : Bool}
      {only : Option (List String)} (isNature : IsNature nature isIntrinsic)
      (isColons : IsColons colons) (isName : name.isName = true)
      (isListing : IsListing listing only) :
      IsUse (token :: (nature ++ (colons ++ name :: listing))) ⟨token, name, only, isIntrinsic⟩

/-! ## What is read is what is written -/

/-- Read what stands from the name of the module on. -/
def named? (token : Token) (isIntrinsic : Bool) : List Token → Option Use
  | [] => none
  | name :: listing =>
      if name.isName then some { token, name, only := only? listing, isIntrinsic } else none
where
  /-- Read the names behind ONLY. -/
  only? : List Token → Option (List String)
    | comma :: word :: colon :: items =>
        if comma.isOp "," && word.isWord "only" && colon.isOp ":" then
          some (((Bracket.items items).filter (!·.isEmpty)).map Statement.localName)
        else
          none
    | _ => none

theorem ofStatement?_eq_named? (token : Token) (rest : List Token) :
    ofStatement? (token :: rest) =
      let hasNature := rest.head?.any (·.isOp ",")
      let behind := if hasNature then rest.drop 2 else rest
      named? token (hasNature && rest[1]?.any (·.isWord "intrinsic"))
        (if behind.head?.any (·.isOp "::") then behind.drop 1 else behind) := by
  rw [ofStatement?]
  dsimp only
  generalize (if rest.head?.any (·.isOp ",") then rest.drop 2 else rest) = behind
  generalize (if behind.head?.any (·.isOp "::") then behind.drop 1 else behind) = front
  rcases front with _ | ⟨name, _ | ⟨comma, _ | ⟨word, _ | ⟨colon, items⟩⟩⟩⟩ <;> rfl

theorem isListing_iff {tokens : List Token} {only : Option (List String)} :
    IsListing tokens only ↔ named?.only? tokens = only := by
  constructor
  · rintro (⟨⟨isComma, isOnly, isColon⟩⟩ | ⟨noClause⟩)
    · simp [named?.only?, isComma, isOnly, isColon]
    · rcases tokens with _ | ⟨comma, _ | ⟨word, _ | ⟨colon, items⟩⟩⟩
      · rfl
      · rfl
      · rfl
      · rw [named?.only?, if_neg]
        intro clause
        simp only [Bool.and_eq_true] at clause
        exact noClause _ (.only clause.1.1 clause.1.2 clause.2)
  · rintro rfl
    rcases tokens with _ | ⟨comma, _ | ⟨word, _ | ⟨colon, items⟩⟩⟩
    · exact .nothing (by rintro names ⟨⟩)
    · exact .nothing (by rintro names ⟨⟩)
    · exact .nothing (by rintro names ⟨⟩)
    · rw [named?.only?]
      split
      · rename_i clause
        simp only [Bool.and_eq_true] at clause
        exact .only (.only clause.1.1 clause.1.2 clause.2)
      · rename_i noClause
        refine .nothing ?_
        rintro names ⟨isComma, isOnly, isColon⟩
        simp [isComma, isOnly, isColon] at noClause

theorem named?_eq_some_iff {token : Token} {isIntrinsic : Bool} {tokens : List Token}
    {found : Use} :
    named? token isIntrinsic tokens = some found ↔
      ∃ name listing only, tokens = name :: listing ∧ name.isName = true ∧
        IsListing listing only ∧ found = ⟨token, name, only, isIntrinsic⟩ := by
  cases tokens with
  | nil => simp [named?]
  | cons name listing =>
    rw [named?]
    constructor
    · intro read
      split at read
      · rename_i isName
        cases read
        exact ⟨name, listing, _, rfl, isName, isListing_iff.mpr rfl, rfl⟩
      · contradiction
    · rintro ⟨name, listing, only, tokens_eq, isName, isListing, rfl⟩
      cases tokens_eq
      rw [if_pos isName, isListing_iff.mp isListing]

theorem IsColons.drop_append {colons rest : List Token} (isColons : IsColons colons)
    (noSign : rest.head?.any (·.isOp "::") = false) :
    (if (colons ++ rest).head?.any (·.isOp "::") then (colons ++ rest).drop 1
      else colons ++ rest) = rest := by
  cases isColons with
  | nothing => rw [List.nil_append, noSign, if_neg Bool.false_ne_true]
  | colons isSign => simp [isSign]

theorem exists_isColons (tokens : List Token) :
    ∃ colons, IsColons colons ∧ tokens = colons ++
      if tokens.head?.any (·.isOp "::") then tokens.drop 1 else tokens := by
  cases tokens with
  | nil => exact ⟨[], .nothing, rfl⟩
  | cons sign rest =>
    by_cases isSign : sign.isOp "::" = true
    · exact ⟨[sign], .colons isSign, by simp [isSign]⟩
    · exact ⟨[], .nothing, by simp [isSign]⟩

/-- A statement with USE is read when it names a module, for what it says. -/
theorem ofStatement?_eq_some_iff {tokens : List Token} {found : Use} :
    ofStatement? tokens = some found ↔ IsUse tokens found := by
  constructor
  · intro read
    cases tokens with
    | nil => contradiction
    | cons token rest =>
      rw [ofStatement?_eq_named?] at read
      dsimp only at read
      obtain ⟨name, listing, only, front_eq, isName, isListing, rfl⟩ :=
        named?_eq_some_iff.mp read
      obtain ⟨colons, isColons, behind_eq⟩ :=
        exists_isColons (if rest.head?.any (·.isOp ",") then rest.drop 2 else rest)
      rw [front_eq] at behind_eq
      rcases rest with _ | ⟨comma, rest⟩
      · simp at front_eq
      · by_cases isComma : comma.isOp "," = true
        · simp only [List.head?_cons, Option.any_some, isComma, if_true, Bool.true_and]
            at behind_eq ⊢
          rcases rest with _ | ⟨nature, rest⟩
          · simp at behind_eq
          · rw [List.drop_succ_cons, List.drop_succ_cons, List.drop_zero] at behind_eq
            rw [behind_eq]
            exact .intro (.nature isComma) isColons isName isListing
        · simp only [List.head?_cons, Option.any_some, isComma, Bool.false_eq_true, if_false,
            Bool.false_and] at behind_eq ⊢
          rw [behind_eq]
          exact .intro .nothing isColons isName isListing
  · rintro ⟨isNature, isColons, isName, isListing⟩
    rename_i token name nature colons listing isIntrinsic only
    have noSign : (name :: listing).head?.any (·.isOp "::") = false :=
      Token.isOp_of_isName isName "::"
    rw [ofStatement?_eq_named?]
    cases isNature with
    | nothing =>
      have noComma : (colons ++ name :: listing).head?.any (·.isOp ",") = false := by
        cases isColons with
        | nothing => exact Token.isOp_of_isName isName ","
        | colons isSign => exact Position.isOp_eq_false isSign (by decide)
      simp only [List.nil_append, noComma, Bool.false_eq_true, if_false, Bool.false_and,
        isColons.drop_append noSign]
      exact named?_eq_some_iff.mpr ⟨name, listing, only, rfl, isName, isListing, rfl⟩
    | nature isComma =>
      simp only [List.cons_append, List.nil_append, List.head?_cons, Option.any_some, isComma,
        if_true, List.drop_succ_cons, List.drop_zero, Bool.true_and, List.getElem?_cons_succ,
        List.getElem?_cons_zero, isColons.drop_append noSign]
      exact named?_eq_some_iff.mpr ⟨name, listing, only, rfl, isName, isListing, rfl⟩

end FortranStyle.Use
