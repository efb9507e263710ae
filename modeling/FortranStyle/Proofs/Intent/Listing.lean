import FortranStyle.Proofs.Position.Bracket
import FortranStyle.Proofs.Rendering.Clauses
import Mathlib.Data.List.Basic

/-!
# The names of an INTENT statement

An INTENT statement has its specification in brackets, perhaps a double colon, and
names with commas between them.  The names are looked for from the closing bracket on,
where everything is below the top level: a double colon is not found there, it counts as
the start of the first item, and the name behind it is not reached.
-/

namespace FortranStyle

/-! ## Below the top level -/

namespace Token

/-- A token that leaves the depth of brackets as it is. -/
structure IsFlat (token : Token) : Prop where
  noOpening : token.isOpening = false
  noClosing : token.isClosing = false

variable {token : Token}

theorem isFlat_of_isName (isName : token.isName = true) : token.IsFlat where
  noOpening := by simp [isOpening, isOp_of_isName isName]
  noClosing := by simp [isClosing, isOp_of_isName isName]

theorem isFlat_of_isOp {operator : String} (isOp : token.isOp operator = true)
    (noBracket : operator ∉ ["(", "(/", "[", ")", "/)", "]"]) : token.IsFlat := by
  simp only [List.mem_cons, List.not_mem_nil, or_false, not_or] at noBracket
  constructor <;> simp [isOpening, isClosing, Position.isOp_eq_false isOp, noBracket]

theorem IsFlat.depthAfter_eq (flat : token.IsFlat) (depth : Int) :
    Bracket.depthAfter depth token = depth := by
  simp [Bracket.depthAfter, flat.noOpening, flat.noClosing]

theorem depthAfter_of_isClosing (closes : token.isClosing = true) (depth : Int) :
    Bracket.depthAfter depth token = depth - 1 := by
  have noOpening : token.isOpening = false := by
    by_contra opens
    rw [Position.not_isClosing_of_isOpening (by simpa using opens)] at closes
    contradiction
  simp [Bracket.depthAfter, noOpening, closes]

end Token

namespace Bracket

/-- Where no bracket brings it back, the top level is not found again. -/
theorem findFrom?_eq_none (operator : String) {depth : Int} (below : depth ≠ 0)
    {tokens : List Token} (flat : ∀ token ∈ tokens, token.IsFlat) :
    findFrom? operator depth tokens = none := by
  induction tokens with
  | nil => rfl
  | cons token rest ih =>
    have notTop : (depth == 0) = false := by simpa using below
    rw [findFrom?, notTop, (flat token List.mem_cons_self).depthAfter_eq,
      ih fun later listed => flat later (List.mem_cons_of_mem _ listed)]
    rfl

/-- What is looked for from a closing bracket on is not found. -/
theorem find?_closing_cons (operator : String) {closing : Token}
    (closes : closing.isClosing = true)
    {tokens : List Token} (flat : ∀ token ∈ tokens, token.IsFlat) :
    find? operator (closing :: tokens) = none := by
  rw [find?, findFrom?, closes, Token.depthAfter_of_isClosing closes,
    findFrom?_eq_none operator (by decide) flat]
  simp

section Partner

variable {opening closing : Token} {spec : List Token}
  (within : closingIndex? 0 (opening :: (spec ++ [closing])) = some (spec.length + 1))
  (rest : List Token)

include within

theorem partner_eq : partner (opening :: (spec ++ closing :: rest)) = spec.length + 1 := by
  have found := closingIndex?_append within rest
  rw [List.cons_append, List.append_assoc, List.singleton_append] at found
  rw [partner, found, Option.getD_some]

theorem inside_eq : inside (opening :: (spec ++ closing :: rest)) = spec := by
  rw [inside, partner_eq within, List.take_succ_cons, List.take_left, List.drop_one,
    List.tail_cons]

theorem beyond_eq : beyond (opening :: (spec ++ closing :: rest)) = rest := by
  rw [beyond, partner_eq within, List.drop_succ_cons, List.drop_length_add_append]
  rfl

theorem drop_partner :
    (opening :: (spec ++ closing :: rest)).drop
        (partner (opening :: (spec ++ closing :: rest))) = closing :: rest := by
  rw [partner_eq within, List.drop_succ_cons, List.drop_left]

end Partner

end Bracket

/-! ## Lists of names -/

namespace Statement

/-- A list of names with commas between them. -/
inductive Lists : List Token → List Token → Prop
  | one {name : Token} (isName : name.isName = true) : Lists [name] [name]
  | more {name comma : Token} {names list : List Token} (isName : name.isName = true)
      (isComma : comma.isOp "," = true) (others : Lists names list) :
      Lists (name :: names) (name :: comma :: list)

namespace Lists

variable {names list : List Token}

theorem flat (lists : Lists names list) : ∀ token ∈ list, token.IsFlat := by
  induction lists with
  | one isName => simpa using Token.isFlat_of_isName isName
  | more isName isComma _ ih =>
    have comma := Token.isFlat_of_isOp isComma (by decide)
    simpa [Token.isFlat_of_isName isName, comma] using ih

/-- Behind the names that stand alone, each in an item of its own, the first with more
in front of it. -/
theorem split_append (lists : Lists names list) {front : List Token}
    (apart : ∀ token ∈ front, token.IsFlat ∧ token.isOp "," = false) :
    Bracket.items (front ++ list) = (front ++ names.take 1) :: names.tail.map ([·]) := by
  induction front with
  | cons token front ih =>
    obtain ⟨flat, noComma⟩ := apart token List.mem_cons_self
    rw [Bracket.items, Bracket.split] at ih ⊢
    rw [List.cons_append, Bracket.splitFrom, noComma, Bool.and_false, if_neg Bool.false_ne_true,
      flat.depthAfter_eq, ih fun later listed => apart later (List.mem_cons_of_mem _ listed)]
    rfl
  | nil =>
    clear apart
    rw [List.nil_append, List.nil_append, Bracket.items, Bracket.split]
    induction lists with
    | one isName =>
      simp [Bracket.splitFrom, Token.isOp_of_isName isName]
    | @more name comma names list isName isComma others ih =>
      have flat := Token.isFlat_of_isOp isComma (by decide)
      have split_eq : Bracket.splitFrom "," 0 (name :: comma :: list) =
          [name] :: Bracket.splitFrom "," 0 list := by
        simp [Bracket.splitFrom, Token.isOp_of_isName isName,
          (Token.isFlat_of_isName isName).depthAfter_eq, flat.noOpening, flat.noClosing, isComma]
      have filled : names.take 1 :: names.tail.map ([·]) = names.map ([·]) := by
        cases others <;> rfl
      rw [split_eq, ih, filled]
      rfl

theorem head_isName (lists : Lists names list) :
    ∃ name rest, list = name :: rest ∧ name.isName = true := by
  cases lists with
  | one isName => exact ⟨_, _, rfl, isName⟩
  | more isName _ _ => exact ⟨_, _, rfl, isName⟩

theorem isName_of_mem (lists : Lists names list) : ∀ name ∈ names, name.isName = true := by
  induction lists with
  | one isName => simpa using isName
  | more isName _ _ ih => simpa [isName] using ih

end Lists

/-- The names that an INTENT statement reaches: behind a double colon not the first. -/
def reached (colons : Option Token) (names : List Token) : List Token :=
  if colons.isSome then names.tail else names

/-- From the closing bracket on, a double colon hides the name behind it. -/
theorem listedNames_closing_cons {closing : Token} (closes : closing.isOp ")" = true)
    {colons : Option Token} (isDouble : ∀ sign ∈ colons, sign.isOp "::" = true)
    {names list : List Token} (lists : Lists names list) :
    listedNames (closing :: (colons.toList ++ list)) = reached colons names := by
  have isClosing : closing.isClosing = true := by simp [Token.isClosing, closes]
  have apart : ∀ token ∈ colons.toList, token.IsFlat ∧ token.isOp "," = false := by
    intro sign listed
    have isColons := isDouble sign (Option.mem_toList.mp listed)
    exact ⟨Token.isFlat_of_isOp isColons (by decide), Position.isOp_eq_false isColons (by decide)⟩
  have flat : ∀ token ∈ colons.toList ++ list, token.IsFlat := fun token listed =>
    (List.mem_append.mp listed).elim (fun sign => (apart token sign).1) (lists.flat token)
  have alone {f : List Token → Option Token} (tokens : List Token)
      (keeps : ∀ name ∈ tokens, f [name] = some name) :
      (tokens.map ([·])).filterMap f = tokens := by
    rw [List.filterMap_map, ← List.filterMap_some (l := tokens), List.filterMap_filterMap]
    exact List.filterMap_congr keeps
  rw [listedNames, Bracket.find?_closing_cons "::" isClosing flat, Option.getD_none, Nat.zero_add,
    List.drop_one, List.tail_cons, lists.split_append apart]
  cases colons with
  | none =>
    have filled : names.take 1 :: names.tail.map ([·]) = names.map ([·]) := by
      cases lists <;> rfl
    rw [Option.toList_none, List.nil_append, filled]
    exact alone names fun name listed => if_pos (lists.isName_of_mem name listed)
  | some sign =>
    have noName : sign.isName = false := by
      have isColons := isDouble sign rfl
      simp only [Token.isOp, Bool.and_eq_true, beq_iff_eq] at isColons
      simp [Token.isName, isColons.1]
    rw [Option.toList_some, List.singleton_append, List.filterMap_cons_none]
    · exact alone names.tail fun name listed =>
        if_pos (lists.isName_of_mem name (List.mem_of_mem_tail listed))
    · exact if_neg (by simp [noName])

/-! ## The statement -/

/-- A statement `INTENT (spec) names` or `INTENT (spec) :: names`. -/
inductive IsIntent : List Token → List Token → Option Token → List Token → Prop
  | intro {word opening closing : Token} {spec names list : List Token} {colons : Option Token}
      (isWord : word.isWord "intent" = true) (opens : opening.isOp "(" = true)
      (closes : closing.isOp ")" = true)
      (within : Bracket.closingIndex? 0 (opening :: (spec ++ [closing])) = some (spec.length + 1))
      (isDouble : ∀ sign ∈ colons, sign.isOp "::" = true) (lists : Lists names list) :
      IsIntent (word :: opening :: (spec ++ closing :: (colons.toList ++ list))) spec colons names

end Statement

end FortranStyle
