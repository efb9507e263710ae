import FortranStyle.Proofs.Balance.Stride
import Mathlib.Data.List.Infix

/-!
# Runs cut at their separators

A run is cut at the separators outside brackets, and a separator is looked for outside
brackets, by two readers that count the depth each on its own.  In a run that is not balanced
the depth may go below zero.  A piece starts where the depth is zero, and the search in it
starts at zero again, so the readers agree on every run: nothing but the separators is lost, no
piece has a separator outside brackets, and the separator that is found is the one behind the
first piece.
-/

namespace FortranStyle.Bracket

variable {operator : String} {depth : Int} {token : Token} {rest tokens first : List Token}
  {others : List (List Token)}

/-- Whether an operator of the given spelling stands outside brackets, by the depth in front of
a run, the part of the run in front of a token, and the token. -/
def isOutside (operator : String) (depth : Int) (place : List Token × Token) : Bool :=
  depth + level place.1 == 0 && place.2.isOp operator

/-- The operators of a spelling that stand in a run outside brackets, in order. -/
def outsideFrom (operator : String) (depth : Int) (tokens : List Token) : List Token :=
  ((tokens.inits.zip tokens).filter (isOutside operator depth)).map Prod.snd

/-- The operators of a spelling that stand in a run outside brackets, in order. -/
def outside (operator : String) (tokens : List Token) : List Token :=
  outsideFrom operator 0 tokens

/-- Put a separator in front of each piece but the first. -/
def rejoin (separators : List Token) : List (List Token) → List Token
  | [] => []
  | first :: others => first ++ (List.zipWith List.cons separators others).flatten

/-! ## One token -/

theorem outsideFrom_cons (operator : String) (depth : Int) (token : Token) (rest : List Token) :
    outsideFrom operator depth (token :: rest) =
      (if isOutside operator depth ([], token) then [token] else []) ++
        outsideFrom operator (depthAfter depth token) rest := by
  have later : isOutside operator depth ∘ Prod.map (token :: ·) id =
      isOutside operator (depthAfter depth token) := by
    funext ⟨front, next⟩
    simp [isOutside, add_level_cons]
  rw [outsideFrom, outsideFrom, List.inits_cons, List.zip_cons_cons, List.zip_map_left,
    List.filter_cons, List.filter_map, later]
  split <;> simp

theorem isOutside_nil (operator : String) (depth : Int) (token : Token) :
    isOutside operator depth ([], token) = (depth == 0 && token.isOp operator) := by
  simp [isOutside, level]

/-! ## The pieces and the search -/

/-- What the two readers make of a run: its first piece and the others, the depth in front of
the run being `depth`. -/
structure Cuts (operator : String) (depth : Int) (tokens first : List Token)
    (others : List (List Token)) : Prop where
  split_eq : splitFrom operator depth tokens = first :: others
  count : (outsideFrom operator depth tokens).length = others.length
  whole : rejoin (outsideFrom operator depth tokens) (first :: others) = tokens
  first_clear : findFrom? operator depth first = none
  others_clear : ∀ piece ∈ others, find? operator piece = none
  find_eq : findFrom? operator depth tokens = if others = [] then none else some first.length

theorem cuts_nil (operator : String) (depth : Int) : Cuts operator depth [] [] [] where
  split_eq := rfl
  count := rfl
  whole := rfl
  first_clear := rfl
  others_clear := List.forall_mem_nil _
  find_eq := rfl

namespace Cuts

/-- At a separator a new piece starts, and the depth is zero in front of it. -/
theorem separator (isFlat : token.IsFlat) (isOp : token.isOp operator = true)
    (cuts : Cuts operator 0 rest first others) :
    Cuts operator 0 (token :: rest) [] (first :: others) := by
  have marks_eq : outsideFrom operator 0 (token :: rest) =
      token :: outsideFrom operator 0 rest := by
    rw [outsideFrom_cons, isOutside_nil, isOp, isFlat.depthAfter_eq]
    rfl
  refine ⟨?_, ?_, ?_, rfl, ?_, ?_⟩
  · rw [splitFrom, isFlat.noOpening, isFlat.noClosing, isOp, ← cuts.split_eq]
    rfl
  · rw [marks_eq, List.length_cons, cuts.count, List.length_cons]
  · rw [marks_eq]
    exact congrArg (token :: ·) cuts.whole
  · exact List.forall_mem_cons.mpr ⟨cuts.first_clear, cuts.others_clear⟩
  · rw [findFrom?, isFlat.noOpening, isFlat.noClosing, isOp]
    rfl

/-- Any other token belongs to the first piece, and moves the depth of both readers alike. -/
theorem other (noMark : isOutside operator depth ([], token) = false)
    (cuts : Cuts operator (depthAfter depth token) rest first others) :
    Cuts operator depth (token :: rest) (token :: first) others := by
  have marks_eq : outsideFrom operator depth (token :: rest) =
      outsideFrom operator (depthAfter depth token) rest := by
    rw [outsideFrom_cons, noMark]
    rfl
  rw [isOutside_nil, Bool.and_eq_false_iff] at noMark
  have apart : ¬(depth == 0 && !token.isOpening && !token.isClosing &&
      token.isOp operator) = true := by
    simp only [Bool.and_eq_true]
    rintro ⟨⟨⟨top, -⟩, -⟩, isOp⟩
    rcases noMark with below | differs
    · rw [top] at below
      contradiction
    · rw [isOp] at differs
      contradiction
  refine ⟨?_, ?_, ?_, ?_, cuts.others_clear, ?_⟩
  · rw [splitFrom, if_neg apart, cuts.split_eq, List.modifyHead_cons]
  · rw [marks_eq, cuts.count]
  · rw [marks_eq]
    exact congrArg (token :: ·) cuts.whole
  · rw [findFrom?, if_neg apart, cuts.first_clear, Option.map_none]
  · rw [findFrom?, if_neg apart, cuts.find_eq]
    split <;> rfl

end Cuts

variable (noBracket : operator ∉ ["(", "(/", "[", ")", "/)", "]"])
include noBracket

/-- Both readers go through a run side by side, whatever the depth in front of it. -/
theorem exists_cuts (depth : Int) (tokens : List Token) :
    ∃ first others, Cuts operator depth tokens first others := by
  induction tokens generalizing depth with
  | nil => exact ⟨[], [], cuts_nil operator depth⟩
  | cons token rest ih =>
    obtain ⟨first, others, cuts⟩ := ih (depthAfter depth token)
    cases mark : isOutside operator depth ([], token) with
    | false => exact ⟨token :: first, others, cuts.other mark⟩
    | true =>
      rw [isOutside_nil, Bool.and_eq_true, beq_iff_eq] at mark
      obtain ⟨rfl, isOp⟩ := mark
      have isFlat := Token.isFlat_of_isOp isOp noBracket
      rw [isFlat.depthAfter_eq] at cuts
      exact ⟨[], first :: others, cuts.separator isFlat isOp⟩

/-- Cutting a run loses nothing and agrees with the search.  With the separators put back
between the pieces, which are the operators that stand outside brackets, the run is what it
was; no piece has such an operator of its own; and the search finds none when there is one
piece, and otherwise the one behind the first piece.  Brackets need not be balanced. -/
theorem split_rejoins (tokens : List Token) :
    rejoin (outside operator tokens) (split operator tokens) = tokens ∧
      (outside operator tokens).length + 1 = (split operator tokens).length ∧
      (∀ piece ∈ split operator tokens, find? operator piece = none) ∧
      (find? operator tokens = none ↔ (split operator tokens).length = 1) ∧
      (find? operator tokens ≠ none →
        find? operator tokens = (split operator tokens).head?.map List.length) := by
  obtain ⟨first, others, cuts⟩ := exists_cuts noBracket 0 tokens
  have find_eq : find? operator tokens = if others = [] then none else some first.length :=
    cuts.find_eq
  rw [outside, split, cuts.split_eq, find_eq]
  refine ⟨cuts.whole, by rw [cuts.count, List.length_cons], ?_, ?_, ?_⟩
  · exact List.forall_mem_cons.mpr ⟨cuts.first_clear, cuts.others_clear⟩
  · cases others <;> simp
  · cases others <;> simp

omit noBracket in
/-- A stray bracket puts the depth below zero, and the next bracket brings it back: the comma
behind that one is the only one at which the run is cut. -/
theorem split_rejoins_stray :
    let run : List Token := [⟨.operator, ")", 1, 1, 1, 1⟩, ⟨.operator, ",", 1, 2, 1, 2⟩,
      ⟨.operator, "(", 1, 3, 1, 3⟩, ⟨.operator, ",", 1, 4, 1, 4⟩, ⟨.operator, "[", 1, 5, 1, 5⟩]
    "," ∉ ["(", "(/", "[", ")", "/)", "]"] ∧ split "," run = [run.take 3, run.drop 4] ∧
      rejoin [⟨.operator, ",", 1, 4, 1, 4⟩] (split "," run) = run ∧
      find? "," (run.take 3) = none ∧ find? "," run = some 3 := by
  intro run
  have noBracket : "," ∉ ["(", "(/", "[", ")", "/)", "]"] := by decide
  obtain ⟨rejoined, -, clear, -, -⟩ := split_rejoins noBracket run
  have split_eq : split "," run = [run.take 3, run.drop 4] := by decide
  have outside_eq : outside "," run = [⟨.operator, ",", 1, 4, 1, 4⟩] := by decide
  rw [outside_eq] at rejoined
  refine ⟨noBracket, split_eq, rejoined, clear _ ?_, by decide⟩
  rw [split_eq]
  exact List.mem_cons_self

end FortranStyle.Bracket
