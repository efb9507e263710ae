import FortranStyle.Proofs.Intent.Listing

/-!
# Balanced runs of tokens

A run is balanced when every bracket in it closes and nothing else does; the kinds of
brackets are alike.  What a reader of brackets does with a balanced run in front is to pass
over it: the depth behind the run is the depth in front of it.
-/

namespace FortranStyle.Bracket

/-- A run of tokens in which every bracket closes and nothing else does. -/
inductive Balanced : List Token → Prop
  | nil : Balanced []
  | flat {token : Token} {rest : List Token} (isFlat : token.IsFlat) (later : Balanced rest) :
      Balanced (token :: rest)
  | pair {opening closing : Token} {inner rest : List Token} (opens : opening.isOpening = true)
      (within : Balanced inner) (closes : closing.isClosing = true) (later : Balanced rest) :
      Balanced (opening :: (inner ++ closing :: rest))

variable {tokens : List Token} {opening closing token : Token} {separator : String} {depth : Int}

theorem depthAfter_of_isOpening (opens : opening.isOpening = true) (depth : Int) :
    depthAfter depth opening = depth + 1 := by
  rw [depthAfter, opens]
  rfl

theorem isClosing_of_isOp (closes : closing.isOp ")" = true) : closing.isClosing = true := by
  simp [Token.isClosing, closes]

theorem isOpening_of_isOp (opens : opening.isOp "(" = true) : opening.isOpening = true := by
  simp [Token.isOpening, opens]

/-! ## Counting -/

/-- Whether what stands behind `depth` open brackets closes them and all of its own. -/
def isBalancedFrom (depth : Nat) : List Token → Bool
  | [] => depth == 0
  | token :: rest =>
      if token.isOpening then isBalancedFrom (depth + 1) rest
      else if token.isClosing then depth != 0 && isBalancedFrom (depth - 1) rest
      else isBalancedFrom depth rest

theorem Balanced.isBalancedFrom_append (balanced : Balanced tokens) (depth : Nat)
    (rest : List Token) : isBalancedFrom depth (tokens ++ rest) = isBalancedFrom depth rest := by
  induction balanced generalizing depth rest with
  | nil => rfl
  | flat isFlat _ ih =>
    rw [List.cons_append, isBalancedFrom, isFlat.noOpening, isFlat.noClosing,
      if_neg Bool.false_ne_true, if_neg Bool.false_ne_true, ih]
  | @pair opening closing inner later opens _ closes _ ihInner ihLater =>
    have noOpening : closing.isOpening = false := by
      by_contra opens'
      rw [Position.not_isClosing_of_isOpening (by simpa using opens')] at closes
      contradiction
    rw [List.cons_append, isBalancedFrom, if_pos opens, List.append_assoc, ihInner,
      List.cons_append, isBalancedFrom, noOpening, if_neg Bool.false_ne_true, if_pos closes]
    exact ihLater depth rest

/-- A run that closes open brackets is cut behind each bracket that closes one of them. -/
theorem exists_of_isBalancedFrom {depth : Nat} (counted : isBalancedFrom depth tokens = true) :
    match depth with
    | 0 => Balanced tokens
    | outer + 1 => ∃ inner closing rest, tokens = inner ++ closing :: rest ∧ Balanced inner ∧
        closing.isClosing = true ∧ isBalancedFrom outer rest = true := by
  -- Behind an opening bracket the rest is cut twice, and the second cut is in a shorter run.
  induction length_eq : tokens.length using Nat.strongRecOn generalizing tokens depth with
  | ind length ih =>
    cases tokens with
    | nil =>
      cases depth with
      | zero => exact .nil
      | succ outer => contradiction
    | cons token rest =>
      subst length_eq
      rw [isBalancedFrom] at counted
      by_cases opens : token.isOpening = true
      · rw [if_pos opens] at counted
        obtain ⟨inner, closing, later, rfl, within, closes, counted'⟩ :=
          ih rest.length (by simp) counted rfl
        have behind := ih later.length (by simp; omega) counted' rfl
        cases depth with
        | zero => exact .pair opens within closes behind
        | succ outer =>
          obtain ⟨inner', closing', rest, rfl, within', closes', counted''⟩ := behind
          exact ⟨token :: (inner ++ closing :: inner'), closing', rest, by simp,
            .pair opens within closes within', closes', counted''⟩
      · rw [if_neg opens] at counted
        by_cases closes : token.isClosing = true
        · rw [if_pos closes] at counted
          cases depth with
          | zero => contradiction
          | succ outer => exact ⟨[], token, rest, rfl, .nil, closes, counted⟩
        · rw [if_neg closes] at counted
          have isFlat : token.IsFlat := ⟨by simpa using opens, by simpa using closes⟩
          have behind := ih rest.length (by simp) counted rfl
          cases depth with
          | zero => exact .flat isFlat behind
          | succ outer =>
            obtain ⟨inner, closing, later, rfl, within, closes', counted'⟩ := behind
            exact ⟨token :: inner, closing, later, rfl, .flat isFlat within, closes', counted'⟩

/-- A run is balanced exactly when counting its brackets says so. -/
theorem balanced_iff : Balanced tokens ↔ isBalancedFrom 0 tokens = true := by
  constructor
  · intro balanced
    have counted := balanced.isBalancedFrom_append 0 []
    rwa [List.append_nil] at counted
  · exact exists_of_isBalancedFrom

instance (tokens : List Token) : Decidable (Balanced tokens) :=
  decidable_of_iff _ balanced_iff.symm

/-! ## Closing brackets -/

/-- The end of a bracket stands behind a token that does not close it. -/
theorem closingIndex?_cons (other : token.isClosing = true → depthAfter depth token ≠ 0)
    (rest : List Token) : closingIndex? depth (token :: rest) =
      (closingIndex? (depthAfter depth token) rest).map (· + 1) := by
  rw [closingIndex?, if_neg]
  simpa using other

theorem closingIndex?_closing (closes : closing.isClosing = true) (rest : List Token) :
    closingIndex? 1 (closing :: rest) = some 0 := by
  rw [closingIndex?, closes, Token.depthAfter_of_isClosing closes]
  rfl

namespace Balanced

variable (balanced : Balanced tokens)
include balanced

/-- Inside a bracket the search for its end passes over a balanced run. -/
theorem closingIndex?_past (deep : 0 < depth) (rest : List Token) :
    closingIndex? depth (tokens ++ rest) = (closingIndex? depth rest).map (· + tokens.length) := by
  induction balanced generalizing depth rest with
  | nil => simp
  | flat isFlat _ ih =>
    rw [List.cons_append, closingIndex?_cons (by simp [isFlat.noClosing]), isFlat.depthAfter_eq,
      ih deep, Option.map_map]
    rfl
  | @pair opening closing inner later opens _ closes _ ihInner ihLater =>
    have noClosing := Position.not_isClosing_of_isOpening opens
    have level : depthAfter (depth + 1) closing = depth := by
      rw [Token.depthAfter_of_isClosing closes, Int.add_sub_cancel]
    rw [List.cons_append, closingIndex?_cons (by simp [noClosing]), depthAfter_of_isOpening opens,
      List.append_assoc, ihInner (by omega), List.cons_append,
      closingIndex?_cons (fun _ => by omega), level, ihLater deep]
    simp only [Option.map_map, Function.comp_def, List.length_cons, List.length_append]
    congr 1
    funext index
    omega

/-- A bracket around a balanced run closes behind the run. -/
theorem closingIndex?_pair (opens : opening.isOpening = true) (closes : closing.isClosing = true) :
    closingIndex? 0 (opening :: (tokens ++ [closing])) = some (tokens.length + 1) := by
  rw [closingIndex?_cons (by simp [Position.not_isClosing_of_isOpening opens]),
    depthAfter_of_isOpening opens, balanced.closingIndex?_past (by decide), Int.zero_add,
    closingIndex?_closing closes, Option.map_some, Option.map_some, Nat.zero_add]

theorem depth_eq (depth : Int) : tokens.foldl depthAfter depth = depth := by
  induction balanced generalizing depth with
  | nil => rfl
  | flat isFlat _ ih => rw [List.foldl_cons, isFlat.depthAfter_eq, ih]
  | pair opens _ closes _ ihInner ihLater =>
    rw [List.foldl_cons, depthAfter_of_isOpening opens, List.foldl_append, ihInner,
      List.foldl_cons, Token.depthAfter_of_isClosing closes, Int.add_sub_cancel, ihLater]

end Balanced

/-! ## Separators -/

/-- A run without a separator at the top level is part of one piece. -/
theorem splitFrom_append (whole : findFrom? separator depth tokens = none) (rest : List Token) :
    splitFrom separator depth (tokens ++ rest) =
      (splitFrom separator (tokens.foldl depthAfter depth) rest).modifyHead (tokens ++ ·) := by
  induction tokens generalizing depth with
  | nil =>
    rw [List.nil_append, List.foldl_nil]
    cases splitFrom separator depth rest <;> rfl
  | cons token later ih =>
    rw [findFrom?] at whole
    split at whole
    · contradiction
    · rename_i other
      rw [Option.map_eq_none_iff] at whole
      rw [List.cons_append, splitFrom, if_neg other, ih whole, List.modifyHead_modifyHead]
      rfl

/-- A balanced run without a separator at the top level is the first piece of what stands
up to the next separator. -/
theorem Balanced.split_append_cons (balanced : Balanced tokens)
    (whole : find? separator tokens = none) (isFlat : token.IsFlat)
    (isSeparator : token.isOp separator = true) (rest : List Token) :
    split separator (tokens ++ token :: rest) = tokens :: split separator rest := by
  rw [split, splitFrom_append whole, balanced.depth_eq, splitFrom, isFlat.noOpening,
    isFlat.noClosing, isSeparator]
  simp [split]

theorem split_eq_singleton (whole : find? separator tokens = none) :
    split separator tokens = [tokens] := by
  have pieces := splitFrom_append whole []
  rw [List.append_nil] at pieces
  rw [split, pieces]
  simp [splitFrom]

end FortranStyle.Bracket
