import FortranStyle.Statement.Bracket
import Mathlib.Order.Nat

/-!
# Reading by position

The definitions of this library take runs of tokens and lines apart from the
front, so they never ask for what is not there.  Here the same readers go by
position: they count an index up, ask for the token or character at it, and ask
the blocks on a stack for their parts.  Each of these requests may fail, and a
loop may come back to where it was.  That none of this happens is what the
equations say that a reader by position equals `some` of the definition it stands
for.
-/

namespace FortranStyle.Position

/-- The result of a reader by position.  There is none when it asks for a place
outside a run, asks a block for a part that it does not have, or goes on without
having moved forward. -/
abbrev Attempt (α : Type) :=
  Option α

/-! ## Places in a run -/

section Places

variable {α : Type} {items rest : List α} {item : α} {index : Nat}

/-- What a run shows from a position on is what stands at it and behind it. -/
theorem drop_eq_cons_iff :
    items.drop index = item :: rest ↔
      items[index]? = some item ∧ items.drop (index + 1) = rest := by
  rw [← List.head?_drop, ← List.tail_drop]
  cases items.drop index <;> simp

/-- The readers stop at the end of a run, and before it there is something to
read. -/
theorem exists_drop_eq_cons (inside : index < items.length) :
    ∃ item, items[index]? = some item ∧ items.drop index = item :: items.drop (index + 1) :=
  ⟨items[index], List.getElem?_eq_getElem inside, List.drop_eq_getElem_cons inside⟩

theorem drop_eq_nil (outside : ¬ index < items.length) : items.drop index = [] :=
  List.drop_eq_nil_of_le (Nat.le_of_not_lt outside)

/-- A loop that moves forward comes to an end: what holds outside a run, and at
each position when it holds at all later ones, holds everywhere. -/
theorem forward (items : List α) {motive : Nat → Prop}
    (outside : ∀ index, ¬ index < items.length → motive index)
    (inside : ∀ index item, index < items.length → items[index]? = some item →
      items.drop index = item :: items.drop (index + 1) →
      (∀ later, index < later → motive later) → motive index)
    (index : Nat) : motive index := by
  induction remaining : items.length - index using Nat.strongRecOn generalizing index with
  | ind count ih =>
    by_cases bound : index < items.length
    · obtain ⟨item, here, cut⟩ := exists_drop_eq_cons bound
      exact inside index item bound here cut fun later after => ih _ (by omega) later rfl
    · exact outside index bound

/-- A distance that is counted from a later position. -/
theorem map_distance (found : Option Nat) (index count : Nat) :
    (found.map (· + count)).map (index + ·) = found.map (index + count + ·) := by
  cases found with
  | none => rfl
  | some distance => simp only [Option.map_some]; congr 1; omega

end Places

/-! ## Loops -/

/-- Go on with a loop that has moved forward.  The numbers are positions, or what is
left to do; a loop that has not moved has no result. -/
def onward (smaller greater : Nat) : Attempt (PLift (smaller < greater)) :=
  if moves : smaller < greater then some ⟨moves⟩ else none

theorem onward_eq {smaller greater : Nat} (moves : smaller < greater) :
    onward smaller greater = some ⟨moves⟩ :=
  dif_pos moves

/-- A loop that has moved forward goes on. -/
theorem onward_bind {α : Type} {smaller greater : Nat} (moves : smaller < greater)
    (next : PLift (smaller < greater) → Attempt α) :
    (onward smaller greater).bind next = next ⟨moves⟩ := by
  rw [onward_eq moves]
  rfl

/-! ## Tests -/

/-- A test that is made only when its guard holds. -/
def guarded (guard : Prop) [Decidable guard] (test : Attempt Bool) : Attempt Bool :=
  if guard then test else pure false

/-- Asking for the item at a position is safe behind a guard that looks at the
length of the run. -/
@[simp] theorem guarded_getElem? {α : Type} (items : List α) (index : Nat) (test : α → Bool) :
    guarded (index < items.length) (items[index]?.map test) =
      some ((items.drop index).head?.any test) := by
  rw [guarded, List.head?_drop]
  split
  case isTrue inside => rw [List.getElem?_eq_getElem inside]; rfl
  case isFalse outside => rw [List.getElem?_eq_none (Nat.le_of_not_lt outside)]; rfl

/-- A test that always answers is safe behind any guard. -/
@[simp] theorem guarded_some (guard : Prop) [Decidable guard] (answer : Bool) :
    guarded guard (some answer) = some (guard && answer) := by
  by_cases holds : guard <;> simp [guarded, holds]

@[simp] theorem guarded_true [Decidable True] (test : Attempt Bool) : guarded True test = test :=
  if_pos trivial

@[simp] theorem guarded_false [Decidable False] (test : Attempt Bool) :
    guarded False test = some false :=
  if_neg not_false

/-- Going through a list with a reader that always answers. -/
theorem filterMapM_eq {α β : Type} {read : α → Attempt (Option β)} {answer : α → Option β}
    (reads : ∀ item, read item = some (answer item)) (items : List α) :
    items.filterMapM read = some (items.filterMap answer) := by
  induction items with
  | nil => rfl
  | cons item rest ih =>
    rw [List.filterMapM_cons, reads, ih, List.filterMap_cons]
    cases answer item <;> rfl

/-- Going on from one item of a list to the next with a reader that always
answers. -/
theorem foldlM_eq {α β : Type} {read : β → α → Attempt β} {answer : β → α → β}
    (reads : ∀ found item, read found item = some (answer found item)) (found : β)
    (items : List α) : items.foldlM read found = some (items.foldl answer found) := by
  induction items generalizing found with
  | nil => rfl
  | cons item rest ih => rw [List.foldlM_cons, reads, List.foldl_cons, ← ih]; rfl

/-! ## Matching brackets -/

/-- The position of the bracket that brings the depth back to zero, looked for
from `index` on, or the last position. -/
def matchingFrom (tokens : List Token) (depth : Int) (index : Nat) : Attempt Nat :=
  if inside : index < tokens.length then do
    let token ← tokens[index]?
    if token.isOpening then
      matchingFrom tokens (depth + 1) (index + 1)
    else if token.isClosing then
      if depth - 1 = 0 then pure index else matchingFrom tokens (depth - 1) (index + 1)
    else
      matchingFrom tokens depth (index + 1)
  else
    pure (tokens.length - 1)
termination_by tokens.length - index

/-- The position of the bracket that closes the one at `start`. -/
def matching (tokens : List Token) (start : Nat) : Attempt Nat :=
  matchingFrom tokens 0 start

/-- An operator that is found in a run stands at a position of it. -/
theorem findFrom?_lt {operator : String} {depth : Int} {tokens : List Token} {index : Nat}
    (found : Bracket.findFrom? operator depth tokens = some index) : index < tokens.length := by
  induction tokens generalizing depth index with
  | nil => cases found
  | cons token rest ih =>
    rw [Bracket.findFrom?] at found
    split at found
    · cases found
      simp
    · obtain ⟨before, earlier, rfl⟩ := Option.map_eq_some_iff.mp found
      simpa using ih earlier

/-- A token is one operator only. -/
theorem isOp_eq_false {token : Token} {operator other : String} (same : token.isOp operator = true)
    (apart : operator ≠ other) : token.isOp other = false := by
  simp only [Token.isOp, Bool.and_eq_true, beq_iff_eq] at same
  simp [Token.isOp, same.2, apart]

theorem not_isClosing_of_isOpening {token : Token} (opens : token.isOpening = true) :
    token.isClosing = false := by
  simp only [Token.isOpening, Token.isOp, Bool.or_eq_true, Bool.and_eq_true, beq_iff_eq] at opens
  rcases opens with (⟨_, text⟩ | ⟨_, text⟩) | ⟨_, text⟩ <;>
    simp [Token.isClosing, Token.isOp, text]

theorem matchingFrom_eq (tokens : List Token) (depth : Int) (index : Nat) :
    matchingFrom tokens depth index =
      some (((Bracket.closingIndex? depth (tokens.drop index)).map (index + ·)).getD
        (tokens.length - 1)) := by
  induction index using forward tokens generalizing depth with
  | outside index outside => rw [matchingFrom, dif_neg outside, drop_eq_nil outside]; rfl
  | inside index token inside here cut ih =>
    rw [matchingFrom, dif_pos inside, here, cut, Bracket.closingIndex?]
    have next (depth : Int) := ih (index + 1) (by omega) depth
    by_cases opens : token.isOpening
    · simp [opens, not_isClosing_of_isOpening opens, next, ← map_distance, Bracket.depthAfter]
    by_cases closes : token.isClosing
    · by_cases level : depth - 1 = 0
      · simp [opens, closes, level, Bracket.depthAfter]
      · simp [opens, closes, level, next, ← map_distance, Bracket.depthAfter]
    · simp [opens, closes, next, ← map_distance, Bracket.depthAfter]

/-- A bracket inside a run has a partner, which stands where `Bracket.matching`
says. -/
theorem matching_eq {tokens : List Token} {start : Nat} (inside : start < tokens.length) :
    matching tokens start = some (Bracket.matching tokens start) := by
  rw [matching, matchingFrom_eq, Bracket.matching, Bracket.partner, List.length_drop]
  cases Bracket.closingIndex? 0 (tokens.drop start) with
  | none => simp only [Option.map_none, Option.getD_none]; congr 1; omega
  | some count => rfl

/-- What stands in a pair of brackets. -/
theorem extract_matching (tokens : List Token) (start : Nat) :
    tokens.extract (start + 1) (Bracket.matching tokens start) =
      Bracket.inside (tokens.drop start) := by
  rw [List.extract_eq_take_drop, Bracket.matching, Bracket.inside, List.drop_take, List.drop_drop]
  congr 1
  omega

/-- What stands behind a pair of brackets. -/
theorem drop_matching (tokens : List Token) (start : Nat) :
    tokens.drop (Bracket.matching tokens start + 1) = Bracket.beyond (tokens.drop start) := by
  rw [Bracket.matching, Bracket.beyond, List.drop_drop, Nat.add_assoc]

theorem extract_matching_cons (first : Token) (rest : List Token) :
    (first :: rest).extract 2 (Bracket.matching (first :: rest) 1) = Bracket.inside rest :=
  extract_matching (first :: rest) 1

theorem drop_matching_cons (first : Token) (rest : List Token) :
    rest.drop (Bracket.matching (first :: rest) 1) = Bracket.beyond rest :=
  drop_matching (first :: rest) 1

theorem matching_cons_eq (first second : Token) (more : List Token) :
    matching (first :: second :: more) 1 =
      some (Bracket.matching (first :: second :: more) 1) :=
  matching_eq (by simp)

/-- A partner does not stand in front of its bracket. -/
theorem le_matching (tokens : List Token) (start : Nat) :
    start ≤ Bracket.matching tokens start :=
  Nat.le_add_right _ _

/-- A loop that goes on behind a pair of brackets has moved forward. -/
@[simp] theorem onward_matching (tokens : List Token) {index start : Nat}
    (within : index ≤ start) {α : Type}
    (next : PLift (index < Bracket.matching tokens start + 1) → Attempt α) :
    (onward index (Bracket.matching tokens start + 1)).bind next =
      next ⟨Nat.lt_succ_of_le (within.trans (le_matching tokens start))⟩ :=
  onward_bind _ _

theorem closingIndex?_lt {tokens : List Token} {depth : Int} {count : Nat}
    (found : Bracket.closingIndex? depth tokens = some count) : count < tokens.length := by
  induction tokens generalizing depth count with
  | nil => cases found
  | cons token rest ih =>
    rw [Bracket.closingIndex?] at found
    split at found
    · cases found
      simp
    · obtain ⟨before, earlier, rfl⟩ := Option.map_eq_some_iff.mp found
      simpa using ih earlier

/-- A partner stands inside the run. -/
theorem matching_lt {tokens : List Token} {start : Nat} (inside : start < tokens.length) :
    Bracket.matching tokens start < tokens.length := by
  rw [Bracket.matching, Bracket.partner, List.length_drop]
  cases found : Bracket.closingIndex? 0 (tokens.drop start) with
  | none => simp only [Option.getD_none]; omega
  | some count =>
    have := closingIndex?_lt found
    simp only [List.length_drop] at this
    simp only [Option.getD_some]
    omega

/-- The position behind a pair of brackets, counted from the end of the run. -/
theorem length_sub_length_beyond {tokens : List Token} {start : Nat}
    (inside : start < tokens.length) :
    tokens.length - (Bracket.beyond (tokens.drop start)).length =
      Bracket.matching tokens start + 1 := by
  have := matching_lt inside
  rw [← drop_matching, List.length_drop]
  omega

end FortranStyle.Position
