import FortranStyle.Proofs.Balance.Stride
import FortranStyle.Proofs.Position.Specification

/-!
# Partners of brackets

The partner of an opening bracket is the first place behind it where as many brackets have
closed as have opened, whatever their kinds, and the last token when there is no such place.
Up to its partner a bracket is open, so a bracket that opens inside has its own partner no
later: partners do not cross, in runs that are not balanced either.  A partner never stands in
front of its bracket, so a reader that goes on behind it has moved forward.
-/

namespace FortranStyle.Bracket

variable {tokens : List Token} {token : Token} {depth : Int} {start stop index : Nat}

/-- A bracket opens at a position of a run. -/
def OpensAt (tokens : List Token) (start : Nat) : Prop :=
  tokens[start]?.any Token.isOpening = true

instance (tokens : List Token) (start : Nat) : Decidable (OpensAt tokens start) :=
  inferInstanceAs (Decidable (_ = true))

/-- How many more brackets open than close from one position up to another, both included. -/
def depthFrom (tokens : List Token) (start stop : Nat) : Int :=
  level (tokens.extract start (stop + 1))

/-- The bracket at `start` is open up to `stop`, where it closes or the run ends. -/
structure IsPartner (tokens : List Token) (start stop : Nat) : Prop where
  le : start ≤ stop
  lt : stop < tokens.length
  open_before : ∀ index, start ≤ index → index < stop → 0 < depthFrom tokens start index
  closed_or_last :
    (depthFrom tokens start stop = 0 ∧ tokens[stop]?.any Token.isClosing = true ∧
      (tokens.extract start (stop + 1)).countP Token.isOpening =
        (tokens.extract start (stop + 1)).countP Token.isClosing) ∨
    (0 < depthFrom tokens start stop ∧ stop + 1 = tokens.length)

/-! ## The search for a closing bracket -/

/-- A depth above zero stays there behind a token that does not bring it to zero. -/
theorem depthAfter_pos (deep : 0 < depth)
    (other : token.isClosing = true → depthAfter depth token ≠ 0) :
    0 < depthAfter depth token := by
  rcases opens : token.isOpening with _ | _
  · rcases closes : token.isClosing with _ | _
    · have isFlat : token.IsFlat := ⟨opens, closes⟩
      rwa [isFlat.depthAfter_eq]
    · have level_ne := other closes
      rw [Token.depthAfter_of_isClosing closes] at level_ne ⊢
      omega
  · rw [depthAfter_of_isOpening opens]
    omega

theorem depth_take_succ (depth : Int) (token : Token) (rest : List Token) (count : Nat) :
    depth + level ((token :: rest).take (count + 1)) =
      depthAfter depth token + level (rest.take count) := by
  rw [List.take_succ_cons, add_level_cons]

/-- In front of the bracket that is found the depth is above zero, and behind it zero. -/
theorem depth_of_closingIndex? (deep : 0 < depth)
    (found : closingIndex? depth tokens = some index) :
    (∀ count ≤ index, 0 < depth + level (tokens.take count)) ∧
      depth + level (tokens.take (index + 1)) = 0 ∧
      tokens[index]?.any Token.isClosing = true := by
  induction tokens generalizing depth index with
  | nil => contradiction
  | cons token rest ih =>
    by_cases here : token.isClosing = true ∧ depthAfter depth token = 0
    · obtain ⟨closes, level_eq⟩ := here
      rw [closingIndex?, closes, level_eq] at found
      cases found
      refine ⟨fun count first => ?_, ?_, closes⟩
      · rw [Nat.le_zero.mp first]
        simpa [level] using deep
      · rw [depth_take_succ, level_eq]
        rfl
    · have other : token.isClosing = true → depthAfter depth token ≠ 0 := not_and.mp here
      rw [closingIndex?_cons other] at found
      obtain ⟨later, further, rfl⟩ := Option.map_eq_some_iff.mp found
      obtain ⟨before, behind, closes⟩ := ih (depthAfter_pos deep other) further
      refine ⟨fun count first => ?_, ?_, closes⟩
      · cases count with
        | zero => simpa [level] using deep
        | succ count =>
          rw [depth_take_succ]
          exact before count (Nat.le_of_succ_le_succ first)
      · rw [depth_take_succ, behind]

/-- When no bracket is found the depth is above zero all along. -/
theorem depth_of_closingIndex?_eq_none (deep : 0 < depth)
    (unclosed : closingIndex? depth tokens = none) (count : Nat) :
    0 < depth + level (tokens.take count) := by
  induction tokens generalizing depth count with
  | nil => simpa [level] using deep
  | cons token rest ih =>
    cases count with
    | zero => simpa [level] using deep
    | succ count =>
      have other : token.isClosing = true → depthAfter depth token ≠ 0 := by
        intro closes level_eq
        rw [closingIndex?, closes, level_eq] at unclosed
        contradiction
      rw [closingIndex?_cons other, Option.map_eq_none_iff] at unclosed
      rw [depth_take_succ]
      exact ih (depthAfter_pos deep other) unclosed count

/-! ## Depths from a position on -/

theorem depthFrom_add (tokens : List Token) (start count : Nat) :
    depthFrom tokens start (start + count) = level ((tokens.drop start).take (count + 1)) := by
  rw [depthFrom, List.extract_eq_take_drop, Nat.add_assoc, Nat.add_sub_cancel_left]

/-- The depth from a position on is counted in two parts. -/
theorem depthFrom_split {middle : Nat} (first : start ≤ middle) (second : middle < stop) :
    depthFrom tokens start stop =
      depthFrom tokens start middle + depthFrom tokens (middle + 1) stop := by
  obtain ⟨before, rfl⟩ := Nat.exists_eq_add_of_le first
  obtain ⟨behind, rfl⟩ := Nat.exists_eq_add_of_lt second
  have between : start + before + behind + 1 = start + before + 1 + behind := by omega
  have whole : start + before + 1 + behind = start + (before + 1 + behind) := by omega
  rw [between, depthFrom_add tokens (start + before + 1), whole, depthFrom_add, depthFrom_add,
    Nat.add_assoc (before + 1), List.take_add, level_append, List.drop_drop, Nat.add_assoc start]

/-! ## Partners -/

theorem OpensAt.exists_drop_eq (opens : OpensAt tokens start) :
    ∃ opening rest, tokens.drop start = opening :: rest ∧ opening.isOpening = true := by
  rw [OpensAt, ← List.head?_drop] at opens
  cases cut : tokens.drop start with
  | nil => rw [cut] at opens; contradiction
  | cons opening rest =>
    rw [cut] at opens
    exact ⟨opening, rest, rfl, opens⟩

theorem OpensAt.lt (opens : OpensAt tokens start) : start < tokens.length := by
  obtain ⟨opening, rest, cut, -⟩ := opens.exists_drop_eq
  by_contra outside
  rw [List.drop_eq_nil_of_le (Nat.le_of_not_lt outside)] at cut
  contradiction

theorem isPartner_matching (opens : OpensAt tokens start) :
    IsPartner tokens start (matching tokens start) := by
  obtain ⟨opening, rest, cut, isOpening⟩ := opens.exists_drop_eq
  have noClosing := Position.not_isClosing_of_isOpening isOpening
  have one : depthAfter 0 opening = 1 := depthAfter_of_isOpening isOpening 0
  -- Behind the bracket itself the depth is one, and the search goes on in the rest.
  have depth_eq (count : Nat) :
      depthFrom tokens start (start + count) = 1 + level (rest.take count) := by
    rw [depthFrom_add, cut, ← Int.zero_add (level _), depth_take_succ, one]
  have search : closingIndex? 0 (tokens.drop start) = (closingIndex? 1 rest).map (· + 1) := by
    rw [cut, closingIndex?_cons (by simp [noClosing]), one]
  have le := Position.le_matching tokens start
  have lt := Position.matching_lt opens.lt
  cases found : closingIndex? 1 rest with
  | some index =>
    have matching_eq : matching tokens start = start + (index + 1) := by
      rw [matching, partner, search, found]
      rfl
    obtain ⟨before, behind, closes⟩ := depth_of_closingIndex? Int.one_pos found
    rw [matching_eq] at le lt ⊢
    have level_eq : depthFrom tokens start (start + (index + 1)) = 0 := by rw [depth_eq, behind]
    refine ⟨le, lt, fun position first last => ?_, .inl ⟨level_eq, ?_, ?_⟩⟩
    · obtain ⟨count, rfl⟩ := Nat.exists_eq_add_of_le first
      rw [depth_eq]
      exact before count (by omega)
    · rw [← List.getElem?_drop, cut]
      exact closes
    · rw [depthFrom, level] at level_eq
      omega
  | none =>
    have matching_eq : matching tokens start = start + (tokens.length - start - 1) := by
      rw [matching, partner, search, found, Option.map_none, Option.getD_none, List.length_drop]
    have deep (count : Nat) : 0 < depthFrom tokens start (start + count) := by
      rw [depth_eq]
      exact depth_of_closingIndex?_eq_none Int.one_pos found count
    refine ⟨le, lt, fun position first _ => ?_, .inr ⟨?_, ?_⟩⟩
    · obtain ⟨count, rfl⟩ := Nat.exists_eq_add_of_le first
      exact deep count
    · rw [matching_eq]
      exact deep _
    · have inside := opens.lt
      omega

namespace IsPartner

/-- Behind a partner that is not the last token the bracket is closed. -/
theorem not_lt {other : Nat} (partner : IsPartner tokens start stop)
    (later : IsPartner tokens start other) : ¬stop < other := by
  intro before
  have deep := later.open_before stop partner.le before
  have inside := later.lt
  rcases partner.closed_or_last with ⟨closed, -⟩ | ⟨-, last⟩ <;> omega

/-- A bracket has one partner. -/
theorem unique {other : Nat} (partner : IsPartner tokens start stop)
    (second : IsPartner tokens start other) : stop = other := by
  have first_le := partner.not_lt second
  have second_le := second.not_lt partner
  omega

/-- A bracket that opens while another is open has its partner no later. -/
theorem nested {inner innerStop : Nat} (outer : IsPartner tokens start stop)
    (within : IsPartner tokens inner innerStop) (before : start < inner) :
    stop < inner ∨ innerStop ≤ stop := by
  by_contra crossing
  rw [not_or, Nat.not_lt, Nat.not_le] at crossing
  obtain ⟨inside, beyond⟩ := crossing
  have last := within.lt
  rcases outer.closed_or_last with ⟨closed, -⟩ | ⟨-, ends⟩
  · -- The depth in front of the inner bracket is above zero, and it is above zero from there on.
    obtain ⟨middle, rfl⟩ := Nat.exists_eq_add_of_lt before
    have outside := outer.open_before (start + middle) (Nat.le_add_right _ _) (by omega)
    have deeper := within.open_before stop inside beyond
    rw [depthFrom_split (Nat.le_add_right start middle) (by omega)] at closed
    omega
  · omega

end IsPartner

/-- Brackets are matched forward and do not cross.  The partner of an opening bracket is the
one place inside the run up to which the bracket is open, and where it closes, the brackets
counted, or the run ends.  Of two brackets the first is matched in front of the second, or the
second no later than the first.  Readers by position that go on behind a partner, for an
assignment, the header of a procedure and what follows the name of an entity, have no result
when they have not moved forward; they have the results of the library on every run and from
every position. -/
theorem partners_nest (tokens : List Token) :
    (∀ start stop, OpensAt tokens start →
      (matching tokens start = stop ↔ IsPartner tokens start stop)) ∧
    (∀ first second, OpensAt tokens first → OpensAt tokens second → first < second →
      matching tokens first < second ∨ matching tokens second ≤ matching tokens first) ∧
    (∀ index, Position.leadsToAssignment tokens index =
      some (Statement.leadsToAssignment (tokens.drop index))) ∧
    (∀ found index, Position.resultName? tokens found index =
      some (Statement.resultName? found (tokens.drop index))) ∧
    Position.header? tokens = some (Statement.header? tokens) ∧
    (∀ dimension index, Position.entityTail tokens dimension index =
      some (Statement.entityTail dimension (tokens.drop index))) := by
  refine ⟨fun start stop opens => ⟨?_, ?_⟩, fun first second opens opens' before => ?_,
    Position.leadsToAssignment_eq tokens, Position.resultName?_eq tokens,
    Position.header?_eq tokens, Position.entityTail_eq tokens⟩
  · rintro rfl
    exact isPartner_matching opens
  · intro partner
    exact (isPartner_matching opens).unique partner
  · exact (isPartner_matching opens).nested (isPartner_matching opens') before

/-- A round bracket closes a square one here, and the bracket around both never closes. -/
theorem partners_nest_unclosed :
    let run : List Token := [⟨.operator, "(", 1, 1, 1, 1⟩, ⟨.operator, "[", 1, 2, 1, 2⟩,
      ⟨.identifier, "a", 1, 3, 1, 3⟩, ⟨.operator, ")", 1, 4, 1, 4⟩, ⟨.operator, "(/", 1, 5, 1, 6⟩,
      ⟨.identifier, "b", 1, 7, 1, 7⟩]
    OpensAt run 0 ∧ OpensAt run 1 ∧ 0 < 1 ∧ matching run 0 = 5 ∧ IsPartner run 0 5 ∧
      matching run 1 = 3 ∧ IsPartner run 1 3 ∧
      (matching run 0 < 1 ∨ matching run 1 ≤ matching run 0) := by
  intro run
  obtain ⟨exact_iff, nest, -⟩ := partners_nest run
  have outer : OpensAt run 0 := by decide
  have inner : OpensAt run 1 := by decide
  have outer_eq : matching run 0 = 5 := by decide
  have inner_eq : matching run 1 = 3 := by decide
  exact ⟨outer, inner, Nat.one_pos, outer_eq, (exact_iff 0 5 outer).mp outer_eq, inner_eq,
    (exact_iff 1 3 inner).mp inner_eq, nest 0 1 outer inner Nat.one_pos⟩

end FortranStyle.Bracket
