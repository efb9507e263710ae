import FortranStyle.Proofs.Balance.ControlList
import FortranStyle.Proofs.Ledger.History

/-!
# The unit of a READ or WRITE statement

When the first specifier of a control list has no keyword, or is `UNIT=`, the unit that is
read is the one that the list gives, and the specifiers with a keyword can stand in any
order.  A list that starts with another keyword is taken to have a unit that is no local
name, since a name has no equals sign in it.
-/

namespace FortranStyle

open Statement (hasKeyword givenUnit? givesUnit controlUnit? unitExpression unit? action?
  IsTransfer)

/-- The specifiers of a control list: those without a keyword, and behind them those with
one, `UNIT=` once at most. -/
structure IsControlList (positional keyworded : List (List Token)) : Prop where
  noKeyword : ∀ specifier ∈ positional, hasKeyword specifier = false
  keyword : ∀ specifier ∈ keyworded, hasKeyword specifier = true
  once : (keyworded.filter givesUnit).length ≤ 1

/-- Specifiers that read alike, but that those with a keyword stand in another order.  When
all have one, `UNIT=` stays in front or stays behind. -/
structure IsReordered (positional keyworded positional' keyworded' : List (List Token)) :
    Prop where
  positional_eq : positional'.map (List.map Token.face) = positional.map (List.map Token.face)
  perm : (keyworded'.map (List.map Token.face)).Perm (keyworded.map (List.map Token.face))
  front_eq : positional = [] → keyworded'.head?.any givesUnit = keyworded.head?.any givesUnit

namespace IsControlList

variable {positional keyworded positional' keyworded' : List (List Token)}
  (control : IsControlList positional keyworded)
include control

/-- The unit of the list is read when the list starts with it. -/
theorem controlUnit?_eq {first : List Token} {others : List (List Token)}
    (specifiers_eq : positional ++ keyworded = first :: others)
    (fronted : positional = [] → keyworded.head?.any givesUnit = true) :
    controlUnit? (positional ++ keyworded) = some (unitExpression first) := by
  cases positional with
  | nil =>
    rw [List.nil_append] at specifiers_eq
    rw [specifiers_eq] at fronted
    obtain ⟨value, given⟩ := Option.isSome_iff_exists.mp (fronted rfl)
    rw [List.nil_append, specifiers_eq, controlUnit?,
      if_pos (Statement.hasKeyword_of_givesUnit (fronted rfl)), List.findSome?_cons, given,
      Statement.unitExpression_eq, given]
    rfl
  | cons head rest =>
    obtain ⟨rfl, -⟩ := List.cons.inj specifiers_eq
    have noKeyword := control.noKeyword head List.mem_cons_self
    have noUnit : givenUnit? head = none := by
      have notGiven := mt (@Statement.hasKeyword_of_givesUnit head)
        (by rw [noKeyword]; exact Bool.false_ne_true)
      simpa [givesUnit] using notGiven
    rw [List.cons_append, controlUnit?, noKeyword, if_neg Bool.false_ne_true,
      Statement.unitExpression_eq, noUnit]
    rfl

/-- In another order the same unit is read, or what is read is in both no name. -/
theorem unitExpression_of_reordered
    (reordered : IsReordered positional keyworded positional' keyworded')
    {first first' : List Token} {others others' : List (List Token)}
    (specifiers_eq : positional ++ keyworded = first :: others)
    (specifiers_eq' : positional' ++ keyworded' = first' :: others') :
    spelling (unitExpression first') = spelling (unitExpression first) ∨
      '=' ∈ (spelling (unitExpression first)).toList ∧
        '=' ∈ (spelling (unitExpression first')).toList := by
  cases positional with
  | cons head rest =>
    obtain ⟨rfl, -⟩ := List.cons.inj specifiers_eq
    have positional_eq := reordered.positional_eq
    cases positional' with
    | nil => contradiction
    | cons head' rest' =>
      obtain ⟨rfl, -⟩ := List.cons.inj specifiers_eq'
      exact .inl (Statement.spelling_unitExpression_congr (List.cons.inj positional_eq).1)
  | nil =>
    obtain rfl : positional' = [] := List.map_eq_nil_iff.mp reordered.positional_eq
    rw [List.nil_append] at specifiers_eq specifiers_eq'
    have front_eq : givesUnit first' = givesUnit first := by
      have same := reordered.front_eq rfl
      rwa [specifiers_eq, specifiers_eq'] at same
    have listed : first'.map Token.face ∈ keyworded.map (List.map Token.face) := by
      refine reordered.perm.subset ?_
      rw [specifiers_eq']
      exact List.mem_cons_self
    obtain ⟨twin, twin_mem, face_eq⟩ := List.mem_map.mp listed
    have keyword' : hasKeyword first' = true :=
      (Statement.hasKeyword_congr face_eq).symm.trans (control.keyword twin twin_mem)
    have keyword := control.keyword first (by rw [specifiers_eq]; exact List.mem_cons_self)
    have read {specifier : List Token} (notUnit : givesUnit specifier = false) :
        unitExpression specifier = specifier := by
      rw [Statement.unitExpression_eq,
        Option.not_isSome_iff_eq_none.mp (Bool.eq_false_iff.mp notUnit)]
      rfl
    cases gives : givesUnit first with
    | false =>
      right
      rw [read gives, read (front_eq.trans gives)]
      exact ⟨Statement.equals_mem_spelling keyword, Statement.equals_mem_spelling keyword'⟩
    | true =>
      -- There is one `UNIT=`, so both lists start with it.
      have twin_gives : givesUnit twin = true :=
        (Statement.givesUnit_congr face_eq).trans (front_eq.trans gives)
      have twin_eq : twin = first := by
        have once := control.once
        have kept : twin ∈ keyworded.filter givesUnit := List.mem_filter.mpr ⟨twin_mem, twin_gives⟩
        rw [specifiers_eq, List.filter_cons_of_pos gives] at once kept
        rw [List.length_eq_zero_iff.mp (Nat.le_zero.mp (Nat.le_of_succ_le_succ once))] at kept
        exact List.mem_singleton.mp kept
      rw [twin_eq] at face_eq
      exact .inl (Statement.spelling_unitExpression_congr face_eq).symm

end IsControlList

/-- The unit that is read of a READ or WRITE statement is the one that its control list
gives: what follows `UNIT=`, or the first specifier when that has no keyword.  The statement
adds no side effect exactly when the unit is a local name, and the specifiers with a keyword
can stand in any order.  This holds when the list starts with its unit; another keyword in
front has to stay in front, though not the same one. -/
theorem unit_of_controlList {lines : List String} {found : Procedure × Option ProgramUnit}
    (listed : found ∈ (Outline.ofTokenized (.ofLines lines)).procedures)
    {statement : List Token} {positional keyworded : List (List Token)}
    (transfer : IsTransfer statement (positional ++ keyworded))
    (control : IsControlList positional keyworded) :
    ((positional = [] → keyworded.head?.any givesUnit = true) →
      unit? statement = (controlUnit? (positional ++ keyworded)).map spelling) ∧
    (∀ host before after,
      (found.1.doing (before ++ (action? statement).toList ++ after)).sideEffects host =
          (found.1.doing (before ++ after)).sideEffects host ↔
        ∃ name ∈ found.1.localNames, unit? statement = some name) ∧
    ∀ statement' positional' keyworded', IsTransfer statement' (positional' ++ keyworded') →
      statement'.head? = statement.head? →
      IsReordered positional keyworded positional' keyworded' →
      ∀ host before after,
        (found.1.doing (before ++ (action? statement').toList ++ after)).sideEffects host =
          (found.1.doing (before ++ (action? statement).toList ++ after)).sideEffects host := by
  obtain ⟨first, others, specifiers_eq⟩ := transfer.exists_cons
  have unit_eq := (specifiers_eq ▸ transfer).unit?_eq
  obtain ⟨word, word_eq, transfers, action_eq⟩ := transfer.action?_eq
  refine ⟨fun fronted => ?_, fun host before after => ?_, ?_⟩
  · rw [unit_eq, control.controlUnit?_eq specifiers_eq fronted]
    rfl
  · rw [action_eq, unit_eq, Option.toList_some, List.append_assoc, List.singleton_append,
      Procedure.sideEffects_insert_eq_iff, Procedure.statementEffect?_eq_none_iff transfers]
    simp
  · intro statement' positional' keyworded' transfer' head_eq reordered host before after
    obtain ⟨first', others', specifiers_eq'⟩ := transfer'.exists_cons
    have unit_eq' := (specifiers_eq' ▸ transfer').unit?_eq
    obtain ⟨verb, verb_eq, -, action_eq'⟩ := transfer'.action?_eq
    obtain rfl : verb = word := Option.some.inj (verb_eq.symm.trans (head_eq.trans word_eq))
    have same : found.1.statementEffect? (verb.lower, verb, unit? statement') =
        found.1.statementEffect? (verb.lower, verb, unit? statement) := by
      rw [unit_eq, unit_eq']
      obtain spelling_eq | ⟨noName, noName'⟩ :=
        control.unitExpression_of_reordered reordered specifiers_eq specifiers_eq'
      · rw [spelling_eq]
      · have reported {unit : String} (noName : '=' ∈ unit.toList) :
            found.1.statementEffect? (verb.lower, verb, some unit) =
              some (verb, s!"executes a {Text.upper verb.lower} statement") := by
          have notLocal : unit ∉ found.1.localNames := fun isLocal =>
            absurd (Outline.isNameChar_of_mem_localNames listed isLocal '=' noName) (by decide)
          simp [Procedure.statementEffect?, notLocal]
        rw [reported noName, reported noName']
    rw [action_eq, action_eq', Option.toList_some, Option.toList_some, List.append_assoc,
      List.append_assoc, List.singleton_append, List.singleton_append,
      Procedure.sideEffects_insert, Procedure.sideEffects_insert, same]

/-- A local unit that is given by its keyword in front makes an internal file of it, in
whatever order the two other specifiers stand. -/
theorem unit_of_controlList_internal :
    let lines := ["function f(n) result(s)", "integer, intent(in) :: n",
      "character(len=8) :: buf, s", "write(unit=buf, fmt='(i0)', err=9) n", "9 s = buf",
      "end function f"]
    let unit : List Token := [⟨.identifier, "unit", 4, 7, 4, 10⟩, ⟨.operator, "=", 4, 11, 4, 11⟩,
      ⟨.identifier, "buf", 4, 12, 4, 14⟩]
    let format : List Token := [⟨.identifier, "fmt", 4, 17, 4, 19⟩,
      ⟨.operator, "=", 4, 20, 4, 20⟩, ⟨.string, "'(i0)'", 4, 21, 4, 26⟩]
    let error : List Token := [⟨.identifier, "err", 4, 29, 4, 31⟩, ⟨.operator, "=", 4, 32, 4, 32⟩,
      ⟨.number, "9", 4, 33, 4, 33⟩]
    let write (second third : List Token) : List Token :=
      ⟨.keyword, "write", 4, 1, 4, 5⟩ :: ⟨.operator, "(", 4, 6, 4, 6⟩ ::
        ((unit ++ ⟨.operator, ",", 4, 15, 4, 15⟩ ::
            (second ++ ⟨.operator, ",", 4, 27, 4, 27⟩ :: third)) ++
          ⟨.operator, ")", 4, 34, 4, 34⟩ :: [⟨.identifier, "n", 4, 36, 4, 36⟩])
    let outline := Outline.ofTokenized (.ofLines lines)
    ((Tokenized.ofLines lines).statements.drop 3).head? = some (write format error) ∧
      outline.procedures.map (·.1.localNames) = [["buf", "s"]] ∧
      ∀ found ∈ outline.procedures,
        unit? (write format error) = some "buf" ∧
        ∀ host before after,
          (found.1.doing (before ++ (action? (write error format)).toList ++ after)).sideEffects
              host =
            (found.1.doing (before ++ after)).sideEffects host := by
  intro lines unit format error write outline
  have statement_eq : ((Tokenized.ofLines lines).statements.drop 3).head? =
      some (write format error) := by
    decide +kernel
  have names_eq : outline.procedures.map (·.1.localNames) = [["buf", "s"]] := by decide +kernel
  have unitItem : Bracket.IsItem unit := ⟨by decide, by decide, by decide⟩
  have formatItem : Bracket.IsItem format := ⟨by decide, by decide, by decide⟩
  have errorItem : Bracket.IsItem error := ⟨by decide, by decide, by decide⟩
  have transfers {second third : List Token} (secondItem : Bracket.IsItem second)
      (thirdItem : Bracket.IsItem third) :
      IsTransfer (write second third) ([] ++ [unit, second, third]) :=
    .intro (by decide) (by decide)
      (.more unitItem (by decide) (.more secondItem (by decide) (.one third thirdItem)))
      (by decide) (by decide +kernel)
  have control : IsControlList [] [unit, format, error] :=
    ⟨by decide, by decide, by decide +kernel⟩
  have reordered : IsReordered [] [unit, format, error] [] [unit, error, format] :=
    ⟨rfl, by decide, fun _ => rfl⟩
  have unit_eq : (controlUnit? [unit, format, error]).map spelling = some "buf" := by
    decide +kernel
  refine ⟨statement_eq, names_eq, fun found listed => ?_⟩
  obtain ⟨reads, reports, exchanges⟩ :=
    unit_of_controlList listed (transfers formatItem errorItem) control
  have read := (reads fun _ => by decide +kernel).trans unit_eq
  have isLocal : "buf" ∈ found.1.localNames := by
    have names_mem := List.mem_map_of_mem (f := fun found => found.1.localNames) listed
    rw [names_eq, List.mem_singleton] at names_mem
    rw [names_mem]
    exact List.mem_cons_self
  refine ⟨read, fun host before after => ?_⟩
  rw [exchanges _ [] _ (transfers errorItem formatItem) rfl reordered]
  exact (reports host before after).mpr ⟨"buf", isLocal, read⟩

/-- Behind the format the unit is not found: the statement is reported, though its unit is
a local name, and it is not reported with the unit in front. -/
theorem unit_of_controlList_format :
    let lines (specifiers : String) := ["function f(n) result(s)", "integer, intent(in) :: n",
      "character(len=8) :: buf, s", "write(" ++ specifiers ++ ") n", "s = buf", "end function f"]
    let format : List Token := [⟨.identifier, "fmt", 4, 7, 4, 9⟩, ⟨.operator, "=", 4, 10, 4, 10⟩,
      ⟨.string, "'(i0)'", 4, 11, 4, 16⟩]
    let unit : List Token := [⟨.identifier, "unit", 4, 19, 4, 22⟩, ⟨.operator, "=", 4, 23, 4, 23⟩,
      ⟨.identifier, "buf", 4, 24, 4, 26⟩]
    let statement := (Tokenized.ofLines (lines "fmt='(i0)', unit=buf")).statements.getD 3 []
    IsTransfer statement [format, unit] ∧
      (controlUnit? [format, unit]).map spelling = some "buf" ∧
      unit? statement = some "fmt='(i0)'" ∧
      Rule.checkSideEffects (.ofLines "f.f90" (lines "fmt='(i0)', unit=buf")) =
        [⟨4, 1, "Function 'f' executes a WRITE statement"⟩] ∧
      Rule.checkSideEffects (.ofLines "f.f90" (lines "unit=buf, fmt='(i0)'")) = [] := by
  intro lines format unit statement
  have statement_eq : statement = ⟨.keyword, "write", 4, 1, 4, 5⟩ ::
      ⟨.operator, "(", 4, 6, 4, 6⟩ :: ((format ++ ⟨.operator, ",", 4, 17, 4, 17⟩ :: unit) ++
        ⟨.operator, ")", 4, 27, 4, 27⟩ :: [⟨.identifier, "n", 4, 29, 4, 29⟩]) := by
    decide +kernel
  refine ⟨?_, by decide +kernel, by decide +kernel, by decide +kernel, by decide +kernel⟩
  rw [statement_eq]
  exact .intro (by decide) (by decide)
    (.more ⟨by decide, by decide, by decide⟩ (by decide)
      (.one _ ⟨by decide, by decide, by decide⟩)) (by decide) (by decide +kernel)

end FortranStyle
