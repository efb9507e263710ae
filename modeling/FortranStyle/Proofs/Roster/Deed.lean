import FortranStyle.Proofs.Nesting.Event

/-!
# What a statement does

One statement changes the state of a scan in one of a few ways, and what it is read
as decides which.  A law about all statements follows from one case for each way,
with what is known of the statement in that case.
-/

namespace FortranStyle

namespace BlockKind

/-- Whether statements of every sort may stand in a block: it is no derived type,
no enumeration and no interface block. -/
def isOrdinary : BlockKind → Bool
  | derivedType | interface | construct .enumeration => false
  | _ => true

end BlockKind

namespace ScanState

open Statement (assignmentTarget? closer? isDivider unitHeading? header? interfaceHeading?
  typeHeading? construct?)

/-- The kind of the innermost block. -/
def innermost (state : ScanState) : Option BlockKind :=
  state.frames.head?.map Frame.kind

theorem innermost_eq (state : ScanState) :
    state.innermost = state.blocks.head?.map (·.kind) := by
  rw [innermost, blocks, List.head?_map, Option.map_map]
  rfl

/-- A statement that stands in the innermost block: it is no assignment, and it
neither closes nor divides a block. -/
structure Stands (state : ScanState) (tokens : List Token) : Prop where
  noTarget : (assignmentTarget? tokens).isSome = false
  noCloser : closer? tokens = none
  noDivider : state.innermost.any (isDivider · tokens) = false

/-- What a statement, which starts with the given tokens behind its label, does to a
state, by what it means for the open blocks.  Nearly always the depth of its line is
recorded first. -/
inductive Deed (state : ScanState) (label first : Token) (rest : List Token) :
    Option Mark → ScanState → Prop
  | executes (target : (assignmentTarget? (first :: rest)).isSome = true) :
      Deed state label first rest none
        ((state.recordDepth label state.depth).recordExecutable (first :: rest))
  | closes {closer : Statement.Closer}
      (noTarget : (assignmentTarget? (first :: rest)).isSome = false)
      (closes : closer? (first :: rest) = some closer) (depth : Nat) :
      Deed state label first rest (some (.closes closer first))
        ((state.close closer first (rest.getLastD first)).recordDepth label depth)
  | divides (noTarget : (assignmentTarget? (first :: rest)).isSome = false)
      (divides : state.innermost.any (isDivider · (first :: rest)) = true)
      (noContains : first.isWord "contains" = false) :
      Deed state label first rest none (state.recordDepth label (state.depth - 1))
  | contains (noTarget : (assignmentTarget? (first :: rest)).isSome = false)
      (divides : state.innermost.any (isDivider · (first :: rest)) = true)
      (isContains : first.isWord "contains" = true) :
      Deed state label first rest none
        ((state.recordDepth label (state.depth - 1)).recordContains first)
  | component (stands : state.Stands (first :: rest))
      (inside : state.innermost = some .derivedType) :
      Deed state label first rest none (state.recordDepth label state.depth)
  | enumerates (stands : state.Stands (first :: rest))
      (inside : state.innermost = some (.construct .enumeration)) :
      Deed state label first rest none
        ((state.recordDepth label state.depth).recordEnumerators (first :: rest))
  | member (stands : state.Stands (first :: rest)) (inside : state.innermost = some .interface) :
      Deed state label first rest none
        ((state.recordDepth label state.depth).recordMember (first :: rest))
  | opensUnit {kind : UnitKind} {name : Token} {after : ScanState}
      (stands : state.Stands (first :: rest))
      (heading : unitHeading? (first :: rest) = some (kind, name))
      (opened : (state.recordDepth label state.depth).openUnit? (first :: rest) = some after) :
      Deed state label first rest (some (.opens ⟨first, .unit kind, name.text⟩)) after
  | opensProcedure {header : Statement.Header} {after : ScanState}
      (stands : state.Stands (first :: rest))
      (heading : header? (first :: rest) = some header)
      (opened : (state.recordDepth label state.depth).openProcedure? (first :: rest) =
        some after) :
      Deed state label first rest
        (some (.opens ⟨first, .procedure header.kind, header.name.text⟩)) after
  | opensInterface {block : Interface} {after : ScanState}
      (stands : state.Stands (first :: rest))
      (heading : interfaceHeading? (first :: rest) = some block)
      (opened : (state.recordDepth label state.depth).openInterface? (first :: rest) =
        some after) :
      Deed state label first rest
        (some (.opens ⟨block.token, .interface, block.name.getD ""⟩)) after
  | opensType {derivedType : DerivedType} {after : ScanState}
      (stands : state.Stands (first :: rest))
      (heading : typeHeading? (first :: rest) = some derivedType)
      (opened : (state.recordDepth label state.depth).openType? (first :: rest) = some after) :
      Deed state label first rest (some (.opens ⟨first, .derivedType, derivedType.name⟩)) after
  | opensConstruct {kind : ConstructKind} {after : ScanState}
      (stands : state.Stands (first :: rest))
      (heading : construct? (first :: rest) = some kind)
      (opened : (state.recordDepth label state.depth).openConstruct? (first :: rest) =
        some after) :
      Deed state label first rest (some (.opens ⟨first, .construct kind, kind.word⟩)) after
  | records (stands : state.Stands (first :: rest))
      (inside : state.innermost.all (·.isOrdinary) = true)
      (noUnit : unitHeading? (first :: rest) = none) (noProcedure : header? (first :: rest) = none)
      (noInterface : interfaceHeading? (first :: rest) = none)
      (noType : typeHeading? (first :: rest) = none)
      (noConstruct : construct? (first :: rest) = none) :
      Deed state label first rest none
        ((state.recordDepth label state.depth).recordPlain (first :: rest))

section Deeds

variable {state : ScanState} {label first : Token} {rest : List Token}

/-- Where statements of every sort may stand, the openers are tried one after the other. -/
theorem opened?_of_isOrdinary {innermost : Option BlockKind}
    (inside : innermost.all (·.isOrdinary) = true) :
    Statement.opened? innermost (first :: rest) =
      ((unitHeading? (first :: rest)).map (fun (kind, name) => ⟨first, .unit kind, name.text⟩)
        <|> (header? (first :: rest)).map
          (fun header => ⟨first, .procedure header.kind, header.name.text⟩)
        <|> (interfaceHeading? (first :: rest)).map
          (fun block => ⟨block.token, .interface, block.name.getD ""⟩)
        <|> (typeHeading? (first :: rest)).map
          (fun derivedType => ⟨first, .derivedType, derivedType.name⟩)
        <|> (construct? (first :: rest)).map
          (fun kind => ⟨first, .construct kind, kind.word⟩)) := by
  simp only [Statement.opened?]
  split
  · contradiction
  · contradiction
  · contradiction
  · rfl

theorem recordInside_of_innermost_isOrdinary (inside : state.innermost.all (·.isOrdinary) = true)
    (tokens : List Token) :
    state.recordInside tokens =
      (state.openUnit? tokens
        <|> state.openProcedure? tokens
        <|> state.openInterface? tokens
        <|> state.openType? tokens
        <|> state.openConstruct? tokens).getD (state.recordPlain tokens) := by
  rw [innermost] at inside
  unfold recordInside
  split
  · simp_all [BlockKind.isOrdinary]
  · simp_all [BlockKind.isOrdinary]
  · simp_all [BlockKind.isOrdinary]
  · rfl

/-- Where statements of every sort may stand, the first opening statement that fits
counts. -/
theorem deed_ordinary (stands : state.Stands (first :: rest))
    (inside : state.innermost.all (·.isOrdinary) = true) :
    Deed state label first rest
      ((Statement.opened? state.innermost (first :: rest)).map .opens)
      ((state.recordDepth label state.depth).recordInside (first :: rest)) := by
  have noted : (state.recordDepth label state.depth).innermost.all (·.isOrdinary) = true := inside
  rw [opened?_of_isOrdinary inside, recordInside_of_innermost_isOrdinary noted]
  cases noUnit : unitHeading? (first :: rest) with
  | some heading =>
    obtain ⟨kind, name⟩ := heading
    apply Deed.opensUnit stands noUnit
    simp [openUnit?, noUnit]
  | none =>
  cases noProcedure : header? (first :: rest) with
  | some header =>
    apply Deed.opensProcedure stands noProcedure
    simp [openUnit?, openProcedure?, noUnit, noProcedure]
  | none =>
  cases noInterface : interfaceHeading? (first :: rest) with
  | some block =>
    apply Deed.opensInterface stands noInterface
    simp [openUnit?, openProcedure?, openInterface?, noUnit, noProcedure, noInterface]
  | none =>
  cases noType : typeHeading? (first :: rest) with
  | some derivedType =>
    apply Deed.opensType stands noType
    simp [openUnit?, openProcedure?, openInterface?, openType?, noUnit, noProcedure,
      noInterface, noType]
  | none =>
  cases noConstruct : construct? (first :: rest) with
  | some kind =>
    apply Deed.opensConstruct stands noConstruct
    simp [openUnit?, openProcedure?, openInterface?, openType?, openConstruct?, noUnit,
      noProcedure, noInterface, noType, noConstruct]
  | none =>
    have plain : Deed state label first rest none _ :=
      .records stands inside noUnit noProcedure noInterface noType noConstruct
    simpa [openUnit?, openProcedure?, openInterface?, openType?, openConstruct?, noUnit,
      noProcedure, noInterface, noType, noConstruct] using plain

/-- Whatever a statement is read as, it does one of the things listed. -/
theorem deed_step (state : ScanState) (label : Token) (others : List Token)
    (unlabelled_eq : Statement.unlabelled (label :: others) = first :: rest) :
    Deed state label first rest (state.mark? (label :: others))
      (state.step (label :: others)) := by
  simp only [step, mark?, Statement.mark?, unlabelled_eq, ← innermost_eq]
  cases target : (assignmentTarget? (first :: rest)).isSome with
  | true => exact .executes target
  | false =>
  cases closes : closer? (first :: rest) with
  | some closer => exact .closes target closes _
  | none =>
  have inside_eq : state.frames.head?.map Frame.kind = state.innermost := rfl
  simp only [inside_eq]
  cases divides : state.innermost.any (isDivider · (first :: rest)) with
  | true =>
    cases isContains : first.isWord "contains" with
    | true => exact .contains target divides isContains
    | false => exact .divides target divides isContains
  | false =>
  have stands : state.Stands (first :: rest) := ⟨target, closes, divides⟩
  by_cases inside : state.innermost.all (·.isOrdinary) = true
  · exact deed_ordinary stands inside
  · have noted_eq : (state.recordDepth label state.depth).frames.head?.map Frame.kind =
        state.innermost := rfl
    simp only [recordInside, noted_eq, Statement.opened?]
    generalize kind_eq : state.innermost = innermost at inside
    rcases innermost with _ | kind | kind | _ | _ | kind
    case none => exact absurd rfl inside
    case unit => exact absurd rfl inside
    case procedure => exact absurd rfl inside
    case interface =>
      cases heading : header? (first :: rest) with
      | some header =>
        apply Deed.opensProcedure stands heading
        simp [openProcedure?, heading]
      | none =>
        have member : Deed state label first rest none _ := .member stands kind_eq
        simpa [openProcedure?, heading] using member
    case derivedType => exact .component stands kind_eq
    case construct =>
      cases kind
      case enumeration => exact .enumerates stands kind_eq
      all_goals exact absurd rfl inside

/-- A label that stands alone does nothing. -/
theorem step_of_unlabelled_eq_nil {statement : List Token}
    (bare : Statement.unlabelled statement = []) : state.step statement = state := by
  unfold step
  rw [bare]
  split
  · contradiction
  · rfl

end Deeds

/-! ## Closing -/

section Closing

variable {P : ScanState → Prop} {state : ScanState}
  (closes : ∀ state line, P state → P (state.closeTop line))
  (reports : ∀ state cause token, P state → P (state.report cause token))

include closes reports

theorem closeAbove_of (holds : P state) (line count : Nat) : P (state.closeAbove line count) := by
  induction count generalizing state with
  | zero => exact holds
  | succ count ih =>
    unfold closeAbove
    split
    · exact holds
    · exact ih (closes _ _ (reports _ _ _ holds))

/-- What closing one block and reporting an error keep, the end of a source keeps. -/
theorem closeAll_of (holds : P state) (lastLine count : Nat) :
    P (state.closeAll lastLine count) := by
  induction count generalizing state with
  | zero => exact holds
  | succ count ih =>
    unfold closeAll
    split
    · exact holds
    · exact ih (closes _ _ (reports _ _ _ holds))

/-- What closing one block and reporting an error keep, a closing statement keeps. -/
theorem close_of (holds : P state) (closer : Statement.Closer) (first last : Token) :
    P (state.close closer first last) := by
  unfold close
  split
  · exact reports _ _ _ holds
  · rename_i count _
    have above := closeAbove_of closes reports holds first.line count
    dsimp only
    generalize state.closeAbove first.line count = closing at above ⊢
    apply closes
    split
    · exact above
    · split
      · exact reports _ _ _ above
      · exact above

end Closing

end ScanState

end FortranStyle
