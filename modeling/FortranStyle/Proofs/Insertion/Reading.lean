import FortranStyle.Proofs.Insertion.Blocks
import FortranStyle.Proofs.Reading.Relocation
import FortranStyle.Proofs.Reading.StatementEnd

/-!
# Inserting silent lines

A silent line adds no token to a statement, raises no error and leaves pending
what was pending.  So a source with silent lines inserted reads like the source,
each of its lines at its new number: also where lines are inserted between a line
and its continuation, and at the end of a source that is still open there.

A source and the source with the insertions are compared without their silent
tokens, since the inserted comments are tokens too.
-/

namespace FortranStyle

/-! ## New numbers -/

namespace Relocation

/-- Give every line a new number. -/
def renumber (number : Nat → Nat) : Relocation where
  place line column := (number line, column)
  quoted := number

variable (number : Nat → Nat)

theorem carries_renumber (line column : Nat) :
    (renumber number).Carries line column (number line) column :=
  fun _ => rfl

/-- Whatever a line leaves open gets new numbers with it. -/
theorem fits_renumber (rest : Suspended) : (renumber number).Fits rest where
  marker := carries_renumber number rest.line rest.column
  literal _ _ := rfl

end Relocation

/-! ## Silent tokens -/

namespace Tokenized

/-- A part without its silent tokens. -/
def Part.loud (part : Part) : Part :=
  { part with tokens := part.tokens.filter fun token => !token.kind.isSilent }

theorem Part.loud_append (first second : Part) :
    (first ++ second).loud = first.loud ++ second.loud := by
  change Part.mk _ _ _ = Part.mk _ _ _
  rw [tokens_append, List.filter_append]
  rfl

/-- Parts that are alike without their silent tokens have the same statements. -/
theorem statementsOf_eq_of_loud {part part' : Part} (same : part.loud = part'.loud) :
    statementsOf part.tokens = statementsOf part'.tokens := by
  have tokens_eq : part.tokens.filter (fun token => !token.kind.isSilent) =
      part'.tokens.filter fun token => !token.kind.isSilent := congrArg Part.tokens same
  rw [statementsOf, tokens_eq, statementsOf]

/-- A silent line adds nothing to the statements and leaves pending what was
pending. -/
theorem loud_linePart {cs : List Char} (silent : Line.isSilent cs = true) (line : Nat)
    (pending : Option Suspended) :
    (linePart line pending cs).loud = ⟨[], [], []⟩ ∧
      (Line.read line pending cs).2.pending = pending := by
  have read_eq : Line.read line pending cs = _ := Line.read_of_isSilent silent pending
  have tokens_eq :
      (Line.read line pending cs).1.filter (fun token => !token.kind.isSilent) = [] := by
    rw [read_eq]
    dsimp only
    split <;> rfl
  have ending_eq : (Line.read line pending cs).2 = .unchanged pending := congrArg Prod.snd read_eq
  have errors_eq : (Line.read line pending cs).2.errors = [] := by
    rw [ending_eq]
    cases pending <;> rfl
  constructor
  · simp [Part.loud, linePart, tokens_eq, errors_eq, silent]
  · rw [ending_eq]
    cases pending <;> rfl

theorem loud_linesPart {texts : List (List Char)}
    (silent : ∀ cs ∈ texts, Line.isSilent cs = true) (line : Nat) (pending : Option Suspended) :
    (linesPart line pending texts).loud = ⟨[], [], []⟩ ∧
      pendingBehind line pending texts = pending := by
  induction texts generalizing line with
  | nil => exact ⟨rfl, rfl⟩
  | cons cs rest ih =>
    rw [List.forall_mem_cons] at silent
    obtain ⟨here, pending_eq⟩ := loud_linePart silent.1 line pending
    obtain ⟨later, behind_eq⟩ := ih silent.2 (line + 1)
    rw [linesPart, pendingBehind, pending_eq, Part.loud_append, here, later]
    exact ⟨rfl, behind_eq⟩

/-- Silent lines above other lines do not matter to them. -/
theorem loud_readLines_append {first : List (List Char)}
    (silent : ∀ cs ∈ first, Line.isSilent cs = true) (line : Nat) (pending : Option Suspended)
    (second : List (List Char)) :
    (readLines line pending (first ++ second)).loud =
      (readLines (line + first.length) pending second).loud := by
  obtain ⟨nothing, pending_eq⟩ := loud_linesPart silent line pending
  rw [readLines_append, Part.loud_append, nothing, pending_eq]
  rfl

/-! ## Insertions -/

/-- Lines among which silent lines are inserted read like the lines at their new
numbers, whatever is pending in front of them. -/
theorem loud_readLines_insertBlocks {blocks : Nat → List (List Char)}
    (silent : ∀ n, ∀ cs ∈ blocks n, Line.isSilent cs = true) (n : Nat)
    (pending : Option Suspended) (texts : List (List Char)) :
    (readLines (renumber blocks n + 1)
        (pending.map (Relocation.renumber (renumber blocks)).suspended)
        (insertBlocks blocks n texts)).loud =
      ((Relocation.renumber (renumber blocks)).part (readLines (n + 1) pending texts)).loud := by
  induction texts generalizing n pending with
  | nil =>
    have whole := loud_readLines_append (silent n) (renumber blocks n + 1)
      (pending.map (Relocation.renumber (renumber blocks)).suspended) []
    rw [List.append_nil] at whole
    rw [insertBlocks, whole, readLines, readLines,
      Relocation.part_danglingPart fun rest _ => Relocation.fits_renumber _ rest]
  | cons cs rest ih =>
    have carries := Relocation.carries_renumber (renumber blocks) (n + 1) 1
    have fits : ∀ rest ∈ pending, (Relocation.renumber (renumber blocks)).Fits rest :=
      fun rest _ => Relocation.fits_renumber _ rest
    have number_eq : renumber blocks n + 1 + (blocks n).length = renumber blocks (n + 1) :=
      Nat.add_right_comm ..
    rw [insertBlocks, loud_readLines_append (silent n), number_eq, readLines, readLines,
      Part.loud_append, Relocation.part_append, Part.loud_append, ← ih,
      carries.part_linePart rfl fits cs, carries.pending_read rfl fits cs]

/-- A source with silent lines inserted has the statements of the source, its
errors and its continued lines, at their new numbers. -/
theorem ofLines_insertBlocks {blocks : Nat → List String}
    (silent : ∀ n, ∀ line ∈ blocks n, Line.isSilent (lineText line) = true)
    (source : List String) :
    (ofLines (insertBlocks blocks 0 source)).statements =
        (ofLines source).statements.map
          (List.map (Relocation.renumber (renumber blocks)).token) ∧
      (ofLines (insertBlocks blocks 0 source)).continuedLines =
        (ofLines source).continuedLines.map (renumber blocks) ∧
      (ofLines (insertBlocks blocks 0 source)).errors =
        (ofLines source).errors.map (Relocation.renumber (renumber blocks)).error := by
  have texts_eq : (insertBlocks blocks 0 source).map lineText =
      insertBlocks (fun n => (blocks n).map lineText) 0 (source.map lineText) :=
    map_insertBlocks lineText blocks 0 source
  have silent' : ∀ n, ∀ cs ∈ (blocks n).map lineText, Line.isSilent cs = true := by
    simpa using silent
  have same := loud_readLines_insertBlocks silent' 0 none (source.map lineText)
  rw [renumber_map, ← texts_eq] at same
  refine ⟨?_, congrArg Part.continuedLines same, congrArg Part.errors same⟩
  exact (statementsOf_eq_of_loud same).trans
    (statementsOf_map (f := (Relocation.renumber (renumber blocks)).token) (fun _ => rfl) _)

end Tokenized

end FortranStyle
