import FortranStyle.Proofs.Reading.Line
import Mathlib.Data.List.Induction

/-!
# Successive lines

All that the reading of a line hands on to the next line is what is pending
there.  So lines split at every place: what they read as is what the lines in
front read as, and then what the lines behind read as, given what is pending
between them.  Only the end of the source adds to that.

Something is pending at the end of a source exactly when the source reports that
a marker has nothing to continue onto.  A line that fails leaves nothing pending,
whatever was open in it.
-/

namespace FortranStyle.Tokenized

/-! ## Lines without the end of the source -/

/-- What is pending behind some lines. -/
def pendingBehind (line : Nat) (pending : Option Suspended) :
    List (List Char) → Option Suspended
  | [] => pending
  | cs :: rest => pendingBehind (line + 1) (Line.read line pending cs).2.pending rest

/-- The tokens and errors of some lines, without an error at their end. -/
def linesPart (line : Nat) (pending : Option Suspended) : List (List Char) → Part
  | [] => ⟨[], [], []⟩
  | cs :: rest =>
      linePart line pending cs ++
        linesPart (line + 1) (Line.read line pending cs).2.pending rest

theorem Part.tokens_append (first second : Part) :
    (first ++ second).tokens = first.tokens ++ second.tokens :=
  rfl

theorem Part.errors_append (first second : Part) :
    (first ++ second).errors = first.errors ++ second.errors :=
  rfl

theorem Part.append_assoc (first second third : Part) :
    first ++ second ++ third = first ++ (second ++ third) := by
  change (first.append second).append third = first.append (second.append third)
  simp [Part.append]

theorem Part.append_empty (part : Part) : part ++ (⟨[], [], []⟩ : Part) = part := by
  change part.append ⟨[], [], []⟩ = part
  simp [Part.append]

/-- A source is its lines and then what its end says. -/
theorem readLines_eq (line : Nat) (pending : Option Suspended) (lines : List (List Char)) :
    readLines line pending lines =
      linesPart line pending lines ++ danglingPart (pendingBehind line pending lines) := by
  induction lines generalizing line pending with
  | nil => rfl
  | cons cs rest ih =>
    rw [readLines, linesPart, pendingBehind, ih, Part.append_assoc]

theorem pendingBehind_append (line : Nat) (pending : Option Suspended)
    (first second : List (List Char)) :
    pendingBehind line pending (first ++ second) =
      pendingBehind (line + first.length) (pendingBehind line pending first) second := by
  induction first generalizing line pending with
  | nil => rfl
  | cons cs rest ih =>
    rw [List.cons_append, pendingBehind, pendingBehind, ih, List.length_cons, Nat.add_assoc,
      Nat.add_comm 1]

theorem linesPart_append (line : Nat) (pending : Option Suspended)
    (first second : List (List Char)) :
    linesPart line pending (first ++ second) =
      linesPart line pending first ++
        linesPart (line + first.length) (pendingBehind line pending first) second := by
  induction first generalizing line pending with
  | nil => rfl
  | cons cs rest ih =>
    rw [List.cons_append, linesPart, linesPart, pendingBehind, ih, Part.append_assoc,
      List.length_cons, Nat.add_assoc, Nat.add_comm 1]

/-- Lines below other lines start with what is pending behind those. -/
theorem readLines_append (line : Nat) (pending : Option Suspended)
    (first second : List (List Char)) :
    readLines line pending (first ++ second) =
      linesPart line pending first ++
        readLines (line + first.length) (pendingBehind line pending first) second := by
  rw [readLines_eq, readLines_eq, linesPart_append, pendingBehind_append, Part.append_assoc]

/-! ## Errors and what is pending -/

/-- The errors of some lines stand on them and are not that of the end of a
source. -/
theorem error_of_mem_linesPart {line : Nat} {pending : Option Suspended}
    {lines : List (List Char)} {error : LexError}
    (member : error ∈ (linesPart line pending lines).errors) :
    error.line < line + lines.length ∧ error.cause ≠ .nothingToContinue := by
  induction lines generalizing line pending with
  | nil => simp [linesPart] at member
  | cons cs rest ih =>
    rw [linesPart, Part.errors_append, List.mem_append] at member
    rw [List.length_cons]
    rcases member with here | later
    · obtain ⟨line_eq, cause_ne⟩ := Line.isErrorOf_read line pending cs error here
      exact ⟨by omega, cause_ne⟩
    · obtain ⟨line_lt, cause_ne⟩ := ih later
      exact ⟨by omega, cause_ne⟩

/-- Something is pending at the end of a source exactly when its marker is
reported. -/
theorem pendingBehind_eq_none_iff {lines : List (List Char)} :
    pendingBehind 1 none lines = none ↔
      ∀ error ∈ (readLines 1 none lines).errors, error.cause ≠ .nothingToContinue := by
  rw [readLines_eq, Part.errors_append]
  constructor
  · intro settled error member
    rw [settled] at member
    simp only [danglingPart, List.append_nil] at member
    exact (error_of_mem_linesPart member).2
  · intro unreported
    cases pending_eq : pendingBehind 1 none lines with
    | none => rfl
    | some rest =>
      rw [pending_eq] at unreported
      exact absurd rfl (unreported ⟨.nothingToContinue, rest.line, rest.column⟩
        (by simp [danglingPart]))

/-- A last line that fails leaves nothing pending. -/
theorem pendingBehind_of_failed {lines : List (List Char)} {error : LexError}
    (member : error ∈ (readLines 1 none lines).errors) (last : error.line = lines.length)
    (raised : error.cause ≠ .nothingToContinue) : pendingBehind 1 none lines = none := by
  rw [readLines_eq, Part.errors_append, List.mem_append] at member
  have inLines : error ∈ (linesPart 1 none lines).errors := by
    rcases member with here | dangling
    · exact here
    · cases pending_eq : pendingBehind 1 none lines with
      | none => simp [pending_eq, danglingPart] at dangling
      | some rest =>
        simp only [pending_eq, danglingPart, List.mem_singleton] at dangling
        exact absurd (congrArg LexError.cause dangling) raised
  cases lines using List.reverseRecOn with
  | nil => simp [linesPart] at inLines
  | append_singleton init cs =>
    rw [linesPart_append, Part.errors_append, List.mem_append] at inLines
    rw [pendingBehind_append]
    rcases inLines with earlier | here
    · have line_lt := (error_of_mem_linesPart earlier).1
      rw [List.length_append, List.length_singleton] at last
      omega
    · simp only [linesPart, Part.errors_append, List.append_nil, linePart] at here
      simp only [pendingBehind]
      revert here
      cases (Line.read (1 + init.length) (pendingBehind 1 none init) cs).2 with
      | complete => simp [LineEnd.pending]
      | suspended rest => simp [LineEnd.errors]
      | failed error => simp [LineEnd.pending]

/-! ## Texts of lines -/

/-- The characters of a line, without its line end. -/
def lineText (line : String) : List Char :=
  Text.dropEndWhile Text.isLineEnd line.toList

theorem lineText_append (front back : List Char) :
    lineText (String.ofList (front ++ back)) =
      if Text.dropEndWhile Text.isLineEnd back = [] then Text.dropEndWhile Text.isLineEnd front
      else front ++ Text.dropEndWhile Text.isLineEnd back := by
  unfold lineText Text.dropEndWhile
  rw [String.toList_ofList, List.reverse_append, List.dropWhile_append]
  cases dropped : back.reverse.dropWhile Text.isLineEnd with
  | nil => simp
  | cons c rest => simp

/-- The lines of a source read as their texts. -/
theorem ofLines_eq (source : List String) :
    (ofLines source).tokens = (readLines 1 none (source.map lineText)).tokens ∧
      (ofLines source).errors = (readLines 1 none (source.map lineText)).errors :=
  ⟨rfl, rfl⟩

end FortranStyle.Tokenized
