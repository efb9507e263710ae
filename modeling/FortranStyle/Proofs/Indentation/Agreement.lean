import FortranStyle.Proofs.Indentation.Margin
import FortranStyle.Proofs.Indentation.Trailing
import FortranStyle.Proofs.Transcription.Scan
import Mathlib.Data.List.Forall2

/-!
# Sources that differ in blanks

Two sources whose lines agree but for leading and trailing spaces and tabs have the
same statements, shifted line by line; they have the same errors, and the same
depths of lines.  Both are compared with the source that has no such blanks at
all: its statements, shifted by the margins of a source, are those of the source.
-/

namespace FortranStyle

/-- A text without spaces and tabs at its ends. -/
def Text.core (cs : List Char) : List Char :=
  Text.dropEndWhile Text.isGap (cs.dropWhile Text.isGap)

/-- The copy in which every line is shifted to the right. -/
def Transcription.shift (width : Nat → Nat) : Transcription where
  char := id
  line := id
  column line column := column + width line
  isAlpha_char _ := rfl
  char_of_not_isAlpha _ _ := rfl
  lower_copy text := by rw [List.map_id, String.ofList_toList]
  copy_lower text := List.map_id _
  line_zero := Eq.refl 0

namespace Transcription

variable (width : Nat → Nat)

@[simp]
theorem text_shift (text : String) : (shift width).text text = text := by
  rw [Transcription.text, shift, List.map_id, String.ofList_toList]

theorem token_shift (token : Token) :
    (shift width).token token = (Relocation.shift width).token token := by
  rw [Transcription.token, text_shift]
  rfl

@[simp]
theorem line_shift (line : Nat) : (shift width).line line = line :=
  rfl

@[simp]
theorem cause_shift (cause : StructuralCause) : (shift width).cause cause = cause := by
  have named (kind : BlockKind) (name : String) : (shift width).blockName kind name = name := by
    cases kind <;> simp [blockName]
  cases cause <;> simp [Transcription.cause, named]

end Transcription

namespace Indentation

open Tokenized (lineText)

/-! ## Cores -/

/-- The tokens of lines are those of the lines without their leading gaps, shifted
by the margins. -/
theorem part_margin (lines : List (List Char)) :
    (Relocation.shift (margin lines)).part
        (Tokenized.readLines 1 none (lines.map (List.dropWhile Text.isGap))) =
      Tokenized.readLines 1 none lines :=
  Relocation.part_shift (fun _ => margin_succ) none

/-- Without their trailing gaps, too, lines have the same code. -/
theorem sameCode_core (lines : List (List Char)) :
    (Tokenized.readLines 1 none (lines.map (List.dropWhile Text.isGap))).SameCode
      (Tokenized.readLines 1 none (lines.map Text.core)) := by
  have same := Tokenized.sameCode_readLines (Tokenized.nothingAbove 1)
    (lines.map (List.dropWhile Text.isGap))
  rwa [List.map_map] at same

/-- The statements of lines are those of their cores, shifted by the margins. -/
theorem statementsOf_core (lines : List (List Char)) :
    Tokenized.statementsOf (Tokenized.readLines 1 none lines).tokens =
      (Tokenized.statementsOf (Tokenized.readLines 1 none (lines.map Text.core)).tokens).map
        (List.map (Transcription.shift (margin lines)).token) := by
  have shifted : (Relocation.shift (margin lines)).token =
      (Transcription.shift (margin lines)).token :=
    funext fun token => (Transcription.token_shift _ token).symm
  rw [← part_margin, ← Tokenized.statementsOf_congr (sameCode_core lines).code,
    ← Transcription.statementsOf_tokens, ← shifted]
  rfl

/-- The errors of lines are those of their cores, shifted by the margins. -/
theorem errors_core (lines : List (List Char)) :
    (Tokenized.readLines 1 none lines).errors =
      (Tokenized.readLines 1 none (lines.map Text.core)).errors.map
        (Relocation.shift (margin lines)).error := by
  rw [← part_margin, ← (sameCode_core lines).errors]
  rfl

/-- The outline of a source is that of the cores of its lines, shifted by the
margins. -/
theorem outline_core (source : List String) :
    Outline.ofTokenized (.ofLines source) =
      (Transcription.shift (margin (source.map lineText))).outline
        (.ofStatements source.length
          (Tokenized.statementsOf
            (Tokenized.readLines 1 none ((source.map lineText).map Text.core)).tokens)) := by
  have counted : (Tokenized.ofLines source).lines.length = source.length := by
    simp [Tokenized.ofLines]
  rw [← Transcription.ofStatements_tokens _ fun _ => rfl, ← statementsOf_core, Outline.ofTokenized,
    counted, Tokenized.statements, (Tokenized.ofLines_eq source).1]

/-! ## Agreement -/

/-- Tokens that differ in their columns alone, and there by the difference of the
margins of their lines. -/
structure Shifted (width width' : Nat → Nat) (token token' : Token) : Prop where
  kind : token.kind = token'.kind
  text : token.text = token'.text
  line : token.line = token'.line
  endLine : token.endLine = token'.endLine
  column : token.column + width' token.line = token'.column + width token.line
  endColumn : token.endColumn + width' token.endLine = token'.endColumn + width token.endLine

/-- What sources have in common that agree but for blanks at the ends of their
lines. -/
structure Agree (source source' : List String) : Prop where
  /-- The statements are the same, but for the margins. -/
  statements : List.Forall₂
    (List.Forall₂ (Shifted (margin (source.map lineText)) (margin (source'.map lineText))))
    (Tokenized.ofLines source).statements (Tokenized.ofLines source').statements
  /-- The same lines cannot be read, for the same causes. -/
  errors : (Tokenized.ofLines source).errors.map (fun error => (error.line, error.cause)) =
    (Tokenized.ofLines source').errors.map fun error => (error.line, error.cause)
  /-- The lines have the same depths. -/
  lineDepths : (Outline.ofTokenized (.ofLines source)).lineDepths =
    (Outline.ofTokenized (.ofLines source')).lineDepths
  /-- The same blocks do not pair up, on the same lines. -/
  structuralErrors :
    (Outline.ofTokenized (.ofLines source)).errors.map (fun error => (error.line, error.cause)) =
      (Outline.ofTokenized (.ofLines source')).errors.map fun error => (error.line, error.cause)

theorem shifted_token (width width' : Nat → Nat) (token : Token) :
    Shifted width width' ((Transcription.shift width).token token)
      ((Transcription.shift width').token token) where
  kind := rfl
  text := rfl
  line := rfl
  endLine := rfl
  column := Nat.add_right_comm ..
  endColumn := Nat.add_right_comm ..

theorem forall₂_shifted (width width' : Nat → Nat) (statements : List (List Token)) :
    List.Forall₂ (List.Forall₂ (Shifted width width'))
      (statements.map (List.map (Transcription.shift width).token))
      (statements.map (List.map (Transcription.shift width').token)) := by
  rw [List.forall₂_map_left_iff, List.forall₂_map_right_iff, List.forall₂_same]
  intro statement _
  rw [List.forall₂_map_left_iff, List.forall₂_map_right_iff, List.forall₂_same]
  exact fun token _ => shifted_token width width' token

theorem lexErrors_shift (width : Nat → Nat) (errors : List LexError) :
    (errors.map (Relocation.shift width).error).map (fun error => (error.line, error.cause)) =
      errors.map fun error => (error.line, error.cause) := by
  have kept (cause : LexCause) : (Relocation.shift width).cause cause = cause := by
    cases cause <;> rfl
  simp only [List.map_map, Function.comp_def, Relocation.error, kept]
  rfl

theorem structuralErrors_shift (width : Nat → Nat) (errors : List StructuralError) :
    (errors.map (Transcription.shift width).structuralError).map
        (fun error => (error.line, error.cause)) =
      errors.map fun error => (error.line, error.cause) := by
  simp [Transcription.structuralError]

/-- Sources agree when their lines have the same cores. -/
theorem agree_of_core {source source' : List String}
    (same : (source.map lineText).map Text.core = (source'.map lineText).map Text.core) :
    Agree source source' := by
  have count_eq : source.length = source'.length := by
    simpa using congrArg List.length same
  constructor
  · rw [Tokenized.statements, Tokenized.statements, (Tokenized.ofLines_eq source).1,
      (Tokenized.ofLines_eq source').1, statementsOf_core (source.map lineText),
      statementsOf_core (source'.map lineText), same]
    exact forall₂_shifted ..
  · rw [(Tokenized.ofLines_eq source).2, (Tokenized.ofLines_eq source').2,
      errors_core (source.map lineText), errors_core (source'.map lineText), same,
      lexErrors_shift, lexErrors_shift]
  · rw [outline_core, outline_core, same, count_eq]
    rfl
  · simp only [outline_core, same, count_eq, Transcription.outline, structuralErrors_shift]

end Indentation

end FortranStyle
