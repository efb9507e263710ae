import FortranStyle.Proofs.Transcription.Scan

/-!
# Copies that keep every character

A copy may move places and write every character for itself.  Then it keeps all
texts, the names of blocks among them, and changes lines and columns alone.
-/

namespace FortranStyle.Transcription

/-- The copy that keeps every character and moves the places. -/
def moving (line : Nat → Nat) (column : Nat → Nat → Nat) (line_zero : line 0 = 0) :
    Transcription where
  char c := c
  line := line
  column := column
  isAlpha_char _ := rfl
  char_of_not_isAlpha _ _ := rfl
  lower_copy text := by rw [List.map_id', String.ofList_toList]
  copy_lower text := List.map_id' _
  line_zero := line_zero

variable {line : Nat → Nat} {column : Nat → Nat → Nat} {line_zero : line 0 = 0}

@[simp]
theorem line_moving (number : Nat) : (moving line column line_zero).line number = line number :=
  rfl

@[simp]
theorem column_moving (number place : Nat) :
    (moving line column line_zero).column number place = column number place :=
  rfl

@[simp]
theorem text_moving (text : String) : (moving line column line_zero).text text = text := by
  rw [Transcription.text, moving, List.map_id', String.ofList_toList]

@[simp]
theorem blockName_moving (kind : BlockKind) (name : String) :
    (moving line column line_zero).blockName kind name = name := by
  cases kind <;> simp [blockName]

end FortranStyle.Transcription
