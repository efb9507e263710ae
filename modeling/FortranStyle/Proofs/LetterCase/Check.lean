import FortranStyle.Proofs.LetterCase.Rule

/-!
# Checking and letter case

Checking is blind to the case of ASCII letters.  Two lists of lines that are equal
once their letters are small give diagnostics that agree one by one in everything
but the message.
-/

namespace FortranStyle

/-- A diagnostic without its message, which quotes the source. -/
def Diagnostic.withoutMessage (diagnostic : Diagnostic) : Diagnostic :=
  { diagnostic with message := "" }

namespace LetterCase

open Transcription (lowering)

/-- Messages do not count in the order of diagnostics. -/
theorem withoutMessage_sort (diagnostics : List Diagnostic) :
    (Diagnostic.sort diagnostics).map Diagnostic.withoutMessage =
      Diagnostic.sort (diagnostics.map Diagnostic.withoutMessage) :=
  List.map_mergeSort fun _ _ _ _ => rfl

theorem withoutMessage_asPartial (diagnostic : Diagnostic) :
    diagnostic.asPartial.withoutMessage =
      { diagnostic.withoutMessage with isPartial := true } := by
  rw [Diagnostic.asPartial]
  split
  · rename_i already
    rw [Diagnostic.withoutMessage, already]
  · rfl

variable (source : Source)

theorem isPartial_lowerSource :
    (lowerSource source).outline.isPartial = source.outline.isPartial := by
  simp [Outline.isPartial, outline_lowerSource, Transcription.outline]

theorem check_lowered (rule : Rule) (options : Options) :
    (rule.check (lowerSource source) options).map Diagnostic.withoutMessage =
      (rule.check source options).map Diagnostic.withoutMessage := by
  have placed (findings : List Finding) :
      (findings.map (·.diagnostic rule source.path)).map Diagnostic.withoutMessage =
        (findings.map place).map fun place => rule.diagnostic source.path place.1 place.2 "" := by
    rw [List.map_map, List.map_map]
    rfl
  have path_eq : (lowerSource source).path = source.path := rfl
  rw [Rule.check, Rule.check, path_eq, placed, placed, findings_lowered source options rule]

theorem judge_lowered (settings : Settings) (rule : Rule) :
    ((lowerSource source).judge settings rule).map Diagnostic.withoutMessage =
      (source.judge settings rule).map Diagnostic.withoutMessage := by
  let shown (diagnostic : Diagnostic) : Diagnostic :=
    let diagnostic := diagnostic.withSeverity (settings.severity rule)
    if rule.needsStructure && source.outline.isPartial then diagnostic.asPartial else diagnostic
  let mark (diagnostic : Diagnostic) : Diagnostic :=
    let diagnostic := diagnostic.withSeverity (settings.severity rule)
    if rule.needsStructure && source.outline.isPartial then
      { diagnostic with isPartial := true }
    else
      diagnostic
  have shown_eq (diagnostics : List Diagnostic) :
      (diagnostics.map shown).map Diagnostic.withoutMessage =
        (diagnostics.map Diagnostic.withoutMessage).map mark := by
    rw [List.map_map, List.map_map]
    congr 1
    funext diagnostic
    simp only [shown, mark, Function.comp_apply]
    split
    · exact withoutMessage_asPartial _
    · rfl
  rw [Source.judge, Source.judge, isPartial_lowerSource]
  split
  · calc
      _ = (((rule.check (lowerSource source) settings.options).map
            Diagnostic.withoutMessage).map mark) := shown_eq _
      _ = ((rule.check source settings.options).map Diagnostic.withoutMessage).map mark := by
        rw [check_lowered]
      _ = _ := (shown_eq _).symm
  · rfl

/-- Lowering the lines of a file changes nothing but messages. -/
theorem checkLines_toLower (path : String) (lines : List String) (settings : Settings) :
    (checkLines path (lines.map String.toLower) settings).map Diagnostic.withoutMessage =
      (checkLines path lines settings).map Diagnostic.withoutMessage := by
  simp only [checkLines, Source.check, ofLines_lowered, withoutMessage_sort, List.map_flatMap,
    judge_lowered]

/-- Lines that differ in the case of ASCII letters alone give diagnostics that
differ in their messages alone. -/
theorem withoutMessage_checkLines (path : String) (settings : Settings)
    {lines lines' : List String} (same : lines.map String.toLower = lines'.map String.toLower) :
    (checkLines path lines settings).map Diagnostic.withoutMessage =
      (checkLines path lines' settings).map Diagnostic.withoutMessage := by
  rw [← checkLines_toLower, same, checkLines_toLower]

theorem withoutMessage_checkLines_module :
    (checkLines "a.f90" ["MODULE Heat", "Real*8 :: X = 1.0D0 ! A", "end Module hEAT"]
        .default).map Diagnostic.withoutMessage =
      (checkLines "a.f90" ["module heat", "REAL*8 :: x = 1.0d0 ! a", "End mODULE Heat"]
        .default).map Diagnostic.withoutMessage := by
  apply withoutMessage_checkLines "a.f90" .default
  rw [← List.map_inj_right fun _ _ => String.toList_inj.mp]
  simp only [List.map_cons, List.map_nil, toList_toLower]
  decide +kernel

end LetterCase

end FortranStyle
