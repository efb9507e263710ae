import FortranStyle.Proofs.Indentation.Agreement
import FortranStyle.Proofs.Sorting.Setting

/-!
# Indenting by depth

A source can be indented as the rule of indentation wants it: the leading gap of
every line that has a depth is replaced by two spaces for each level.  That changes
nothing but blanks, so the depths stay as they are; the rule finds nothing any
more, and indenting again changes nothing.
-/

namespace FortranStyle

/-! ## One line -/

namespace Text

/-- A line with two spaces for each level instead of its leading gap. -/
def indented (depth : Nat) (cs : List Char) : List Char :=
  List.replicate (2 * depth) ' ' ++ cs.dropWhile isGap

theorem dropWhile_isGap_append {gaps : List Char} (onlyGaps : ∀ c ∈ gaps, isGap c = true)
    (cs : List Char) : (gaps ++ cs).dropWhile isGap = cs.dropWhile isGap :=
  List.dropWhile_append_of_pos onlyGaps

theorem isGap_of_mem_replicate {count : Nat} : ∀ c ∈ List.replicate count ' ', isGap c = true := by
  intro c member
  rw [List.eq_of_mem_replicate member]
  decide

theorem dropWhile_indented (depth : Nat) (cs : List Char) :
    (indented depth cs).dropWhile isGap = cs.dropWhile isGap := by
  rw [indented, dropWhile_isGap_append isGap_of_mem_replicate, List.dropWhile_idempotent]

@[simp]
theorem core_indented (depth : Nat) (cs : List Char) : core (indented depth cs) = core cs := by
  rw [core, dropWhile_indented, core]

@[simp]
theorem indented_indented (depth depth' : Nat) (cs : List Char) :
    indented depth (indented depth' cs) = indented depth cs := by
  rw [indented, dropWhile_indented, indented]

/-- The width of the indentation of an indented line is the one it was given. -/
theorem indentWidth?_indented (depth : Nat) (cs : List Char) :
    indentWidth? (indented depth cs) = some (2 * depth) := by
  have body : indentWidth? (cs.dropWhile isGap) = some 0 := by
    cases dropped : cs.dropWhile isGap with
    | nil => rfl
    | cons c rest =>
      have first := List.head?_dropWhile_not isGap cs
      rw [dropped] at first
      have noGap : isGap c = false := first
      simp only [isGap, Bool.or_eq_false_iff, beq_eq_false_iff_ne] at noGap
      rw [indentWidth?, if_neg noGap.1, if_neg noGap.2]
  rw [indented]
  induction 2 * depth with
  | zero => exact body
  | succ count ih => rw [List.replicate_succ, List.cons_append, indentWidth?, if_pos rfl, ih]; rfl

theorem dropEndWhile_append_of_neg {p : Char → Bool} {front : List Char}
    (kept : ∀ c ∈ front, p c = false) (back : List Char) :
    dropEndWhile p (front ++ back) = front ++ dropEndWhile p back := by
  induction front with
  | nil => rfl
  | cons c front ih =>
    rw [List.forall_mem_cons] at kept
    rw [List.cons_append, Line.dropEndWhile_cons kept.1, ih kept.2, List.cons_append]

theorem isLineEnd_eq_false_of_isGap {c : Char} (gap : isGap c = true) : isLineEnd c = false := by
  simp only [isGap, Bool.or_eq_true, beq_iff_eq] at gap
  rcases gap with rfl | rfl <;> decide

/-- A leading gap and a line end are taken off in either order. -/
theorem dropWhile_dropEndWhile (cs : List Char) :
    (dropEndWhile isLineEnd cs).dropWhile isGap = dropEndWhile isLineEnd (cs.dropWhile isGap) := by
  induction cs with
  | nil => rfl
  | cons c rest ih =>
    by_cases gap : isGap c = true
    · rw [Line.dropEndWhile_cons (isLineEnd_eq_false_of_isGap gap), List.dropWhile_cons_of_pos gap,
        List.dropWhile_cons_of_pos gap, ih]
    · rw [List.dropWhile_cons_of_neg gap]
      obtain ⟨after, whole⟩ := dropEndWhile_prefix isLineEnd (c :: rest)
      cases dropped : dropEndWhile isLineEnd (c :: rest) with
      | nil => rfl
      | cons d front =>
        rw [dropped, List.cons_append] at whole
        rw [(List.cons.inj whole).1, List.dropWhile_cons_of_neg gap]

theorem dropEndWhile_indented (depth : Nat) (cs : List Char) :
    dropEndWhile isLineEnd (indented depth cs) =
      indented depth (dropEndWhile isLineEnd cs) := by
  have kept : ∀ c ∈ List.replicate (2 * depth) ' ', isLineEnd c = false := fun c member =>
    isLineEnd_eq_false_of_isGap (isGap_of_mem_replicate c member)
  rw [indented, dropEndWhile_append_of_neg kept, ← dropWhile_dropEndWhile, indented]

end Text

/-! ## Whole sources -/

namespace Indentation

open Tokenized (lineText)

/-- The depths of the lines of a source. -/
def depths (source : List String) : List (Option Nat) :=
  (Outline.ofTokenized (.ofLines source)).lineDepths

/-- Indent a line that has a depth. -/
def indentLine (line : String) : Option Nat → String
  | some depth => .ofList (Text.indented depth line.toList)
  | none => line

/-- Indent every line that has a depth. -/
def reindent (source : List String) : List String :=
  List.zipWith indentLine source (depths source)

theorem length_depths (source : List String) : (depths source).length = source.length := by
  simp [depths, Outline.ofTokenized, Outline.ofStatements, ScanState.lineDepths, Tokenized.ofLines]

theorem lineText_indentLine (line : String) (depth : Nat) :
    lineText (indentLine line (some depth)) = Text.indented depth (lineText line) := by
  rw [indentLine, lineText, String.toList_ofList, Text.dropEndWhile_indented, lineText]

theorem core_indentLine (line : String) (depth? : Option Nat) :
    Text.core (lineText (indentLine line depth?)) = Text.core (lineText line) := by
  cases depth? with
  | none => rfl
  | some depth => rw [lineText_indentLine, Text.core_indented]

theorem indentLine_indentLine (line : String) (depth? : Option Nat) :
    indentLine (indentLine line depth?) depth? = indentLine line depth? := by
  cases depth? with
  | none => rfl
  | some depth => rw [indentLine, indentLine, String.toList_ofList, Text.indented_indented]

/-- What indenting keeps in every line it keeps in the source. -/
theorem map_reindent {α : Type} {f : String → α}
    (kept : ∀ line depth?, f (indentLine line depth?) = f line) (source : List String) :
    (reindent source).map f = source.map f := by
  apply List.ext_getElem
  · simp [reindent, length_depths]
  · simp [reindent, kept]

/-- Indenting changes blanks alone. -/
theorem agree_reindent (source : List String) : Agree (reindent source) source := by
  apply agree_of_core
  rw [List.map_map, List.map_map]
  exact map_reindent core_indentLine source

theorem depths_reindent (source : List String) : depths (reindent source) = depths source :=
  (agree_reindent source).lineDepths

/-- Indenting again changes nothing. -/
theorem reindent_reindent (source : List String) :
    reindent (reindent source) = reindent source := by
  rw [reindent, depths_reindent]
  apply List.ext_getElem
  · simp [reindent, length_depths]
  · simp [reindent, indentLine_indentLine]

/-- An indented line has the width that its depth asks for. -/
theorem indents_reindent {source : List String} {index depth : Nat}
    (inside : index < (depths source).length) (deep : (depths source)[index] = some depth) :
    (Tokenized.ofLines (reindent source)).indents[index]? = some (some (2 * depth)) := by
  have inside' : index < source.length := by rwa [← length_depths]
  have texts_eq : (Tokenized.ofLines (reindent source)).indents =
      (reindent source).map fun line => Text.indentWidth? (lineText line) := by
    simp [Tokenized.indents, Tokenized.ofLines, lineText]
  have line_eq : (reindent source)[index]? = some (indentLine source[index] (some depth)) := by
    simp [reindent, inside, inside', deep]
  rw [texts_eq, List.getElem?_map, line_eq, Option.map_some, lineText_indentLine,
    Text.indentWidth?_indented]

/-- The rule of indentation finds nothing in an indented source. -/
theorem checkIndent_reindent (path : String) (source : List String) :
    Rule.checkIndent (.ofLines path (reindent source)) = [] := by
  have depths_eq : (Source.ofLines path (reindent source)).outline.lineDepths = depths source :=
    depths_reindent source
  have tokenized_eq : (Source.ofLines path (reindent source)).tokenized =
      .ofLines (reindent source) := rfl
  rw [Rule.checkIndent, depths_eq, tokenized_eq, List.filterMap_eq_nil_iff]
  intro found member
  obtain ⟨index, inside, rfl⟩ := List.mem_mapIdx.mp member
  rw [List.length_zip, Nat.lt_min] at inside
  rw [List.getElem_zip]
  cases deep : (depths source)[index] with
  | none => rfl
  | some depth =>
    have indent_eq := indents_reindent inside.1 deep
    rw [List.getElem?_eq_getElem inside.2, Option.some_inj] at indent_eq
    simp [indent_eq]

/-! ## Diagnostics -/

/-- An indented source has no diagnostic about its indentation. -/
theorem rule_ne_indentStep (path : String) (source : List String) (settings : Settings) :
    ∀ diagnostic ∈ checkLines path (reindent source) settings,
      diagnostic.rule ≠ Rule.indentStep.name := by
  intro diagnostic member same
  obtain ⟨rule, judged⟩ := Source.mem_check _ |>.mp member
  obtain rfl : rule = .indentStep :=
    Rule.name_injective ((Source.of_mem_judge _ judged).1.symm.trans same)
  have nothing : (Source.ofLines path (reindent source)).judge settings .indentStep = [] :=
    Source.judge_eq_nil _ (checkIndent_reindent path source)
  rw [nothing] at judged
  exact List.not_mem_nil judged

/-! ## Blanks carry no meaning -/

theorem lineText_eq_toList {line : String}
    (noLineEnd : ∀ c ∈ line.toList, Text.isLineEnd c = false) :
    lineText line = line.toList :=
  Line.dropEndWhile_eq_self noLineEnd

/-- Sources without line ends whose lines agree but for spaces and tabs at their
ends have the same statements but for the margins, the same errors, and the same
depths.  So every source can be indented by its depths: the rule of indentation
finds nothing in it then, and indenting it again changes nothing. -/
theorem agree_and_reindent :
    (∀ source source' : List String,
      (∀ line ∈ source ++ source', ∀ c ∈ line.toList, Text.isLineEnd c = false) →
      (source.map fun line => Text.core line.toList) =
        (source'.map fun line => Text.core line.toList) →
      Agree source source') ∧
    ∀ path source settings,
      (∀ diagnostic ∈ checkLines path (reindent source) settings,
        diagnostic.rule ≠ Rule.indentStep.name) ∧
      reindent (reindent source) = reindent source := by
  refine ⟨fun source source' noLineEnds same => agree_of_core ?_, fun path source settings =>
    ⟨rule_ne_indentStep path source settings, reindent_reindent source⟩⟩
  have texts (source : List String)
      (noLineEnds : ∀ line ∈ source, ∀ c ∈ line.toList, Text.isLineEnd c = false) :
      (source.map lineText).map Text.core = source.map fun line => Text.core line.toList := by
    rw [List.map_map]
    exact List.map_congr_left fun line member =>
      congrArg Text.core (lineText_eq_toList (noLineEnds line member))
  rw [texts source fun line member => noLineEnds line (List.mem_append_left _ member),
    texts source' fun line member => noLineEnds line (List.mem_append_right _ member), same]

theorem agree_and_reindent_literal :
    Agree ["print *, 'a&", "   b'", " end  "] ["\tprint *, 'a& ", "b'  ", "end"] ∧
      ∀ diagnostic ∈ checkLines "a.f90" (reindent ["print *, 'a&", "   b'", " end  "]) .default,
        diagnostic.rule ≠ "INDENT-STEP" :=
  ⟨agree_and_reindent.1 _ _ (by simp [Text.isLineEnd]) (by decide),
    (agree_and_reindent.2 "a.f90" _ .default).1⟩

end Indentation

end FortranStyle
