import FortranStyle.Tokenized
import Mathlib.Data.List.TakeWhile
import Mathlib.Tactic.Common

/-!
# The cases of reading a line

A line is silent, or it is code.  A silent line has at most a comment and leaves
things as they were; a code line starts a statement, is a directive, or goes on
with what the line before it left open, with or without a leading marker.  Each
case is one equation, so that proofs about lines need not open the reader.
-/

namespace FortranStyle.Line

/-! ## Blank ends -/

/-- A first character that is not of the class stays when characters are removed
from the end. -/
theorem dropEndWhile_cons {p : Char → Bool} {c : Char} (kept : p c = false) (rest : List Char) :
    Text.dropEndWhile p (c :: rest) = c :: Text.dropEndWhile p rest := by
  simp only [Text.dropEndWhile, List.reverse_cons, List.dropWhile_append]
  split
  · rename_i nothing
    rw [List.isEmpty_iff] at nothing
    simp [nothing, kept]
  · simp

theorem dropEndWhile_eq_self {p : Char → Bool} {cs : List Char} (kept : ∀ c ∈ cs, p c = false) :
    Text.dropEndWhile p cs = cs := by
  induction cs with
  | nil => rfl
  | cons c rest ih =>
    rw [List.forall_mem_cons] at kept
    rw [dropEndWhile_cons kept.1, ih kept.2]

/-- The first character of a trimmed text is the first that is not blank. -/
theorem head?_trim (cs : List Char) :
    (Text.trim cs).head? = (cs.dropWhile Text.isBlank).head? := by
  unfold Text.trim Text.trimEnd
  cases dropped : cs.dropWhile Text.isBlank with
  | nil => rfl
  | cons c rest =>
    have first := List.head?_dropWhile_not Text.isBlank cs
    simp only [dropped, List.head?_cons] at first
    rw [dropEndWhile_cons first, List.head?_cons, List.head?_cons]

theorem trim_eq_nil_iff {cs : List Char} :
    Text.trim cs = [] ↔ ∀ c ∈ cs, Text.isBlank c = true := by
  rw [← List.head?_eq_none_iff, head?_trim, List.head?_eq_none_iff, List.dropWhile_eq_nil_iff]

/-- What stands behind the leading characters of a class. -/
theorem drop_leading (p : Char → Bool) (cs : List Char) :
    cs.drop (Lexeme.leading p cs) = cs.dropWhile p := by
  have dropped : (cs.takeWhile p ++ cs.dropWhile p).drop (cs.takeWhile p).length =
      cs.dropWhile p := List.drop_left
  rwa [List.takeWhile_append_dropWhile] at dropped

/-- A gap character is blank, so a line that is not blank has something behind
its leading gap. -/
theorem dropWhile_isGap_ne_nil {cs : List Char} (filled : Text.trim cs ≠ []) :
    cs.dropWhile Text.isGap ≠ [] := by
  intro gap
  rw [List.dropWhile_eq_nil_iff] at gap
  exact filled (trim_eq_nil_iff.mpr fun c member => Text.isBlank_of_isGap (gap c member))

theorem trim_dropWhile_isGap (cs : List Char) :
    Text.trim (cs.dropWhile Text.isGap) = Text.trim cs := by
  have blanks : (cs.dropWhile Text.isGap).dropWhile Text.isBlank = cs.dropWhile Text.isBlank := by
    induction cs with
    | nil => rfl
    | cons c rest ih =>
      by_cases gap : Text.isGap c = true
      · rw [List.dropWhile_cons_of_pos gap, List.dropWhile_cons_of_pos (Text.isBlank_of_isGap gap),
          ih]
      · rw [List.dropWhile_cons_of_neg gap]
  rw [Text.trim, blanks, Text.trim]

/-! ## The cases -/

/-- The column behind the leading gap of a line. -/
def firstColumn (cs : List Char) : Nat :=
  Lexeme.leading Text.isGap cs + 1

theorem isSilent_eq_false_iff {cs : List Char} :
    isSilent cs = false ↔ Text.trim cs ≠ [] ∧ (Text.trim cs).head? ≠ some '!' := by
  unfold isSilent
  cases Text.trim cs <;> simp

/-- A silent line has at most a comment and leaves things as they were. -/
theorem read_of_isSilent {line : Nat} {cs : List Char} (silent : isSilent cs = true)
    (pending : Option Suspended) :
    read line pending cs =
      (if Text.trim cs = [] then []
        else [Token.onLine .comment line (firstColumn cs) (cs.dropWhile Text.isGap)],
        .unchanged pending) := by
  unfold isSilent at silent
  unfold read firstColumn
  cases trimmed : Text.trim cs with
  | nil => simp
  | cons c rest =>
    rw [trimmed] at silent
    simp_all

/-- A code line that continues nothing starts a statement or is a directive. -/
theorem read_none {line : Nat} {cs : List Char} (code : isSilent cs = false) :
    read line none cs =
      if (Text.trim cs).head? = some '#' then
        ([Token.onLine .directive line (firstColumn cs) (cs.dropWhile Text.isGap)], .complete)
      else
        readRest line (firstColumn cs) .fresh (cs.dropWhile Text.isGap) := by
  obtain ⟨filled, noComment⟩ := isSilent_eq_false_iff.mp code
  simp only [read, filled, noComment, if_false, firstColumn]

/-- A code line that goes on with a leading marker. -/
theorem read_some_marker {line : Nat} {cs after : List Char} (rest : Suspended)
    (code : isSilent cs = false) (marker : cs.dropWhile Text.isGap = '&' :: after) :
    read line (some rest) cs =
      emit (Token.onLine .continuation line (firstColumn cs) ['&'])
        (resume line (firstColumn cs + 1) rest after) := by
  obtain ⟨filled, noComment⟩ := isSilent_eq_false_iff.mp code
  simp only [read, filled, noComment, if_false, firstColumn, marker]

/-- A code line that goes on without a leading marker. -/
theorem read_some {line : Nat} {cs : List Char} (rest : Suspended) (code : isSilent cs = false)
    (noMarker : (cs.dropWhile Text.isGap).head? ≠ some '&') :
    read line (some rest) cs = resume line (firstColumn cs) rest (cs.dropWhile Text.isGap) := by
  obtain ⟨filled, noComment⟩ := isSilent_eq_false_iff.mp code
  simp only [read, filled, noComment, if_false]
  split
  · rename_i body_eq
    simp [body_eq] at noMarker
  · rename_i same _
    cases same
    rfl
  · contradiction

/-! ## Behind a marker -/

/-- Behind a marker stands nothing, or a comment, or a blank character that is
no gap; or the marker stands at the wrong place. -/
theorem afterMarker_cases (line column : Nat) (progress : Progress) (cs : List Char) :
    let marker := Token.onLine .continuation line column ['&']
    let suspended := LineEnd.suspended ⟨line, column, progress, none⟩
    afterMarker line column progress cs = ([marker], suspended) ∨
      (∃ place rest, afterMarker line column progress cs =
        ([marker, Token.onLine .comment line place ('!' :: rest)], suspended)) ∨
      (∃ c place, afterMarker line column progress cs =
        emit marker (fail progress (.unexpected c) line place (column + 1 + cs.length))) ∨
      afterMarker line column progress cs =
        fail progress .codeAfterMarker line column (column + 1 + cs.length) := by
  unfold afterMarker
  split
  · cases dropped : cs.drop (Lexeme.leading Text.isGap cs) with
    | nil => simp [dropped]
    | cons c rest =>
      by_cases comment : c = '!'
      · simp only [dropped, comment, if_true]
        exact .inr (.inl ⟨_, rest, rfl⟩)
      · simp only [dropped, comment, if_false]
        exact .inr (.inr (.inl ⟨c, _, rfl⟩))
  · exact .inr (.inr (.inr rfl))

/-! ## The error of a line -/

/-- An error of the line itself, not of the end of the source. -/
def IsErrorOf (line : Nat) (error : LexError) : Prop :=
  error.line = line ∧ error.cause ≠ .nothingToContinue

theorem isErrorOf_carry (line column : Nat) (progress : Progress) (literal : OpenLiteral)
    (cs : List Char) :
    ∀ error ∈ (carry line column progress literal cs).2.errors, IsErrorOf line error := by
  unfold carry
  cases carriedPart? cs with
  | some part => simp [LineEnd.errors]
  | none => simp [fail, LineEnd.errors, IsErrorOf]

theorem isErrorOf_readRest (line column : Nat) (progress : Progress) (cs : List Char) :
    ∀ error ∈ (readRest line column progress cs).2.errors, IsErrorOf line error := by
  fun_induction readRest line column progress cs with
  | case1 => simp [LineEnd.errors]
  | case2 column progress c rest gap ih => exact ih
  | case3 => simp [emit, LineEnd.errors]
  | case4 column progress rest =>
    rcases afterMarker_cases line column progress rest with
      read | ⟨place, after, read⟩ | ⟨c, place, read⟩ | read <;>
    simp [read, emit, fail, LineEnd.errors, IsErrorOf]
  | case5 column progress rest tokens ending read noGap noComment noMarker ih =>
    rwa [read] at ih
  | case6 column progress c rest noGap noComment noMarker noEnd lexeme read ih => exact ih
  | case7 column progress c rest => exact isErrorOf_carry line column progress _ (c :: rest)
  | case8 => simp [fail, LineEnd.errors, IsErrorOf]

theorem isErrorOf_resume (line column : Nat) (rest : Suspended) (cs : List Char) :
    ∀ error ∈ (resume line column rest cs).2.errors, IsErrorOf line error := by
  unfold resume
  cases rest.literal with
  | none => exact isErrorOf_readRest line column rest.progress cs
  | some literal =>
    simp only [resumeLiteral]
    cases Lexeme.closingQuote? literal.quote cs with
    | none => exact isErrorOf_carry line column rest.progress literal cs
    | some body => exact isErrorOf_readRest line _ _ _

/-- An error stands on the line that has it. -/
theorem isErrorOf_read (line : Nat) (pending : Option Suspended) (cs : List Char) :
    ∀ error ∈ (read line pending cs).2.errors, IsErrorOf line error := by
  cases silent : isSilent cs with
  | true =>
    rw [read_of_isSilent silent]
    cases pending <;> simp [LineEnd.unchanged, LineEnd.errors]
  | false =>
    cases pending with
    | none =>
      rw [read_none silent]
      split
      · simp [LineEnd.errors]
      · exact isErrorOf_readRest line _ .fresh _
    | some rest =>
      by_cases marker : (cs.dropWhile Text.isGap).head? = some '&'
      · obtain ⟨after, body_eq⟩ := List.head?_eq_some_iff.mp marker
        rw [read_some_marker rest silent body_eq]
        exact isErrorOf_resume line _ rest after
      · rw [read_some rest silent marker]
        exact isErrorOf_resume line _ rest _

end FortranStyle.Line
