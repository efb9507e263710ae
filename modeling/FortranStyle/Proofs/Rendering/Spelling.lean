import FortranStyle.Proofs.Reading.Passage
import FortranStyle.Proofs.Reading.StatementEnd

/-!
# Texts made of lexemes

A text spells a run of tokens when it consists of gaps and of lexemes that are
read at their places.  Spelled texts can be put one behind the other where a
character stands that no lexeme takes in, and a line that is spelled reads as
one statement.
-/

namespace FortranStyle

namespace Lexeme

/-- A text consists of gaps and lexemes: the array constructors that are open in
front of it, the kinds and texts of its tokens, and the array constructors that
are open behind it. -/
inductive Spells : Nat → List Char → List (TokenKind × String) → Nat → Prop
  | nil {depth : Nat} : Spells depth [] [] depth
  | gap {depth depth' : Nat} {c : Char} {text : List Char} {faces : List (TokenKind × String)}
      (isGap : Text.isGap c = true) (rest : Spells depth text faces depth') :
      Spells depth (c :: text) faces depth'
  | lexeme {depth depth' : Nat} {lexeme : Lexeme} {c : Char} {more text : List Char}
      {faces : List (TokenKind × String)}
      (read : read? depth (c :: more ++ text) = some lexeme)
      (length_eq : more.length = lexeme.tail) (rest : Spells lexeme.depth text faces depth') :
      Spells depth (c :: more ++ text) ((lexeme.kind, String.ofList (c :: more)) :: faces) depth'

namespace Spells

variable {depth middle final : Nat} {text rest : List Char}
  {faces more : List (TokenKind × String)}

/-- What follows a spelled text must not be taken in by its last lexeme. -/
def Stops (rest : List Char) : Prop :=
  ∀ e after, rest = e :: after → isStop e = true

theorem stops_nil : Stops [] := by
  rintro e after ⟨⟩

theorem stops_blank (rest : List Char) : Stops (' ' :: rest) := by
  rintro e after ⟨⟩
  decide

/-- A spelled text is spelled in the same way in front of a stop. -/
theorem append (first : Spells depth text faces middle) (stops : Stops rest)
    (second : Spells middle rest more final) :
    Spells depth (text ++ rest) (faces ++ more) final := by
  induction first with
  | nil => exact second
  | gap isGap _ ih => exact .gap isGap (ih second)
  | @lexeme depth middle lexeme c tail text faces read length_eq _ ih =>
    rw [List.append_assoc, List.cons_append]
    refine .lexeme ?_ length_eq (ih second)
    cases rest with
    | nil => rwa [List.append_nil]
    | cons e after =>
      rw [← List.append_nil text] at read
      apply read?_replace (stops e after rfl) read
      · rw [List.length_cons, length_eq]
      · intro _ next nextRead
        rw [List.append_nil] at nextRead
        exact tail_lt_length nextRead
      · rintro ⟨-, -, close⟩
        contradiction

end Spells

end Lexeme

namespace Line

open Lexeme

variable {line column depth depth' : Nat} {text : List Char} {faces : List (TokenKind × String)}

/-- A spelled text reads as its tokens to the end of the line. -/
theorem readRest_of_spells (spells : Spells depth text faces depth') (line column : Nat)
    (opened : Bool) :
    ∃ tokens, tokens.map Token.face = faces ∧ (∀ token ∈ tokens, token.line = line) ∧
      ∃ lineEnd, readRest line column ⟨opened, depth⟩ text =
        (tokens ++ Progress.close ⟨opened || !faces.isEmpty, depth'⟩ '\n' line lineEnd,
          .complete) := by
  induction spells generalizing column opened with
  | nil =>
    refine ⟨[], rfl, List.forall_mem_nil _, column, ?_⟩
    simp [readRest]
  | gap isGap _ ih =>
    rw [readRest, if_pos isGap]
    exact ih (column + 1) opened
  | @lexeme depth depth' lexeme c more text faces read length_eq _ ih =>
    obtain ⟨tokens, faces_eq, lines_eq, lineEnd, read_eq⟩ := ih (column + 1 + lexeme.tail) true
    refine ⟨Token.onLine lexeme.kind line column (c :: more) :: tokens, ?_, ?_, lineEnd, ?_⟩
    · rw [List.map_cons, faces_eq]
      rfl
    · rw [List.forall_mem_cons]
      exact ⟨rfl, lines_eq⟩
    · rw [List.cons_append, readRest_lexeme (by exact read), ← length_eq, List.take_left,
        List.drop_left, length_eq, read_eq]
      simp [emit]

/-- A token is part of a statement, or ends it at the end of a line. -/
def IsOrdinary (token : Token) : Prop :=
  token.isCode = true ∨ token.kind = .endOfLine ∧ token.text = "\n"

instance : DecidablePred IsOrdinary := fun token =>
  inferInstanceAs (Decidable (token.isCode = true ∨ token.kind = .endOfLine ∧ token.text = "\n"))

/-- A text that reads to its end as code tokens, within a statement, is spelled
by them. -/
theorem spells_of_readRest {progress : Progress} (opened : progress.statementOpen = true)
    (complete : (readRest line column progress text).2 = .complete)
    (ordinary : ∀ token ∈ (readRest line column progress text).1, IsOrdinary token) :
    ∃ faces depth', Spells progress.constructors text faces depth' ∧
      faces = ((readRest line column progress text).1.filter Token.isCode).map Token.face := by
  fun_induction readRest line column progress text with
  | case1 column progress =>
    refine ⟨[], _, .nil, ?_⟩
    simp [Progress.close, opened, Token.statementEnd, Token.onLine, Token.isCode, TokenKind.isCode]
  | case2 column progress c rest gap ih =>
    obtain ⟨faces, depth', spells, faces_eq⟩ := ih opened complete ordinary
    exact ⟨faces, depth', spells.gap gap, faces_eq⟩
  | case3 column progress rest =>
    obtain code | ⟨ends, -⟩ := ordinary _ List.mem_cons_self
    · contradiction
    · contradiction
  | case4 column progress rest =>
    rcases afterMarker_cases line column progress rest with
      read | ⟨place, after, read⟩ | ⟨c, place, read⟩ | read <;>
    simp [read, emit, fail] at complete
  | case5 column progress rest tokens ending read noGap noComment noMarker ih =>
    obtain code | ⟨-, mark⟩ := ordinary (Token.statementEnd ';' line column)
      (by simp [Progress.close, opened])
    · contradiction
    · exact absurd (show String.ofList [';'] = "\n" from mark) (by decide)
  | case6 column progress c rest noGap noComment noMarker noEnd lexeme read ih =>
    obtain ⟨faces, depth', spells, faces_eq⟩ := ih rfl complete
      fun token member => ordinary token (List.mem_cons_of_mem _ member)
    have within := Lexeme.tail_lt_length read
    rw [List.length_cons] at within
    have code := Lexeme.isCode_read? read
    refine ⟨(lexeme.kind, String.ofList (c :: rest.take lexeme.tail)) :: faces, depth', ?_, ?_⟩
    · rw [← List.take_append_drop lexeme.tail rest] at read
      have joined := Spells.lexeme read (List.length_take_of_le (Nat.le_of_lt_succ within)) spells
      rwa [List.cons_append, List.take_append_drop] at joined
    · rw [emit, List.filter_cons_of_pos (by exact code), List.map_cons, ← faces_eq]
      rfl
  | case7 column progress c rest =>
    exfalso
    unfold carry at complete
    split at complete <;> contradiction
  | case8 column progress c rest => contradiction

end Line

end FortranStyle
