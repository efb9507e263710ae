import FortranStyle.Proofs.Reading.Order
import Mathlib.Data.List.DropRight

/-!
# Where a line breaks off

A code line that is suspended ends in a marker: an ampersand of the line with
nothing but blanks and a comment behind it, which is also the last token of the
line that is no comment.  What is suspended tells the place of that ampersand,
whether it stands behind code or cuts a character literal.

That is a property of what a reading makes of the rest of a line, and it is kept
when more of the line, and the tokens of it, are put in front.
-/

namespace FortranStyle.Line

/-- What is read of a text that starts at `column` breaks off at an ampersand of
the text, which is its last token, a comment apart. -/
structure BreaksOff (line column : Nat) (cs : List Char) (tokens : List Token)
    (rest : Suspended) : Prop where
  line_eq : rest.line = line
  marker : ∃ front back, cs = front ++ '&' :: back ∧ rest.column = column + front.length ∧
    isSilent back = true
  last : ∃ front comments,
    tokens = front ++ Token.onLine .continuation line rest.column ['&'] :: comments ∧
      ∀ token ∈ comments, token.kind = .comment

/-- More of the line in front. -/
theorem BreaksOff.behind {line column later : Nat} {cs : List Char} {tokens : List Token}
    {rest : Suspended} (front : List Char) (first : List Token)
    (breaksOff : BreaksOff line later cs tokens rest) (later_eq : later = column + front.length) :
    BreaksOff line column (front ++ cs) (first ++ tokens) rest := by
  subst later_eq
  obtain ⟨line_eq, ⟨before, back, rfl, column_eq, silent⟩, before', comments, rfl, onlyComments⟩ :=
    breaksOff
  refine ⟨line_eq, ⟨front ++ before, back, ?_, ?_, silent⟩, first ++ before', comments, ?_,
    onlyComments⟩
  · rw [List.append_assoc]
  · rw [column_eq, List.length_append, Nat.add_assoc]
  · rw [List.append_assoc]

/-- A text that is all blank, or in which a comment stands first, is silent. -/
theorem isSilent_of_all {cs : List Char}
    (noCode : (cs.dropWhile Text.isBlank).head?.all (· == '!') = true) : isSilent cs = true := by
  rwa [isSilent, head?_trim]

theorem isSilent_of_isBlank {cs : List Char} (blank : ∀ c ∈ cs, Text.isBlank c = true) :
    isSilent cs = true := by
  rw [isSilent, trim_eq_nil_iff.mpr blank]
  rfl

/-- The marker that cuts a literal has only blanks behind it. -/
theorem breaksOff_carry {line column : Nat} {progress : Progress} {literal : OpenLiteral}
    {cs : List Char} {rest : Suspended}
    (suspended : (carry line column progress literal cs).2 = .suspended rest) :
    BreaksOff line column cs (carry line column progress literal cs).1 rest := by
  unfold carry carriedPart? at *
  by_cases marked : (Text.trimEnd cs).getLast? = some '&'
  · simp only [marked, if_true] at suspended ⊢
    cases suspended
    have whole : cs = (Text.trimEnd cs).dropLast ++ '&' :: cs.rtakeWhile Text.isBlank := by
      rw [List.append_cons, List.dropLast_append_getLast? '&' marked]
      exact List.rdropWhile_append_rtakeWhile.symm
    have blank : ∀ c ∈ cs.rtakeWhile Text.isBlank, Text.isBlank c = true :=
      fun _ member => List.mem_rtakeWhile_imp member
    exact ⟨rfl, ⟨_, _, whole, rfl, isSilent_of_isBlank blank⟩, [], [], rfl,
      List.forall_mem_nil _⟩
  · simp only [marked, if_false, fail] at suspended
    contradiction

theorem breaksOff_afterMarker {line column : Nat} {progress : Progress} {cs : List Char}
    {rest : Suspended}
    (suspended : (afterMarker line column progress cs).2 = .suspended rest) :
    BreaksOff line column ('&' :: cs) (afterMarker line column progress cs).1 rest := by
  have marker (noCode : (cs.dropWhile Text.isBlank).head?.all (· == '!') = true)
      (comments : List Token) (onlyComments : ∀ token ∈ comments, token.kind = .comment) :
      BreaksOff line column ('&' :: cs)
        (Token.onLine .continuation line column ['&'] :: comments)
        ⟨line, column, progress, none⟩ :=
    ⟨rfl, ⟨[], cs, rfl, rfl, isSilent_of_all noCode⟩, [], comments, rfl, onlyComments⟩
  unfold afterMarker at *
  split at suspended
  · rename_i noCode
    rw [if_pos noCode]
    cases dropped : cs.drop (Lexeme.leading Text.isGap cs) with
    | nil =>
      simp only [dropped] at suspended ⊢
      cases suspended
      exact marker noCode [] (List.forall_mem_nil _)
    | cons c after =>
      by_cases comment : c = '!'
      · simp only [dropped, comment, if_true] at suspended ⊢
        cases suspended
        exact marker noCode _ (List.forall_mem_singleton.mpr rfl)
      · simp only [dropped, comment, if_false, emit, fail] at suspended
        contradiction
  · simp only [fail] at suspended
    contradiction

theorem breaksOff_readRest {line column : Nat} {progress : Progress} {cs : List Char}
    {rest : Suspended} (suspended : (readRest line column progress cs).2 = .suspended rest) :
    BreaksOff line column cs (readRest line column progress cs).1 rest := by
  fun_induction readRest line column progress cs with
  | case1 => contradiction
  | case2 column progress c cs gap ih => exact (ih suspended).behind [c] [] rfl
  | case3 => contradiction
  | case4 column progress cs => exact breaksOff_afterMarker suspended
  | case5 column progress cs tokens ending read noGap noComment noMarker ih =>
    rw [read] at ih
    exact (ih suspended).behind [';'] _ rfl
  | case6 column progress c cs noGap noComment noMarker noEnd lexeme read ih =>
    have short := Lexeme.tail_lt_length read
    have width : (c :: cs.take lexeme.tail).length = 1 + lexeme.tail := by
      rw [List.length_cons] at short ⊢
      rw [List.length_take]
      omega
    have inFront :
        BreaksOff line column ((c :: cs.take lexeme.tail) ++ cs.drop lexeme.tail) _ rest :=
      (ih suspended).behind _ [Token.onLine lexeme.kind line column (c :: cs.take lexeme.tail)]
        (by omega)
    rwa [List.cons_append, List.take_append_drop] at inFront
  | case7 column progress c cs => exact breaksOff_carry suspended
  | case8 => contradiction

theorem breaksOff_resume {line column : Nat} {pending : Suspended} {cs : List Char}
    {rest : Suspended} (suspended : (resume line column pending cs).2 = .suspended rest) :
    BreaksOff line column cs (resume line column pending cs).1 rest := by
  unfold resume at *
  cases literal_eq : pending.literal with
  | none =>
    rw [literal_eq] at suspended
    exact breaksOff_readRest suspended
  | some literal =>
    simp only [literal_eq, resumeLiteral] at suspended ⊢
    cases closed : Lexeme.closingQuote? literal.quote cs with
    | none =>
      rw [closed] at suspended
      exact breaksOff_carry suspended
    | some body =>
      rw [closed] at suspended
      have width : (cs.take (body + 1)).length = body + 1 := by
        have inside := Lexeme.closingQuote?_lt closed
        rw [List.length_take]
        omega
      have inFront (token : Token) :
          BreaksOff line column (cs.take (body + 1) ++ cs.drop (body + 1)) (token :: _) rest :=
        (breaksOff_readRest suspended).behind _ [token] (by omega)
      rw [List.take_append_drop] at inFront
      exact inFront _

/-- A code line that is suspended breaks off at an ampersand of its own. -/
theorem breaksOff_read {line : Nat} {pending : Option Suspended} {cs : List Char}
    {rest : Suspended} (code : isSilent cs = false)
    (suspended : (read line pending cs).2 = .suspended rest) :
    BreaksOff line 1 cs (read line pending cs).1 rest := by
  have whole : cs.takeWhile Text.isGap ++ cs.dropWhile Text.isGap = cs :=
    List.takeWhile_append_dropWhile
  have firstColumn_eq : firstColumn cs = 1 + (cs.takeWhile Text.isGap).length := Nat.add_comm _ _
  have behindGap {tokens : List Token}
      (breaksOff : BreaksOff line (firstColumn cs) (cs.dropWhile Text.isGap) tokens rest) :
      BreaksOff line 1 cs tokens rest := by
    have inFront := breaksOff.behind (cs.takeWhile Text.isGap) [] firstColumn_eq
    rwa [whole] at inFront
  cases pending with
  | none =>
    rw [read_none code] at suspended ⊢
    split at suspended
    · contradiction
    · rename_i noDirective
      rw [if_neg noDirective]
      exact behindGap (breaksOff_readRest suspended)
  | some pending =>
    by_cases marker : (cs.dropWhile Text.isGap).head? = some '&'
    · obtain ⟨after, body_eq⟩ := List.head?_eq_some_iff.mp marker
      rw [read_some_marker pending code body_eq] at suspended ⊢
      rw [body_eq] at behindGap
      exact behindGap ((breaksOff_resume suspended).behind ['&'] [_] rfl)
    · rw [read_some pending code marker] at suspended ⊢
      exact behindGap (breaksOff_resume suspended)

end FortranStyle.Line
