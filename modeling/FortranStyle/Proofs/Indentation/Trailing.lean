import FortranStyle.Proofs.Reading.Cut
import Mathlib.Data.List.DropRight

/-!
# Trailing blanks

Spaces and tabs at the end of a line are part of no code token, of no error and of
nothing that is carried over to the next line.  Only comments and directives grow
with them, and the ends of statements move.  Statements are made from neither, so
a source without trailing gaps has the same statements and the same errors.
-/

namespace FortranStyle

variable {gaps : List Char}

/-! ## Lexemes -/

namespace Lexeme

theorem isStop_of_isGap {c : Char} (gap : Text.isGap c = true) : isStop c = true := by
  simp only [Text.isGap, Bool.or_eq_true, beq_iff_eq] at gap
  rcases gap with rfl | rfl <;> decide

theorem operator?_ne_none {depth : Nat} {c : Char} (listed : c ∈ operatorChars) (cs : List Char) :
    operator? depth (c :: cs) ≠ none := by
  simp only [operator?, listed, not_true_eq_false, if_false]
  split
  · split <;> exact Option.some_ne_none _
  all_goals exact Option.some_ne_none _

/-- A character that begins nothing is no letter, no digit and no operator. -/
theorem not_begins_of_read?_eq_none {depth : Nat} {c : Char} {cs : List Char}
    (noQuote : ¬isQuote c = true) (read : read? depth (c :: cs) = none) :
    ¬c.isAlpha = true ∧ ¬c.isDigit = true ∧ c ∉ operatorChars := by
  have noAlpha : ¬c.isAlpha = true := by
    intro alpha
    rw [read?_name noQuote alpha] at read
    exact Option.some_ne_none _ read
  have noNumber : ¬startsNumber (c :: cs) = true := by
    intro starts
    rw [read?_number noQuote noAlpha starts] at read
    exact Option.some_ne_none _ read
  have plain : dottedLength? (c :: cs) = none := by
    rw [Option.eq_none_iff_forall_ne_some]
    intro length dotted
    rw [read?_dotted noQuote noAlpha noNumber dotted] at read
    exact Option.some_ne_none _ read
  rw [read?_operator noQuote noAlpha noNumber plain, Option.map_eq_none_iff] at read
  have noOperator : c ∉ operatorChars := fun listed => operator?_ne_none listed cs read
  have noPoint : c ≠ '.' := by
    rintro rfl
    exact noOperator (by decide)
  rw [startsNumber_of_ne noPoint] at noNumber
  exact ⟨noAlpha, noNumber, noOperator⟩

/-- Gaps behind a line change none of its lexemes. -/
theorem read?_append (onlyGaps : ∀ c ∈ gaps, Text.isGap c = true) (depth : Nat) (c : Char)
    (cs : List Char) : read? depth (c :: (cs ++ gaps)) = read? depth (c :: cs) := by
  cases gaps with
  | nil => rw [List.append_nil]
  | cons e after =>
    have stop := isStop_of_isGap (onlyGaps e List.mem_cons_self)
    cases read : read? depth (c :: cs) with
    | some lexeme =>
      have inside := Nat.le_of_lt_succ (tail_lt_length read)
      have whole : c :: cs = (c :: cs.take lexeme.tail) ++ (cs.drop lexeme.tail ++ []) := by
        simp
      have kept : read? depth
            ((c :: cs.take lexeme.tail) ++ (cs.drop lexeme.tail ++ e :: after)) = some lexeme :=
        read?_replace stop (whole ▸ read)
        (by rw [List.length_cons, List.length_take_of_le inside])
        (fun _ next found => by
          rw [List.append_nil] at found
          exact tail_lt_length found)
        (by simp)
      rwa [← List.append_assoc, List.cons_append, List.take_append_drop] at kept
    | none =>
      by_cases quote : isQuote c = true
      · have noQuote : ∀ gap ∈ e :: after, gap ≠ c := by
          rintro gap member rfl
          have plain := isQuote_of_isStop (isStop_of_isGap (onlyGaps gap member))
          rw [quote] at plain
          contradiction
        rw [read?_quote quote, closingQuote?_append noQuote, ← read?_quote quote, read]
      · obtain ⟨noAlpha, noDigit, noOperator⟩ := not_begins_of_read?_eq_none quote read
        have noPoint : c ≠ '.' := by
          rintro rfl
          exact noOperator (by decide)
        have noNumber : ¬startsNumber (c :: (cs ++ e :: after)) = true := by
          rwa [startsNumber_of_ne noPoint]
        rw [read?_operator quote noAlpha noNumber (dottedLength?_of_ne noPoint _),
          operator?_of_notMem noOperator, Option.map_none]

end Lexeme

/-! ## What statements are made from -/

/-- The tokens that are not silent, and the ends of statements without their
places. -/
def codeOf (tokens : List Token) : List (Option Token) :=
  (tokens.filter fun token => !token.kind.isSilent).map fun token =>
    if token.kind = .endOfLine then none else some token

theorem codeOf_append (first second : List Token) :
    codeOf (first ++ second) = codeOf first ++ codeOf second := by
  rw [codeOf, List.filter_append, List.map_append, codeOf, codeOf]

theorem codeOf_cons (token : Token) (rest : List Token) :
    codeOf (token :: rest) = codeOf [token] ++ codeOf rest :=
  codeOf_append [token] rest

theorem codeOf_cons_of_silent {token : Token} (silent : token.kind.isSilent = true)
    (rest : List Token) : codeOf (token :: rest) = codeOf rest := by
  rw [codeOf, List.filter_cons_of_neg (by simp [silent]), codeOf]

theorem codeOf_close (progress : Progress) (mark mark' : Char) (line line' column column' : Nat) :
    codeOf (progress.close mark line column) = codeOf (progress.close mark' line' column') := by
  unfold Progress.close
  split <;> rfl

theorem Tokenized.splitAtEnds_congr {tokens tokens' : List Token}
    (same : tokens.map (fun token => if token.kind = .endOfLine then none else some token) =
      tokens'.map fun token => if token.kind = .endOfLine then none else some token) :
    splitAtEnds tokens = splitAtEnds tokens' := by
  induction tokens generalizing tokens' with
  | nil => rw [List.map_eq_nil_iff.mp same.symm]
  | cons token rest ih =>
    obtain ⟨token', rest', rfl, first, later⟩ := List.map_eq_cons_iff.mp same.symm
    rw [splitAtEnds, splitAtEnds, ih later.symm]
    by_cases ends : token.kind = .endOfLine
    · have ends' : token'.kind = .endOfLine := by
        by_contra other
        simp [ends, other] at first
      rw [if_pos ends, if_pos ends']
    · have ends' : ¬token'.kind = .endOfLine := by
        intro ends'
        simp [ends, ends'] at first
      have same_token : token' = token := by simpa [ends, ends'] using first
      rw [if_neg ends, if_neg ends', same_token]

theorem Tokenized.statementsOf_congr {tokens tokens' : List Token}
    (same : codeOf tokens = codeOf tokens') : statementsOf tokens = statementsOf tokens' := by
  rw [statementsOf, splitAtEnds_congr same, statementsOf]

/-! ## Lines -/

namespace Line

/-- Two readings that differ in silent tokens and in the places at which statements
end alone. -/
def SameCode (first second : Reading) : Prop :=
  codeOf first.1 = codeOf second.1 ∧ first.2 = second.2

theorem SameCode.emit {first second : Reading} (same : SameCode first second) (token : Token) :
    SameCode (Line.emit token first) (Line.emit token second) := by
  refine ⟨?_, same.2⟩
  rw [Line.emit, Line.emit, codeOf_cons token first.1, same.1, ← codeOf_cons]

theorem SameCode.emit_silent {first second : Reading} (same : SameCode first second)
    {token token' : Token} (silent : token.kind.isSilent = true)
    (silent' : token'.kind.isSilent = true) :
    SameCode (Line.emit token first) (Line.emit token' second) :=
  ⟨(codeOf_cons_of_silent silent _).trans (same.1.trans (codeOf_cons_of_silent silent' _).symm),
    same.2⟩

theorem sameCode_close (progress : Progress) (line column column' : Nat) (ending : LineEnd) :
    SameCode (progress.close '\n' line column, ending)
      (progress.close '\n' line column', ending) :=
  ⟨codeOf_close .., rfl⟩

theorem sameCode_fail (progress : Progress) (cause : LexCause)
    (line column lineEnd lineEnd' : Nat) :
    SameCode (fail progress cause line column lineEnd)
      (fail progress cause line column lineEnd') :=
  sameCode_close ..

section Gaps

variable (onlyGaps : ∀ c ∈ gaps, Text.isGap c = true)
include onlyGaps

theorem trimEnd_append (cs : List Char) : Text.trimEnd (cs ++ gaps) = Text.trimEnd cs := by
  have blank : ∀ c ∈ gaps.reverse, Text.isBlank c = true := fun c member =>
    Text.isBlank_of_isGap (onlyGaps c (List.mem_reverse.mp member))
  rw [Text.trimEnd, Text.dropEndWhile, List.reverse_append, List.dropWhile_append_of_pos blank]
  rfl

theorem dropWhile_gaps {p : Char → Bool} (gap : ∀ c, Text.isGap c = true → p c = true) :
    gaps.dropWhile p = [] :=
  List.dropWhile_eq_nil_iff.mpr fun c member => gap c (onlyGaps c member)

theorem trim_append (cs : List Char) : Text.trim (cs ++ gaps) = Text.trim cs := by
  rw [Text.trim, List.dropWhile_append, dropWhile_gaps onlyGaps fun _ => Text.isBlank_of_isGap]
  split
  · rename_i blank
    rw [Text.trim, List.isEmpty_iff.mp blank]
  · exact trimEnd_append onlyGaps _

/-- Gaps behind a marker do not count. -/
theorem sameCode_afterMarker (line column : Nat) (progress : Progress) (cs : List Char) :
    SameCode (afterMarker line column progress (cs ++ gaps))
      (afterMarker line column progress cs) := by
  have first :
      ((cs ++ gaps).dropWhile Text.isBlank).head? = (cs.dropWhile Text.isBlank).head? := by
    rw [← head?_trim, trim_append onlyGaps, head?_trim]
  unfold afterMarker
  rw [first]
  split
  · cases behind : cs.dropWhile Text.isGap with
    | nil =>
      have behind' : (cs ++ gaps).dropWhile Text.isGap = [] := by
        rw [List.dropWhile_append, behind]
        exact dropWhile_gaps onlyGaps fun _ => id
      dsimp only
      rw [drop_leading, drop_leading, behind, behind']
      exact ⟨rfl, rfl⟩
    | cons c rest =>
      obtain ⟨behind', leading_eq⟩ := dropWhile_append_of_ne_nil (behind ▸ List.cons_ne_nil c rest)
        gaps
      dsimp only
      rw [drop_leading, drop_leading, behind, behind', behind, leading_eq, List.cons_append]
      dsimp only
      by_cases comment : c = '!'
      · rw [if_pos comment, if_pos comment]
        exact ⟨rfl, rfl⟩
      · rw [if_neg comment, if_neg comment]
        exact .emit (sameCode_fail ..) _
  · exact sameCode_fail ..

theorem sameCode_carry (line column : Nat) (progress : Progress) (literal : OpenLiteral)
    (cs : List Char) :
    SameCode (carry line column progress literal (cs ++ gaps))
      (carry line column progress literal cs) := by
  have carried : carriedPart? (cs ++ gaps) = carriedPart? cs := by
    rw [carriedPart?, trimEnd_append onlyGaps, carriedPart?]
  unfold carry
  rw [carried]
  split
  · exact ⟨rfl, rfl⟩
  · exact sameCode_fail ..

/-- Gaps behind a line change none of its code. -/
theorem sameCode_readRest (line column : Nat) (progress : Progress) (cs : List Char) :
    SameCode (readRest line column progress (cs ++ gaps))
      (readRest line column progress cs) := by
  fun_induction readRest line column progress cs with
  | case1 column progress =>
    rw [List.nil_append, ← List.append_nil gaps, readRest_gaps onlyGaps, readRest]
    exact sameCode_close ..
  | case2 column progress c rest gap ih => 
    rw [List.cons_append, readRest, if_pos gap]
    exact ih
  | case3 column progress rest noGap =>
    rw [List.cons_append, readRest, if_neg noGap, if_pos rfl]
    exact .emit_silent (sameCode_close ..) rfl rfl
  | case4 column progress rest noGap noComment =>
    rw [List.cons_append, readRest, if_neg noGap, if_neg noComment, if_pos rfl]
    exact sameCode_afterMarker onlyGaps line column progress rest
  | case5 column progress rest tokens ending read noGap noComment noMarker ih =>
    rw [List.cons_append, readRest, if_neg noGap, if_neg noComment, if_neg noMarker, if_pos rfl]
    rw [read] at ih
    exact ⟨by rw [codeOf_append, ih.1, codeOf_append], ih.2⟩
  | case6 column progress c rest noGap noComment noMarker noEnd lexeme read ih =>
    have inside := Nat.le_of_lt_succ (Lexeme.tail_lt_length read)
    rw [List.cons_append, readRest, if_neg noGap, if_neg noComment, if_neg noMarker, if_neg noEnd,
      Lexeme.read?_append onlyGaps, read]
    simp only [List.take_append_of_le_length inside, List.drop_append_of_le_length inside]
    exact ih.emit _
  | case7 column progress c rest noGap noComment noMarker noEnd read quote =>
    rw [List.cons_append, readRest, if_neg noGap, if_neg noComment, if_neg noMarker, if_neg noEnd,
      Lexeme.read?_append onlyGaps, read]
    simp only [quote, if_true]
    exact sameCode_carry onlyGaps line column progress _ (c :: rest)
  | case8 column progress c rest noGap noComment noMarker noEnd read noQuote =>
    rw [List.cons_append, readRest, if_neg noGap, if_neg noComment, if_neg noMarker, if_neg noEnd,
      Lexeme.read?_append onlyGaps, read]
    simp only [noQuote]
    exact sameCode_fail ..

theorem sameCode_resumeLiteral (line column : Nat) (progress : Progress) {literal : OpenLiteral}
    (quote : Lexeme.isQuote literal.quote = true) (cs : List Char) :
    SameCode (resumeLiteral line column progress literal (cs ++ gaps))
      (resumeLiteral line column progress literal cs) := by
  have noQuote : ∀ gap ∈ gaps, gap ≠ literal.quote := by
    rintro gap member same
    rw [← same, Lexeme.isQuote_of_isStop (Lexeme.isStop_of_isGap (onlyGaps gap member))] at quote
    contradiction
  unfold resumeLiteral
  rw [Lexeme.closingQuote?_append noQuote]
  cases closed : Lexeme.closingQuote? literal.quote cs with
  | none => exact sameCode_carry onlyGaps line column progress literal cs
  | some body =>
    have inside : body + 1 ≤ cs.length := Lexeme.closingQuote?_lt closed
    dsimp only
    rw [List.take_append_of_le_length inside, List.drop_append_of_le_length inside]
    exact (sameCode_readRest onlyGaps ..).emit _

theorem sameCode_resume (line column : Nat) (rest : Suspended)
    (quoted : ∀ literal ∈ rest.literal, Lexeme.isQuote literal.quote = true) (cs : List Char) :
    SameCode (resume line column rest (cs ++ gaps)) (resume line column rest cs) := by
  unfold resume
  cases carried : rest.literal with
  | none => exact sameCode_readRest onlyGaps line column rest.progress cs
  | some literal =>
    exact sameCode_resumeLiteral onlyGaps line column rest.progress (quoted literal carried) cs

theorem isSilent_append (cs : List Char) : isSilent (cs ++ gaps) = isSilent cs := by
  rw [isSilent, trim_append onlyGaps, isSilent]

theorem sameCode_read (line : Nat) {pending : Option Suspended}
    (quoted : ∀ literal ∈ openLiteral? pending, Lexeme.isQuote literal.quote = true)
    (cs : List Char) :
    SameCode (read line pending (cs ++ gaps)) (read line pending cs) := by
  cases silent : isSilent cs with
  | true =>
    have silent' := (isSilent_append onlyGaps cs).trans silent
    rw [read_of_isSilent silent, read_of_isSilent silent', trim_append onlyGaps]
    split
    · exact ⟨rfl, rfl⟩
    · exact ⟨rfl, rfl⟩
  | false =>
    have silent' := (isSilent_append onlyGaps cs).trans silent
    have filled := (isSilent_eq_false_iff.mp silent).1
    obtain ⟨body_eq, leading_eq⟩ := dropWhile_append_of_ne_nil (dropWhile_isGap_ne_nil filled) gaps
    have column_eq : firstColumn (cs ++ gaps) = firstColumn cs := by
      rw [firstColumn, leading_eq, firstColumn]
    cases pending with
    | none =>
      rw [read_none silent, read_none silent', trim_append onlyGaps, body_eq, column_eq]
      split
      · exact ⟨rfl, rfl⟩
      · exact sameCode_readRest onlyGaps ..
    | some rest =>
      by_cases marker : (cs.dropWhile Text.isGap).head? = some '&'
      · obtain ⟨after, after_eq⟩ := List.head?_eq_some_iff.mp marker
        have after_eq' : (cs ++ gaps).dropWhile Text.isGap = '&' :: (after ++ gaps) := by
          rw [body_eq, after_eq]
          rfl
        rw [read_some_marker rest silent after_eq, read_some_marker rest silent' after_eq',
          column_eq]
        exact (sameCode_resume onlyGaps line _ rest quoted after).emit _
      · have marker' : ((cs ++ gaps).dropWhile Text.isGap).head? ≠ some '&' := by
          rwa [body_eq, List.head?_append_of_ne_nil _ (dropWhile_isGap_ne_nil filled)]
        rw [read_some rest silent marker, read_some rest silent' marker', body_eq, column_eq]
        exact sameCode_resume onlyGaps line _ rest quoted _

end Gaps

end Line

/-! ## Successive lines -/

namespace Tokenized

/-- Two parts that differ in silent tokens and in the places at which statements
end alone. -/
structure Part.SameCode (first second : Part) : Prop where
  code : codeOf first.tokens = codeOf second.tokens
  continuedLines : first.continuedLines = second.continuedLines
  errors : first.errors = second.errors

theorem Part.SameCode.append {first first' second second' : Part} (same : first.SameCode first')
    (same' : second.SameCode second') : (first ++ second).SameCode (first' ++ second') where
  code := by
    rw [Part.tokens_append, codeOf_append, same.code, same'.code, Part.tokens_append,
      codeOf_append]
  continuedLines := congrArg₂ _ same.continuedLines same'.continuedLines
  errors := congrArg₂ _ same.errors same'.errors

/-- A line is what stands in front of its trailing gap, and the gap. -/
theorem exists_gaps (cs : List Char) :
    ∃ gaps, (∀ c ∈ gaps, Text.isGap c = true) ∧ cs = Text.dropEndWhile Text.isGap cs ++ gaps :=
  ⟨cs.rtakeWhile Text.isGap, fun _ => List.mem_rtakeWhile_imp,
    List.rdropWhile_append_rtakeWhile.symm⟩

/-- Lines have the code of the lines without their trailing gaps. -/
theorem sameCode_readLines {line : Nat} {pending : Option Suspended}
    (above : ∀ literal ∈ openLiteral? pending, Line.Above line literal)
    (lines : List (List Char)) :
    (readLines line pending lines).SameCode
      (readLines line pending (lines.map (Text.dropEndWhile Text.isGap))) := by
  induction lines generalizing line pending with
  | nil => exact ⟨rfl, rfl, rfl⟩
  | cons cs rest ih =>
    obtain ⟨gaps, onlyGaps, whole⟩ := exists_gaps cs
    have read := Line.sameCode_read onlyGaps line
      (fun literal carried => (above literal carried).isQuote) (Text.dropEndWhile Text.isGap cs)
    have silent_eq := Line.isSilent_append onlyGaps (Text.dropEndWhile Text.isGap cs)
    rw [← whole] at read silent_eq
    have first : (linePart line pending cs).SameCode
        (linePart line pending (Text.dropEndWhile Text.isGap cs)) :=
      { code := read.1
        continuedLines := by simp only [linePart, silent_eq]
        errors := congrArg LineEnd.errors read.2 }
    have later := ih fun literal carried => (Line.literal_of_read above cs literal carried).1
    rw [List.map_cons, readLines, readLines]
    refine first.append ?_
    rwa [← read.2]

end Tokenized

end FortranStyle
