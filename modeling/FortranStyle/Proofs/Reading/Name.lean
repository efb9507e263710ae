import FortranStyle.Proofs.LetterCase.Lexeme
import FortranStyle.Proofs.Literal.Doubled
import FortranStyle.Proofs.Reading.StatementEnd

/-!
# Names

A token that is read as a name is spelled with the characters of a name, and whether it is
a keyword depends on its spelling alone.
-/

namespace FortranStyle

/-! ## Small forms -/

namespace Text

theorem lowerChar_ascii {c : Char} (ascii : c.toNat < 128) : lowerChar c = [c.toLower] :=
  if_pos ascii

/-- The small form of an ASCII character stands in the small form of a text. -/
theorem toLower_mem_lowerChars {before cs : List Char} {c : Char} (ascii : c.toNat < 128)
    (member : c ∈ cs) : c.toLower ∈ lowerChars before cs := by
  induction cs generalizing before with
  | nil => contradiction
  | cons d rest ih =>
    rw [lowerChars, List.mem_append]
    rcases List.mem_cons.mp member with rfl | later
    · left
      have noSigma : c ≠ 'Σ' := by
        rintro rfl
        exact absurd ascii (by decide)
      rw [if_neg noSigma, lowerChar_ascii ascii]
      exact List.mem_singleton_self _
    · exact .inr (ih later)

/-- An ASCII text is lowered character by character. -/
theorem lowerChars_ascii {before cs : List Char} (ascii : ∀ c ∈ cs, c.toNat < 128) :
    lowerChars before cs = cs.map Char.toLower := by
  induction cs generalizing before with
  | nil => rfl
  | cons c rest ih =>
    rw [List.forall_mem_cons] at ascii
    have noSigma : c ≠ 'Σ' := by
      rintro rfl
      exact absurd ascii.1 (by decide)
    rw [lowerChars, if_neg noSigma, lowerChar_ascii ascii.1, ih ascii.2]
    rfl

end Text

/-! ## Names -/

/-- The token has the kind and the characters of a name. -/
structure Token.IsSpelled (token : Token) : Prop where
  kind_eq : token.kind = Lexeme.nameKind token.text.toList
  isNameChar : ∀ c ∈ token.text.toList, Lexeme.isNameChar c = true

namespace Lexeme

variable {depth line column : Nat} {c : Char} {rest : List Char} {lexeme : Lexeme}

theorem isNameChar_of_isAlpha (alpha : c.isAlpha = true) : isNameChar c = true := by
  simp [isNameChar, Char.isAlphanum, alpha]

theorem toNat_lt_of_isNameChar (name : isNameChar c = true) : c.toNat < 128 := by
  simp only [isNameChar, Char.isAlphanum, Bool.or_eq_true, beq_iff_eq] at name
  rcases name with (letter | digit) | rfl
  · have bounds := isAlpha_iff_toNat.mp letter
    omega
  · have bounds : 0x30 ≤ c.toNat ∧ c.toNat ≤ 0x39 := Char.isDigit_iff_toNat.mp digit
    omega
  · decide

/-- A lexeme that is a name starts with a letter, and its token is spelled like one. -/
theorem isSpelled_of_read? (read : read? depth (c :: rest) = some lexeme)
    (isName : (Token.onLine lexeme.kind line column (c :: rest.take lexeme.tail)).isName = true) :
    (Token.onLine lexeme.kind line column (c :: rest.take lexeme.tail)).IsSpelled := by
  by_cases quote : isQuote c = true
  · rw [read?_quote quote] at read
    obtain ⟨body, -, rfl⟩ := Option.map_eq_some_iff.mp read
    contradiction
  by_cases alpha : c.isAlpha = true
  · rw [read?_name quote alpha] at read
    cases read
    constructor
    · rw [Token.onLine, String.toList_ofList]
    · rw [Token.onLine, String.toList_ofList, List.forall_mem_cons, leading,
        List.prefix_iff_eq_take.mp (List.takeWhile_prefix isNameChar) |>.symm]
      exact ⟨isNameChar_of_isAlpha alpha, fun _ => List.mem_takeWhile_imp⟩
  by_cases starts : startsNumber (c :: rest) = true
  · rw [read?_number quote alpha starts] at read
    cases read
    contradiction
  cases dotted : dottedLength? (c :: rest) with
  | some length =>
    rw [read?_dotted quote alpha starts dotted] at read
    cases read
    contradiction
  | none =>
    rw [read?_operator quote alpha starts dotted] at read
    obtain ⟨operator, -, rfl⟩ := Option.map_eq_some_iff.mp read
    contradiction

end Lexeme

namespace Token.IsSpelled

variable {token : Token} (spelled : token.IsSpelled)
include spelled

/-- A word of the vocabulary is read as a keyword. -/
theorem kind_eq_keyword (listed : token.lower ∈ Vocabulary.keywords) : token.kind = .keyword := by
  rw [spelled.kind_eq, Lexeme.nameKind, String.ofList_toList]
  exact if_pos (List.elem_eq_true_of_mem listed)

/-- The small form of a name has the characters of a name. -/
theorem isNameChar_lower : ∀ c ∈ token.lower.toList, Lexeme.isNameChar c = true := by
  rw [Token.lower, Text.lower, String.toList_ofList,
    Text.lowerChars_ascii fun c member =>
      Lexeme.toNat_lt_of_isNameChar (spelled.isNameChar c member)]
  intro c member
  obtain ⟨d, listed, rfl⟩ := List.mem_map.mp member
  rw [LetterCase.isNameChar_toLower, spelled.isNameChar d listed]

end Token.IsSpelled

/-! ## Sources -/

/-- Every name among the tokens is spelled like one. -/
def SpellsNames (tokens : List Token) : Prop :=
  ∀ token ∈ tokens, token.isName = true → token.IsSpelled

theorem Token.isCode_of_isName {token : Token} (isName : token.isName = true) :
    token.isCode = true := by
  simp only [Token.isName, Bool.or_eq_true, beq_iff_eq] at isName
  rcases isName with kind_eq | kind_eq <;> rw [Token.isCode, kind_eq] <;> rfl

namespace SpellsNames

variable {token : Token} {first second : List Token}

/-- What is no code holds no name. -/
theorem of_silent (silent : ∀ token ∈ first, token.isCode = false) : SpellsNames first := by
  intro token member isName
  have code := silent token member
  rw [Token.isCode_of_isName isName] at code
  contradiction

theorem append (spelled : SpellsNames first) (spelled' : SpellsNames second) :
    SpellsNames (first ++ second) :=
  List.forall_mem_append.mpr ⟨spelled, spelled'⟩

theorem cons (spelled : token.isName = true → token.IsSpelled) (spelled' : SpellsNames second) :
    SpellsNames (token :: second) :=
  List.forall_mem_cons.mpr ⟨spelled, spelled'⟩

end SpellsNames

namespace Line

theorem spellsNames_readRest (line column : Nat) (progress : Progress) (cs : List Char) :
    SpellsNames (readRest line column progress cs).1 := by
  fun_induction readRest line column progress cs with
  | case1 column progress => exact .of_silent (isCode_close progress '\n' line column)
  | case2 column progress c rest gap ih => exact ih
  | case3 column progress rest =>
    exact .cons (fun isName => by contradiction)
      (.of_silent (isCode_close progress '\n' line _))
  | case4 column progress rest => exact .of_silent (noCode_afterMarker line column progress rest).2
  | case5 column progress rest tokens ending read noGap noComment noMarker ih =>
    rw [read] at ih
    exact .append (.of_silent (isCode_close progress ';' line column)) ih
  | case6 column progress c rest noGap noComment noMarker noEnd lexeme read ih =>
    exact .cons (Lexeme.isSpelled_of_read? read) ih
  | case7 column progress c rest =>
    exact .of_silent (isCode_carry line column progress ⟨c, line, column, []⟩ (c :: rest))
  | case8 column progress c rest => exact .of_silent (isCode_close progress '\n' line _)

theorem spellsNames_read (line : Nat) (pending : Option Suspended) (cs : List Char) :
    SpellsNames (read line pending cs).1 := by
  obtain ⟨marks, reading, read_eq, silent, body⟩ := body_read line pending cs
  rw [read_eq]
  refine .append (.of_silent fun token member => Token.isCode_of_silent (silent token member)) ?_
  cases body with
  | unchanged => exact List.forall_mem_nil _
  | directive => exact List.forall_mem_nil _
  | rest column progress cs => exact spellsNames_readRest line column progress cs
  | literal column progress literal cs =>
    unfold resumeLiteral
    split
    · exact .cons (fun isName => by contradiction) (spellsNames_readRest line _ _ _)
    · exact .of_silent (isCode_carry line column progress literal cs)

end Line

namespace Tokenized

theorem spellsNames_linesPart (line : Nat) (pending : Option Suspended)
    (lines : List (List Char)) :
    SpellsNames (linesPart line pending lines).tokens := by
  induction lines generalizing line pending with
  | nil => exact List.forall_mem_nil _
  | cons cs rest ih => exact .append (Line.spellsNames_read line pending cs) (ih (line + 1) _)

/-- The names of a source are spelled like names. -/
theorem spellsNames (source : List String) : SpellsNames (ofLines source).tokens := by
  change SpellsNames (readLines 1 none (source.map lineText)).tokens
  rw [readLines_eq, Part.tokens_append]
  exact .append (spellsNames_linesPart 1 none _)
    (.of_silent (isCode_danglingPart (pendingBehind 1 none (source.map lineText))))

theorem spellsNames_of_mem_statements (source : List String) {statement : List Token}
    (listed : statement ∈ (ofLines source).statements) : SpellsNames statement := by
  intro token member
  have inside : token ∈ (ofLines source).statements.flatten :=
    List.mem_flatten_of_mem listed member
  rw [statements, flatten_statementsOf] at inside
  exact spellsNames source token (List.mem_filter.mp inside).1

end Tokenized

end FortranStyle
