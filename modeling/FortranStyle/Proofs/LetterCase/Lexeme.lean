import FortranStyle.Proofs.LetterCase.Lowering
import FortranStyle.Proofs.Reading.Lookahead

/-!
# Lexemes in small letters

A lexeme is read off a line by classes of characters, by signs that are no
letters, and by the letters of an exponent, of which both forms are listed.  So
the lexemes of a lowered line are those of the line: the same kind of token, as
many characters, as many open array constructors.
-/

namespace FortranStyle.LetterCase

open Lexeme

variable {c : Char}

/-! ## Runs of characters -/

theorem isNameChar_toLower (c : Char) : isNameChar c.toLower = isNameChar c :=
  toLower_congr (by decide) c

theorem isQuote_toLower (c : Char) : isQuote c.toLower = isQuote c :=
  toLower_congr (by decide) c

theorem isExponentLetter_toLower (c : Char) : isExponentLetter c.toLower = isExponentLetter c :=
  toLower_congr (by decide) c

theorem isSign_toLower (c : Char) : isSign c.toLower = isSign c :=
  toLower_congr (by decide) c

theorem takeWhile_lowered {p : Char → Bool} (same : ∀ c, p c.toLower = p c) (cs : List Char) :
    (cs.map Char.toLower).takeWhile p = (cs.takeWhile p).map Char.toLower := by
  rw [List.takeWhile_map]
  congr 2
  funext c
  exact same c

theorem dropWhile_lowered {p : Char → Bool} (same : ∀ c, p c.toLower = p c) (cs : List Char) :
    (cs.map Char.toLower).dropWhile p = (cs.dropWhile p).map Char.toLower := by
  rw [List.dropWhile_map]
  congr 2
  funext c
  exact same c

theorem leading_lowered {p : Char → Bool} (same : ∀ c, p c.toLower = p c) (cs : List Char) :
    leading p (cs.map Char.toLower) = leading p cs := by
  rw [leading, takeWhile_lowered same, List.length_map, leading]

/-- A character that is no letter stands at the start of a lowered text exactly
when it stands at the start of the text. -/
theorem head?_lowered {d : Char} (other : d.isAlpha = false) (cs : List Char) :
    (cs.map Char.toLower).head? = some d ↔ cs.head? = some d := by
  cases cs with
  | nil => simp
  | cons c rest => simp [toLower_eq_iff other]

/-! ## Numbers -/

theorem dottedLength?_lowered (cs : List Char) :
    dottedLength? (cs.map Char.toLower) = dottedLength? cs := by
  cases cs with
  | nil => rfl
  | cons c rest =>
    by_cases point : c = '.'
    · subst point
      rw [List.map_cons, show '.'.toLower = '.' from rfl, dottedLength?_point, dottedLength?_point,
        leading_lowered isAlpha_toLower, ← List.map_drop]
      simp only [head?_lowered (d := '.') (by decide)]
    · rw [List.map_cons, dottedLength?_of_ne point,
        dottedLength?_of_ne (mt (toLower_eq_iff (by decide)).mp point)]

theorem fractionLength_lowered (cs : List Char) :
    fractionLength (cs.map Char.toLower) = fractionLength cs := by
  cases cs with
  | nil => rfl
  | cons c rest =>
    by_cases point : c = '.'
    · subst point
      have dotted := dottedLength?_lowered ('.' :: rest)
      rw [List.map_cons, show '.'.toLower = '.' from rfl] at *
      simp only [fractionLength, dotted, leading_lowered isDigit_toLower]
    · have point' : c.toLower ≠ '.' := mt (toLower_eq_iff (by decide)).mp point
      simp [fractionLength, point, point']

theorem exponentLength_lowered (cs : List Char) :
    exponentLength (cs.map Char.toLower) = exponentLength cs := by
  cases cs with
  | nil => rfl
  | cons c rest =>
    simp only [List.map_cons, exponentLength, isExponentLetter_toLower, ← List.map_take,
      leading_lowered isSign_toLower, ← List.map_drop, leading_lowered isDigit_toLower]

theorem kindSuffixLength_lowered (cs : List Char) :
    kindSuffixLength (cs.map Char.toLower) = kindSuffixLength cs := by
  cases cs with
  | nil => rfl
  | cons c rest =>
    by_cases underscore : c = '_'
    · subst underscore
      simp only [List.map_cons, show '_'.toLower = '_' from rfl, kindSuffixLength,
        leading_lowered isNameChar_toLower]
    · have underscore' : c.toLower ≠ '_' := mt (toLower_eq_iff (by decide)).mp underscore
      simp [kindSuffixLength, underscore, underscore']

theorem numberLength_lowered (cs : List Char) :
    numberLength (cs.map Char.toLower) = numberLength cs := by
  simp only [numberLength, leading_lowered isDigit_toLower, ← List.map_drop,
    fractionLength_lowered, exponentLength_lowered, kindSuffixLength_lowered]

theorem startsNumber_lowered (cs : List Char) :
    startsNumber (cs.map Char.toLower) = startsNumber cs := by
  rcases cs with _ | ⟨c, rest⟩
  · rfl
  · by_cases point : c = '.'
    · subst point
      rcases rest with _ | ⟨d, rest⟩
      · rfl
      · exact isDigit_toLower d
    · rw [List.map_cons, startsNumber_of_ne point,
        startsNumber_of_ne (mt (toLower_eq_iff (by decide)).mp point), isDigit_toLower]

/-! ## Operators and literals -/

theorem opensConstructor_lowered (cs : List Char) :
    opensConstructor (cs.map Char.toLower) = opensConstructor cs := by
  cases cs with
  | nil => rfl
  | cons c rest =>
    rw [List.map_cons, opensConstructor_cons _ _ [], opensConstructor_cons c _ []]
    exact toLower_congr (f := fun c => opensConstructor [c]) (by decide) c

theorem operator?_lowered (depth : Nat) (cs : List Char) :
    operator? depth (cs.map Char.toLower) = operator? depth cs := by
  rcases cs with _ | ⟨c, rest⟩
  · rfl
  by_cases listed : c ∈ operatorChars
  · have noLetter : ∀ c ∈ operatorChars, c.toLower = c :=
      List.all_iff_forall_prop.mp (by decide)
    have pairs : ∀ c ∈ operatorChars, capitals.all fun d =>
        decide ((c, d.toLower) ∈ pairedOperators) = decide ((c, d) ∈ pairedOperators) :=
      List.all_iff_forall_prop.mp (by decide)
    rcases rest with _ | ⟨d, rest⟩
    · rw [List.map_cons, noLetter c listed, List.map_nil]
    · rw [List.map_cons, noLetter c listed, List.map_cons]
      have slash : d.toLower = '/' ↔ d = '/' := toLower_eq_iff (by decide)
      have close : d.toLower = ')' ↔ d = ')' := toLower_eq_iff (by decide)
      have paired : (c, d.toLower) ∈ pairedOperators ↔ (c, d) ∈ pairedOperators := by
        simpa using toLower_congr (f := fun d => decide ((c, d) ∈ pairedOperators))
          (pairs c listed) d
      by_cases bracket : c = '(' ∧ d = '/'
      · obtain ⟨rfl, rfl⟩ := bracket
        simp only [operator?, listed, not_true_eq_false, if_false, opensConstructor_lowered,
          show '/'.toLower = '/' from rfl]
      · rw [operator?_cons_cons listed (by rwa [slash]), operator?_cons_cons listed bracket]
        simp only [close, paired]
  · have listed' : c.toLower ∉ operatorChars := by
      have congr := toLower_congr (f := fun c => decide (c ∈ operatorChars)) (by decide) c
      simpa [listed] using congr
    rw [List.map_cons, operator?_of_notMem listed, operator?_of_notMem listed']

theorem closingQuote?_lowered {quote : Char} (other : quote.isAlpha = false) (cs : List Char) :
    closingQuote? quote (cs.map Char.toLower) = closingQuote? quote cs := by
  have same (c : Char) : c.toLower = quote ↔ c = quote := toLower_eq_iff other
  fun_induction closingQuote? quote cs with
  | case1 => rfl
  | case2 => simp [closingQuote?, same]
  | case3 c differs => simp [closingQuote?, same, differs]
  | case4 c d rest differs ih =>
    rw [List.map_cons] at ih
    simp [closingQuote?, same, differs, ih]
  | case5 d rest doubled ih => simp [closingQuote?, same, not_not.mp doubled, ih]
  | case6 c d rest closes noDouble => simp_all [closingQuote?]

/-! ## Lexemes -/

theorem nameKind_lowered (text : List Char) :
    nameKind (text.map Char.toLower) = nameKind text := by
  have lower_eq : Text.lower (.ofList (text.map Char.toLower)) = Text.lower (.ofList text) := by
    have copied := Transcription.lowering.lower_copy (.ofList text)
    rwa [String.toList_ofList] at copied
  rw [nameKind, nameKind, lower_eq]

/-- The lexemes of a line do not depend on its letter case. -/
theorem read?_lowered (depth : Nat) (cs : List Char) :
    Lexeme.read? depth (cs.map Char.toLower) = Lexeme.read? depth cs := by
  rcases cs with _ | ⟨c, rest⟩
  · rfl
  have startsNumber_eq := startsNumber_lowered (c :: rest)
  have numberLength_eq := numberLength_lowered (c :: rest)
  have dottedLength?_eq := dottedLength?_lowered (c :: rest)
  have operator?_eq := operator?_lowered depth (c :: rest)
  rw [List.map_cons] at *
  by_cases quote : isQuote c = true
  · have noLetter : c.isAlpha = false := by
      simp only [isQuote, Bool.or_eq_true, beq_iff_eq] at quote
      rcases quote with rfl | rfl <;> rfl
    have kept : c.toLower = c := (toLower_eq_iff noLetter).mpr rfl
    rw [kept, read?_quote quote, read?_quote quote, closingQuote?_lowered noLetter]
  have quote' : ¬isQuote c.toLower = true := by rwa [isQuote_toLower]
  by_cases alpha : c.isAlpha = true
  · rw [read?_name quote' (by rwa [isAlpha_toLower]), read?_name quote alpha,
      leading_lowered isNameChar_toLower, ← List.map_take, ← List.map_cons, nameKind_lowered]
  have alpha' : ¬c.toLower.isAlpha = true := by rwa [isAlpha_toLower]
  by_cases starts : startsNumber (c :: rest) = true
  · rw [read?_number quote' alpha' (by rwa [startsNumber_eq]), read?_number quote alpha starts,
      numberLength_eq]
  have starts' : ¬startsNumber (c.toLower :: rest.map Char.toLower) = true := by
    rwa [startsNumber_eq]
  cases dotted : dottedLength? (c :: rest) with
  | some length =>
    rw [read?_dotted quote' alpha' starts' (dottedLength?_eq.trans dotted),
      read?_dotted quote alpha starts dotted]
  | none =>
    rw [read?_operator quote' alpha' starts' (dottedLength?_eq.trans dotted),
      read?_operator quote alpha starts dotted, operator?_eq]

end FortranStyle.LetterCase
