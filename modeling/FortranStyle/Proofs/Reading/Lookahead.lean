import FortranStyle.Token.Lexeme
import Mathlib.Tactic.Common

/-!
# What a lexeme looks at

Reading a lexeme may look beyond its end: at one more character for a name, at
two for a bracket with a slash, and at a whole dotted operator for a number.  A
stop is a character that no lexeme takes in and that settles every such look
like the end of the line.  Whatever follows a run of lexemes can be replaced by
a stop and anything behind it, with one exception: in `(/)` the bracket alone is
a lexeme because of the second bracket, and it is not when that is taken away.  A
quote settles the looks of everything but a literal with that quote.
-/

namespace FortranStyle.Lexeme

/-- A character that no lexeme in front of it takes in. -/
def isStop (c : Char) : Bool :=
  !isNameChar c && !isQuote c && !"./)=>:*+-".toList.contains c

/-- A character that no name, number or operator in front of it takes in: a stop or
a quote. -/
def isApart (c : Char) : Bool :=
  !isNameChar c && !"./)=>:*+-".toList.contains c

theorem isApart_of_isStop {c : Char} (stop : isStop c = true) : isApart c = true := by
  simp only [isStop, isApart, Bool.and_eq_true] at *
  exact ⟨stop.1.1, stop.2⟩

theorem isApart_of_isQuote {c : Char} (quote : isQuote c = true) : isApart c = true := by
  simp only [isQuote, Bool.or_eq_true, beq_iff_eq] at quote
  rcases quote with rfl | rfl <;> decide

theorem isQuote_of_isStop {c : Char} (stop : isStop c = true) : isQuote c = false := by
  simp only [isStop, Bool.and_eq_true, Bool.not_eq_true'] at stop
  exact stop.1.2

variable {e : Char} {front rest after : List Char}

section Apart

variable (apart : isApart e = true)
include apart

theorem isNameChar_of_isApart : isNameChar e = false := by
  simp only [isApart, Bool.and_eq_true, Bool.not_eq_true'] at apart
  exact apart.1

theorem isAlpha_of_isApart : e.isAlpha = false := by
  have name := isNameChar_of_isApart apart
  simp only [isNameChar, Char.isAlphanum, Bool.or_eq_false_iff] at name
  exact name.1.1

theorem isDigit_of_isApart : e.isDigit = false := by
  have name := isNameChar_of_isApart apart
  simp only [isNameChar, Char.isAlphanum, Bool.or_eq_false_iff] at name
  exact name.1.2

theorem ne_of_isApart {c : Char} (listed : c ∈ "./)=>:*+-".toList) : e ≠ c := by
  rintro rfl
  simp only [isApart, Bool.and_eq_true, Bool.not_eq_true'] at apart
  exact absurd (List.elem_eq_true_of_mem listed) (by simpa using apart.2)

theorem isSign_of_isApart : isSign e = false := by
  have plus := ne_of_isApart apart (c := '+') (by decide)
  have minus := ne_of_isApart apart (c := '-') (by decide)
  simp [isSign, plus, minus]

theorem not_paired_of_isApart (c : Char) : (c, e) ∉ pairedOperators := by
  have colon := ne_of_isApart apart (c := ':') (by decide)
  have greater := ne_of_isApart apart (c := '>') (by decide)
  have equals := ne_of_isApart apart (c := '=') (by decide)
  have star := ne_of_isApart apart (c := '*') (by decide)
  have slash := ne_of_isApart apart (c := '/') (by decide)
  simp [pairedOperators, colon, greater, equals, star, slash]

end Apart

/-! ## Runs of characters -/

theorem leading_cons_of_pos {p : Char → Bool} {c : Char} (holds : p c = true) (cs : List Char) :
    leading p (c :: cs) = leading p cs + 1 := by
  simp [leading, holds]

theorem leading_cons_of_neg {p : Char → Bool} {c : Char} (fails : p c = false) (cs : List Char) :
    leading p (c :: cs) = 0 := by
  simp [leading, fails]

theorem leading_append {p : Char → Bool} {run : List Char} (all : ∀ c ∈ run, p c = true)
    (rest : List Char) : leading p (run ++ rest) = run.length + leading p rest := by
  rw [leading, List.takeWhile_append_of_pos all, List.length_append, leading]

/-- A run that ends in front of the cut, or at it, does not depend on what
follows. -/
theorem leading_replace {p : Char → Bool} (stop : p e = false)
    (inside : leading p (front ++ rest) ≤ front.length) :
    leading p (front ++ e :: after) = leading p (front ++ rest) := by
  induction front with
  | nil =>
    rw [List.nil_append, leading_cons_of_neg stop]
    exact (Nat.le_zero.mp inside).symm
  | cons c front ih =>
    rw [List.cons_append, List.cons_append] at *
    by_cases holds : p c = true
    · rw [leading_cons_of_pos holds] at *
      rw [leading_cons_of_pos holds, ih (by simpa using inside)]
    · rw [Bool.not_eq_true] at holds
      rw [leading_cons_of_neg holds, leading_cons_of_neg holds]

/-- A run that reaches beyond the cut stops at the cut. -/
theorem leading_replace_of_lt {p : Char → Bool} (stop : p e = false)
    (beyond : front.length < leading p (front ++ rest)) :
    leading p (front ++ e :: after) = front.length := by
  induction front with
  | nil => exact leading_cons_of_neg stop after
  | cons c front ih =>
    rw [List.cons_append] at *
    by_cases holds : p c = true
    · rw [leading_cons_of_pos holds] at *
      rw [ih (by simpa using beyond), List.length_cons]
    · rw [Bool.not_eq_true] at holds
      rw [leading_cons_of_neg holds] at beyond
      exact absurd beyond (by simp)

/-! ## Literals -/

theorem closingQuote?_eq_none {quote : Char} {cs : List Char} (absent : ∀ c ∈ cs, c ≠ quote) :
    closingQuote? quote cs = none := by
  fun_induction closingQuote? quote cs with
  | case1 => rfl
  | case2 => exact absurd rfl (absent _ List.mem_cons_self)
  | case3 => rfl
  | case4 c d rest other ih =>
    rw [ih fun c member => absent c (List.mem_cons_of_mem _ member), Option.map_none]
  | case5 c rest other => exact absurd (Decidable.not_not.mp other) (absent c List.mem_cons_self)
  | case6 c d rest other => exact absurd (Decidable.not_not.mp other) (absent c List.mem_cons_self)

/-- What holds no quote closes no literal. -/
theorem closingQuote?_append {quote : Char} (absent : ∀ c ∈ after, c ≠ quote)
    (cs : List Char) : closingQuote? quote (cs ++ after) = closingQuote? quote cs := by
  fun_induction closingQuote? quote cs with
  | case1 => exact closingQuote?_eq_none absent
  | case2 =>
    cases after with
    | nil => simp [closingQuote?]
    | cons d rest => simp [closingQuote?, absent d List.mem_cons_self]
  | case3 c other =>
    cases after with
    | nil => simp [closingQuote?, other]
    | cons d rest => simp [closingQuote?, other, closingQuote?_eq_none absent]
  | case4 c d rest other ih =>
    rw [List.cons_append] at ih
    simp [closingQuote?, other, ih]
  | case5 => simp_all [closingQuote?]
  | case6 => simp_all [closingQuote?]

/-- A closing quote in front of the cut closes the literal whatever follows,
unless the quote is doubled at the cut. -/
theorem closingQuote?_replace {quote : Char} (stop : e ≠ quote) {body : Nat}
    (closed : closingQuote? quote (front ++ rest) = some body) (inside : body < front.length) :
    closingQuote? quote (front ++ e :: after) = some body := by
  induction front using closingQuote?.induct quote generalizing body with
  | case1 => exact absurd inside (by simp)
  | case2 =>
    have body_eq : body = 0 := by simpa using inside
    subst body_eq
    simp [closingQuote?, stop]
  | case3 c other =>
    cases rest with
    | nil => simp [closingQuote?, other] at closed
    | cons d rest =>
      simp only [List.singleton_append, closingQuote?, ne_eq, other, not_false_eq_true, if_true,
        Option.map_eq_some_iff] at closed
      obtain ⟨count, -, rfl⟩ := closed
      simp at inside
  | case4 c d front other ih =>
    simp only [List.cons_append, closingQuote?, if_pos other, Option.map_eq_some_iff] at closed ⊢
    obtain ⟨count, closed, rfl⟩ := closed
    exact ⟨count, ih closed (by simpa using inside), rfl⟩
  | case5 c front same ih =>
    rw [not_not] at same
    subst same
    simp only [List.cons_append, closingQuote?, ne_eq, not_true_eq_false, if_false, if_true,
      Option.map_eq_some_iff] at closed ⊢
    obtain ⟨count, closed, rfl⟩ := closed
    exact ⟨count, ih closed (by simpa using inside), rfl⟩
  | case6 c d front same other =>
    rw [not_not] at same
    subst same
    simp only [List.cons_append, closingQuote?, ne_eq, not_true_eq_false, if_false, other]
      at closed ⊢
    exact closed

/-- A closing quote with another character behind it closes the literal whatever
follows that. -/
theorem closingQuote?_replace_of_lt {quote : Char} {body : Nat}
    (closed : closingQuote? quote (front ++ rest) = some body)
    (inside : body + 1 < front.length) : closingQuote? quote (front ++ after) = some body := by
  induction front using closingQuote?.induct quote generalizing body with
  | case1 => exact absurd inside (by simp)
  | case2 => exact absurd inside (by simp)
  | case3 c other => exact absurd inside (by simp)
  | case4 c d front other ih =>
    simp only [List.cons_append, closingQuote?, if_pos other, Option.map_eq_some_iff] at closed ⊢
    obtain ⟨count, closed, rfl⟩ := closed
    exact ⟨count, ih closed (Nat.lt_of_succ_lt_succ inside), rfl⟩
  | case5 c front same ih =>
    rw [not_not] at same
    subst same
    simp only [List.cons_append, closingQuote?, ne_eq, not_true_eq_false, if_false, if_true,
      Option.map_eq_some_iff] at closed ⊢
    obtain ⟨count, closed, rfl⟩ := closed
    exact ⟨count, ih closed (Nat.lt_of_succ_lt_succ (Nat.lt_of_succ_lt_succ inside)), rfl⟩
  | case6 c d front same other =>
    rw [not_not] at same
    subst same
    simp only [List.cons_append, closingQuote?, ne_eq, not_true_eq_false, if_false, other]
      at closed ⊢
    exact closed

/-! ## Numbers -/

/-- A dotted operator is letters between two points. -/
theorem dottedLength?_point (rest : List Char) :
    dottedLength? ('.' :: rest) =
      if leading Char.isAlpha rest ≠ 0 ∧ (rest.drop (leading Char.isAlpha rest)).head? = some '.'
      then some (leading Char.isAlpha rest + 2) else none :=
  rfl

theorem dottedLength?_of_ne {c : Char} (other : c ≠ '.') (rest : List Char) :
    dottedLength? (c :: rest) = none := by
  unfold dottedLength?
  split
  · rename_i same
    cases same
    exact absurd rfl other
  · rfl

theorem fractionLength_of_ne {c : Char} (other : c ≠ '.') (rest : List Char) :
    fractionLength (c :: rest) = 0 := by
  simp [fractionLength, other]

theorem exponentLength_of_ne {c : Char} (other : isExponentLetter c = false) (rest : List Char) :
    exponentLength (c :: rest) = 0 := by
  simp [exponentLength, other]

theorem kindSuffixLength_of_ne {c : Char} (other : c ≠ '_') (rest : List Char) :
    kindSuffixLength (c :: rest) = 0 := by
  simp [kindSuffixLength, other]

/-- The parts of a numeric literal, one behind the other. -/
theorem numberLength_eq {cs : List Char} {digits fraction exponent suffix : Nat}
    (digits_eq : leading Char.isDigit cs = digits)
    (fraction_eq : fractionLength (cs.drop digits) = fraction)
    (exponent_eq : exponentLength (cs.drop (digits + fraction)) = exponent)
    (suffix_eq : kindSuffixLength (cs.drop (digits + fraction + exponent)) = suffix) :
    numberLength cs = digits + fraction + exponent + suffix := by
  subst digits_eq fraction_eq exponent_eq suffix_eq
  rfl

/-- Nothing of a number begins where a dotted operator does. -/
theorem following_of_dottedLength? {cs : List Char} {length : Nat}
    (dotted : dottedLength? cs = some length) :
    fractionLength cs = 0 ∧ exponentLength cs = 0 ∧ kindSuffixLength cs = 0 := by
  cases cs with
  | nil => exact ⟨rfl, rfl, rfl⟩
  | cons c rest =>
    by_cases same : c = '.'
    · subst same
      refine ⟨?_, rfl, rfl⟩
      simp [fractionLength, dotted]
    · rw [dottedLength?_of_ne same] at dotted
      contradiction

theorem isAlpha_iff_toNat {c : Char} :
    c.isAlpha = true ↔
      (0x41 ≤ c.toNat ∧ c.toNat ≤ 0x5a) ∨ (0x61 ≤ c.toNat ∧ c.toNat ≤ 0x7a) := by
  have letters : c.isAlpha = (decide (c.val ≥ 'A'.val ∧ c.val ≤ 'Z'.val) ||
      (decide (c.val ≥ 'a'.val) && decide (c.val ≤ 'z'.val))) := rfl
  rw [letters]
  simp [UInt32.le_iff_toNat_le]

theorem isAlpha_of_isDigit {c : Char} (digit : c.isDigit = true) : c.isAlpha = false := by
  have isNumber : 0x30 ≤ c.toNat ∧ c.toNat ≤ 0x39 := Char.isDigit_iff_toNat.mp digit
  rw [← Bool.not_eq_true, isAlpha_iff_toNat]
  omega

/-- A point with a digit behind it opens no operator. -/
theorem dottedLength?_digit {d : Char} (digit : d.isDigit = true) (cs : List Char) :
    dottedLength? ('.' :: d :: cs) = none := by
  rw [dottedLength?_point, leading_cons_of_neg (isAlpha_of_isDigit digit)]
  rfl

/-- A point with a digit behind it are two characters of a number. -/
theorem two_le_numberLength {d : Char} (digit : d.isDigit = true) (cs : List Char) :
    2 ≤ numberLength ('.' :: d :: cs) := by
  have plain := dottedLength?_digit digit cs
  have fraction : fractionLength ('.' :: d :: cs) = 1 + (leading Char.isDigit cs + 1) := by
    simp [fractionLength, plain, leading_cons_of_pos digit]
  rw [numberLength_eq (leading_cons_of_neg (by decide) _) fraction rfl rfl]
  omega

theorem numberLength_pos {cs : List Char} (starts : startsNumber cs = true) :
    0 < numberLength cs := by
  unfold startsNumber at starts
  split at starts
  · exact Nat.lt_of_lt_of_le (by decide) (two_le_numberLength starts _)
  · rw [numberLength_eq (leading_cons_of_pos starts _) rfl rfl rfl]
    omega
  · contradiction

theorem startsNumber_of_ne {c : Char} (other : c ≠ '.') (rest : List Char) :
    startsNumber (c :: rest) = c.isDigit := by
  unfold startsNumber
  split
  · rename_i spelled
    cases spelled
    exact absurd rfl other
  · rename_i spelled
    cases spelled
    rfl
  · contradiction

section Apart

variable (apart : isApart e = true)
include apart

/-- A dotted operator that ends in front of the cut stays, and one that reaches
beyond it is none. -/
theorem dottedLength?_replace :
    dottedLength? (front ++ e :: after) =
      (dottedLength? (front ++ rest)).filter (· ≤ front.length) := by
  have point : e ≠ '.' := ne_of_isApart apart (by decide)
  have letter := isAlpha_of_isApart apart
  cases front with
  | nil =>
    rw [List.nil_append, dottedLength?_of_ne point]
    symm
    rw [Option.filter_eq_none_iff]
    intro length found
    unfold dottedLength? at found
    split at found
    · dsimp only at found
      split at found
      · cases found
        simp
      · contradiction
    · contradiction
  | cons c front =>
    rw [List.cons_append, List.cons_append, List.length_cons]
    by_cases same : c = '.'
    · subst same
      rw [dottedLength?_point, dottedLength?_point]
      by_cases before : leading Char.isAlpha (front ++ rest) < front.length
      · rw [leading_replace letter (Nat.le_of_lt before)]
        rw [List.drop_append_of_le_length (Nat.le_of_lt before),
          List.drop_append_of_le_length (Nat.le_of_lt before)]
        have nonempty : front.drop (leading Char.isAlpha (front ++ rest)) ≠ [] := by
          intro dropped
          exact absurd (List.drop_eq_nil_iff.mp dropped) (Nat.not_le.mpr before)
        obtain ⟨d, more, spelled⟩ := List.exists_cons_of_ne_nil nonempty
        rw [spelled, List.cons_append, List.cons_append, List.head?_cons, List.head?_cons]
        split
        · simp [Option.filter, Nat.add_le_add_right before 1]
        · rfl
      · have reaches : leading Char.isAlpha (front ++ e :: after) = front.length := by
          rcases Nat.lt_or_eq_of_le (Nat.not_lt.mp before) with beyond | here
          · exact leading_replace_of_lt letter beyond
          · rw [leading_replace letter (Nat.le_of_eq here.symm)]
            exact here.symm
        rw [reaches, if_neg, eq_comm, Option.filter_eq_none_iff]
        · intro length found
          split at found
          · cases found
            simp
            omega
          · contradiction
        · simp [point]
    · rw [dottedLength?_of_ne same, dottedLength?_of_ne same]
      rfl

/-- A fraction depends on what follows only through a dotted operator that the
cut goes through. -/
theorem fractionLength_replace (inside : fractionLength (front ++ rest) ≤ front.length)
    (whole : front ≠ [] → ∀ length, dottedLength? (front ++ rest) = some length →
      length ≤ front.length) :
    fractionLength (front ++ e :: after) = fractionLength (front ++ rest) := by
  have point : e ≠ '.' := ne_of_isApart apart (by decide)
  cases front with
  | nil =>
    rw [Nat.le_zero.mp inside, List.nil_append, fractionLength_of_ne point]
  | cons c front =>
    by_cases same : c = '.'
    · subst same
      have dotted : dottedLength? ('.' :: front ++ e :: after) =
          (dottedLength? ('.' :: front ++ rest)).filter (· ≤ ('.' :: front).length) :=
        dottedLength?_replace apart
      have kept : (dottedLength? ('.' :: front ++ rest)).filter (· ≤ ('.' :: front).length) =
          dottedLength? ('.' :: front ++ rest) := by
        cases found : dottedLength? ('.' :: front ++ rest) with
        | none => rfl
        | some length =>
          have short := whole (List.cons_ne_nil _ _) length found
          simp only [Option.filter, short, decide_true, if_true]
      rw [kept] at dotted
      simp only [List.cons_append, fractionLength] at dotted inside ⊢
      simp only [dotted]
      split
      · rfl
      · rename_i free
        rw [if_neg free, List.length_cons] at inside
        have run : leading Char.isDigit (front ++ e :: after) =
            leading Char.isDigit (front ++ rest) :=
          leading_replace (isDigit_of_isApart apart) (by omega)
        rw [run]
    · rw [List.cons_append, List.cons_append, fractionLength_of_ne same, fractionLength_of_ne same]

theorem exponentLength_replace (inside : exponentLength (front ++ rest) ≤ front.length) :
    exponentLength (front ++ e :: after) = exponentLength (front ++ rest) := by
  have digit := isDigit_of_isApart apart
  cases front with
  | nil =>
    rw [Nat.le_zero.mp inside, List.nil_append]
    have letter : isExponentLetter e = false := by
      rw [Bool.eq_false_iff]
      intro listed
      have letters : ['E', 'e', 'D', 'd', 'Q', 'q'].all Char.isAlpha = true := by decide
      rw [isExponentLetter, List.contains_iff_mem] at listed
      have alpha := List.all_eq_true.mp letters e listed
      rw [isAlpha_of_isApart apart] at alpha
      contradiction
    exact exponentLength_of_ne letter after
  | cons c front =>
    simp only [List.cons_append, exponentLength] at inside ⊢
    split
    · rename_i letter
      rw [if_pos letter, List.length_cons] at inside
      cases front with
      | nil =>
        have sign : leading isSign ((e :: after).take 1) = 0 := by
          rw [List.take_succ_cons]
          exact leading_cons_of_neg (isSign_of_isApart apart) _
        rw [List.nil_append, sign, List.drop_zero, leading_cons_of_neg digit]
        simp only [List.nil_append, List.length_nil] at inside ⊢
        split at inside
        · rename_i none
          rw [if_pos none]
          rfl
        · omega
      | cons d front =>
        simp only [List.cons_append, List.take_succ_cons, List.take_zero] at inside ⊢
        by_cases signed : isSign d = true
        · have one : leading isSign [d] = 1 := leading_cons_of_pos signed []
          simp only [one, List.drop_succ_cons, List.drop_zero, List.length_cons] at inside ⊢
          have run : leading Char.isDigit (front ++ e :: after) =
              leading Char.isDigit (front ++ rest) := by
            apply leading_replace digit
            split at inside <;> omega
          rw [run]
        · rw [Bool.not_eq_true] at signed
          simp only [leading_cons_of_neg signed, List.drop_zero, List.length_cons] at inside ⊢
          have run : leading Char.isDigit (d :: front ++ e :: after) =
              leading Char.isDigit (d :: front ++ rest) := by
            apply leading_replace digit
            rw [List.cons_append, List.length_cons]
            split at inside <;> omega
          rw [List.cons_append, List.cons_append] at run
          rw [run]
    · rfl

theorem kindSuffixLength_replace (inside : kindSuffixLength (front ++ rest) ≤ front.length) :
    kindSuffixLength (front ++ e :: after) = kindSuffixLength (front ++ rest) := by
  have name := isNameChar_of_isApart apart
  cases front with
  | nil =>
    have other : e ≠ '_' := by
      rintro rfl
      contradiction
    rw [Nat.le_zero.mp inside, List.nil_append, kindSuffixLength_of_ne other]
  | cons c front =>
    by_cases same : c = '_'
    · subst same
      simp only [List.cons_append, kindSuffixLength, List.length_cons] at inside ⊢
      have run :
          leading isNameChar (front ++ e :: after) = leading isNameChar (front ++ rest) := by
        apply leading_replace name
        split at inside <;> omega
      rw [run]
    · rw [List.cons_append, List.cons_append, kindSuffixLength_of_ne same,
        kindSuffixLength_of_ne same]

/-- A numeric literal that ends in front of the cut stays, unless the cut goes
through a dotted operator behind it. -/
theorem numberLength_replace (inside : numberLength (front ++ rest) ≤ front.length)
    (whole : (front.drop (numberLength (front ++ rest))) ≠ [] →
      ∀ length, dottedLength? (front.drop (numberLength (front ++ rest)) ++ rest) = some length →
        length ≤ (front.drop (numberLength (front ++ rest))).length) :
    numberLength (front ++ e :: after) = numberLength (front ++ rest) := by
  obtain ⟨digits, digits_eq⟩ : ∃ n, leading Char.isDigit (front ++ rest) = n := ⟨_, rfl⟩
  obtain ⟨fraction, fraction_eq⟩ : ∃ n, fractionLength ((front ++ rest).drop digits) = n :=
    ⟨_, rfl⟩
  obtain ⟨exponent, exponent_eq⟩ :
      ∃ n, exponentLength ((front ++ rest).drop (digits + fraction)) = n := ⟨_, rfl⟩
  obtain ⟨suffix, suffix_eq⟩ :
      ∃ n, kindSuffixLength ((front ++ rest).drop (digits + fraction + exponent)) = n := ⟨_, rfl⟩
  have total := numberLength_eq digits_eq fraction_eq exponent_eq suffix_eq
  rw [total] at inside whole ⊢
  rw [List.drop_append_of_le_length (by omega)] at fraction_eq exponent_eq suffix_eq
  have fits : ∀ n, (front.drop n).length = front.length - n := fun n => List.length_drop
  apply numberLength_eq
  · rw [← digits_eq]
    exact leading_replace (isDigit_of_isApart apart) (by omega)
  · rw [List.drop_append_of_le_length (by omega)]
    rw [fractionLength_replace apart (by rw [fraction_eq, fits]; omega) ?_]
    · exact fraction_eq
    · intro nonempty length dotted
      have none := following_of_dottedLength? dotted
      have fraction_zero : fraction = 0 := by rw [← fraction_eq, none.1]
      subst fraction_zero
      rw [Nat.add_zero] at exponent_eq
      have exponent_zero : exponent = 0 := by rw [← exponent_eq, none.2.1]
      subst exponent_zero
      have suffix_zero : suffix = 0 := by
        rw [← suffix_eq]
        exact none.2.2
      subst suffix_zero
      exact whole nonempty length dotted
  · rw [List.drop_append_of_le_length (by omega),
      exponentLength_replace apart (by rw [exponent_eq, fits]; omega)]
    exact exponent_eq
  · rw [List.drop_append_of_le_length (by omega),
      kindSuffixLength_replace apart (by rw [suffix_eq, fits]; omega)]
    exact suffix_eq

theorem startsNumber_replace {c : Char}
    (inside : startsNumber (c :: (front ++ rest)) = true →
      numberLength (c :: (front ++ rest)) ≤ front.length + 1) :
    startsNumber (c :: (front ++ e :: after)) = startsNumber (c :: (front ++ rest)) := by
  by_cases same : c = '.'
  · subst same
    cases front with
    | nil =>
      have none : startsNumber ('.' :: e :: after) = false := isDigit_of_isApart apart
      rw [List.nil_append, none, eq_comm, Bool.eq_false_iff]
      intro starts
      have short := inside starts
      cases rest with
      | nil => exact absurd starts (by decide)
      | cons d rest =>
        have long := two_le_numberLength (d := d) starts rest
        simp only [List.nil_append, List.length_nil] at short
        omega
    | cons d front => rfl
  · rw [startsNumber_of_ne same, startsNumber_of_ne same]

end Apart

/-! ## Operators -/

theorem operator?_of_notMem {depth : Nat} {c : Char} (other : c ∉ operatorChars)
    (rest : List Char) : operator? depth (c :: rest) = none := by
  simp only [operator?, other, not_false_eq_true, if_true]

/-- No operator has more than two characters. -/
theorem operator?_le_one {depth tail inner : Nat} {cs : List Char}
    (read : operator? depth cs = some (tail, inner)) : tail ≤ 1 := by
  unfold operator? at read
  split at read
  · contradiction
  · split at read
    · contradiction
    · split at read
      · split at read <;> cases read <;> decide
      · cases read
        decide
      · split at read <;> cases read <;> decide
      · cases read
        decide

/-- An operator of one character leaves the constructors as they are. -/
theorem depth_of_operator? {depth inner : Nat} {cs : List Char}
    (read : operator? depth cs = some (0, inner)) : inner = depth := by
  unfold operator? at read
  split at read
  · contradiction
  · split at read
    · contradiction
    · split at read
      · split at read <;> simp_all
      · simp at read
      · simp only [Option.some.injEq, Prod.mk.injEq] at read
        exact read.2.symm
      · simp only [Option.some.injEq, Prod.mk.injEq] at read
        exact read.2.symm

/-- A bracket in front of a slash is read alone because of what follows the
slash. -/
theorem following_of_bracket {depth inner : Nat} {cs : List Char}
    (read : operator? depth ('(' :: '/' :: cs) = some (0, inner)) :
    cs.head? = some ')' ∨ cs.head? = some '=' ∨ cs.head? = some '/' := by
  have closed : opensConstructor cs = false := by
    rw [Bool.eq_false_iff]
    intro opens
    have listed : '(' ∈ operatorChars := by decide
    simp [operator?, listed, opens] at read
  unfold opensConstructor at closed
  split at closed
  · exact Or.inl rfl
  · exact Or.inr (Or.inl rfl)
  · exact Or.inr (Or.inr rfl)
  · contradiction

theorem opensConstructor_cons (c : Char) (xs ys : List Char) :
    opensConstructor (c :: xs) = opensConstructor (c :: ys) := by
  unfold opensConstructor
  split <;> split <;> simp_all

/-- Only a bracket with a slash looks at a third character. -/
theorem operator?_cons_cons {depth : Nat} {c d : Char} (listed : c ∈ operatorChars)
    (other : ¬(c = '(' ∧ d = '/')) (rest : List Char) :
    operator? depth (c :: d :: rest) =
      if c = '/' ∧ d = ')' ∧ depth ≠ 0 then some (1, depth - 1)
      else some (if (c, d) ∈ pairedOperators then 1 else 0, depth) := by
  simp only [operator?, listed, not_true_eq_false, if_false]
  split
  · rename_i spelled
    cases spelled
    exact absurd ⟨rfl, rfl⟩ other
  · rename_i spelled
    cases spelled
    rfl
  · rename_i notOpener spelled notCloser
    cases spelled
    refine (if_neg ?_).symm
    rintro ⟨rfl, rfl, nonzero⟩
    obtain ⟨inner, rfl⟩ := Nat.exists_eq_succ_of_ne_zero nonzero
    exact notCloser _ rfl rfl rfl
  · rename_i spelled
    contradiction

section Apart

variable (apart : isApart e = true)
include apart

theorem opensConstructor_of_isApart : opensConstructor (e :: after) = true := by
  have close := ne_of_isApart apart (c := ')') (by decide)
  have equals := ne_of_isApart apart (c := '=') (by decide)
  have slash := ne_of_isApart apart (c := '/') (by decide)
  unfold opensConstructor
  split <;> simp_all

/-- An operator does not depend on what follows the characters it looks at, but
for a bracket with only a slash behind it in front of the cut. -/
theorem operator?_replace {depth tail inner : Nat} {c : Char}
    (read : operator? depth (c :: (front ++ rest)) = some (tail, inner))
    (inside : tail ≤ front.length) (slash : c = '(' → front = ['/'] → tail ≠ 0) :
    operator? depth (c :: (front ++ e :: after)) = some (tail, inner) := by
  by_cases listed : c ∈ operatorChars
  · cases front with
    | nil =>
      obtain rfl : tail = 0 := Nat.le_zero.mp inside
      obtain rfl := depth_of_operator? read
      have notSlash : e ≠ '/' := ne_of_isApart apart (by decide)
      have notClose : e ≠ ')' := ne_of_isApart apart (by decide)
      have alone := not_paired_of_isApart apart c
      rw [List.nil_append, operator?_cons_cons listed (fun both => notSlash both.2),
        if_neg (fun all => notClose all.2.1), if_neg alone]
    | cons d front =>
      rw [List.cons_append] at read ⊢
      by_cases opener : c = '(' ∧ d = '/'
      · obtain ⟨rfl, rfl⟩ := opener
        cases front with
        | nil =>
          rw [List.nil_append] at read ⊢
          by_cases opens : opensConstructor rest = true
          · rw [← read]
            simp [operator?, opens, opensConstructor_of_isApart apart]
          · rw [Bool.not_eq_true] at opens
            simp only [operator?, listed, not_true_eq_false, if_false, opens, Bool.false_eq_true,
              Option.some.injEq, Prod.mk.injEq] at read
            exact absurd read.1.symm (slash rfl rfl)
        | cons f front =>
          rw [← read]
          simp only [operator?, listed, not_true_eq_false, if_false, List.cons_append,
            opensConstructor_cons f (front ++ e :: after) (front ++ rest)]
      · rw [operator?_cons_cons listed opener] at read ⊢
        exact read
  · rw [operator?_of_notMem listed] at read
    contradiction

end Apart

/-! ## Lexemes -/

section Readers

variable {depth : Nat} {c : Char} {cs : List Char}

theorem read?_quote (quote : isQuote c = true) :
    read? depth (c :: cs) =
      (closingQuote? c cs).map fun body => ⟨.string, body + 1, depth⟩ := by
  simp [read?, quote]

variable (noQuote : ¬isQuote c = true)
include noQuote

theorem read?_name (alpha : c.isAlpha = true) :
    read? depth (c :: cs) =
      some ⟨nameKind (c :: cs.take (leading isNameChar cs)), leading isNameChar cs, depth⟩ := by
  simp [read?, noQuote, alpha]

variable (noAlpha : ¬c.isAlpha = true)
include noAlpha

theorem read?_number (starts : startsNumber (c :: cs) = true) :
    read? depth (c :: cs) = some ⟨.number, numberLength (c :: cs) - 1, depth⟩ := by
  simp [read?, noQuote, noAlpha, starts]

variable (noNumber : ¬startsNumber (c :: cs) = true)
include noNumber

theorem read?_dotted {length : Nat} (dotted : dottedLength? (c :: cs) = some length) :
    read? depth (c :: cs) = some ⟨.operator, length - 1, depth⟩ := by
  simp [read?, noQuote, noAlpha, noNumber, dotted]

theorem read?_operator (plain : dottedLength? (c :: cs) = none) :
    read? depth (c :: cs) =
      (operator? depth (c :: cs)).map fun (tail, inner) => ⟨.operator, tail, inner⟩ := by
  simp [read?, noQuote, noAlpha, noNumber, plain]

omit noQuote noAlpha noNumber in
/-- A slash with a slash or an equals sign behind it is one operator. -/
theorem read?_slash (pair : cs.head? = some '=' ∨ cs.head? = some '/') :
    read? depth ('/' :: cs) = some ⟨.operator, 1, depth⟩ := by
  rcases pair with equals | slash
  · obtain ⟨more, rfl⟩ := List.head?_eq_some_iff.mp equals
    rfl
  · obtain ⟨more, rfl⟩ := List.head?_eq_some_iff.mp slash
    rfl

omit noQuote noAlpha noNumber in
theorem read?_of_dottedLength? {length : Nat} (dotted : dottedLength? cs = some length) :
    read? depth cs = some ⟨.operator, length - 1, depth⟩ := by
  cases cs with
  | nil => contradiction
  | cons c rest =>
    by_cases same : c = '.'
    · subst same
      apply read?_dotted (by decide) (by decide) ?_ dotted
      intro starts
      cases rest with
      | nil => contradiction
      | cons d rest =>
        rw [dottedLength?_digit starts] at dotted
        contradiction
    · rw [dottedLength?_of_ne same] at dotted
      contradiction

end Readers

/-! ## Lexemes end on their line -/

theorem leading_le (p : Char → Bool) (cs : List Char) : leading p cs ≤ cs.length :=
  (List.takeWhile_prefix p).length_le

/-- A literal ends with its quote. -/
theorem getElem?_closingQuote? {quote : Char} {cs : List Char} {body : Nat}
    (closed : closingQuote? quote cs = some body) : cs[body]? = some quote := by
  induction cs using closingQuote?.induct quote generalizing body with
  | case1 => contradiction
  | case2 =>
    simp only [closingQuote?, if_true, Option.some.injEq] at closed
    simp [← closed]
  | case3 c other => simp [closingQuote?, other] at closed
  | case4 c d rest other ih =>
    simp only [closingQuote?, if_pos other, Option.map_eq_some_iff] at closed
    obtain ⟨count, closed, rfl⟩ := closed
    exact ih closed
  | case5 c rest same ih =>
    rw [not_not] at same
    subst same
    simp only [closingQuote?, ne_eq, not_true_eq_false, if_false, if_true,
      Option.map_eq_some_iff] at closed
    obtain ⟨count, closed, rfl⟩ := closed
    exact ih closed
  | case6 c d rest same other =>
    rw [not_not] at same
    subst same
    simp only [closingQuote?, ne_eq, not_true_eq_false, if_false, other, Option.some.injEq]
      at closed
    simp [← closed]

theorem closingQuote?_lt {quote : Char} {cs : List Char} {body : Nat}
    (closed : closingQuote? quote cs = some body) : body < cs.length :=
  (List.getElem?_eq_some_iff.mp (getElem?_closingQuote? closed)).1

theorem dottedLength?_le {cs : List Char} {length : Nat}
    (dotted : dottedLength? cs = some length) : length ≤ cs.length := by
  cases cs with
  | nil => contradiction
  | cons c rest =>
    by_cases same : c = '.'
    · subst same
      rw [dottedLength?_point, Option.ite_none_right_eq_some] at dotted
      obtain ⟨⟨-, closed⟩, found⟩ := dotted
      cases found
      have nonempty : rest.drop (leading Char.isAlpha rest) ≠ [] := by
        intro dropped
        rw [dropped] at closed
        contradiction
      rw [ne_eq, List.drop_eq_nil_iff, Nat.not_le] at nonempty
      rw [List.length_cons]
      omega
    · rw [dottedLength?_of_ne same] at dotted
      contradiction

theorem fractionLength_le (cs : List Char) : fractionLength cs ≤ cs.length := by
  unfold fractionLength
  split
  · rename_i rest
    have digits := leading_le Char.isDigit rest
    rw [List.length_cons]
    split <;> omega
  · exact Nat.zero_le _

theorem exponentLength_le (cs : List Char) : exponentLength cs ≤ cs.length := by
  unfold exponentLength
  split
  · rename_i c rest
    dsimp only
    generalize leading isSign (rest.take 1) = sign
    have digits := leading_le Char.isDigit (rest.drop sign)
    rw [List.length_drop] at digits
    rw [List.length_cons]
    split
    · split <;> omega
    · exact Nat.zero_le _
  · exact Nat.zero_le _

theorem kindSuffixLength_le (cs : List Char) : kindSuffixLength cs ≤ cs.length := by
  unfold kindSuffixLength
  split
  · rename_i rest
    have tail := leading_le isNameChar rest
    rw [List.length_cons]
    dsimp only
    split <;> omega
  · exact Nat.zero_le _

theorem numberLength_le (cs : List Char) : numberLength cs ≤ cs.length := by
  rw [numberLength_eq rfl rfl rfl rfl]
  have digits := leading_le Char.isDigit cs
  generalize leading Char.isDigit cs = n at *
  have fraction := fractionLength_le (cs.drop n)
  rw [List.length_drop] at fraction
  generalize fractionLength (cs.drop n) = m at *
  have exponent := exponentLength_le (cs.drop (n + m))
  rw [List.length_drop] at exponent
  generalize exponentLength (cs.drop (n + m)) = k at *
  have suffix := kindSuffixLength_le (cs.drop (n + m + k))
  rw [List.length_drop] at suffix
  omega

theorem operator?_lt {depth tail inner : Nat} {cs : List Char}
    (read : operator? depth cs = some (tail, inner)) : tail < cs.length := by
  cases cs with
  | nil => contradiction
  | cons c cs =>
    by_cases listed : c ∈ operatorChars
    · cases cs with
      | nil =>
        have alone : operator? depth [c] = some (0, depth) := by
          simp only [operator?, listed, not_true_eq_false, if_false]
        rw [alone] at read
        cases read
        exact Nat.zero_lt_one
      | cons d rest =>
        rw [List.length_cons, List.length_cons]
        by_cases opener : c = '(' ∧ d = '/'
        · obtain ⟨rfl, rfl⟩ := opener
          simp only [operator?, listed, not_true_eq_false, if_false] at read
          split at read <;> cases read <;> omega
        · rw [operator?_cons_cons listed opener] at read
          split at read
          · cases read
            omega
          · split at read <;> cases read <;> omega
    · rw [operator?_of_notMem listed] at read
      contradiction

/-- A lexeme is a part of what it is read from. -/
theorem tail_lt_length {depth : Nat} {cs : List Char} {lexeme : Lexeme}
    (read : read? depth cs = some lexeme) : lexeme.tail < cs.length := by
  cases cs with
  | nil => contradiction
  | cons c cs =>
    by_cases quote : isQuote c = true
    · rw [read?_quote quote] at read
      obtain ⟨body, closed, rfl⟩ := Option.map_eq_some_iff.mp read
      exact Nat.succ_lt_succ (closingQuote?_lt closed)
    by_cases alpha : c.isAlpha = true
    · rw [read?_name quote alpha] at read
      cases read
      exact Nat.lt_succ_of_le (leading_le isNameChar cs)
    by_cases starts : startsNumber (c :: cs) = true
    · rw [read?_number quote alpha starts] at read
      cases read
      exact Nat.sub_lt_right_of_lt_add (numberLength_pos starts)
        (Nat.lt_succ_of_le (numberLength_le (c :: cs)))
    cases dotted : dottedLength? (c :: cs) with
    | some length =>
      rw [read?_dotted quote alpha starts dotted] at read
      cases read
      have within := dottedLength?_le dotted
      rw [List.length_cons] at within ⊢
      exact Nat.lt_succ_of_le (Nat.sub_le_of_le_add within)
    | none =>
      rw [read?_operator quote alpha starts dotted] at read
      obtain ⟨⟨tail, inner⟩, operator, rfl⟩ := Option.map_eq_some_iff.mp read
      exact operator?_lt operator

/-! ## Brackets -/

theorem read?_bracket_alone (depth : Nat) (rest : List Char) :
    read? depth ('(' :: '/' :: ')' :: rest) = some ⟨.operator, 0, depth⟩ :=
  rfl

theorem read?_slash_alone (rest : List Char) :
    read? 0 ('/' :: ')' :: rest) = some ⟨.operator, 0, 0⟩ :=
  rfl

theorem read?_slash_close (depth : Nat) (rest : List Char) :
    read? (depth + 1) ('/' :: ')' :: rest) = some ⟨.operator, 1, depth⟩ :=
  rfl

/-! ## Lexemes in front of a cut -/

/-- A lexeme is read in the same way when what follows it is cut off by a stop or
a quote, in front of no lexeme that the cut goes through.  There are two exceptions:
the bracket of `(/)`, when the cut is in front of the second bracket, and a literal
whose own quote cuts it off. -/
theorem read?_replace_of_isApart (apart : isApart e = true) {depth : Nat}
    {text gap : List Char} {lexeme : Lexeme}
    (read : read? depth (text ++ (gap ++ rest)) = some lexeme)
    (ends : text.length = lexeme.tail + 1)
    (whole : gap ≠ [] → ∀ next, read? lexeme.depth (gap ++ rest) = some next →
      next.tail < gap.length)
    (bracket : ¬(text = ['('] ∧ gap = ['/'] ∧ rest.head? = some ')'))
    (literal : isQuote e = true → gap = [] → text.head? ≠ some e) :
    read? depth (text ++ (gap ++ e :: after)) = some lexeme := by
  obtain ⟨c, text, rfl⟩ : ∃ c more, text = c :: more :=
    List.exists_cons_of_ne_nil (List.ne_nil_of_length_eq_add_one ends)
  rw [List.length_cons, Nat.add_right_cancel_iff] at ends
  rw [List.cons_append, ← List.append_assoc] at read ⊢
  have inside : lexeme.tail ≤ (text ++ gap).length := by
    rw [List.length_append, ends]
    exact Nat.le_add_right _ _
  by_cases quote : isQuote c = true
  · rw [read?_quote quote] at read ⊢
    obtain ⟨body, closed, rfl⟩ := Option.map_eq_some_iff.mp read
    by_cases other : e = c
    · subst other
      have behind : gap ≠ [] := fun nothing => literal quote nothing rfl
      have short : body + 1 < (text ++ gap).length := by
        have filled := List.length_pos_iff.mpr behind
        rw [List.length_append, ends]
        exact Nat.lt_add_of_pos_right filled
      rw [closingQuote?_replace_of_lt closed short]
      rfl
    · rw [closingQuote?_replace other closed inside]
      rfl
  by_cases alpha : c.isAlpha = true
  · rw [read?_name quote alpha] at read ⊢
    cases read
    have run : leading isNameChar (text ++ gap ++ e :: after) =
        leading isNameChar (text ++ gap ++ rest) :=
      leading_replace (isNameChar_of_isApart apart) inside
    rw [run, List.take_append_of_le_length inside, List.take_append_of_le_length inside]
  by_cases starts : startsNumber (c :: (text ++ gap ++ rest)) = true
  · rw [read?_number quote alpha starts] at read
    cases read
    have length_eq : numberLength (c :: (text ++ gap ++ rest)) = text.length + 1 := by
      have positive := numberLength_pos starts
      simp only at ends
      omega
    have short : numberLength (c :: (text ++ gap ++ rest)) ≤ (text ++ gap).length + 1 := by
      rw [length_eq, List.length_append]
      omega
    have dropped : (c :: (text ++ gap)).drop (text.length + 1) = gap := by
      rw [List.drop_succ_cons, List.drop_left]
    have run : numberLength (c :: (text ++ gap ++ e :: after)) =
        numberLength (c :: (text ++ gap ++ rest)) := by
      rw [← List.cons_append, ← List.cons_append] at *
      apply numberLength_replace apart short
      rw [length_eq, dropped]
      intro nonempty length dotted
      have next := whole nonempty _ (read?_of_dottedLength? dotted)
      exact Nat.le_of_pred_lt next
    have starts' : startsNumber (c :: (text ++ gap ++ e :: after)) = true := by
      rw [startsNumber_replace apart (fun _ => short)]
      exact starts
    rw [read?_number quote alpha starts', run]
  have starts' : ¬startsNumber (c :: (text ++ gap ++ e :: after)) = true := by
    rw [startsNumber_replace apart (fun number => absurd number starts)]
    exact starts
  have dotted : dottedLength? (c :: (text ++ gap) ++ e :: after) =
      (dottedLength? (c :: (text ++ gap) ++ rest)).filter (· ≤ (c :: (text ++ gap)).length) :=
    dottedLength?_replace apart
  rw [List.cons_append, List.cons_append] at dotted
  cases found : dottedLength? (c :: (text ++ gap ++ rest)) with
  | some length =>
    rw [read?_dotted quote alpha starts found] at read
    cases read
    have short : length ≤ (c :: (text ++ gap)).length := by
      rw [List.length_cons]
      exact Nat.le_add_of_sub_le inside
    rw [found, Option.filter, decide_eq_true short, if_pos rfl] at dotted
    rw [read?_dotted quote alpha starts' dotted]
  | none =>
    rw [read?_operator quote alpha starts found] at read
    rw [found, Option.filter] at dotted
    rw [read?_operator quote alpha starts' dotted]
    obtain ⟨⟨tail, inner⟩, operator, rfl⟩ := Option.map_eq_some_iff.mp read
    rw [operator?_replace apart operator inside]
    · rfl
    · rintro rfl together rfl
      obtain rfl : text = [] := List.eq_nil_of_length_eq_zero ends
      rw [List.nil_append] at together
      subst together
      have follows := following_of_bracket operator
      rcases follows with close | pair
      · exact bracket ⟨rfl, rfl, close⟩
      · have next := whole (List.cons_ne_nil _ _) _ (read?_slash pair)
        exact absurd next (by simp)

section Stop

variable (stop : isStop e = true)
include stop

/-- A lexeme is read in the same way when what follows it is cut off by a stop,
in front of no lexeme that the cut goes through; but the bracket of `(/)` is
not, when the cut is in front of the second bracket. -/
theorem read?_replace {depth : Nat} {text gap : List Char} {lexeme : Lexeme}
    (read : read? depth (text ++ (gap ++ rest)) = some lexeme)
    (ends : text.length = lexeme.tail + 1)
    (whole : gap ≠ [] → ∀ next, read? lexeme.depth (gap ++ rest) = some next →
      next.tail < gap.length)
    (bracket : ¬(text = ['('] ∧ gap = ['/'] ∧ rest.head? = some ')')) :
    read? depth (text ++ (gap ++ e :: after)) = some lexeme := by
  apply read?_replace_of_isApart (isApart_of_isStop stop) read ends whole bracket
  intro quote
  rw [isQuote_of_isStop stop] at quote
  contradiction

theorem read?_bracket_stop (depth : Nat) :
    read? depth ('(' :: '/' :: e :: after) = some ⟨.operator, 1, depth + 1⟩ := by
  have starts : ¬startsNumber ('(' :: '/' :: e :: after) = true := by
    rw [startsNumber_of_ne (by decide)]
    decide
  have listed : '(' ∈ operatorChars := by decide
  rw [read?_operator (by decide) (by decide) starts (dottedLength?_of_ne (by decide) _)]
  simp [operator?, listed, opensConstructor_of_isApart (isApart_of_isStop stop)]

/-- No operator takes a stop in. -/
theorem operator?_le_of_isStop {depth tail inner : Nat} {c : Char}
    (read : operator? depth (c :: (front ++ e :: after)) = some (tail, inner)) :
    tail ≤ front.length := by
  by_cases listed : c ∈ operatorChars
  · cases front with
    | nil =>
      have notSlash : e ≠ '/' := ne_of_isApart (isApart_of_isStop stop) (by decide)
      have notClose : e ≠ ')' := ne_of_isApart (isApart_of_isStop stop) (by decide)
      rw [List.nil_append, operator?_cons_cons listed (fun both => notSlash both.2),
        if_neg (fun all => notClose all.2.1),
        if_neg (not_paired_of_isApart (isApart_of_isStop stop) c)] at read
      cases read
      exact Nat.le_refl 0
    | cons d front =>
      have one := operator?_le_one read
      rw [List.length_cons]
      omega
  · rw [operator?_of_notMem listed] at read
    contradiction

/-- A stop is a part of no lexeme in front of it but of a literal. -/
theorem tail_le_of_isStop {depth : Nat} {c : Char} {lexeme : Lexeme}
    (read : read? depth (c :: (front ++ e :: after)) = some lexeme) :
    lexeme.tail ≤ front.length ∨
      isQuote c = true ∧ closingQuote? c (front ++ e :: after) = some (lexeme.tail - 1) := by
  by_cases quote : isQuote c = true
  · rw [read?_quote quote] at read
    obtain ⟨body, closed, rfl⟩ := Option.map_eq_some_iff.mp read
    exact .inr ⟨quote, closed⟩
  left
  -- Every other lexeme ends where it would end if nothing followed.
  by_cases alpha : c.isAlpha = true
  · rw [read?_name quote alpha] at read
    cases read
    have alone : leading isNameChar (front ++ []) ≤ front.length := by
      rw [List.append_nil]
      exact leading_le isNameChar front
    have run : leading isNameChar (front ++ e :: after) = leading isNameChar (front ++ []) :=
      leading_replace (isNameChar_of_isApart (isApart_of_isStop stop)) alone
    rw [run]
    exact alone
  have alone : numberLength (c :: (front ++ [])) ≤ front.length + 1 := by
    rw [List.append_nil]
    exact numberLength_le (c :: front)
  by_cases starts : startsNumber (c :: (front ++ e :: after)) = true
  · rw [read?_number quote alpha starts] at read
    cases read
    have run : numberLength (c :: front ++ e :: after) = numberLength (c :: front ++ []) := by
      apply numberLength_replace (isApart_of_isStop stop) alone
      intro _ length dotted
      have within := dottedLength?_le dotted
      rwa [List.append_nil] at within
    rw [List.cons_append] at run
    rw [run]
    exact Nat.sub_le_of_le_add alone
  have dotted : dottedLength? (c :: front ++ e :: after) =
      (dottedLength? (c :: front ++ [])).filter (· ≤ (c :: front).length) :=
    dottedLength?_replace (isApart_of_isStop stop)
  rw [List.cons_append] at dotted
  cases found : dottedLength? (c :: (front ++ e :: after)) with
  | some length =>
    rw [read?_dotted quote alpha starts found] at read
    cases read
    rw [found, eq_comm, Option.filter_eq_some_iff] at dotted
    exact Nat.sub_le_of_le_add (of_decide_eq_true dotted.2)
  | none =>
    rw [read?_operator quote alpha starts found] at read
    obtain ⟨⟨tail, inner⟩, operator, rfl⟩ := Option.map_eq_some_iff.mp read
    exact operator?_le_of_isStop stop operator

end Stop

end FortranStyle.Lexeme
