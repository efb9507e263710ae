import FortranStyle.Proofs.Position.Lexeme
import FortranStyle.Proofs.Reading.Passage
import Mathlib.Data.List.Basic

/-!
# Numbers in front of operators

A numeral is digits, a point with digits, an exponent and a kind suffix; the first two may be
empty but for one digit in all, and the others may be missing.  A point may also open an
operator that is spelled with letters between two points.  A number is read part by part, each
as far as it goes and with one look ahead at the point, and this gives the longest numeral in
which no such operator starts: a part that ends early is followed by a character with which no
later part begins.
-/

namespace FortranStyle.Lexeme

variable {cs rest run : List Char} {p : Char → Bool}

/-! ## Numerals -/

/-- A point and the digits behind it, of which there may be none. -/
def IsFraction (text : List Char) : Prop :=
  ∃ digits, text = '.' :: digits ∧ ∀ c ∈ digits, c.isDigit = true

/-- A letter, perhaps a sign, and digits. -/
def IsExponent (text : List Char) : Prop :=
  ∃ letter sign digits, text = letter :: (sign ++ digits) ∧
    letter ∈ ['E', 'e', 'D', 'd', 'Q', 'q'] ∧ sign ∈ [[], ['+'], ['-']] ∧ digits ≠ [] ∧
      ∀ c ∈ digits, c.isDigit = true

/-- An underscore and characters of a name. -/
def IsKindSuffix (text : List Char) : Prop :=
  ∃ name, text = '_' :: name ∧ name ≠ [] ∧ ∀ c ∈ name, isNameChar c = true

/-- A part of a numeral that may be missing. -/
def Maybe (part : List Char → Prop) (text : List Char) : Prop :=
  text = [] ∨ part text

/-- The parts of a numeral. -/
structure Parts (whole fraction exponent suffix : List Char) : Prop where
  digits : ∀ c ∈ whole, c.isDigit = true
  pointed : Maybe IsFraction fraction
  filled : ∃ c ∈ whole ++ fraction, c.isDigit = true
  scaled : Maybe IsExponent exponent
  kinded : Maybe IsKindSuffix suffix

/-- A text that is a numeral. -/
def IsNumeral (text : List Char) : Prop :=
  ∃ whole fraction exponent suffix, text = whole ++ (fraction ++ (exponent ++ suffix)) ∧
    Parts whole fraction exponent suffix

/-- A text starts with an operator that is spelled with letters between two points. -/
def OpensDotted (cs : List Char) : Prop :=
  ∃ letters, letters ≠ [] ∧ (∀ c ∈ letters, c.isAlpha = true) ∧ '.' :: (letters ++ ['.']) <+: cs

/-- The first characters of a text are a numeral, and no dotted operator starts inside it. -/
structure Admits (cs : List Char) (length : Nat) : Prop where
  le : length ≤ cs.length
  isNumeral : IsNumeral (cs.take length)
  undotted : ∀ index < length, ¬OpensDotted (cs.drop index)

/-! ## Runs of characters -/

theorem take_leading (p : Char → Bool) (cs : List Char) :
    cs.take (leading p cs) = cs.takeWhile p :=
  (List.prefix_iff_eq_take.mp (List.takeWhile_prefix p)).symm

theorem of_mem_take_leading {c : Char} (inside : c ∈ cs.take (leading p cs)) : p c = true := by
  rw [take_leading] at inside
  exact List.mem_takeWhile_imp inside

theorem take_leading_ne_nil (filled : leading p cs ≠ 0) : cs.take (leading p cs) ≠ [] := by
  intro none
  rw [take_leading] at none
  exact filled (congrArg List.length none)

/-! ## Dotted operators -/

theorem dottedLength?_append {letters : List Char} (filled : letters ≠ [])
    (all : ∀ c ∈ letters, c.isAlpha = true) (rest : List Char) :
    dottedLength? ('.' :: (letters ++ '.' :: rest)) = some (letters.length + 2) := by
  have leading_eq : leading Char.isAlpha (letters ++ '.' :: rest) = letters.length := by
    rw [leading_append all, leading_cons_of_neg (by decide), Nat.add_zero]
  rw [dottedLength?_point, leading_eq, List.drop_left, if_pos ⟨by simpa using filled, rfl⟩]

theorem isSome_dottedLength?_iff : (dottedLength? cs).isSome = true ↔ OpensDotted cs := by
  constructor
  · intro found
    obtain ⟨length, dotted⟩ := Option.isSome_iff_exists.mp found
    cases cs with
    | nil => contradiction
    | cons c rest =>
      by_cases point : c = '.'
      · subst point
        rw [dottedLength?_point, Option.ite_none_right_eq_some] at dotted
        obtain ⟨⟨filled, closed⟩, -⟩ := dotted
        obtain ⟨after, behind⟩ := List.head?_eq_some_iff.mp closed
        refine ⟨rest.take (leading Char.isAlpha rest), take_leading_ne_nil filled,
          fun c => of_mem_take_leading, after, ?_⟩
        rw [List.cons_append, List.append_assoc, List.singleton_append, ← behind,
          List.take_append_drop]
      · rw [dottedLength?_of_ne point] at dotted
        contradiction
  · rintro ⟨letters, filled, all, after, rfl⟩
    rw [List.cons_append, List.append_assoc, List.singleton_append,
      dottedLength?_append filled all, Option.isSome_some]

/-! ## The parts of a number -/

theorem fractionLength_point (plain : dottedLength? ('.' :: rest) = none) :
    fractionLength ('.' :: rest) = 1 + leading Char.isDigit rest := by
  simp [fractionLength, plain]

/-- A fraction is read with all digits behind its point. -/
theorem fractionLength_append {fraction : List Char} (pointed : IsFraction fraction)
    (rest : List Char) (plain : dottedLength? (fraction ++ rest) = none) :
    fractionLength (fraction ++ rest) = fraction.length + leading Char.isDigit rest := by
  obtain ⟨digits, rfl, all⟩ := pointed
  rw [List.cons_append] at plain ⊢
  rw [fractionLength_point plain, leading_append all, List.length_cons]
  omega

/-- An exponent is read with all digits behind its letter and its sign. -/
theorem exponentLength_append {exponent : List Char} (scaled : IsExponent exponent)
    (rest : List Char) :
    exponentLength (exponent ++ rest) = exponent.length + leading Char.isDigit rest := by
  obtain ⟨letter, sign, digits, rfl, listed, signed, filled, all⟩ := scaled
  have isLetter : isExponentLetter letter = true := List.contains_iff_mem.mpr listed
  obtain ⟨d, more, rfl⟩ := List.exists_cons_of_ne_nil filled
  have digit := (List.forall_mem_cons.mp all).1
  have noSign : isSign d = false := by
    have isNumber : 0x30 ≤ d.toNat := (Char.isDigit_iff_toNat.mp digit).1
    rw [isSign, Bool.or_eq_false_iff, beq_eq_false_iff_ne, beq_eq_false_iff_ne]
    constructor <;> rintro rfl <;> exact absurd isNumber (by decide)
  have sign_eq : leading isSign ((sign ++ (d :: more ++ rest)).take 1) = sign.length := by
    simp only [List.mem_cons, List.not_mem_nil, or_false] at signed
    rcases signed with rfl | rfl | rfl
    · exact leading_cons_of_neg noSign _
    · rfl
    · rfl
  have digits_eq : leading Char.isDigit (d :: more ++ rest) =
      (d :: more).length + leading Char.isDigit rest := leading_append all rest
  rw [List.cons_append, List.append_assoc, exponentLength, if_pos isLetter, sign_eq]
  simp only [List.drop_left, digits_eq, List.length_cons, List.length_append]
  rw [if_neg (by omega)]
  omega

/-- A kind suffix is read with all characters of a name behind it. -/
theorem kindSuffixLength_append {suffix : List Char} (kinded : IsKindSuffix suffix)
    (rest : List Char) :
    kindSuffixLength (suffix ++ rest) = suffix.length + leading isNameChar rest := by
  obtain ⟨name, rfl, filled, all⟩ := kinded
  have positive := List.length_pos_of_ne_nil filled
  rw [List.cons_append, kindSuffixLength, leading_append all, if_neg (by omega), List.length_cons]
  omega

theorem isFraction_take (cs : List Char) : Maybe IsFraction (cs.take (fractionLength cs)) := by
  cases length_eq : fractionLength cs with
  | zero => exact .inl rfl
  | succ count =>
    right
    cases cs with
    | nil => contradiction
    | cons c rest =>
      by_cases point : c = '.'
      · subst point
        refine ⟨rest.take count, rfl, fun c inside => ?_⟩
        have count_eq : count = leading Char.isDigit rest := by
          simp only [fractionLength] at length_eq
          split at length_eq <;> omega
        rw [count_eq] at inside
        exact of_mem_take_leading inside
      · rw [fractionLength_of_ne point] at length_eq
        contradiction

/-- What stands where a sign may stand is one sign or none. -/
theorem take_leading_isSign_mem (cs : List Char) :
    cs.take (leading isSign (cs.take 1)) ∈ [[], ['+'], ['-']] := by
  cases cs with
  | nil => exact List.mem_cons_self
  | cons c rest =>
    rw [List.take_succ_cons, List.take_zero]
    cases signed : isSign c with
    | false =>
      rw [leading_cons_of_neg signed]
      exact List.mem_cons_self
    | true =>
      rw [leading_cons_of_pos signed]
      rw [isSign, Bool.or_eq_true, beq_iff_eq, beq_iff_eq] at signed
      rcases signed with rfl | rfl <;> simp [leading]

theorem isExponent_take (cs : List Char) : Maybe IsExponent (cs.take (exponentLength cs)) := by
  cases cs with
  | nil => exact .inl rfl
  | cons letter rest =>
    cases isLetter : isExponentLetter letter with
    | false =>
      rw [exponentLength_of_ne isLetter]
      exact .inl rfl
    | true =>
      have listed := List.contains_iff_mem.mp isLetter
      have signed := take_leading_isSign_mem rest
      rw [exponentLength, if_pos isLetter]
      dsimp only
      generalize leading isSign (rest.take 1) = sign at signed ⊢
      by_cases none : leading Char.isDigit (rest.drop sign) = 0
      · rw [if_pos none]
        exact .inl rfl
      · rw [if_neg none, Nat.add_assoc, Nat.add_comm 1, List.take_succ_cons, List.take_add]
        exact .inr ⟨letter, _, _, rfl, listed, signed, take_leading_ne_nil none,
          fun c => of_mem_take_leading⟩

theorem isKindSuffix_take (cs : List Char) :
    Maybe IsKindSuffix (cs.take (kindSuffixLength cs)) := by
  cases cs with
  | nil => exact .inl rfl
  | cons c rest =>
    by_cases underscore : c = '_'
    · subst underscore
      rw [kindSuffixLength]
      by_cases none : leading isNameChar rest = 0
      · rw [if_pos none]
        exact .inl rfl
      · rw [if_neg none, Nat.add_comm, List.take_succ_cons]
        exact .inr ⟨_, rfl, take_leading_ne_nil none, fun c => of_mem_take_leading⟩
    · rw [kindSuffixLength_of_ne underscore]
      exact .inl rfl

/-! ## The longest numeral -/

/-- The length of an exponent and a kind suffix, each of which may be missing. -/
def scaleLength (cs : List Char) : Nat :=
  exponentLength cs + kindSuffixLength (cs.drop (exponentLength cs))

/-- The length of what follows the first digits of a number. -/
def pointedLength (cs : List Char) : Nat :=
  fractionLength cs + scaleLength (cs.drop (fractionLength cs))

theorem numberLength_eq_add (cs : List Char) :
    numberLength cs =
      leading Char.isDigit cs + pointedLength (cs.drop (leading Char.isDigit cs)) := by
  simp only [numberLength, pointedLength, scaleLength, List.drop_drop, Nat.add_assoc]

/-- A part of a numeral and what follows it are read at full length when the part is, and is
not read any longer in front of something. -/
theorem length_append_le {part more : List Char} {count : Nat} {later : List Char → Nat}
    (le : part.length ≤ count) (exact_eq : more ≠ [] → count = part.length)
    (behind : more.length ≤ later (more ++ rest)) :
    (part ++ more).length ≤ count + later ((part ++ (more ++ rest)).drop count) := by
  rw [List.length_append]
  by_cases none : more = []
  · rw [none, List.length_nil]
    omega
  · rw [exact_eq none, List.drop_left]
    omega

section Parts

variable {whole fraction exponent suffix : List Char}

theorem length_le_kindSuffixLength (kinded : Maybe IsKindSuffix suffix) (rest : List Char) :
    suffix.length ≤ kindSuffixLength (suffix ++ rest) := by
  rcases kinded with rfl | isSuffix
  · exact Nat.zero_le _
  · rw [kindSuffixLength_append isSuffix]
    exact Nat.le_add_right _ _

theorem length_le_scaleLength (scaled : Maybe IsExponent exponent)
    (kinded : Maybe IsKindSuffix suffix) (rest : List Char) :
    (exponent ++ suffix).length ≤ scaleLength (exponent ++ (suffix ++ rest)) := by
  apply length_append_le ?_ ?_ (length_le_kindSuffixLength kinded rest)
  · rcases scaled with rfl | isExponent
    · exact Nat.zero_le _
    · rw [exponentLength_append isExponent]
      exact Nat.le_add_right _ _
  · intro filled
    obtain ⟨name, rfl, -⟩ := kinded.resolve_left filled
    rcases scaled with rfl | isExponent
    · exact exponentLength_of_ne (by decide) _
    · rw [exponentLength_append isExponent, List.cons_append, leading_cons_of_neg (by decide),
        Nat.add_zero]

/-- An exponent or a kind suffix starts with a character with which neither digits nor a
fraction go on. -/
theorem exists_scale_eq_cons (scaled : Maybe IsExponent exponent)
    (kinded : Maybe IsKindSuffix suffix) (filled : exponent ++ suffix ≠ []) :
    ∃ c more, exponent ++ suffix = c :: more ∧ c.isDigit = false ∧ c ≠ '.' := by
  rcases scaled with rfl | ⟨letter, sign, digits, rfl, listed, -⟩
  · obtain ⟨name, rfl, -⟩ := kinded.resolve_left filled
    exact ⟨'_', name, rfl, by decide, by decide⟩
  · have letters :
        ['E', 'e', 'D', 'd', 'Q', 'q'].all (fun c => !c.isDigit && c != '.') = true := by
      decide
    have apart := List.all_eq_true.mp letters letter listed
    simp only [Bool.and_eq_true, Bool.not_eq_true', bne_iff_ne] at apart
    exact ⟨letter, sign ++ digits ++ suffix, rfl, apart⟩

theorem length_le_pointedLength (pointed : Maybe IsFraction fraction)
    (scaled : Maybe IsExponent exponent) (kinded : Maybe IsKindSuffix suffix)
    (undotted : fraction ≠ [] → ¬OpensDotted (fraction ++ (exponent ++ suffix ++ rest))) :
    (fraction ++ (exponent ++ suffix)).length ≤
      pointedLength (fraction ++ (exponent ++ suffix) ++ rest) := by
  have behind := length_le_scaleLength scaled kinded rest
  rw [← List.append_assoc] at behind
  rw [List.append_assoc fraction]
  have plain (isFraction : IsFraction fraction) :
      dottedLength? (fraction ++ (exponent ++ suffix ++ rest)) = none := by
    have filled : fraction ≠ [] := by
      obtain ⟨digits, rfl, -⟩ := isFraction
      exact List.cons_ne_nil _ _
    rw [← Option.not_isSome_iff_eq_none, isSome_dottedLength?_iff]
    exact undotted filled
  apply length_append_le ?_ ?_ behind
  · rcases pointed with rfl | isFraction
    · exact Nat.zero_le _
    · rw [fractionLength_append isFraction _ (plain isFraction)]
      exact Nat.le_add_right _ _
  · intro filled
    obtain ⟨c, more, scale_eq, noDigit, noPoint⟩ := exists_scale_eq_cons scaled kinded filled
    rcases pointed with rfl | isFraction
    · rw [scale_eq]
      exact fractionLength_of_ne noPoint _
    · rw [fractionLength_append isFraction _ (plain isFraction), scale_eq, List.cons_append,
        leading_cons_of_neg noDigit, Nat.add_zero]

/-- No numeral in front of a text is longer than the number that is read, unless a dotted
operator starts at its point. -/
theorem length_le_numberLength (parts : Parts whole fraction exponent suffix)
    (undotted : fraction ≠ [] → ¬OpensDotted (fraction ++ (exponent ++ suffix ++ rest))) :
    (whole ++ (fraction ++ (exponent ++ suffix))).length ≤
      numberLength (whole ++ (fraction ++ (exponent ++ suffix) ++ rest)) := by
  have behind := length_le_pointedLength parts.pointed parts.scaled parts.kinded undotted
  rw [numberLength_eq_add]
  apply length_append_le ?_ ?_ behind
  · rw [leading_append parts.digits]
    exact Nat.le_add_right _ _
  · intro filled
    have noDigit : leading Char.isDigit (fraction ++ (exponent ++ suffix) ++ rest) = 0 := by
      rcases parts.pointed with rfl | ⟨digits, rfl, -⟩
      · obtain ⟨c, more, scale_eq, noDigit, -⟩ :=
          exists_scale_eq_cons parts.scaled parts.kinded filled
        rw [List.nil_append, scale_eq, List.cons_append, leading_cons_of_neg noDigit]
      · exact leading_cons_of_neg (by decide) _
    rw [leading_append parts.digits, noDigit, Nat.add_zero]

end Parts

/-- No admissible front of a text is longer than the number that is read. -/
theorem Admits.le_numberLength {length : Nat} (admits : Admits cs length) :
    length ≤ numberLength cs := by
  obtain ⟨whole, fraction, exponent, suffix, text_eq, parts⟩ := admits.isNumeral
  have length_eq : (whole ++ (fraction ++ (exponent ++ suffix))).length = length := by
    rw [← text_eq, List.length_take_of_le admits.le]
  have cs_eq : cs = whole ++ (fraction ++ (exponent ++ suffix) ++ cs.drop length) := by
    rw [← List.append_assoc, ← text_eq, List.take_append_drop]
  have longest : (whole ++ (fraction ++ (exponent ++ suffix))).length ≤
      numberLength (whole ++ (fraction ++ (exponent ++ suffix) ++ cs.drop length)) := by
    refine length_le_numberLength parts fun filled opens => ?_
    have short : whole.length < length := by
      have positive := List.length_pos_of_ne_nil filled
      rw [← length_eq, List.length_append, List.length_append]
      omega
    refine admits.undotted whole.length short ?_
    rw [cs_eq, List.drop_left, List.append_assoc]
    exact opens
  rwa [length_eq, ← cs_eq] at longest

/-! ## The number that is read -/

/-- Behind its fraction a numeral has no point. -/
theorem point_notMem {exponent suffix : List Char} (scaled : Maybe IsExponent exponent)
    (kinded : Maybe IsKindSuffix suffix) : '.' ∉ exponent ++ suffix := by
  intro inside
  rcases List.mem_append.mp inside with inside | inside
  · obtain ⟨letter, sign, digits, rfl, listed, signed, -, all⟩ :=
      scaled.resolve_left (List.ne_nil_of_mem inside)
    rcases List.mem_cons.mp inside with rfl | inside
    · exact absurd listed (by decide)
    · rcases List.mem_append.mp inside with inside | inside
      · have plain : [[], ['+'], ['-']].all (fun sign : List Char => !sign.contains '.') = true :=
          rfl
        have noPoint := List.all_eq_true.mp plain sign signed
        rw [List.contains_iff_mem.mpr inside] at noPoint
        contradiction
      · exact absurd (all '.' inside) (by decide)
  · obtain ⟨name, rfl, -, all⟩ := kinded.resolve_left (List.ne_nil_of_mem inside)
    rcases List.mem_cons.mp inside with same | inside
    · exact absurd same (by decide)
    · exact absurd (all '.' inside) (by decide)

/-- The point of a numeral is the one its fraction starts with. -/
theorem Parts.index_of_point {whole fraction exponent suffix : List Char} {index : Nat}
    (parts : Parts whole fraction exponent suffix)
    (point : (whole ++ (fraction ++ (exponent ++ suffix)))[index]? = some '.') :
    index = whole.length ∧ fraction ≠ [] := by
  have noPoint := point_notMem parts.scaled parts.kinded
  by_cases inside : index < whole.length
  · rw [List.getElem?_append_left inside] at point
    exact absurd (parts.digits '.' (List.mem_of_getElem? point)) (by decide)
  · obtain ⟨count, rfl⟩ := Nat.exists_eq_add_of_le (Nat.le_of_not_lt inside)
    rw [List.getElem?_append_right (Nat.le_add_right _ _), Nat.add_sub_cancel_left] at point
    rcases parts.pointed with rfl | ⟨digits, rfl, all⟩
    · exact absurd (List.mem_of_getElem? point) noPoint
    · cases count with
      | zero => exact ⟨rfl, List.cons_ne_nil _ _⟩
      | succ count =>
        rw [List.cons_append, List.getElem?_cons_succ] at point
        rcases List.mem_append.mp (List.mem_of_getElem? point) with inside | inside
        · exact absurd (all '.' inside) (by decide)
        · exact absurd inside noPoint

/-- A number has a digit in front of its exponent. -/
theorem exists_isDigit (starts : startsNumber cs = true) :
    ∃ c ∈ cs.take (leading Char.isDigit cs) ++
        (cs.drop (leading Char.isDigit cs)).take
          (fractionLength (cs.drop (leading Char.isDigit cs))),
      c.isDigit = true := by
  unfold startsNumber at starts
  split at starts
  · rename_i d rest
    have plain := dottedLength?_digit starts rest
    refine ⟨d, List.mem_append_right _ ?_, starts⟩
    rw [leading_cons_of_neg (by decide), List.drop_zero, fractionLength_point plain,
      leading_cons_of_pos starts, Nat.add_comm 1]
    exact List.mem_cons_of_mem _ List.mem_cons_self
  · rename_i c rest other
    refine ⟨c, List.mem_append_left _ ?_, starts⟩
    rw [leading_cons_of_pos starts]
    exact List.mem_cons_self
  · contradiction

/-- The number that is read is a numeral, and no dotted operator starts inside it. -/
theorem admits_numberLength (starts : startsNumber cs = true) : Admits cs (numberLength cs) := by
  obtain ⟨digits, digits_eq⟩ : ∃ n, leading Char.isDigit cs = n := ⟨_, rfl⟩
  obtain ⟨tail, tail_eq⟩ : ∃ later, cs.drop digits = later := ⟨_, rfl⟩
  obtain ⟨point, point_eq⟩ : ∃ n, fractionLength tail = n := ⟨_, rfl⟩
  obtain ⟨scale, scale_eq⟩ : ∃ later, tail.drop point = later := ⟨_, rfl⟩
  have text_eq : cs.take (numberLength cs) = cs.take digits ++ (tail.take point ++
      (scale.take (exponentLength scale) ++
        (scale.drop (exponentLength scale)).take
          (kindSuffixLength (scale.drop (exponentLength scale))))) := by
    rw [numberLength_eq_add, pointedLength, scaleLength, digits_eq, tail_eq, point_eq, scale_eq,
      List.take_add, tail_eq, List.take_add, scale_eq, List.take_add]
  have filled := exists_isDigit starts
  rw [digits_eq, tail_eq, point_eq] at filled
  have parts : Parts (cs.take digits) (tail.take point) (scale.take (exponentLength scale))
      ((scale.drop (exponentLength scale)).take
        (kindSuffixLength (scale.drop (exponentLength scale)))) :=
    { digits := fun c inside => of_mem_take_leading (digits_eq ▸ inside)
      pointed := point_eq ▸ isFraction_take tail
      filled := filled
      scaled := isExponent_take scale
      kinded := isKindSuffix_take _ }
  refine ⟨numberLength_le cs, ⟨_, _, _, _, text_eq, parts⟩, fun index inside opens => ?_⟩
  have at_index : (cs.take (numberLength cs))[index]? = some '.' := by
    obtain ⟨letters, -, -, after, behind⟩ := opens
    rw [List.getElem?_take_of_lt inside, ← List.head?_drop, ← behind]
    rfl
  rw [text_eq] at at_index
  obtain ⟨index_eq, pointed⟩ := parts.index_of_point at_index
  -- At the point itself the reader has looked for an operator and has found none.
  have inside_digits : digits ≤ cs.length := digits_eq ▸ leading_le Char.isDigit cs
  rw [index_eq, List.length_take_of_le inside_digits, tail_eq, ← isSome_dottedLength?_iff] at opens
  obtain ⟨length, dotted⟩ := Option.isSome_iff_exists.mp opens
  rw [← point_eq, (following_of_dottedLength? dotted).1] at pointed
  exact pointed rfl

/-! ## Numbers in a line -/

theorem read?_of_startsNumber (starts : startsNumber cs = true) (depth : Nat) :
    read? depth cs = some ⟨.number, numberLength cs - 1, depth⟩ := by
  cases cs with
  | nil => contradiction
  | cons c rest =>
    by_cases point : c = '.'
    · subst point
      exact read?_number (by decide) (by decide) starts
    · have digit : c.isDigit = true := by rwa [startsNumber_of_ne point] at starts
      have noAlpha : ¬c.isAlpha = true := by simp [isAlpha_of_isDigit digit]
      have noQuote : ¬isQuote c = true := by
        intro quote
        rw [isQuote, Bool.or_eq_true, beq_iff_eq, beq_iff_eq] at quote
        rcases quote with rfl | rfl <;> exact absurd digit (by decide)
      exact read?_number noQuote noAlpha starts

/-- A number is read exactly where one starts. -/
theorem startsNumber_iff (depth : Nat) (cs : List Char) :
    startsNumber cs = true ↔ ∃ lexeme, read? depth cs = some lexeme ∧ lexeme.kind = .number := by
  constructor
  · intro starts
    exact ⟨_, read?_of_startsNumber starts depth, rfl⟩
  · rintro ⟨lexeme, read, isNumber⟩
    by_contra starts
    cases cs with
    | nil => contradiction
    | cons c rest =>
      by_cases quote : isQuote c = true
      · rw [read?_quote quote] at read
        obtain ⟨body, -, rfl⟩ := Option.map_eq_some_iff.mp read
        contradiction
      by_cases alpha : c.isAlpha = true
      · rw [read?_name quote alpha] at read
        cases read
        simp only [nameKind] at isNumber
        split at isNumber <;> contradiction
      cases dotted : dottedLength? (c :: rest) with
      | some length =>
        rw [read?_dotted quote alpha starts dotted] at read
        cases read
        contradiction
      | none =>
        rw [read?_operator quote alpha starts dotted] at read
        obtain ⟨operator, -, rfl⟩ := Option.map_eq_some_iff.mp read
        contradiction

/-- A lexeme of a number of characters is the first token of a line that starts with it. -/
theorem readRest_of_read? (line column : Nat) (progress : Progress) {kind : TokenKind}
    {length inner : Nat} (positive : 0 < length)
    (read : read? progress.constructors cs = some ⟨kind, length - 1, inner⟩) :
    Line.readRest line column progress cs =
      Line.emit (Token.onLine kind line column (cs.take length))
        (Line.readRest line (column + length) ⟨true, inner⟩ (cs.drop length)) := by
  obtain ⟨count, rfl⟩ := Nat.exists_eq_add_of_lt positive
  cases cs with
  | nil => contradiction
  | cons c rest =>
    rw [Line.readRest_lexeme read]
    simp only [Nat.zero_add, Nat.add_sub_cancel, List.take_succ_cons, List.drop_succ_cons]
    rw [Nat.add_assoc, Nat.add_comm 1]

/-- Digits in front of a dotted operator are a number of their own, and the operator is the
token behind it. -/
theorem readRest_dotted {line column : Nat} {progress : Progress} {digits letters : List Char}
    (filled : digits ≠ []) (all : ∀ c ∈ digits, c.isDigit = true) (spelled : letters ≠ [])
    (alpha : ∀ c ∈ letters, c.isAlpha = true) (rest : List Char) :
    Line.readRest line column progress (digits ++ '.' :: (letters ++ '.' :: rest)) =
      Line.emit (Token.onLine .number line column digits)
        (Line.emit
          (Token.onLine .operator line (column + digits.length) ('.' :: (letters ++ ['.'])))
          (Line.readRest line (column + digits.length + (letters.length + 2))
            ⟨true, progress.constructors⟩ rest)) := by
  have dotted := dottedLength?_append spelled alpha rest
  have starts : startsNumber (digits ++ '.' :: (letters ++ '.' :: rest)) = true := by
    obtain ⟨d, more, rfl⟩ := List.exists_cons_of_ne_nil filled
    have digit := (List.forall_mem_cons.mp all).1
    have noPoint : d ≠ '.' := by
      rintro rfl
      contradiction
    rw [List.cons_append, startsNumber_of_ne noPoint]
    exact digit
  have length_eq : numberLength (digits ++ '.' :: (letters ++ '.' :: rest)) = digits.length := by
    obtain ⟨noFraction, noExponent, noSuffix⟩ := following_of_dottedLength? dotted
    have digits_eq : leading Char.isDigit (digits ++ '.' :: (letters ++ '.' :: rest)) =
        digits.length := by
      rw [leading_append all, leading_cons_of_neg (by decide), Nat.add_zero]
    rw [numberLength_eq_add, digits_eq, List.drop_left, pointedLength, noFraction, List.drop_zero,
      scaleLength, noExponent, List.drop_zero, noSuffix]
    rfl
  have number := read?_of_startsNumber starts progress.constructors
  rw [length_eq] at number
  have operator : read? progress.constructors ('.' :: (letters ++ '.' :: rest)) = _ :=
    read?_of_dottedLength? dotted
  have point_eq : '.' :: (letters ++ '.' :: rest) = '.' :: (letters ++ ['.']) ++ rest := by simp
  have point_length : ('.' :: (letters ++ ['.'])).length = letters.length + 2 := by simp
  have positive : 0 < letters.length + 2 := Nat.succ_pos _
  rw [readRest_of_read? line column progress (List.length_pos_of_ne_nil filled) number,
    List.take_left, List.drop_left,
    readRest_of_read? line _ ⟨true, progress.constructors⟩ positive operator, point_eq,
    ← point_length, List.take_left, List.drop_left]

/-- Numbers never swallow a dotted operator.  A number is read exactly where one starts.  It
ends behind its start and within the line; what is read is a numeral, inside which no dotted
operator starts, and the longest front of what is left of the line of which both are true.
Digits in front of a dotted operator are a number, whatever the letters of the operator and
whatever follows it. -/
theorem number_is_longest (line : Nat) (progress : Progress) (text : List Char) :
    (∀ place, startsNumber (text.drop place) = true ↔
      ∃ lexeme, read? progress.constructors (text.drop place) = some lexeme ∧
        lexeme.kind = .number) ∧
    (∀ place, startsNumber (text.drop place) = true →
      ∃ length, Position.numberEnd text place = some (place + length) ∧
        0 < length ∧ place + length ≤ text.length ∧
        Line.readRest line (place + 1) progress (text.drop place) =
          Line.emit (Token.onLine .number line (place + 1) ((text.drop place).take length))
            (Line.readRest line (place + 1 + length) ⟨true, progress.constructors⟩
              (text.drop (place + length))) ∧
        Admits (text.drop place) length ∧
        ∀ other, Admits (text.drop place) other → other ≤ length) ∧
    (∀ column digits letters rest, digits ≠ [] → (∀ c ∈ digits, c.isDigit = true) →
      letters ≠ [] → (∀ c ∈ letters, c.isAlpha = true) →
      Line.readRest line column progress (digits ++ '.' :: (letters ++ '.' :: rest)) =
        Line.emit (Token.onLine .number line column digits)
          (Line.emit
            (Token.onLine .operator line (column + digits.length) ('.' :: (letters ++ ['.'])))
            (Line.readRest line (column + digits.length + (letters.length + 2))
              ⟨true, progress.constructors⟩ rest))) := by
  refine ⟨fun place => startsNumber_iff _ _, fun place starts => ?_,
    fun column digits letters rest filled all spelled alpha =>
      readRest_dotted filled all spelled alpha rest⟩
  have positive := numberLength_pos starts
  have admits := admits_numberLength starts
  have within : place + numberLength (text.drop place) ≤ text.length := by
    have inside := admits.le
    rw [List.length_drop] at inside
    omega
  have read := read?_of_startsNumber starts progress.constructors
  refine ⟨_, Position.numberEnd_eq text place, positive, within, ?_, admits,
    fun other => Admits.le_numberLength⟩
  rw [readRest_of_read? line (place + 1) progress positive read, List.drop_drop]

/-- A point without digits behind it belongs to the number, unless it opens an operator. -/
theorem number_is_longest_exponent :
    let text := "x=1.e5_dp.eq.2".toList
    startsNumber (text.drop 2) = true ∧ Position.numberEnd text 2 = some 9 ∧
      Admits (text.drop 2) 7 ∧ (∀ other, Admits (text.drop 2) other → other ≤ 7) ∧
      ['1', '2'] ≠ [] ∧ (∀ c ∈ ['1', '2'], c.isDigit = true) ∧ ['e', 'q'] ≠ [] ∧
      (∀ c ∈ ['e', 'q'], c.isAlpha = true) ∧
      Line.readRest 1 1 .fresh "12.eq.5".toList =
        Line.emit (Token.onLine .number 1 1 "12".toList)
          (Line.emit (Token.onLine .operator 1 3 ".eq.".toList)
            (Line.readRest 1 7 ⟨true, 0⟩ "5".toList)) := by
  intro text
  have starts : startsNumber (text.drop 2) = true := by decide
  have digits : ∀ c ∈ ['1', '2'], c.isDigit = true := List.all_eq_true.mp (by decide)
  have letters : ∀ c ∈ ['e', 'q'], c.isAlpha = true := List.all_eq_true.mp (by decide)
  obtain ⟨-, ends, dotted⟩ := number_is_longest 1 .fresh text
  obtain ⟨length, end_eq, -, -, -, admits, longest⟩ := ends 2 starts
  have stop : Position.numberEnd text 2 = some 9 := by decide
  have length_eq : length = 7 := by
    rw [end_eq, Option.some.injEq] at stop
    omega
  subst length_eq
  exact ⟨starts, stop, admits, longest, by decide, digits, by decide, letters,
    dotted 1 ['1', '2'] ['e', 'q'] ['5'] (by decide) digits (by decide) letters⟩

end FortranStyle.Lexeme
