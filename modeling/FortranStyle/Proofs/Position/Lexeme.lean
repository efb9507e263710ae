import FortranStyle.Proofs.Position.Bracket
import FortranStyle.Proofs.Reading.Lookahead

/-!
# Lexemes by position

The pieces of a line, read from a position on.  A pattern that is matched at a
position tells where the match ends, or that there is none; positions behind the
line match nothing.  Asking for the end of a match that is none fails.
-/

namespace FortranStyle.Position

variable {text : List Char} {pos : Nat}

/-! ## Patterns -/

/-- The end of a match, for a pattern that matches a number of characters and
never the empty text. -/
def matchEnd? (length : List Char → Nat) (text : List Char) (pos : Nat) : Option Nat :=
  let count := length (text.drop pos)
  if count = 0 then none else some (pos + count)

/-- The number of characters of a name. -/
def nameLength : List Char → Nat
  | c :: rest => if c.isAlpha then 1 + Lexeme.leading Lexeme.isNameChar rest else 0
  | [] => 0

/-- The number of characters of a point and the digits behind it. -/
def pointLength : List Char → Nat
  | '.' :: rest => 1 + Lexeme.leading Char.isDigit rest
  | _ => 0

/-- The number of characters of an operator spelled with letters. -/
def dottedLength (cs : List Char) : Nat :=
  (Lexeme.dottedLength? cs).getD 0

theorem matchEnd?_isSome_iff {length : List Char → Nat} :
    (matchEnd? length text pos).isSome = true ↔ length (text.drop pos) ≠ 0 := by
  by_cases none : length (text.drop pos) = 0 <;> simp [matchEnd?, none]

/-- An optional part of a lexeme moves the position by its length. -/
theorem matchEnd?_getD (length : List Char → Nat) (text : List Char) (pos : Nat) :
    (matchEnd? length text pos).getD pos = pos + length (text.drop pos) := by
  by_cases none : length (text.drop pos) = 0 <;> simp [matchEnd?, none]

/-! ## Numbers -/

theorem dottedLength_pos {cs : List Char} {length : Nat}
    (dotted : Lexeme.dottedLength? cs = some length) : 0 < length := by
  unfold Lexeme.dottedLength? at dotted
  split at dotted
  · obtain ⟨_, found⟩ := Option.ite_none_right_eq_some.mp dotted
    cases found
    omega
  · cases dotted

/-- An operator spelled with letters matches where the reader sees one. -/
theorem dottedEnd?_eq (text : List Char) (pos : Nat) :
    matchEnd? dottedLength text pos = (Lexeme.dottedLength? (text.drop pos)).map (pos + ·) := by
  cases dotted : Lexeme.dottedLength? (text.drop pos) with
  | none => simp [matchEnd?, dottedLength, dotted]
  | some length =>
    have := dottedLength_pos dotted
    simp [matchEnd?, dottedLength, dotted]
    omega

/-- The position behind the point and the digits of a fraction, if there is
one. -/
def fractionEnd (text : List Char) (pos : Nat) : Attempt Nat := do
  let hasFraction ← guarded (pos < text.length) (text[pos]?.map fun c =>
    c == '.' && (matchEnd? dottedLength text pos).isNone)
  if hasFraction then matchEnd? pointLength text pos else pure pos

theorem fractionEnd_eq (text : List Char) (pos : Nat) :
    fractionEnd text pos = some (pos + Lexeme.fractionLength (text.drop pos)) := by
  rw [fractionEnd, guarded_getElem?, dottedEnd?_eq]
  cases cut : text.drop pos with
  | nil => simp [Lexeme.fractionLength]
  | cons c rest =>
    by_cases point : c = '.'
    · subst point
      cases dotted : Lexeme.dottedLength? ('.' :: rest) <;>
        simp [Lexeme.fractionLength, dotted, matchEnd?, cut, pointLength]
    · simp [Lexeme.fractionLength, point]

/-- The position behind a numeric literal. -/
def numberEnd (text : List Char) (pos : Nat) : Attempt Nat := do
  let whole := (matchEnd? (Lexeme.leading Char.isDigit) text pos).getD pos
  let mantissa ← fractionEnd text whole
  let scaled := (matchEnd? Lexeme.exponentLength text mantissa).getD mantissa
  pure ((matchEnd? Lexeme.kindSuffixLength text scaled).getD scaled)

theorem numberEnd_eq (text : List Char) (pos : Nat) :
    numberEnd text pos = some (pos + Lexeme.numberLength (text.drop pos)) := by
  simp only [numberEnd, fractionEnd_eq, matchEnd?_getD, Lexeme.numberLength, List.drop_drop,
    Option.bind_eq_bind, Option.bind_some, Option.pure_def, Nat.add_assoc]

/-! ## Operators -/

/-- The texts of two characters that are operators. -/
def pairTexts : List (List Char) :=
  Lexeme.pairedOperators.map fun (c, d) => [c, d]

theorem mem_pairTexts_iff (c d : Char) : [c, d] ∈ pairTexts ↔ (c, d) ∈ Lexeme.pairedOperators := by
  simp [pairTexts]

theorem notMem_pairTexts (c : Char) : [c] ∉ pairTexts := by
  simp [pairTexts]

/-- What a character behind a bracket and a slash says about the bracket. -/
theorem opensConstructor_eq (after : List Char) :
    Lexeme.opensConstructor after = decide (after.take 1 ∉ [[')'], ['='], ['/']]) := by
  cases after with
  | nil => rfl
  | cons c rest => 
    rw [Lexeme.opensConstructor.eq_def]
    split <;> simp_all

/-- The position behind an operator, and the number of array constructors open
there.  There is none when the character starts no operator. -/
def operatorEnd? (depth : Nat) (text : List Char) (pos : Nat) :
    Attempt (Option (Nat × Nat)) := do
  let c ← text[pos]?
  if c ∉ Lexeme.operatorChars then
    pure none
  else
    let following := text.extract (pos + 1) (pos + 2)
    let third := text.extract (pos + 2) (pos + 3)
    if c = '(' ∧ following = ['/'] ∧ third ∉ [[')'], ['='], ['/']] then
      pure (some (pos + 2, depth + 1))
    else if c = '/' ∧ following = [')'] ∧ depth ≠ 0 then
      pure (some (pos + 2, depth - 1))
    else if text.extract pos (pos + 2) ∈ pairTexts then
      pure (some (pos + 2, depth))
    else
      pure (some (pos + 1, depth))

theorem operatorEnd?_eq (depth : Nat) (inside : pos < text.length) :
    operatorEnd? depth text pos =
      some ((Lexeme.operator? depth (text.drop pos)).map fun (tail, inner) =>
        (pos + 1 + tail, inner)) := by
  obtain ⟨c, here, cut⟩ := exists_drop_eq_cons inside
  have first : text.extract pos (pos + 2) = c :: (text.drop (pos + 1)).take 1 := by
    rw [List.extract_eq_take_drop, cut]
    simp
  have second : text.extract (pos + 1) (pos + 2) = (text.drop (pos + 1)).take 1 := by
    rw [List.extract_eq_take_drop]
    congr 1
    omega
  have third : text.extract (pos + 2) (pos + 3) = ((text.drop (pos + 1)).drop 1).take 1 := by
    rw [List.extract_eq_take_drop, List.drop_drop]
    congr 1
    omega
  rw [operatorEnd?, here, cut, first, second, third]
  by_cases listed : c ∈ Lexeme.operatorChars
  · rcases text.drop (pos + 1) with _ | ⟨d, rest⟩
    · simp [listed, Lexeme.operator?, notMem_pairTexts]
    by_cases opener : c = '(' ∧ d = '/'
    · obtain ⟨rfl, rfl⟩ := opener
      have plain : ('(', '/') ∉ Lexeme.pairedOperators := by decide
      by_cases opens : Lexeme.opensConstructor rest = true
      · have further := opens
        rw [opensConstructor_eq, decide_eq_true_iff] at further
        simp [listed, Lexeme.operator?, opens, further]
      · have further := opens
        rw [opensConstructor_eq, decide_eq_true_iff, not_not] at further
        simp [listed, Lexeme.operator?, opens, mem_pairTexts_iff, plain, further]
    · have apart (third : Prop) : ¬(c = '(' ∧ d = '/' ∧ third) :=
        fun both => opener ⟨both.1, both.2.1⟩
      rw [Lexeme.operator?_cons_cons listed opener]
      by_cases closer : c = '/' ∧ d = ')' ∧ ¬depth = 0
      · obtain ⟨rfl, rfl, nonzero⟩ := closer
        simp [listed, nonzero]
      · by_cases pair : (c, d) ∈ Lexeme.pairedOperators <;>
          simp [listed, apart, closer, mem_pairTexts_iff, pair]
  · simp [listed, Lexeme.operator?]

/-! ## Character literals -/

/-- The position of the first character of the given kind, from a position on. -/
def find? (text : List Char) (c : Char) (pos : Nat) : Option Nat :=
  ((text.drop pos).findIdx? (· == c)).map (pos + ·)

/-- The position of the quote that closes a literal, from a position on. -/
def closingQuote (text : List Char) (quote : Char) (pos : Nat) : Attempt (Option Nat) :=
  match find? text quote pos with
  | none => pure none
  | some stop =>
      if text.extract (stop + 1) (stop + 2) = [quote] then do
        let ⟨_⟩ ← onward (text.length - (stop + 2)) (text.length - pos)
        closingQuote text quote (stop + 2)
      else
        pure (some stop)
termination_by text.length - pos

theorem find?_bounds {text : List Char} {c : Char} {pos stop : Nat}
    (found : find? text c pos = some stop) : pos ≤ stop ∧ stop < text.length := by
  obtain ⟨count, first, rfl⟩ := Option.map_eq_some_iff.mp found
  obtain ⟨bound, -⟩ := List.findIdx?_eq_some_iff_getElem.mp first
  rw [List.length_drop] at bound
  omega

/-- Behind a doubled quote the search goes on, and there is less to search. -/
theorem closingQuote_step (text : List Char) (quote : Char) (pos : Nat) :
    closingQuote text quote pos =
      match find? text quote pos with
      | none => some none
      | some stop =>
          if text.extract (stop + 1) (stop + 2) = [quote] then closingQuote text quote (stop + 2)
          else some (some stop) := by
  rw [closingQuote]
  cases found : find? text quote pos with
  | none => rfl
  | some stop =>
    have bounds := find?_bounds found
    have shorter : text.length - (stop + 2) < text.length - pos := by omega
    simp only [Option.bind_eq_bind, onward_bind shorter]
    rfl

theorem closingQuote_eq (text : List Char) (quote : Char) (pos : Nat) :
    closingQuote text quote pos =
      some ((Lexeme.closingQuote? quote (text.drop pos)).map (pos + ·)) := by
  induction pos using forward text with
  | outside pos outside =>
    rw [closingQuote_step, find?, drop_eq_nil outside]
    rfl
  | inside pos c inside here cut ih =>
    have next := ih (pos + 1) (Nat.lt_succ_self pos)
    by_cases same : c = quote
    · have found : find? text quote pos = some pos := by
        simp [find?, cut, List.findIdx?_cons, same]
      have behind : text.extract (pos + 1) (pos + 2) = (text.drop (pos + 1)).take 1 := by
        rw [List.extract_eq_take_drop]
        congr 1
        omega
      rw [closingQuote_step, found, cut, Lexeme.closingQuote?.eq_def]
      dsimp only
      rw [behind]
      cases further : text.drop (pos + 1) with
      | nil => simp [same]
      | cons d rest =>
        by_cases doubled : d = quote
        · have onwards := ih (pos + 2) (by omega)
          rw [(drop_eq_cons_iff.mp further).2] at onwards
          simp [same, doubled, onwards, ← map_distance]
        · simp [same, doubled]
    · have skip : find? text quote pos = find? text quote (pos + 1) := by
        simp only [find?, cut, List.findIdx?_cons]
        simp [same, ← map_distance]
      have running : Lexeme.closingQuote? quote (c :: text.drop (pos + 1)) =
          (Lexeme.closingQuote? quote (text.drop (pos + 1))).map (· + 1) := by
        rcases text.drop (pos + 1) with _ | ⟨d, rest⟩ <;> simp [Lexeme.closingQuote?, same]
      rw [closingQuote_step, skip, ← closingQuote_step, next, cut, running, map_distance]

/-! ## Any lexeme but a literal -/

/-- The kind of the lexeme at a position, the position behind it, and the number
of array constructors open there. -/
def lexemeAt? (depth : Nat) (text : List Char) (pos : Nat) :
    Attempt (Option (TokenKind × Nat × Nat)) := do
  let c ← text[pos]?
  if (matchEnd? nameLength text pos).isSome then
    let stop ← matchEnd? nameLength text pos
    pure (some (Lexeme.nameKind (text.extract pos stop), stop, depth))
  else if (matchEnd? (Lexeme.leading Char.isDigit) text pos).isSome ||
      (c == '.' && (matchEnd? (Lexeme.leading Char.isDigit) text (pos + 1)).isSome) then
    let stop ← numberEnd text pos
    pure (some (.number, stop, depth))
  else if c == '.' && (matchEnd? dottedLength text pos).isSome then
    let stop ← matchEnd? dottedLength text pos
    pure (some (.operator, stop, depth))
  else
    match ← operatorEnd? depth text pos with
    | some (stop, inner) => pure (some (.operator, stop, inner))
    | none => pure none

theorem leading_ne_zero_iff (p : Char → Bool) (cs : List Char) :
    Lexeme.leading p cs ≠ 0 ↔ cs.head?.any p = true := by
  rcases cs with _ | ⟨c, rest⟩
  · simp [Lexeme.leading]
  · by_cases holds : p c <;> simp [Lexeme.leading, holds]

/-- A number starts with a digit, or with a point and a digit. -/
theorem startsNumber_eq {c : Char} (cut : text.drop pos = c :: text.drop (pos + 1)) :
    ((matchEnd? (Lexeme.leading Char.isDigit) text pos).isSome ||
      (c == '.' && (matchEnd? (Lexeme.leading Char.isDigit) text (pos + 1)).isSome)) =
        Lexeme.startsNumber (c :: text.drop (pos + 1)) := by
  rw [Bool.eq_iff_iff, Bool.or_eq_true, Bool.and_eq_true, matchEnd?_isSome_iff,
    matchEnd?_isSome_iff, cut, leading_ne_zero_iff, leading_ne_zero_iff]
  by_cases point : c = '.'
  · subst point
    have noDigit : Char.isDigit '.' = false := by decide
    cases text.drop (pos + 1) <;> simp [Lexeme.startsNumber, noDigit]
  · simp [Lexeme.startsNumber_of_ne point, point]

theorem lexemeAt?_eq (depth : Nat) {c : Char} (here : text[pos]? = some c)
    (plain : ¬ Lexeme.isQuote c = true) :
    lexemeAt? depth text pos =
      some ((Lexeme.read? depth (text.drop pos)).map fun lexeme =>
        (lexeme.kind, pos + 1 + lexeme.tail, lexeme.depth)) := by
  obtain ⟨inside, -⟩ := List.getElem?_eq_some_iff.mp here
  obtain cut : text.drop pos = c :: text.drop (pos + 1) := drop_eq_cons_iff.mpr ⟨here, rfl⟩
  rw [lexemeAt?, here, numberEnd_eq, operatorEnd?_eq depth inside, dottedEnd?_eq]
  simp only [Option.bind_eq_bind, Option.bind_some, startsNumber_eq cut]
  by_cases alpha : c.isAlpha
  · have stop : matchEnd? nameLength text pos =
        some (pos + (1 + Lexeme.leading Lexeme.isNameChar (text.drop (pos + 1)))) := by
      simp [matchEnd?, cut, nameLength, alpha]
    simp [stop, cut, Lexeme.read?_name plain alpha, Nat.add_comm 1]
    omega
  have noName : matchEnd? nameLength text pos = none := by simp [matchEnd?, cut, nameLength, alpha]
  by_cases starts : Lexeme.startsNumber (c :: text.drop (pos + 1))
  · have := Lexeme.numberLength_pos starts
    simp [noName, starts, cut, Lexeme.read?_number plain alpha starts]
    omega
  cases dotted : Lexeme.dottedLength? (c :: text.drop (pos + 1)) with
  | some length =>
    have := dottedLength_pos dotted
    obtain rfl : c = '.' := by
      by_contra other
      simp [Lexeme.dottedLength?_of_ne other] at dotted
    simp [noName, starts, cut, dotted, Lexeme.read?_dotted plain alpha starts dotted]
    omega
  | none =>
    simp [noName, starts, cut, dotted, Lexeme.read?_operator plain alpha starts dotted]
    cases Lexeme.operator? depth (c :: text.drop (pos + 1)) <;> rfl

end FortranStyle.Position
