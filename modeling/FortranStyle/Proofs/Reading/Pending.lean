import FortranStyle.Proofs.Reading.Marker

/-!
# What becomes of an open line

What a code line leaves open is taken up by the next code line, however many
blank lines and comment lines stand between them, and it is reported when there
is no such line.  So what is pending in front of a line is what the nearest code
line above it left open, and at the end of the source it is what the last code
line left open.

Every line raises one error at most, and the line that is reported at the end is
suspended and raised none.  So the errors of a source are on different lines,
from top to bottom.
-/

namespace FortranStyle.Tokenized

/-! ## How the lines are read -/

/-- How each of some lines is read. -/
def readings (line : Nat) (pending : Option Suspended) : List (List Char) → List Line.Reading
  | [] => []
  | cs :: rest =>
      Line.read line pending cs ::
        readings (line + 1) (Line.read line pending cs).2.pending rest

/-- A line is read with what is pending behind the lines above it. -/
theorem getElem?_readings (line : Nat) (pending : Option Suspended) (texts : List (List Char))
    (n : Nat) :
    (readings line pending texts)[n]? =
      texts[n]?.map (Line.read (line + n) (pendingBehind line pending (texts.take n))) := by
  induction texts generalizing line pending n with
  | nil => rfl
  | cons cs rest ih =>
    cases n with
    | zero => rfl
    | succ n =>
      rw [readings, List.getElem?_cons_succ, ih, List.getElem?_cons_succ, List.take_succ_cons,
        pendingBehind, Nat.add_right_comm, Nat.add_assoc]

/-- The tokens of some lines are those found in reading them. -/
theorem tokens_linesPart (line : Nat) (pending : Option Suspended) (texts : List (List Char)) :
    (linesPart line pending texts).tokens = (readings line pending texts).flatMap (·.1) := by
  induction texts generalizing line pending with
  | nil => rfl
  | cons cs rest ih =>
    rw [linesPart, readings, Part.tokens_append, ih, List.flatMap_cons]
    rfl

/-- The errors of some lines are those raised in reading them. -/
theorem errors_linesPart (line : Nat) (pending : Option Suspended) (texts : List (List Char)) :
    (linesPart line pending texts).errors =
      (readings line pending texts).flatMap (·.2.errors) := by
  induction texts generalizing line pending with
  | nil => rfl
  | cons cs rest ih =>
    rw [linesPart, readings, Part.errors_append, ih, List.flatMap_cons]
    rfl

/-- Every reading is that of a line with what is pending in front of it. -/
theorem exists_of_mem_readings {line : Nat} {pending : Option Suspended}
    {texts : List (List Char)} {reading : Line.Reading}
    (member : reading ∈ readings line pending texts) :
    ∃ (n : Nat) (cs : List Char), (readings line pending texts)[n]? = some reading ∧
      texts[n]? = some cs ∧
        reading = Line.read (line + n) (pendingBehind line pending (texts.take n)) cs := by
  obtain ⟨n, found⟩ := List.mem_iff_getElem?.mp member
  have read := found
  rw [getElem?_readings, Option.map_eq_some_iff] at read
  obtain ⟨cs, text, rfl⟩ := read
  exact ⟨n, cs, found, text, rfl⟩

/-- Where an error of some lines comes from. -/
theorem exists_of_mem_errors {line : Nat} {pending : Option Suspended}
    {texts : List (List Char)} {error : LexError}
    (member : error ∈ (linesPart line pending texts).errors) :
    ∃ n tokens, (readings line pending texts)[n]? = some (tokens, .failed error) ∧
      error.line = line + n := by
  rw [errors_linesPart, List.mem_flatMap] at member
  obtain ⟨⟨tokens, ending⟩, read, raised⟩ := member
  obtain ⟨n, cs, found, -, read_eq⟩ := exists_of_mem_readings read
  have line_eq := (Line.isErrorOf_read (line + n) _ cs error (by rw [← read_eq]; exact raised)).1
  cases ending with
  | complete => contradiction
  | suspended rest => contradiction
  | failed other =>
    obtain rfl := List.mem_singleton.mp raised
    exact ⟨n, tokens, found, line_eq⟩

/-- The errors of some lines are on different lines, from top to bottom. -/
theorem pairwise_errors_linesPart (line : Nat) (pending : Option Suspended)
    (texts : List (List Char)) :
    (linesPart line pending texts).errors.Pairwise
      fun first second => first.line < second.line := by
  induction texts generalizing line pending with
  | nil => exact .nil
  | cons cs rest ih =>
    rw [linesPart, Part.errors_append, List.pairwise_append]
    refine ⟨?_, ih _ _, ?_⟩
    · cases ending : (Line.read line pending cs).2 <;> simp [linePart, ending, LineEnd.errors]
    · intro first here second later
      have first_eq := (Line.isErrorOf_read line pending cs first here).1
      obtain ⟨n, tokens, -, second_eq⟩ := exists_of_mem_errors later
      omega

/-- The lines that continue an earlier one are the code lines in front of which
something is pending. -/
theorem mem_continuedLines_linesPart (line : Nat) (pending : Option Suspended)
    (texts : List (List Char)) (number : Nat) :
    number ∈ (linesPart line pending texts).continuedLines ↔
      ∃ n cs, number = line + n ∧ texts[n]? = some cs ∧ Line.isSilent cs = false ∧
        (pendingBehind line pending (texts.take n)).isSome = true := by
  induction texts generalizing line pending with
  | nil => simp [linesPart]
  | cons cs rest ih =>
    have here : number ∈ (linePart line pending cs).continuedLines ↔
        number = line ∧ Line.isSilent cs = false ∧ pending.isSome = true := by
      cases silent : Line.isSilent cs <;> cases pending <;> simp [linePart, silent]
    change number ∈ (linePart line pending cs).continuedLines ++ _ ↔ _
    rw [List.mem_append, here, ih]
    constructor
    · rintro (⟨rfl, code, open_⟩ | ⟨n, text, rfl, found, code, open_⟩)
      · exact ⟨0, cs, rfl, rfl, code, open_⟩
      · exact ⟨n + 1, text, by omega, found, code, open_⟩
    · rintro ⟨_ | n, text, rfl, found, code, open_⟩
      · cases found
        exact .inl ⟨rfl, code, open_⟩
      · exact .inr ⟨n, text, by omega, found, code, open_⟩

/-! ## The nearest code line -/

/-- The line of this index is neither blank nor a comment line. -/
def IsCodeAt (texts : List (List Char)) (n : Nat) : Prop :=
  ∃ cs, texts[n]? = some cs ∧ Line.isSilent cs = false

/-- One line is the nearest code line above another. -/
structure IsNearest (texts : List (List Char)) (n m : Nat) : Prop where
  above : m < n
  code : IsCodeAt texts m
  silent : ∀ k, m < k → k < n → ¬IsCodeAt texts k

/-- The line of this index is read without an error and leaves its statement, or
a literal in it, open. -/
def Suspends (texts : List (List Char)) (n : Nat) (rest : Suspended) : Prop :=
  ∃ tokens, (readings 1 none texts)[n]? = some (tokens, .suspended rest)

/-- The nearest code line above leaves this open. -/
def OpenAbove (texts : List (List Char)) (n : Nat) (rest : Suspended) : Prop :=
  ∃ m, IsNearest texts n m ∧ Suspends texts m rest

variable {texts : List (List Char)} {n m : Nat} {rest : Suspended}

theorem isNearest_succ_of_code (code : IsCodeAt texts n) :
    IsNearest texts (n + 1) m ↔ m = n := by
  constructor
  · intro nearest
    have le := Nat.le_of_lt_succ nearest.above
    rcases Nat.lt_or_eq_of_le le with lt | rfl
    · exact absurd code (nearest.silent n lt (Nat.lt_succ_self n))
    · rfl
  · rintro rfl
    exact ⟨Nat.lt_succ_self m, code, fun k low high => by omega⟩

theorem isNearest_succ_of_silent (silent : ¬IsCodeAt texts n) :
    IsNearest texts (n + 1) m ↔ IsNearest texts n m := by
  constructor
  · intro nearest
    have ne : m ≠ n := fun eq => silent (eq ▸ nearest.code)
    have le := Nat.le_of_lt_succ nearest.above
    exact ⟨by omega, nearest.code, fun k low high =>
      nearest.silent k low (Nat.lt_succ_of_lt high)⟩
  · intro nearest
    refine ⟨Nat.lt_succ_of_lt nearest.above, nearest.code, fun k low high => ?_⟩
    rcases Nat.lt_or_eq_of_le (Nat.le_of_lt_succ high) with lt | rfl
    · exact nearest.silent k low lt
    · exact silent

/-- Below a code line stands what that line leaves open; below a silent line,
what stood above it. -/
theorem openAbove_succ (inside : n < texts.length) :
    OpenAbove texts (n + 1) rest ↔
      if Line.isSilent texts[n] then OpenAbove texts n rest else Suspends texts n rest := by
  have found : texts[n]? = some texts[n] := List.getElem?_eq_getElem inside
  cases silent : Line.isSilent texts[n] with
  | true =>
    have noCode : ¬IsCodeAt texts n := by
      rintro ⟨cs, cs_eq, code⟩
      rw [found] at cs_eq
      cases cs_eq
      rw [silent] at code
      contradiction
    simp only [OpenAbove, isNearest_succ_of_silent noCode, if_true]
  | false =>
    have code : IsCodeAt texts n := ⟨_, found, silent⟩
    simp [OpenAbove, isNearest_succ_of_code code]

/-- What is pending in front of a line is what the nearest code line above it
leaves open. -/
theorem pendingBehind_take_eq_some_iff (inside : n ≤ texts.length) :
    pendingBehind 1 none (texts.take n) = some rest ↔ OpenAbove texts n rest := by
  induction n with
  | zero =>
    constructor
    · intro nothing
      contradiction
    · rintro ⟨m, nearest, -⟩
      exact absurd nearest.above (Nat.not_lt_zero m)
  | succ n ih =>
    have lt : n < texts.length := inside
    have read_eq := getElem?_readings 1 none texts n
    rw [List.getElem?_eq_getElem lt, Option.map_some] at read_eq
    rw [openAbove_succ lt, ← ih (Nat.le_of_lt lt), List.take_add_one,
      List.getElem?_eq_getElem lt, Option.toList_some, pendingBehind_append,
      List.length_take_of_le (Nat.le_of_lt lt), pendingBehind, pendingBehind]
    cases silent : Line.isSilent texts[n] with
    | true => rw [Line.read_of_isSilent silent, Line.pending_unchanged, if_pos rfl]
    | false =>
      simp only [Suspends, read_eq, Option.some.injEq, Prod.ext_iff]
      cases (Line.read (1 + n) (pendingBehind 1 none (texts.take n)) texts[n]).2 <;>
        simp [LineEnd.pending]

theorem pendingBehind_eq_some_iff :
    pendingBehind 1 none texts = some rest ↔ OpenAbove texts texts.length rest := by
  rw [← pendingBehind_take_eq_some_iff (Nat.le_refl _), List.take_length]

/-- A line that fails is a code line. -/
theorem isCodeAt_of_failed {tokens : List Token} {error : LexError}
    (failed : (readings 1 none texts)[n]? = some (tokens, .failed error)) :
    IsCodeAt texts n := by
  rw [getElem?_readings, Option.map_eq_some_iff] at failed
  obtain ⟨cs, found, read_eq⟩ := failed
  refine ⟨cs, found, ?_⟩
  cases silent : Line.isSilent cs with
  | false => rfl
  | true =>
    have ending := congrArg Prod.snd read_eq
    rw [Line.read_of_isSilent silent] at ending
    cases pending_eq : pendingBehind 1 none (texts.take n) <;>
      simp [pending_eq, LineEnd.unchanged] at ending

/-- A code line that is suspended breaks off at an ampersand of its own. -/
theorem Suspends.breaksOff (suspends : Suspends texts n rest) (code : IsCodeAt texts n) :
    ∃ cs tokens, texts[n]? = some cs ∧
      (readings 1 none texts)[n]? = some (tokens, .suspended rest) ∧
        Line.BreaksOff (n + 1) 1 cs tokens rest := by
  obtain ⟨tokens, read⟩ := suspends
  obtain ⟨cs, found, code⟩ := code
  refine ⟨cs, tokens, found, read, ?_⟩
  rw [getElem?_readings, found, Option.map_some, Option.some.injEq] at read
  have breaksOff : Line.BreaksOff (1 + n) 1 cs _ rest :=
    Line.breaksOff_read code (congrArg Prod.snd read)
  rwa [read, Nat.add_comm] at breaksOff

/-- The errors of the lines stand above a line that is left open at the end. -/
theorem line_lt_of_openAbove {error : LexError} (left : OpenAbove texts texts.length rest)
    (member : error ∈ (linesPart 1 none texts).errors) : error.line < rest.line := by
  obtain ⟨m, nearest, suspends⟩ := left
  obtain ⟨n, tokens, failed, line_eq⟩ := exists_of_mem_errors member
  obtain ⟨cs, tokens', found, read, breaksOff⟩ := suspends.breaksOff nearest.code
  have code := isCodeAt_of_failed failed
  have inside : n < texts.length := by
    obtain ⟨cs, found, -⟩ := code
    exact (List.getElem?_eq_some_iff.mp found).1
  have ne : n ≠ m := by
    rintro rfl
    rw [failed] at read
    cases read
  have notBelow : ¬m < n := fun lt => nearest.silent n lt inside code
  rw [breaksOff.line_eq]
  omega

/-! ## The whole source -/

/-- The errors of a source are those of its lines and then that of its end. -/
theorem errors_eq (source : List String) :
    (ofLines source).errors =
      (linesPart 1 none (source.map lineText)).errors ++
        (danglingPart (pendingBehind 1 none (source.map lineText))).errors := by
  rw [(ofLines_eq source).2, readLines_eq, Part.errors_append]

theorem mem_continuedLines_iff (source : List String) (number : Nat) :
    number ∈ (ofLines source).continuedLines ↔
      ∃ n, number = n + 1 ∧ IsCodeAt (source.map lineText) n ∧
        ∃ rest, OpenAbove (source.map lineText) n rest := by
  have lines_eq : (ofLines source).continuedLines =
      (linesPart 1 none (source.map lineText)).continuedLines := by
    change (readLines 1 none (source.map lineText)).continuedLines = _
    rw [readLines_eq]
    change _ ++ (danglingPart _).continuedLines = _
    cases pendingBehind 1 none (source.map lineText) <;> exact List.append_nil _
  rw [lines_eq, mem_continuedLines_linesPart]
  constructor
  · rintro ⟨n, cs, rfl, found, code, isOpen⟩
    have inside := Nat.le_of_lt (List.getElem?_eq_some_iff.mp found).1
    obtain ⟨rest, pending_eq⟩ := Option.isSome_iff_exists.mp isOpen
    exact ⟨n, Nat.add_comm 1 n, ⟨cs, found, code⟩, rest,
      (pendingBehind_take_eq_some_iff inside).mp pending_eq⟩
  · rintro ⟨n, rfl, ⟨cs, found, code⟩, rest, left⟩
    have inside := Nat.le_of_lt (List.getElem?_eq_some_iff.mp found).1
    have pending_eq := (pendingBehind_take_eq_some_iff inside).mpr left
    exact ⟨n, cs, Nat.add_comm n 1, found, code, by rw [pending_eq]; rfl⟩

/-- The errors of a source are on different lines, from top to bottom. -/
theorem pairwise_errors (source : List String) :
    (ofLines source).errors.Pairwise fun first second => first.line < second.line := by
  rw [errors_eq, List.pairwise_append]
  refine ⟨pairwise_errors_linesPart _ _ _, ?_, ?_⟩
  · cases pendingBehind 1 none (source.map lineText) <;> simp [danglingPart]
  · intro first member second dangling
    cases pending_eq : pendingBehind 1 none (source.map lineText) with
    | none => simp [pending_eq, danglingPart] at dangling
    | some rest =>
      simp only [pending_eq, danglingPart, List.mem_singleton] at dangling
      rw [dangling]
      exact line_lt_of_openAbove (pendingBehind_eq_some_iff.mp pending_eq) member

/-- The errors of a source are on different lines, from top to bottom.  A line
continues an earlier one exactly when it is a code line and the nearest code line
above it leaves something open.  What the last code line leaves open is the only
error beside those of the lines, and it is at the ampersand at which that line
breaks off. -/
theorem continuations_resolved (source : List String) :
    (ofLines source).errors.Pairwise (fun first second => first.line < second.line) ∧
      let texts := source.map lineText
      let raised := (readings 1 none texts).flatMap (·.2.errors)
      (∀ number, number ∈ (ofLines source).continuedLines ↔
        ∃ n, number = n + 1 ∧ IsCodeAt texts n ∧ ∃ rest, OpenAbove texts n rest) ∧
      (∀ rest, OpenAbove texts texts.length rest →
        (ofLines source).errors = raised ++ [⟨.nothingToContinue, rest.line, rest.column⟩]) ∧
      ((¬∃ rest, OpenAbove texts texts.length rest) → (ofLines source).errors = raised) ∧
      ∀ n rest, IsCodeAt texts n → Suspends texts n rest →
        ∃ cs tokens, texts[n]? = some cs ∧
          (readings 1 none texts)[n]? = some (tokens, .suspended rest) ∧
            Line.BreaksOff (n + 1) 1 cs tokens rest := by
  have all := errors_eq source
  rw [errors_linesPart] at all
  refine ⟨pairwise_errors source, mem_continuedLines_iff source, ?_, ?_,
    fun n rest code left => left.breaksOff code⟩
  · intro rest left
    rw [all, pendingBehind_eq_some_iff.mpr left]
    rfl
  · intro settled
    cases pending_eq : pendingBehind 1 none (source.map lineText) with
    | none => rw [all, pending_eq]; exact List.append_nil _
    | some rest => exact absurd ⟨rest, pendingBehind_eq_some_iff.mp pending_eq⟩ settled

/-- A literal goes over a comment line and then breaks off in the last code line
of the source, which is not its last line. -/
theorem continuations_resolved_literal :
    let source := ["x = 'a&", "! note", " &b' &", " "]
    (∃ rest, OpenAbove (source.map lineText) 4 rest ∧ rest.line = 3 ∧ rest.column = 6) ∧
      (ofLines source).errors = [⟨.nothingToContinue, 3, 6⟩] := by
  intro source
  have length_eq : (source.map lineText).length = 4 := rfl
  have suspended : (readings 1 none (source.map lineText))[2]?.map Prod.snd =
      some (.suspended ⟨3, 6, ⟨true, 0⟩, none⟩) := by decide +kernel
  obtain ⟨⟨tokens, ending⟩, read, ending_eq⟩ := Option.map_eq_some_iff.mp suspended
  have left : OpenAbove (source.map lineText) 4 ⟨3, 6, ⟨true, 0⟩, none⟩ := by
    refine ⟨2, ⟨by decide, ⟨" &b' &".toList, by decide +kernel, by decide +kernel⟩, ?_⟩,
      tokens, ?_⟩
    · rintro k low high ⟨cs, found, code⟩
      obtain rfl : k = 3 := by omega
      obtain rfl : [' '] = cs := by
        rw [← Option.some.injEq, ← found]
        decide +kernel
      exact absurd code (by decide +kernel)
    · rw [read]
      exact congrArg (fun ending => some (tokens, ending)) ending_eq
  refine ⟨⟨_, left, rfl, rfl⟩, ?_⟩
  have raised : (readings 1 none (source.map lineText)).flatMap (·.2.errors) = [] := by
    decide +kernel
  have errors_eq := (continuations_resolved source).2.2.1 _ (length_eq ▸ left)
  rw [raised] at errors_eq
  exact errors_eq

end FortranStyle.Tokenized
