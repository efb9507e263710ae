import FortranStyle.Proofs.Reading.Partition
import Mathlib.Data.Nat.Find

/-!
# What stands between statements

A semicolon stands in a literal or in a comment, or it parts the tokens of a source: the code in
front of it is closed there or further on, before any code comes behind it.  The same holds for the
end of a line that is not continued.  A literal that is carried over is a literal only when it is
closed on a later line; else its statement ends with the line that breaks the rules, or with the
source, and no code comes before that.
-/

namespace FortranStyle

/-- Tokens part at a place: no statement is open behind a first part of them, whose code stands
in front of the place, and all other code stands behind it. -/
def PartsAt (place : Nat × Nat) (isOpen : Bool) (tokens : List Token) : Prop :=
  ∃ first second, tokens = first ++ second ∧ leavesOpen isOpen first = false ∧
    (∀ token ∈ first, token.isCode = true → Before token.stop place) ∧
      ∀ token ∈ second, token.isCode = true → Before place token.start

namespace PartsAt

variable {place : Nat × Nat} {isOpen : Bool} {front back tokens : List Token}

theorem prepend (early : ∀ token ∈ front, token.isCode = true → Before token.stop place)
    (parts : PartsAt place (leavesOpen isOpen front) tokens) :
    PartsAt place isOpen (front ++ tokens) := by
  obtain ⟨first, second, rfl, closed, before, behind⟩ := parts
  refine ⟨front ++ first, second, (List.append_assoc _ _ _).symm, ?_,
    List.forall_mem_append.mpr ⟨early, before⟩, behind⟩
  rw [leavesOpen_append, closed]

theorem append (parts : PartsAt place isOpen tokens)
    (late : ∀ token ∈ back, token.isCode = true → Before place token.start) :
    PartsAt place isOpen (tokens ++ back) := by
  obtain ⟨first, second, rfl, closed, before, behind⟩ := parts
  exact ⟨first, second ++ back, List.append_assoc _ _ _, closed, before,
    List.forall_mem_append.mpr ⟨behind, late⟩⟩

theorem of_closed (closed : leavesOpen isOpen tokens = false)
    (early : ∀ token ∈ tokens, token.isCode = true → Before token.stop place) :
    PartsAt place isOpen tokens :=
  ⟨tokens, [], (List.append_nil _).symm, closed, early, List.forall_mem_nil _⟩

theorem of_late (late : ∀ token ∈ tokens, token.isCode = true → Before place token.start) :
    PartsAt place false tokens :=
  ⟨[], tokens, rfl, rfl, List.forall_mem_nil _, late⟩

end PartsAt

/-! ## A semicolon on a line -/

namespace Lexeme

/-- A run of characters of a class ends in front of every other character. -/
theorem leading_le_of_getElem? {p : Char → Bool} {c : Char} (other : p c = false)
    {cs : List Char} {k : Nat} (found : cs[k]? = some c) : leading p cs ≤ k := by
  induction cs generalizing k with
  | nil => contradiction
  | cons d rest ih =>
    cases inside : p d with
    | false =>
      rw [leading_cons_of_neg inside]
      exact Nat.zero_le k
    | true =>
      cases k with
      | zero =>
        cases found
        rw [other] at inside
        contradiction
      | succ k =>
        rw [leading_cons_of_pos inside]
        exact Nat.succ_le_succ (ih found)

/-- A lexeme in which a semicolon stands is a literal. -/
theorem kind_of_semicolon {depth k : Nat} {c : Char} {rest : List Char} {lexeme : Lexeme}
    (read : read? depth (c :: rest) = some lexeme) (mark : rest[k]? = some ';')
    (inside : k < lexeme.tail) : lexeme.kind = .string := by
  obtain ⟨k_lt, mark_eq⟩ := List.getElem?_eq_some_iff.mp mark
  have split : rest = rest.take k ++ ';' :: rest.drop (k + 1) := by
    rw [← mark_eq, List.getElem_cons_drop, List.take_append_drop]
  have front_length : (rest.take k).length = k := List.length_take_of_le (Nat.le_of_lt k_lt)
  rw [split] at read
  rcases tail_le_of_isStop (by decide) read with within | ⟨quote, -⟩
  · omega
  · rw [read?_quote quote] at read
    obtain ⟨body, -, rfl⟩ := Option.map_eq_some_iff.mp read
    rfl

end Lexeme

namespace Line

/-- What becomes of a semicolon: it stands in a literal or a comment, or in a literal that is
carried over, or the tokens part there. -/
inductive Fate (place : Nat × Nat) (isOpen : Bool) (reading : Reading) : Prop
  | covered {token : Token} (member : token ∈ reading.1)
      (kind : token.kind = .string ∨ token.kind = .comment) (spans : token.Spans place)
  | carried {literal : OpenLiteral} (found : literal ∈ openLiteral? reading.2.pending)
      (opens : NotBehind literal.place place)
  | parts (parts : PartsAt place isOpen reading.1)
      (later : ∀ literal ∈ openLiteral? reading.2.pending, Before place literal.place)

theorem Fate.prepend {place : Nat × Nat} {isOpen : Bool} (front : List Token) (reading : Reading)
    (early : ∀ token ∈ front, token.isCode = true → Before token.stop place)
    (fate : Fate place (leavesOpen isOpen front) reading) :
    Fate place isOpen (front ++ reading.1, reading.2) := by
  cases fate with
  | covered member kind spans => exact .covered (List.mem_append_right _ member) kind spans
  | carried found opens => exact .carried found opens
  | parts parts later => exact .parts (parts.prepend early) later

/-- A token in front that ends before the place. -/
theorem Fate.behind {place : Nat × Nat} {isOpen : Bool} {token : Token} {reading : Reading}
    (early : token.isCode = true → Before token.stop place)
    (fate : Fate place (leavesOpen isOpen [token]) reading) :
    Fate place isOpen (emit token reading) :=
  Fate.prepend [token] reading (List.forall_mem_singleton.mpr early) fate

/-- A silent token in front. -/
theorem Fate.emit_silent {place : Nat × Nat} {isOpen : Bool} {token : Token} {reading : Reading}
    (silent : token.inStatement = false) (fate : Fate place isOpen reading) :
    Fate place isOpen (emit token reading) := by
  have same : leavesOpen isOpen [token] = isOpen :=
    if_pos (by simpa [Token.inStatement] using silent)
  refine Fate.behind ?_ (same.symm ▸ fate)
  rw [Token.isCode_of_silent silent]
  exact fun code => absurd code Bool.false_ne_true

/-- Nothing comes behind the place on a line that fails there or in front of it. -/
theorem fate_fail (place : Nat × Nat) (progress : Progress) (cause : LexCause)
    (line column lineEnd : Nat) :
    Fate place progress.statementOpen (fail progress cause line column lineEnd) := by
  refine .parts (.of_closed (leavesOpen_fail progress cause line column lineEnd) ?_)
    fun literal found => absurd found (Option.not_mem_none literal)
  intro token member code
  rw [isCode_close progress '\n' line lineEnd token member] at code
  contradiction

theorem fate_carry {place : Nat × Nat} {literal : OpenLiteral} (line column : Nat)
    (progress : Progress) (opens : NotBehind literal.place place) (cs : List Char) :
    Fate place progress.statementOpen (carry line column progress literal cs) := by
  unfold carry
  cases carriedPart? cs with
  | some part => exact .carried (Option.mem_some_self _) opens
  | none => exact fate_fail place progress _ line column _

theorem fate_afterMarker (line column : Nat) (progress : Progress) {cs : List Char} {k : Nat}
    (mark : cs[k]? = some ';') :
    Fate (line, column + 1 + k) progress.statementOpen (afterMarker line column progress cs) := by
  have inside := (List.getElem?_eq_some_iff.mp mark).1
  have gap_le := Lexeme.leading_le_of_getElem? (p := Text.isGap) (by decide) mark
  unfold afterMarker
  dsimp only
  split
  · cases behind : cs.drop (Lexeme.leading Text.isGap cs) with
    | nil =>
      have short := List.drop_eq_nil_iff.mp behind
      omega
    | cons c rest =>
      dsimp only
      split
      · have length_eq := congrArg List.length behind
        rw [List.length_drop] at length_eq
        refine .covered (List.mem_cons_of_mem _ (List.mem_singleton_self _)) (.inr rfl) ?_
        rw [Token.spans_onLine_iff, ← length_eq]
        omega
      · exact (fate_fail _ progress _ line _ _).emit_silent rfl
  · exact fate_fail _ progress _ line _ _

/-- A semicolon in a lexeme or behind it. -/
theorem fate_lexeme (line column : Nat) {depth k : Nat} {isOpen : Bool} {c : Char}
    {rest : List Char} {lexeme : Lexeme} (read : Lexeme.read? depth (c :: rest) = some lexeme)
    (mark : rest[k]? = some ';') {reading : Reading}
    (later : ∀ j, (rest.drop lexeme.tail)[j]? = some ';' →
      Fate (line, column + 1 + lexeme.tail + j) true reading) :
    Fate (line, column + (k + 1)) isOpen
      (emit (Token.onLine lexeme.kind line column (c :: rest.take lexeme.tail)) reading) := by
  have short := Lexeme.tail_lt_length read
  rw [List.length_cons] at short
  by_cases inside : k < lexeme.tail
  · refine .covered List.mem_cons_self (.inl (Lexeme.kind_of_semicolon read mark inside)) ?_
    rw [Token.spans_onLine_iff, List.length_cons, List.length_take]
    omega
  · obtain ⟨j, rfl⟩ := Nat.exists_eq_add_of_le (Nat.le_of_not_lt inside)
    refine Fate.behind (fun _ => .inr ⟨rfl, ?_⟩) ?_
    · simp only [Token.stop, Token.onLine, List.length_cons, List.length_take]
      omega
    · rw [leavesOpen_cons, leavesOpen_nil, leavesOpen_onLine_code (Lexeme.isCode_read? read)]
      have column_eq : column + 1 + lexeme.tail + j = column + (lexeme.tail + j + 1) := by omega
      rw [← column_eq]
      exact later j (by rwa [List.getElem?_drop])

/-- A semicolon on the rest of a line. -/
theorem fate_readRest (line column : Nat) (progress : Progress) (cs : List Char) {k : Nat}
    (mark : cs[k]? = some ';') :
    Fate (line, column + k) progress.statementOpen (readRest line column progress cs) := by
  fun_induction readRest line column progress cs generalizing k with
  | case1 => contradiction
  | case2 column progress c rest gap ih =>
    cases k with
    | zero =>
      cases mark
      contradiction
    | succ k =>
      rw [Nat.add_comm k, ← Nat.add_assoc]
      exact ih mark
  | case3 column progress rest =>
    have inside := (List.getElem?_eq_some_iff.mp mark).1
    refine .covered List.mem_cons_self (.inr rfl) ?_
    rw [Token.spans_onLine_iff]
    omega
  | case4 column progress rest =>
    cases k with
    | zero => cases mark
    | succ k =>
      rw [Nat.add_comm k, ← Nat.add_assoc]
      exact fate_afterMarker line column progress mark
  | case5 column progress rest tokens ending read noGap noComment noMarker ih =>
    have closed := leavesOpen_close progress ';' line column
    have noCode : ∀ token ∈ progress.close ';' line column, token.isCode = true →
        Before token.stop (line, column + k) := by
      intro token member code
      rw [isCode_close progress ';' line column token member] at code
      contradiction
    cases k with
    | zero =>
      -- Here the tokens part: all that is read behind the semicolon stands behind it.
      have code := token_of_readRest line (column + 1) .fresh rest
      have literals := literal_of_readRest line (column + 1) .fresh rest
      rw [read] at code literals
      refine .parts (.prepend noCode (closed.symm ▸ .of_late ?_)) ?_
      · intro token member isCode
        obtain ⟨line_eq, -, from_le, -⟩ := code token member isCode
        exact .inr ⟨line_eq.symm, from_le⟩
      · intro literal carried
        obtain ⟨line_eq, from_le, -⟩ := literals literal carried
        exact .inr ⟨line_eq.symm, from_le⟩
    | succ k =>
      have later := ih (k := k) mark
      rw [read, Nat.add_assoc, Nat.add_comm 1 k] at later
      refine Fate.prepend _ (tokens, ending) noCode ?_
      rw [closed]
      exact later
  | case6 column progress c rest noGap noComment noMarker noEnd lexeme read ih =>
    cases k with
    | zero =>
      cases mark
      contradiction
    | succ k =>
      exact fate_lexeme line column read mark fun _ later => ih later
  | case7 column progress c rest =>
    have opens : NotBehind (⟨c, line, column, []⟩ : OpenLiteral).place (line, column + k) :=
      .inr ⟨rfl, Nat.le_add_right column k⟩
    exact fate_carry line column progress opens (c :: rest)
  | case8 column progress c rest => exact fate_fail _ progress _ line column _

/-- A semicolon on a line that goes on with a literal. -/
theorem fate_resumeLiteral {line : Nat} (column : Nat) (progress : Progress)
    {literal : OpenLiteral} (line_lt : literal.line < line) {cs : List Char} {k : Nat}
    (mark : cs[k]? = some ';') :
    Fate (line, column + k) progress.statementOpen
      (resumeLiteral line column progress literal cs) := by
  unfold resumeLiteral
  cases closed : Lexeme.closingQuote? literal.quote cs with
  | none =>
    have opens : NotBehind literal.place (line, column + k) := .inl line_lt
    exact fate_carry line column progress opens cs
  | some body =>
    by_cases inside : k ≤ body
    · exact .covered List.mem_cons_self (.inl rfl)
        ⟨.inl line_lt, .inr ⟨rfl, Nat.add_le_add_left inside column⟩⟩
    · obtain ⟨j, rfl⟩ := Nat.exists_eq_add_of_lt (Nat.lt_of_not_le inside)
      refine Fate.behind (fun _ => .inr ⟨rfl, ?_⟩) ?_
      · dsimp only [Token.stop]
        omega
      · have later := fate_readRest line (column + body + 1) ⟨true, progress.constructors⟩
          (cs.drop (body + 1)) (k := j) (by rwa [List.getElem?_drop, Nat.add_right_comm])
        have column_eq : column + body + 1 + j = column + (body + j + 1) := by omega
        rwa [column_eq] at later

theorem fate_resume {line : Nat} (column : Nat) (rest : Suspended)
    (above : ∀ literal ∈ rest.literal, literal.line < line) {cs : List Char} {k : Nat}
    (mark : cs[k]? = some ';') :
    Fate (line, column + k) rest.progress.statementOpen (resume line column rest cs) := by
  unfold resume
  cases carried : rest.literal with
  | none => exact fate_readRest line column rest.progress cs mark
  | some literal => exact fate_resumeLiteral column rest.progress (above literal carried) mark

/-- A semicolon on a line. -/
theorem fate_read {line : Nat} {pending : Option Suspended}
    (above : ∀ literal ∈ openLiteral? pending, Above line literal) {cs : List Char} {k : Nat}
    (mark : cs[k]? = some ';') :
    Fate (line, k + 1) (Suspended.isOpen pending) (read line pending cs) := by
  have gap_le := Lexeme.leading_le_of_getElem? (p := Text.isGap) (by decide) mark
  obtain ⟨j, rfl⟩ := Nat.exists_eq_add_of_le gap_le
  have body_mark : (cs.dropWhile Text.isGap)[j]? = some ';' := by
    rwa [← drop_leading, List.getElem?_drop]
  have column_eq : Lexeme.leading Text.isGap cs + j + 1 = firstColumn cs + j := by
    rw [firstColumn]
    omega
  have inside := (List.getElem?_eq_some_iff.mp body_mark).1
  rw [column_eq]
  cases silent : isSilent cs with
  | true =>
    have filled : Text.trim cs ≠ [] := by
      rw [Ne, trim_eq_nil_iff]
      intro blank
      exact absurd (blank ';' (List.mem_of_getElem? mark)) (by decide)
    rw [read_of_isSilent silent, if_neg filled]
    refine .covered (List.mem_singleton_self _) (.inr rfl) ?_
    rw [Token.spans_onLine_iff]
    omega
  | false =>
    cases pending with
    | none =>
      rw [read_none silent]
      split
      · refine .parts (.of_closed rfl ?_)
          fun literal found => absurd found (Option.not_mem_none literal)
        rw [List.forall_mem_singleton]
        exact fun code => absurd code Bool.false_ne_true
      · exact fate_readRest line _ .fresh _ body_mark
    | some rest =>
      have above' : ∀ literal ∈ rest.literal, literal.line < line :=
        fun literal carried => (above literal carried).line_lt
      by_cases marker : (cs.dropWhile Text.isGap).head? = some '&'
      · obtain ⟨after, body_eq⟩ := List.head?_eq_some_iff.mp marker
        rw [read_some_marker rest silent body_eq]
        rw [body_eq] at body_mark
        cases j with
        | zero => cases body_mark
        | succ j =>
          rw [List.getElem?_cons_succ] at body_mark
          rw [Nat.add_comm j, ← Nat.add_assoc]
          exact (fate_resume (firstColumn cs + 1) rest above' body_mark).emit_silent rfl
      · rw [read_some rest silent marker]
        exact fate_resume (firstColumn cs) rest above' body_mark

/-- A literal that is carried over to a line is closed there, or it is carried over again, or
nothing is pending behind the line; unless it is closed, the line has no code. -/
theorem literal_closes {line : Nat} {pending : Option Suspended} {literal : OpenLiteral}
    (carried : literal ∈ openLiteral? pending) (cs : List Char) :
    let reading := read line pending cs
    (∃ token ∈ reading.1, token.kind = .string ∧ token.start = literal.place ∧
        token.endLine = line) ∨
      (∀ token ∈ reading.1, token.isCode = false) ∧
        (reading.2.pending = none ∨
          ∃ literal' ∈ openLiteral? reading.2.pending, literal'.place = literal.place) := by
  intro reading
  obtain ⟨marks, rest, read_eq, silent, body⟩ := body_read line pending cs
  have noMark : ∀ token ∈ marks, token.isCode = false :=
    fun token member => Token.isCode_of_silent (silent token member)
  simp only [reading, read_eq]
  cases body with
  | unchanged =>
    refine .inr ⟨by rwa [List.append_nil], .inr ⟨literal, ?_, rfl⟩⟩
    rwa [pending_unchanged]
  | directive nothing => exact .inr ⟨by rwa [List.append_nil], .inl rfl⟩
  | rest column progress cs from_le last_eq nothing =>
    rw [nothing] at carried
    contradiction
  | literal column progress literal' cs from_le last_eq carried' =>
    obtain rfl : literal' = literal := Option.some.inj (carried'.symm.trans carried)
    unfold resumeLiteral
    cases Lexeme.closingQuote? literal'.quote cs with
    | some body =>
      exact .inl ⟨_, List.mem_append_right _ List.mem_cons_self, rfl, rfl, rfl⟩
    | none =>
      refine .inr ⟨List.forall_mem_append.mpr ⟨noMark, isCode_carry _ _ _ _ _⟩, ?_⟩
      unfold carry
      cases carriedPart? cs with
      | some part => exact .inr ⟨_, rfl, rfl⟩
      | none => exact .inl rfl

end Line

/-! ## A semicolon in a source -/

namespace Tokenized

variable {place : Nat × Nat}

/-- A code token of some lines and of the end of the source starts on one of the lines, or it is
the literal carried over to the first. -/
theorem start_of_readLines {line : Nat} {pending : Option Suspended}
    (above : ∀ literal ∈ openLiteral? pending, Line.Above line literal)
    (lines : List (List Char)) :
    ∀ token ∈ (readLines line pending lines).tokens, token.isCode = true →
      line ≤ token.line ∨ ∃ literal ∈ openLiteral? pending, token.start = literal.place := by
  intro token member code
  rw [readLines_eq, Part.tokens_append, List.mem_append] at member
  rcases member with inLines | dangling
  · exact (token_of_linesPart above lines token inLines code).2.2
  · rw [isCode_danglingPart _ token dangling] at code
    contradiction

/-- Lines in front of which nothing is pending have no code in front of them. -/
theorem before_of_readLines_none {line : Nat} (early : Before place (line, 1))
    (lines : List (List Char)) :
    ∀ token ∈ (readLines line none lines).tokens, token.isCode = true →
      Before place token.start := by
  obtain ⟨stop, ordered⟩ := inOrder_readLines_none line lines
  intro token member code
  exact early.notBehind (ordered.mem member (Token.inStatement_of_isCode code)).1

/-- A literal that is carried over to some lines is closed on one of them, or the tokens part at
every place above the lines. -/
theorem closes_or_parts {line : Nat} {pending : Option Suspended} {literal : OpenLiteral}
    (carried : literal ∈ openLiteral? pending) (early : Before place (line, 1))
    (lines : List (List Char)) :
    (∃ token ∈ (readLines line pending lines).tokens, token.kind = .string ∧
        token.start = literal.place ∧ line ≤ token.endLine) ∨
      PartsAt place (Suspended.isOpen pending) (readLines line pending lines).tokens := by
  have noCode {tokens : List Token} (none : ∀ token ∈ tokens, token.isCode = false) :
      ∀ token ∈ tokens, token.isCode = true → Before token.stop place := by
    intro token member code
    rw [none token member] at code
    contradiction
  induction lines generalizing line pending literal with
  | nil =>
    cases pending with
    | none => contradiction
    | some rest =>
      exact .inr (.of_closed (leavesOpen_close rest.progress '\n' rest.line _)
        (noCode (isCode_close rest.progress '\n' rest.line _)))
  | cons cs below ih =>
    rw [readLines, Part.tokens_append]
    have next : Before place (line + 1, 1) := by
      unfold Before at *
      omega
    rcases Line.literal_closes carried cs with
      ⟨token, member, string, start_eq, endLine_eq⟩ | ⟨none, settled | ⟨literal', found, place_eq⟩⟩
    · exact .inl ⟨token, List.mem_append_left _ member, string, start_eq, endLine_eq.ge⟩
    · refine .inr (.prepend (noCode none) ?_)
      change PartsAt place (leavesOpen _ (Line.read line pending cs).1) _
      rw [Line.leavesOpen_read, settled]
      exact .of_late (before_of_readLines_none next below)
    · rcases ih found next with ⟨token, member, string, start_eq, line_le⟩ | parts
      · exact .inl ⟨token, List.mem_append_right _ member, string, start_eq.trans place_eq,
          Nat.le_of_succ_le line_le⟩
      · refine .inr (.prepend (noCode none) ?_)
        change PartsAt place (leavesOpen _ (Line.read line pending cs).1) _
        rw [Line.leavesOpen_read]
        exact parts

/-- The tokens of a source part at a semicolon outside literals and comments. -/
theorem partsAt_semicolon (above below : List (List Char)) {cs : List Char} {k : Nat}
    (mark : cs[k]? = some ';')
    (outside : ∀ token ∈ (readLines 1 none (above ++ cs :: below)).tokens,
      token.kind = .string ∨ token.kind = .comment →
        ¬token.Spans (1 + above.length, k + 1)) :
    PartsAt (1 + above.length, k + 1) false
      (readLines 1 none (above ++ cs :: below)).tokens := by
  have literals := above_linesPart (nothingAbove 1) above
  have carried := above_read above cs
  have opened := leavesOpen_linesPart 1 none above
  change leavesOpen false _ = _ at opened
  have early : ∀ token ∈ (linesPart 1 none above).tokens, token.isCode = true →
      Before token.stop (1 + above.length, k + 1) :=
    fun token member _ => .inl (endLine_of_linesPart (nothingAbove 1) above token member).2.1
  rw [readLines_append, readLines, Part.tokens_append, Part.tokens_append] at outside ⊢
  refine .prepend early ?_
  rw [opened]
  cases Line.fate_read literals mark with
  | covered member kind spans =>
    exact absurd spans (outside _ (List.mem_append_right _ (List.mem_append_left _ member)) kind)
  | parts parts later =>
    refine parts.append fun token member code => ?_
    rcases start_of_readLines carried below token member code with
      line_lt | ⟨literal, found, start_eq⟩
    · exact .inl line_lt
    · rw [start_eq]
      exact later literal found
  | carried found opens =>
    -- The code on the line stands in front of the literal that is carried over from it.
    have nothing : ∀ rest ∈ (none : Option Suspended),
        rest.line < 1 ∧ NotBehind rest.place (rest.line, rest.column + 1) :=
      fun rest pending => absurd pending (Option.not_mem_none rest)
    have ordered := (inOrder_linesPart nothing (nothingAbove 1) (above ++ [cs])).1
    rw [linesPart_append, pendingBehind_append] at ordered
    have inFront : ∀ token ∈ (Line.read (1 + above.length) (pendingBehind 1 none above) cs).1,
        token.isCode = true → Before token.stop (1 + above.length, k + 1) := by
      intro token member code
      have within := (ordered.mem (List.mem_append_right _ (List.mem_append_left _ member))
        (Token.inStatement_of_isCode code)).2.2
      rw [pendingBehind, pendingBehind, Line.front_of_openLiteral? found] at within
      exact within.notBehind opens
    have next : Before (1 + above.length, k + 1) (1 + above.length + 1, 1) :=
      .inl (Nat.lt_succ_self _)
    rcases closes_or_parts found next below with ⟨token, member, string, start_eq, line_le⟩ | parts
    · refine absurd ⟨?_, .inl line_le⟩
        (outside token (List.mem_append_right _ (List.mem_append_right _ member)) (.inl string))
      rw [start_eq]
      exact opens
    · refine .prepend inFront ?_
      change PartsAt _ (leavesOpen _ (Line.read _ _ cs).1) _
      rw [Line.leavesOpen_read]
      exact parts

/-! ## The end of a line -/

/-- Silent lines have no code, whatever is pending in front of them. -/
theorem isCode_of_isSilent {line : Nat} {pending : Option Suspended} {lines : List (List Char)}
    (silent : ∀ cs ∈ lines, Line.isSilent cs = true) :
    ∀ token ∈ (readLines line pending lines).tokens, token.isCode = false := by
  induction lines generalizing line pending with
  | nil => exact isCode_danglingPart pending
  | cons cs rest ih =>
    rw [List.forall_mem_cons] at silent
    rw [readLines, Part.tokens_append, List.forall_mem_append]
    refine ⟨?_, ih silent.2⟩
    change ∀ token ∈ (Line.read line pending cs).1, _
    rw [Line.read_of_isSilent silent.1]
    intro token member
    dsimp only at member
    split at member
    · contradiction
    · rw [List.mem_singleton.mp member]
      rfl

/-- The tokens of a source part between lines, when nothing is pending there, or no code comes
any more. -/
theorem partsAt_lineEnd (first below : List (List Char))
    (settled : pendingBehind 1 none first = none ∨
      ∀ cs ∈ below, Line.isSilent cs = true) :
    PartsAt (1 + first.length, 0) false (readLines 1 none (first ++ below)).tokens := by
  have early : ∀ token ∈ (linesPart 1 none first).tokens, token.isCode = true →
      Before token.stop (1 + first.length, 0) :=
    fun token member _ => .inl (endLine_of_linesPart (nothingAbove 1) first token member).2.1
  have opened := leavesOpen_linesPart 1 none first
  change leavesOpen false _ = _ at opened
  rw [readLines_append, Part.tokens_append]
  refine .prepend early ?_
  rw [opened]
  rcases settled with nothing | silent
  · rw [nothing]
    have next : Before (1 + first.length, 0) (1 + first.length, 1) := .inr ⟨rfl, Nat.zero_lt_one⟩
    exact .of_late (before_of_readLines_none next below)
  · refine .of_closed (leavesOpen_readLines _ _ below) fun token member code => ?_
    rw [isCode_of_isSilent silent token member] at code
    contradiction

/-- One line is the nearest code line below the end of another, which is given by its number. -/
structure IsNext (texts : List (List Char)) (line n : Nat) : Prop where
  below : line ≤ n
  code : IsCodeAt texts n
  silent : ∀ k, line ≤ k → k < n → ¬IsCodeAt texts k

/-- A line has a next code line, or all lines below it are silent. -/
theorem exists_isNext_or (texts : List (List Char)) (line : Nat) :
    (∃ n, IsNext texts line n) ∨ ∀ cs ∈ texts.drop line, Line.isSilent cs = true := by
  by_cases some : ∃ n, line ≤ n ∧ IsCodeAt texts n
  · classical
    obtain ⟨below, code⟩ := Nat.find_spec some
    exact .inl ⟨Nat.find some, below, code, fun k line_le k_lt isCode =>
      Nat.find_min some k_lt ⟨line_le, isCode⟩⟩
  · refine .inr fun cs member => ?_
    obtain ⟨k, found⟩ := List.mem_iff_getElem?.mp member
    rw [List.getElem?_drop] at found
    cases silent : Line.isSilent cs with
    | true => rfl
    | false => exact absurd ⟨line + k, Nat.le_add_right line k, cs, found, silent⟩ some

/-- What is open above the next code line is open at the end of the line. -/
theorem IsNext.openAbove {texts : List (List Char)} {line n : Nat} (next : IsNext texts line n)
    {rest : Suspended} (opens : OpenAbove texts line rest) : OpenAbove texts n rest := by
  obtain ⟨m, nearest, suspends⟩ := opens
  refine ⟨m, ⟨nearest.above.trans_le next.below, nearest.code, fun k above below => ?_⟩, suspends⟩
  rcases Nat.lt_or_ge k line with inside | beyond
  · exact nearest.silent k above inside
  · exact next.silent k beyond below

/-! ## Statements stand apart -/

/-- What stands between statements: a semicolon outside literals and comments, and the end of a
line that the next code line does not continue. -/
inductive IsSeparator (source : List String) : Nat × Nat → Prop
  | semicolon {n k : Nat} {text : String} (found : (ofLines source).lines[n]? = some text)
      (mark : text.toList[k]? = some ';')
      (outside : ∀ token ∈ (ofLines source).tokens,
        token.kind = .string ∨ token.kind = .comment → ¬token.Spans (n + 1, k + 1)) :
      IsSeparator source (n + 1, k + 1)
  | lineEnd {line : Nat} (inside : line ≤ source.length)
      (ends : ∀ n, IsNext (source.map lineText) line n →
        n + 1 ∉ (ofLines source).continuedLines) :
      IsSeparator source (line + 1, 0)

theorem IsSeparator.partsAt {source : List String} {place : Nat × Nat}
    (separates : IsSeparator source place) :
    PartsAt place false (ofLines source).tokens := by
  change PartsAt place false (readLines 1 none (source.map lineText)).tokens
  cases separates with
  | @semicolon n k text found mark outside =>
    change ∀ token ∈ (readLines 1 none (source.map lineText)).tokens, _ at outside
    obtain ⟨n_lt, text_eq⟩ := List.getElem?_eq_some_iff.mp (getElem?_lines.mp found)
    have split : source.map lineText =
        (source.map lineText).take n ++ text.toList :: (source.map lineText).drop (n + 1) := by
      rw [← text_eq, List.getElem_cons_drop, List.take_append_drop]
    have length_eq : ((source.map lineText).take n).length = n :=
      List.length_take_of_le (Nat.le_of_lt n_lt)
    have parts := partsAt_semicolon ((source.map lineText).take n)
      ((source.map lineText).drop (n + 1)) mark
    rw [← split, length_eq, Nat.add_comm 1] at parts
    exact parts outside
  | @lineEnd line inside ends =>
    have line_le : line ≤ (source.map lineText).length := by rwa [List.length_map]
    have parts := partsAt_lineEnd ((source.map lineText).take line)
      ((source.map lineText).drop line)
    rw [List.take_append_drop, List.length_take_of_le line_le, Nat.add_comm 1] at parts
    refine parts ?_
    rcases exists_isNext_or (source.map lineText) line with ⟨n, next⟩ | silent
    · refine .inl (Option.eq_none_iff_forall_ne_some.mpr fun rest pending_eq => ?_)
      have opens := next.openAbove ((pendingBehind_take_eq_some_iff line_le).mp pending_eq)
      exact ends n next ((mem_continuedLines_iff source (n + 1)).mpr
        ⟨n, rfl, next.code, rest, opens⟩)
    · exact .inr silent

/-- The statements of tokens that part at a place stand on either side of it. -/
theorem sides_of_partsAt {place : Nat × Nat} {tokens : List Token}
    (parts : PartsAt place false tokens) :
    ∀ statement ∈ statementsOf tokens,
      (∀ token ∈ statement, Before token.stop place) ∨
        ∀ token ∈ statement, Before place token.start := by
  have code {tokens statement : List Token} (member : statement ∈ statementsOf tokens) :
      ∀ token ∈ statement, token ∈ tokens ∧ token.isCode = true := by
    intro token inside
    have within : token ∈ (statementsOf tokens).flatten :=
      List.mem_flatten.mpr ⟨statement, member, inside⟩
    rw [flatten_statementsOf] at within
    exact List.mem_filter.mp within
  obtain ⟨first, second, rfl, closed, before, behind⟩ := parts
  intro statement member
  rw [statementsOf_append closed, List.mem_append] at member
  rcases member with early | late
  · exact .inl fun token inside =>
      before token (code early token inside).1 (code early token inside).2
  · exact .inr fun token inside =>
      behind token (code late token inside).1 (code late token inside).2

/-- The statements of a source partition its code.  Every end of a statement stands behind the
tokens of one statement, of which there is one at least, and all code tokens stand in front of
such an end.  Whatever separates statements in the text has each of them on one side. -/
theorem statements_partition (source : List String) :
    let tokens := (ofLines source).tokens
    let statements := (ofLines source).statements
    (statements.length = (endsOf tokens).length ∧
        tokens.filter Token.inStatement = withEnds statements (endsOf tokens)) ∧
      statements.flatten = tokens.filter Token.isCode ∧
      (∀ statement ∈ statements, statement ≠ []) ∧
      ∀ place, IsSeparator source place → ∀ statement ∈ statements,
        (∀ token ∈ statement, Before token.stop place) ∨
          ∀ token ∈ statement, Before place token.start := by
  intro tokens statements
  refine ⟨statementsOf_of_closesOpen ?_ ?_, flatten_statementsOf tokens, ?_,
    fun place separates => sides_of_partsAt separates.partsAt⟩
  · exact closesOpen_readLines 1 none (source.map lineText)
  · exact leavesOpen_readLines 1 none (source.map lineText)
  · intro statement member
    simpa using (List.mem_filter.mp member).2

/-- The first semicolon stands in a literal and the second parts the line, whose rest cannot be
read; the last line is left open at its end. -/
theorem statements_partition_unreadable :
    let source := ["x = 'a;b'; y = 1 ?", "z = &"]
    IsSeparator source (1, 10) ∧ ¬IsSeparator source (1, 7) ∧
      (ofLines source).statements.length = (endsOf (ofLines source).tokens).length ∧
      (ofLines source).errors.length = 2 ∧
      ∀ statement ∈ (ofLines source).statements,
        (∀ token ∈ statement, Before token.stop (1, 10)) ∨
          ∀ token ∈ statement, Before (1, 10) token.start := by
  intro source
  have found : (ofLines source).lines[0]? = some "x = 'a;b'; y = 1 ?" := by decide +kernel
  have separates : IsSeparator source (1, 10) :=
    .semicolon found (by decide +kernel) (by decide +kernel)
  have covered : ∃ token ∈ (ofLines source).tokens, token.kind = .string ∧
      token.Spans (1, 7) := by decide +kernel
  have partition := statements_partition source
  refine ⟨separates, ?_, partition.1.1, by decide +kernel, partition.2.2.2 (1, 10) separates⟩
  intro inside
  obtain ⟨token, member, string, spans⟩ := covered
  cases inside with
  | semicolon _ _ outside => exact outside token member (.inl string) spans

end Tokenized

end FortranStyle
