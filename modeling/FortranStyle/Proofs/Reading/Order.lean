import FortranStyle.Proofs.Reading.Lines
import FortranStyle.Proofs.Reading.Lookahead
import FortranStyle.Proofs.Reading.StatementEnd

/-!
# The order of tokens

The tokens of the statements of a source, ends included, come in the order in
which they stand, and no two of them overlap.  A literal that is carried over
several lines is emitted on the line where it closes, with the place of its
opening quote, and a marker that nothing follows has the end of its statement
right behind it.  So the order of a line's tokens starts at what the line goes
on from: the front of the line.

What is on a line is read in one of four ways, whatever stands in front of it.
-/

namespace FortranStyle

/-! ## Places -/

/-- One place stands in front of another. -/
def Before (first second : Nat × Nat) : Prop :=
  first.1 < second.1 ∨ first.1 = second.1 ∧ first.2 < second.2

/-- One place is another or stands in front of it. -/
def NotBehind (first second : Nat × Nat) : Prop :=
  first.1 < second.1 ∨ first.1 = second.1 ∧ first.2 ≤ second.2

theorem NotBehind.refl (place : Nat × Nat) : NotBehind place place :=
  .inr ⟨rfl, Nat.le_refl _⟩

theorem NotBehind.trans {first second third : Nat × Nat} (left : NotBehind first second)
    (right : NotBehind second third) : NotBehind first third := by
  unfold NotBehind at *
  omega

theorem NotBehind.before {first second third : Nat × Nat} (left : NotBehind first second)
    (right : Before second third) : Before first third := by
  unfold NotBehind Before at *
  omega

theorem Before.notBehind {first second third : Nat × Nat} (left : Before first second)
    (right : NotBehind second third) : Before first third := by
  unfold NotBehind Before at *
  omega

namespace Token

/-- The place of the first character. -/
def start (token : Token) : Nat × Nat :=
  (token.line, token.column)

/-- The place of the last character. -/
def stop (token : Token) : Nat × Nat :=
  (token.endLine, token.endColumn)

/-- The place behind the last character. -/
def behind (token : Token) : Nat × Nat :=
  (token.endLine, token.endColumn + 1)

/-- A token ends in front of the start of another. -/
def Precedes (first second : Token) : Prop :=
  Before first.stop second.start

/-- Whether the token belongs to a statement or ends one. -/
def inStatement (token : Token) : Bool :=
  !token.kind.isSilent

theorem inStatement_of_isCode {token : Token} (code : token.isCode = true) :
    token.inStatement = true :=
  ((Bool.and_eq_true _ _).mp code).1

theorem isCode_of_silent {token : Token} (silent : token.inStatement = false) :
    token.isCode = false := by
  cases code : token.isCode with
  | true => rw [inStatement_of_isCode code] at silent; contradiction
  | false => rfl

theorem before_behind (token : Token) : Before token.stop token.behind :=
  .inr ⟨rfl, Nat.lt_succ_self _⟩

theorem Precedes.endColumn_lt {first second : Token} (precedes : first.Precedes second)
    (upright : NotBehind second.start second.stop) (same : first.endLine = second.endLine) :
    first.endColumn < second.endColumn := by
  unfold Precedes Before NotBehind start stop at *
  omega

theorem Precedes.column_lt {first second : Token} (precedes : first.Precedes second)
    (firstUpright : NotBehind first.start first.stop)
    (secondUpright : NotBehind second.start second.stop) (same : second.endLine = first.line) :
    second.line = first.line ∧ first.column < second.column := by
  unfold Precedes Before NotBehind start stop at *
  omega

end Token

/-- Where a literal opens. -/
def OpenLiteral.place (literal : OpenLiteral) : Nat × Nat :=
  (literal.line, literal.column)

/-- The literal that is carried over. -/
def openLiteral? (pending : Option Suspended) : Option OpenLiteral :=
  pending.bind (·.literal)

/-- Where a suspended line breaks off: at the literal it cuts, or behind its
marker. -/
def Suspended.place (rest : Suspended) : Nat × Nat :=
  match rest.literal with
  | some literal => literal.place
  | none => (rest.line, rest.column + 1)

/-- Where the tokens that close on a line can start: where the line that it goes
on from breaks off, or at the start of the line. -/
def front (line : Nat) : Option Suspended → Nat × Nat
  | some rest => rest.place
  | none => (line, 1)

/-! ## Runs in order -/

/-- The tokens of the statements of a run come one behind the other, between two
places. -/
def InOrder (start stop : Nat × Nat) : List Token → Prop
  | [] => NotBehind start stop
  | token :: rest =>
      if token.inStatement then
        NotBehind start token.start ∧ NotBehind token.start token.stop ∧
          InOrder token.behind stop rest
      else InOrder start stop rest

namespace InOrder

variable {start middle stop : Nat × Nat} {first second tokens : List Token} {token : Token}

theorem cons_inStatement (inside : token.inStatement = true) :
    InOrder start stop (token :: tokens) ↔
      NotBehind start token.start ∧ NotBehind token.start token.stop ∧
        InOrder token.behind stop tokens := by
  rw [InOrder, if_pos inside]

theorem cons_silent (silent : token.inStatement = false) :
    InOrder start stop (token :: tokens) ↔ InOrder start stop tokens := by
  rw [InOrder, silent]
  rfl

theorem weaken {start' : Nat × Nat} (earlier : NotBehind start' start)
    (ordered : InOrder start stop tokens) : InOrder start' stop tokens := by
  induction tokens with
  | nil => exact earlier.trans ordered
  | cons token rest ih =>
    cases inside : token.inStatement with
    | true =>
      rw [cons_inStatement inside] at *
      exact ⟨earlier.trans ordered.1, ordered.2⟩
    | false =>
      rw [cons_silent inside] at *
      exact ih ordered

theorem append (ordered : InOrder start middle first) (later : InOrder middle stop second) :
    InOrder start stop (first ++ second) := by
  induction first generalizing start with
  | nil => exact weaken ordered later
  | cons token rest ih =>
    rw [List.cons_append]
    cases inside : token.inStatement with
    | true =>
      rw [cons_inStatement inside] at *
      exact ⟨ordered.1, ordered.2.1, ih ordered.2.2⟩
    | false =>
      rw [cons_silent inside] at *
      exact ih ordered

/-- Silent tokens do not matter. -/
theorem of_silent (silent : ∀ token ∈ tokens, token.inStatement = false)
    (le : NotBehind start stop) : InOrder start stop tokens := by
  induction tokens with
  | nil => exact le
  | cons token rest ih =>
    rw [List.forall_mem_cons] at silent
    rw [cons_silent silent.1]
    exact ih silent.2

theorem notBehind (ordered : InOrder start stop tokens) : NotBehind start stop := by
  induction tokens generalizing start with
  | nil => exact ordered
  | cons token rest ih =>
    cases inside : token.inStatement with
    | true =>
      rw [cons_inStatement inside] at ordered
      have upright := ordered.2.1.before token.before_behind
      have within := upright.notBehind (ih ordered.2.2)
      have reach := ordered.1.before within
      unfold NotBehind Before at *
      omega
    | false =>
      rw [cons_silent inside] at ordered
      exact ih ordered

/-- A token of a statement in a run in order lies between the ends of the run. -/
theorem mem (ordered : InOrder start stop tokens) (member : token ∈ tokens)
    (inside : token.inStatement = true) :
    NotBehind start token.start ∧ NotBehind token.start token.stop ∧
      Before token.stop stop := by
  induction tokens generalizing start with
  | nil => contradiction
  | cons other rest ih =>
    rcases List.mem_cons.mp member with rfl | later
    · rw [cons_inStatement inside] at ordered
      exact ⟨ordered.1, ordered.2.1, token.before_behind.notBehind ordered.2.2.notBehind⟩
    · cases otherInside : other.inStatement with
      | true =>
        rw [cons_inStatement otherInside] at ordered
        obtain ⟨here, upright, beyond⟩ := ordered
        obtain ⟨after, rest⟩ := ih beyond later
        have reach := here.before (upright.before (other.before_behind.notBehind after))
        refine ⟨?_, rest⟩
        unfold NotBehind Before at *
        omega
      | false =>
        rw [cons_silent otherInside] at ordered
        exact ih ordered later

/-- The tokens of the statements of a run in order precede each other. -/
theorem pairwise (ordered : InOrder start stop tokens) :
    (tokens.filter Token.inStatement).Pairwise Token.Precedes := by
  induction tokens generalizing start with
  | nil => exact List.Pairwise.nil
  | cons token rest ih =>
    cases inside : token.inStatement with
    | true =>
      rw [cons_inStatement inside] at ordered
      rw [List.filter_cons_of_pos inside, List.pairwise_cons]
      refine ⟨?_, ih ordered.2.2⟩
      intro other member
      obtain ⟨later, otherInside⟩ := List.mem_filter.mp member
      exact token.before_behind.notBehind (ordered.2.2.mem later otherInside).1
    | false =>
      rw [cons_silent inside] at ordered
      rw [List.filter_cons_of_neg (by simp [inside])]
      exact ih ordered

/-- The code tokens of a run in order precede each other. -/
theorem pairwise_isCode (ordered : InOrder start stop tokens) :
    (tokens.filter Token.isCode).Pairwise Token.Precedes := by
  have codeOnly : tokens.filter Token.isCode =
      (tokens.filter Token.inStatement).filter Token.isCode := by
    rw [List.filter_filter]
    apply List.filter_congr
    intro token _
    cases code : token.isCode with
    | true => rw [Token.inStatement_of_isCode code]; rfl
    | false => rfl
  rw [codeOnly]
  exact ordered.pairwise.filter _

/-- The end of a statement stands alone. -/
theorem close {line column : Nat} (progress : Progress) (mark : Char)
    (from_le : NotBehind start (line, column)) (to_le : NotBehind (line, column + 1) stop) :
    InOrder start stop (progress.close mark line column) := by
  have here : NotBehind (line, column) (line, column + 1) := .inr ⟨rfl, Nat.le_succ column⟩
  unfold Progress.close
  split
  · rw [cons_inStatement rfl]
    exact ⟨from_le, .refl _, to_le⟩
  · exact (from_le.trans here).trans to_le

end InOrder

/-! ## What is read of a line -/

/-- The end of an open statement is one token. -/
theorem mem_close {progress : Progress} {mark : Char} {line column : Nat} {token : Token}
    (member : token ∈ progress.close mark line column) :
    token = Token.statementEnd mark line column := by
  unfold Progress.close at member
  split at member
  · exact List.mem_singleton.mp member
  · contradiction

theorem isCode_close (progress : Progress) (mark : Char) (line column : Nat) :
    ∀ token ∈ progress.close mark line column, token.isCode = false :=
  fun _ member => mem_close member ▸ rfl

namespace Line

/-- The four ways in which what is on a line can be read, from the first column
to the last, without the marker, the comment or the directive that stands in
front. -/
inductive Body (line first last : Nat) (pending : Option Suspended) : Reading → Prop
  | unchanged : Body line first last pending ([], .unchanged pending)
  | directive (nothing : pending = none) : Body line first last pending ([], .complete)
  | rest (column : Nat) (progress : Progress) (cs : List Char) (from_le : first ≤ column)
      (last_eq : column + cs.length = last + 1) (nothing : openLiteral? pending = none) :
      Body line first last pending (readRest line column progress cs)
  | literal (column : Nat) (progress : Progress) (literal : OpenLiteral) (cs : List Char)
      (from_le : first ≤ column) (last_eq : column + cs.length = last + 1)
      (carried : openLiteral? pending = some literal) :
      Body line first last pending (resumeLiteral line column progress literal cs)

theorem body_resume {line first last column : Nat} {cs : List Char} (from_le : first ≤ column)
    (last_eq : column + cs.length = last + 1) (rest : Suspended) :
    Body line first last (some rest) (resume line column rest cs) := by
  unfold resume
  cases carried : rest.literal with
  | none => exact .rest column rest.progress cs from_le last_eq carried
  | some literal => exact .literal column rest.progress literal cs from_le last_eq carried

theorem firstColumn_add_length (cs : List Char) :
    firstColumn cs + (cs.dropWhile Text.isGap).length = cs.length + 1 := by
  have whole := congrArg List.length (List.takeWhile_append_dropWhile (p := Text.isGap) (l := cs))
  rw [List.length_append] at whole
  unfold firstColumn Lexeme.leading
  omega

/-- A line is read in one of these ways, behind silent tokens. -/
theorem body_read (line : Nat) (pending : Option Suspended) (cs : List Char) :
    ∃ marks reading, read line pending cs = (marks ++ reading.1, reading.2) ∧
      (∀ token ∈ marks, token.inStatement = false) ∧
        Body line (firstColumn cs) cs.length pending reading := by
  have here : firstColumn cs ≤ firstColumn cs := Nat.le_refl _
  have last_eq := firstColumn_add_length cs
  cases silent : isSilent cs with
  | true =>
    refine ⟨(read line pending cs).1, ([], .unchanged pending), ?_, ?_, .unchanged⟩
    · rw [read_of_isSilent silent, List.append_nil]
    · rw [read_of_isSilent silent]
      intro token member
      dsimp only at member
      split at member
      · contradiction
      · rw [List.mem_singleton] at member
        subst member
        rfl
  | false =>
    cases pending with
    | none =>
      rw [read_none silent]
      split
      · refine ⟨[Token.onLine .directive line (firstColumn cs) (cs.dropWhile Text.isGap)],
          ([], .complete), ?_, ?_, .directive rfl⟩
        · rw [List.append_nil]
        · intro token member
          rw [List.mem_singleton] at member
          subst member
          rfl
      · exact ⟨[], _, rfl, List.forall_mem_nil _, .rest _ .fresh _ here last_eq rfl⟩
    | some rest =>
      by_cases marker : (cs.dropWhile Text.isGap).head? = some '&'
      · obtain ⟨after, body_eq⟩ := List.head?_eq_some_iff.mp marker
        rw [read_some_marker rest silent body_eq]
        rw [body_eq, List.length_cons, Nat.add_comm after.length, ← Nat.add_assoc] at last_eq
        refine ⟨[Token.onLine .continuation line (firstColumn cs) ['&']], _, rfl, ?_,
          body_resume (Nat.le_succ _) last_eq rest⟩
        intro token member
        rw [List.mem_singleton] at member
        subst member
        rfl
      · rw [read_some rest silent marker]
        exact ⟨[], _, rfl, List.forall_mem_nil _, body_resume here last_eq rest⟩

/-! ## The order on a line -/

theorem openLiteral?_carry {line column : Nat} {progress : Progress} {literal : OpenLiteral}
    {cs : List Char} {carried : OpenLiteral}
    (found : openLiteral? (carry line column progress literal cs).2.pending = some carried) :
    carried.place = literal.place ∧ carried.quote = literal.quote := by
  unfold carry at found
  cases part : carriedPart? cs with
  | none =>
    rw [part] at found
    contradiction
  | some part =>
    rw [part] at found
    cases found
    exact ⟨rfl, rfl⟩

theorem isCode_carry (line column : Nat) (progress : Progress) (literal : OpenLiteral)
    (cs : List Char) :
    ∀ token ∈ (carry line column progress literal cs).1, token.isCode = false := by
  unfold carry
  cases carriedPart? cs with
  | none => exact isCode_close progress '\n' line _
  | some part =>
    intro token member
    rw [List.mem_singleton] at member
    subst member
    rfl

theorem front_of_openLiteral? {line : Nat} {pending : Option Suspended} {literal : OpenLiteral}
    (carried : openLiteral? pending = some literal) : front line pending = literal.place := by
  cases pending with
  | none => contradiction
  | some rest =>
    change rest.literal = some literal at carried
    rw [front, Suspended.place, carried]

/-- Every place on a line is in front of the next line. -/
theorem notBehind_next (line column : Nat) : NotBehind (line, column) (line + 1, 1) :=
  .inl (Nat.lt_succ_self line)

theorem inOrder_carry {line column : Nat} {progress : Progress} {literal : OpenLiteral}
    (cs : List Char) (here : NotBehind literal.place (line, column)) :
    InOrder literal.place (front (line + 1) (carry line column progress literal cs).2.pending)
      (carry line column progress literal cs).1 := by
  unfold carry
  cases carriedPart? cs with
  | some part => exact .of_silent (List.forall_mem_singleton.mpr rfl) (.refl _)
  | none =>
    have lineEnd : NotBehind (line, column) (line, column + cs.length) :=
      .inr ⟨rfl, Nat.le_add_right _ _⟩
    exact .close progress '\n' (here.trans lineEnd) (notBehind_next line _)

theorem marker_of_carry {line column : Nat} {progress : Progress} {literal : OpenLiteral}
    (cs : List Char) (here : NotBehind literal.place (line, column)) :
    ∀ rest ∈ (carry line column progress literal cs).2.pending,
      rest.line = line ∧ NotBehind rest.place (rest.line, rest.column + 1) := by
  unfold carry
  intro rest found
  cases part_eq : carriedPart? cs with
  | none =>
    rw [part_eq] at found
    contradiction
  | some part =>
    rw [part_eq] at found
    cases found
    have marker : NotBehind (line, column) (line, column + part.length + 1) :=
      .inr ⟨rfl, by omega⟩
    exact ⟨rfl, here.trans marker⟩

/-- Behind a marker stands no code, and no literal is carried over. -/
theorem noCode_afterMarker (line column : Nat) (progress : Progress) (cs : List Char) :
    openLiteral? (afterMarker line column progress cs).2.pending = none ∧
      ∀ token ∈ (afterMarker line column progress cs).1, token.isCode = false := by
  rcases afterMarker_cases line column progress cs with
    read | ⟨place, rest, read⟩ | ⟨c, place, read⟩ | read
  all_goals
    rw [read]
    refine ⟨rfl, ?_⟩
  · rw [List.forall_mem_singleton]
    rfl
  · rw [List.forall_mem_cons, List.forall_mem_singleton]
    exact ⟨rfl, rfl⟩
  · rw [emit, List.forall_mem_cons]
    exact ⟨rfl, isCode_close progress '\n' line _⟩
  · exact isCode_close progress '\n' line _

theorem inOrder_afterMarker (line column : Nat) (progress : Progress) (cs : List Char) :
    InOrder (line, column) (front (line + 1) (afterMarker line column progress cs).2.pending)
      (afterMarker line column progress cs).1 := by
  have marker : NotBehind (line, column) (line, column + 1) := .inr ⟨rfl, Nat.le_succ column⟩
  have lineEnd : NotBehind (line, column) (line, column + 1 + cs.length) :=
    .inr ⟨rfl, by omega⟩
  rcases afterMarker_cases line column progress cs with
    read | ⟨place, rest, read⟩ | ⟨c, place, read⟩ | read
  all_goals rw [read]
  · exact .of_silent (List.forall_mem_singleton.mpr rfl) marker
  · refine .of_silent ?_ marker
    rw [List.forall_mem_cons, List.forall_mem_singleton]
    exact ⟨rfl, rfl⟩
  · rw [emit, InOrder.cons_silent rfl]
    exact .close progress '\n' lineEnd (notBehind_next line _)
  · exact .close progress '\n' lineEnd (notBehind_next line _)

/-- The tokens of the rest of a line come in order, from the place of the rest
on. -/
theorem inOrder_readRest (line column : Nat) (progress : Progress) (cs : List Char) :
    InOrder (line, column) (front (line + 1) (readRest line column progress cs).2.pending)
      (readRest line column progress cs).1 := by
  have next : ∀ column count, NotBehind (line, column) (line, column + count) :=
    fun column count => .inr ⟨rfl, Nat.le_add_right column count⟩
  fun_induction readRest line column progress cs with
  | case1 column progress => exact .close progress '\n' (.refl _) (notBehind_next line _)
  | case2 column progress c rest gap ih => exact ih.weaken (next column 1)
  | case3 column progress rest =>
    rw [emit, InOrder.cons_silent rfl]
    have lineEnd := (next column 1).trans (next (column + 1) rest.length)
    exact .close progress '\n' lineEnd (notBehind_next line _)
  | case4 column progress rest => exact inOrder_afterMarker line column progress rest
  | case5 column progress rest tokens ending read noGap noComment noMarker ih =>
    rw [read] at ih
    exact (InOrder.close progress ';' (.refl _) (.refl _)).append ih
  | case6 column progress c rest noGap noComment noMarker noEnd lexeme read ih =>
    have code :
        (Token.onLine lexeme.kind line column (c :: rest.take lexeme.tail)).isCode = true :=
      Lexeme.isCode_read? read
    rw [emit, InOrder.cons_inStatement (Token.inStatement_of_isCode code)]
    have short := List.length_take_le lexeme.tail rest
    refine ⟨.refl _, .inr ⟨rfl, ?_⟩, ih.weaken ?_⟩
    · simp only [Token.start, Token.stop, Token.onLine, List.length_cons]
      omega
    · refine .inr ⟨rfl, ?_⟩
      simp only [Token.behind, Token.onLine, List.length_cons]
      omega
  | case7 column progress c rest =>
    have here : NotBehind (⟨c, line, column, []⟩ : OpenLiteral).place (line, column) := .refl _
    exact inOrder_carry (c :: rest) here
  | case8 column progress c rest =>
    have lineEnd := (next column 1).trans (next (column + 1) rest.length)
    exact .close progress '\n' lineEnd (notBehind_next line _)

/-- What a literal that is carried over to a line is known to be. -/
structure Above (line : Nat) (literal : OpenLiteral) : Prop where
  line_lt : literal.line < line
  isQuote : Lexeme.isQuote literal.quote = true

theorem inOrder_resumeLiteral {line : Nat} (column : Nat) (progress : Progress)
    {literal : OpenLiteral} (above : Above line literal) (cs : List Char) :
    InOrder literal.place
      (front (line + 1) (resumeLiteral line column progress literal cs).2.pending)
      (resumeLiteral line column progress literal cs).1 := by
  unfold resumeLiteral
  cases Lexeme.closingQuote? literal.quote cs with
  | none => exact inOrder_carry cs (.inl above.line_lt)
  | some body =>
    have rest := inOrder_readRest line (column + body + 1) ⟨true, progress.constructors⟩
      (cs.drop (body + 1))
    dsimp only
    rw [emit, InOrder.cons_inStatement rfl]
    exact ⟨.refl _, .inl above.line_lt, rest⟩

theorem pending_unchanged (pending : Option Suspended) :
    (LineEnd.unchanged pending).pending = pending := by
  cases pending <;> rfl

theorem front_notBehind (line : Nat) (pending : Option Suspended) :
    NotBehind (front line pending) (front (line + 1) pending) := by
  cases pending with
  | none => exact notBehind_next line 1
  | some rest => exact .refl _

/-- The tokens of a line come in order, from the front of the line to the front
of the next. -/
theorem inOrder_read (line : Nat) {pending : Option Suspended}
    (suspended : ∀ rest ∈ pending, rest.line < line)
    (above : ∀ literal ∈ openLiteral? pending, Above line literal) (cs : List Char) :
    InOrder (front line pending) (front (line + 1) (read line pending cs).2.pending)
      (read line pending cs).1 := by
  obtain ⟨marks, reading, read_eq, silent, body⟩ := body_read line pending cs
  rw [read_eq]
  refine .append (.of_silent silent (.refl _)) ?_
  cases body with
  | unchanged =>
    rw [pending_unchanged]
    exact front_notBehind line pending
  | directive nothing =>
    subst nothing
    exact front_notBehind line none
  | rest column progress cs from_le last_eq nothing =>
    apply (inOrder_readRest line column progress cs).weaken
    cases pending with
    | none => exact .inr ⟨rfl, Nat.le_trans (Nat.succ_pos _) from_le⟩
    | some rest =>
      change rest.literal = none at nothing
      rw [front, Suspended.place, nothing]
      exact .inl (suspended rest rfl)
  | literal column progress literal cs from_le last_eq carried =>
    rw [front_of_openLiteral? carried]
    exact inOrder_resumeLiteral column progress (above literal carried) cs

/-! ## Where the tokens of a line stand -/

/-- A place is on a line of so many characters, or it is that of the literal
carried over to the line. -/
def Opened (line length : Nat) (pending : Option Suspended) (place : Nat × Nat) : Prop :=
  place.1 = line ∧ place.2 ≤ length ∨ ∃ literal ∈ openLiteral? pending, place = literal.place

/-- A literal that is carried over from the rest of a line opens there. -/
theorem literal_of_readRest (line column : Nat) (progress : Progress) (cs : List Char) :
    ∀ literal ∈ openLiteral? (readRest line column progress cs).2.pending,
      literal.line = line ∧ column ≤ literal.column ∧
        literal.column < column + cs.length ∧ Lexeme.isQuote literal.quote = true := by
  fun_induction readRest line column progress cs with
  | case1 => simp [openLiteral?, LineEnd.pending]
  | case2 column progress c rest gap ih =>
    intro literal carried
    obtain ⟨line_eq, from_le, lt_end, isQuote⟩ := ih literal carried
    rw [List.length_cons]
    exact ⟨line_eq, by omega, by omega, isQuote⟩
  | case3 => simp [openLiteral?, emit, LineEnd.pending]
  | case4 column progress rest =>
    rw [(noCode_afterMarker line column progress rest).1]
    simp
  | case5 column progress rest tokens ending read noGap noComment noMarker ih =>
    intro literal carried
    rw [read] at ih
    obtain ⟨line_eq, from_le, lt_end, isQuote⟩ := ih literal carried
    rw [List.length_cons]
    exact ⟨line_eq, by omega, by omega, isQuote⟩
  | case6 column progress c rest noGap noComment noMarker noEnd lexeme read ih =>
    intro literal carried
    obtain ⟨line_eq, from_le, lt_end, isQuote⟩ := ih literal carried
    have short := Lexeme.tail_lt_length read
    rw [List.length_drop] at lt_end
    rw [List.length_cons] at short ⊢
    exact ⟨line_eq, by omega, by omega, isQuote⟩
  | case7 column progress c rest noGap noComment noMarker noEnd read quote =>
    intro literal carried
    obtain ⟨place_eq, quote_eq⟩ := openLiteral?_carry carried
    have line_eq : literal.line = line := congrArg Prod.fst place_eq
    have column_eq : literal.column = column := congrArg Prod.snd place_eq
    rw [quote_eq, List.length_cons]
    exact ⟨line_eq, by omega, by omega, quote⟩
  | case8 => simp [openLiteral?, fail, LineEnd.pending]

/-- A code token of the rest of a line lies there. -/
theorem token_of_readRest (line column : Nat) (progress : Progress) (cs : List Char) :
    ∀ token ∈ (readRest line column progress cs).1, token.isCode = true →
      token.line = line ∧ token.endLine = line ∧ column ≤ token.column ∧
        token.column ≤ token.endColumn ∧ token.endColumn < column + cs.length := by
  have noneOf : ∀ {tokens : List Token}, (∀ token ∈ tokens, token.isCode = false) →
      ∀ {p : Token → Prop}, ∀ token ∈ tokens, token.isCode = true → p token := by
    intro tokens noCode p token member code
    rw [noCode token member] at code
    contradiction
  fun_induction readRest line column progress cs with
  | case1 column progress => exact noneOf (isCode_close progress '\n' line column)
  | case2 column progress c rest gap ih =>
    intro token member code
    obtain ⟨line_eq, endLine_eq, from_le, upright, lt_end⟩ := ih token member code
    rw [List.length_cons]
    exact ⟨line_eq, endLine_eq, by omega, upright, by omega⟩
  | case3 column progress rest =>
    apply noneOf
    rw [emit, List.forall_mem_cons]
    exact ⟨rfl, isCode_close progress '\n' line _⟩
  | case4 column progress rest => exact noneOf (noCode_afterMarker line column progress rest).2
  | case5 column progress rest tokens ending read noGap noComment noMarker ih =>
    intro token member code
    rw [read] at ih
    rcases List.mem_append.mp member with close | later
    · rw [isCode_close progress ';' line column token close] at code
      contradiction
    · obtain ⟨line_eq, endLine_eq, from_le, upright, lt_end⟩ := ih token later code
      rw [List.length_cons]
      exact ⟨line_eq, endLine_eq, by omega, upright, by omega⟩
  | case6 column progress c rest noGap noComment noMarker noEnd lexeme read ih =>
    intro token member code
    have short := Lexeme.tail_lt_length read
    rw [List.length_cons] at short ⊢
    rcases List.mem_cons.mp member with rfl | later
    · simp only [Token.onLine, List.length_cons, List.length_take, true_and]
      omega
    · obtain ⟨line_eq, endLine_eq, from_le, upright, lt_end⟩ := ih token later code
      rw [List.length_drop] at lt_end
      exact ⟨line_eq, endLine_eq, by omega, upright, by omega⟩
  | case7 column progress c rest => exact noneOf (isCode_carry line column progress _ (c :: rest))
  | case8 column progress c rest => exact noneOf (isCode_close progress '\n' line _)

/-- What is suspended on the rest of a line has its marker there, and breaks off
in front of the end of it. -/
theorem marker_of_readRest (line column : Nat) (progress : Progress) (cs : List Char) :
    ∀ rest ∈ (readRest line column progress cs).2.pending,
      rest.line = line ∧ NotBehind rest.place (rest.line, rest.column + 1) := by
  fun_induction readRest line column progress cs with
  | case1 => simp [LineEnd.pending]
  | case2 column progress c rest gap ih => exact ih
  | case3 => simp [emit, LineEnd.pending]
  | case4 column progress rest =>
    intro suspended found
    rcases afterMarker_cases line column progress rest with
      read | ⟨place, after, read⟩ | ⟨c, place, read⟩ | read
    all_goals rw [read] at found
    · cases found
      exact ⟨rfl, .refl _⟩
    · cases found
      exact ⟨rfl, .refl _⟩
    · contradiction
    · contradiction
  | case5 column progress rest tokens ending read noGap noComment noMarker ih =>
    rwa [read] at ih
  | case6 column progress c rest noGap noComment noMarker noEnd lexeme read ih => exact ih
  | case7 column progress c rest =>
    have here : NotBehind (⟨c, line, column, []⟩ : OpenLiteral).place (line, column) := .refl _
    exact marker_of_carry (c :: rest) here
  | case8 => simp [fail, LineEnd.pending]

/-- What a line leaves suspended has its marker there, or the line was silent and
changed nothing. -/
theorem marker_of_read {line : Nat} {pending : Option Suspended}
    (above : ∀ literal ∈ openLiteral? pending, Above line literal) (cs : List Char) :
    ∀ rest ∈ (read line pending cs).2.pending,
      rest ∈ pending ∨ rest.line = line ∧ NotBehind rest.place (rest.line, rest.column + 1) := by
  obtain ⟨marks, reading, read_eq, silent, body⟩ := body_read line pending cs
  rw [read_eq]
  intro rest found
  cases body with
  | unchanged =>
    rw [pending_unchanged] at found
    exact .inl found
  | directive nothing => contradiction
  | rest column progress cs => exact .inr (marker_of_readRest line column progress cs rest found)
  | literal column progress literal cs from_le last_eq carried =>
    simp only [resumeLiteral] at found
    cases closed : Lexeme.closingQuote? literal.quote cs with
    | none =>
      rw [closed] at found
      exact .inr (marker_of_carry cs (.inl (above literal carried).line_lt) rest found)
    | some body =>
      rw [closed] at found
      exact .inr (marker_of_readRest _ _ _ _ rest found)

/-- A literal that is carried over from a line opens on it or is the one that is
carried over to it. -/
theorem literal_of_read {line : Nat} {pending : Option Suspended}
    (above : ∀ literal ∈ openLiteral? pending, Above line literal) (cs : List Char) :
    ∀ literal ∈ openLiteral? (read line pending cs).2.pending,
      Above (line + 1) literal ∧ Opened line cs.length pending literal.place := by
  obtain ⟨marks, reading, read_eq, silent, body⟩ := body_read line pending cs
  rw [read_eq]
  generalize cs.length = last at body
  intro literal carried
  cases body with
  | unchanged =>
    rw [pending_unchanged] at carried
    obtain ⟨line_lt, isQuote⟩ := above literal carried
    exact ⟨⟨Nat.lt_succ_of_lt line_lt, isQuote⟩, .inr ⟨literal, carried, rfl⟩⟩
  | directive nothing => contradiction
  | rest column progress cs from_le last_eq nothing =>
    obtain ⟨line_eq, -, lt_end, isQuote⟩ :=
      literal_of_readRest line column progress cs literal carried
    rw [last_eq] at lt_end
    exact ⟨⟨Nat.lt_succ_of_le (Nat.le_of_eq line_eq), isQuote⟩,
      .inl ⟨line_eq, Nat.le_of_lt_succ lt_end⟩⟩
  | literal column progress literal' cs from_le last_eq carried' =>
    simp only [resumeLiteral] at carried
    cases closed : Lexeme.closingQuote? literal'.quote cs with
    | none =>
      rw [closed] at carried
      obtain ⟨place_eq, quote_eq⟩ := openLiteral?_carry carried
      obtain ⟨line_lt, isQuote⟩ := above literal' carried'
      rw [← quote_eq] at isQuote
      have line_eq : literal.line = literal'.line := congrArg Prod.fst place_eq
      exact ⟨⟨by omega, isQuote⟩, .inr ⟨literal', carried', place_eq⟩⟩
    | some body =>
      rw [closed] at carried
      obtain ⟨line_eq, -, lt_end, isQuote⟩ := literal_of_readRest _ _ _ _ literal carried
      have inside := Lexeme.closingQuote?_lt closed
      rw [List.length_drop] at lt_end
      refine ⟨⟨Nat.lt_succ_of_le (Nat.le_of_eq line_eq), isQuote⟩, .inl ⟨line_eq, ?_⟩⟩
      simp only [OpenLiteral.place]
      omega

/-- A code token of a line ends there, and it starts there or is the literal
carried over to the line. -/
theorem token_of_read (line : Nat) (pending : Option Suspended) (cs : List Char) :
    ∀ token ∈ (read line pending cs).1, token.isCode = true →
      token.endLine = line ∧ firstColumn cs ≤ token.endColumn ∧
        Opened line cs.length pending token.start := by
  obtain ⟨marks, reading, read_eq, silent, body⟩ := body_read line pending cs
  rw [read_eq]
  generalize cs.length = last at body
  intro token member code
  rcases List.mem_append.mp member with mark | member
  · rw [Token.isCode_of_silent (silent token mark)] at code
    contradiction
  cases body with
  | unchanged => contradiction
  | directive nothing => contradiction
  | rest column progress cs from_le last_eq nothing =>
    obtain ⟨line_eq, endLine_eq, later, upright, lt_end⟩ :=
      token_of_readRest line column progress cs token member code
    refine ⟨endLine_eq, from_le.trans (later.trans upright), .inl ⟨line_eq, ?_⟩⟩
    simp only [Token.start]
    omega
  | literal column progress literal cs from_le last_eq carried =>
    simp only [resumeLiteral] at member
    cases closed : Lexeme.closingQuote? literal.quote cs with
    | none =>
      rw [closed] at member
      rw [isCode_carry line column progress literal cs token member] at code
      contradiction
    | some body =>
      have inside := Lexeme.closingQuote?_lt closed
      rw [closed] at member
      rcases List.mem_cons.mp member with rfl | later
      · exact ⟨rfl, from_le.trans (Nat.le_add_right _ _), .inr ⟨literal, carried, rfl⟩⟩
      · obtain ⟨line_eq, endLine_eq, later, upright, lt_end⟩ :=
          token_of_readRest _ _ _ _ token later code
        rw [List.length_drop] at lt_end
        refine ⟨endLine_eq, by omega, .inl ⟨line_eq, ?_⟩⟩
        simp only [Token.start]
        omega

end Line

/-! ## The order of a source -/

namespace Tokenized

variable {line : Nat} {pending : Option Suspended}

/-- What is known of a literal carried over to some lines is known of one carried
over from them. -/
theorem above_linesPart (above : ∀ literal ∈ openLiteral? pending, Line.Above line literal)
    (lines : List (List Char)) :
    ∀ literal ∈ openLiteral? (pendingBehind line pending lines),
      Line.Above (line + lines.length) literal := by
  induction lines generalizing line pending with
  | nil => exact above
  | cons cs rest ih =>
    have later := ih fun literal carried => (Line.literal_of_read above cs literal carried).1
    rw [pendingBehind, List.length_cons, ← Nat.succ_eq_add_one, Nat.add_succ, ← Nat.succ_add]
    exact later

/-- The tokens of some lines come in order, and what is known of a line that is
suspended in front of them is known of one that is suspended behind them. -/
theorem inOrder_linesPart
    (suspended : ∀ rest ∈ pending,
      rest.line < line ∧ NotBehind rest.place (rest.line, rest.column + 1))
    (above : ∀ literal ∈ openLiteral? pending, Line.Above line literal)
    (lines : List (List Char)) :
    InOrder (front line pending)
        (front (line + lines.length) (pendingBehind line pending lines))
        (linesPart line pending lines).tokens ∧
      ∀ rest ∈ pendingBehind line pending lines,
        rest.line < line + lines.length ∧
          NotBehind rest.place (rest.line, rest.column + 1) := by
  induction lines generalizing line pending with
  | nil => exact ⟨.refl _, suspended⟩
  | cons cs rest ih =>
    have here := Line.inOrder_read line (fun rest found => (suspended rest found).1) above cs
    have stillSuspended : ∀ rest ∈ (Line.read line pending cs).2.pending,
        rest.line < line + 1 ∧ NotBehind rest.place (rest.line, rest.column + 1) := by
      intro rest found
      rcases Line.marker_of_read above cs rest found with earlier | ⟨line_eq, place_le⟩
      · exact ⟨Nat.lt_succ_of_lt (suspended rest earlier).1, (suspended rest earlier).2⟩
      · exact ⟨Nat.lt_succ_of_le (Nat.le_of_eq line_eq), place_le⟩
    have later := ih stillSuspended
      fun literal carried => (Line.literal_of_read above cs literal carried).1
    rw [linesPart, pendingBehind, Part.tokens_append, List.length_cons, ← Nat.succ_eq_add_one,
      Nat.add_succ, ← Nat.succ_add]
    exact ⟨here.append later.1, later.2⟩

/-- A code token of some lines ends on one of them, and it starts on one of them
or is the literal carried over to the first. -/
theorem token_of_linesPart (above : ∀ literal ∈ openLiteral? pending, Line.Above line literal)
    (lines : List (List Char)) :
    ∀ token ∈ (linesPart line pending lines).tokens, token.isCode = true →
      line ≤ token.endLine ∧ token.endLine < line + lines.length ∧
        (line ≤ token.line ∨ ∃ literal ∈ openLiteral? pending, token.start = literal.place) := by
  induction lines generalizing line pending with
  | nil => simp [linesPart]
  | cons cs rest ih =>
    have carried := Line.literal_of_read above cs
    intro token member code
    rw [linesPart, Part.tokens_append, List.mem_append] at member
    rw [List.length_cons]
    rcases member with here | later
    · obtain ⟨endLine_eq, -, opened⟩ := Line.token_of_read line pending cs token here code
      refine ⟨by omega, by omega, ?_⟩
      rcases opened with ⟨line_eq, -⟩ | fromLiteral
      · exact .inl (Nat.le_of_eq line_eq.symm)
      · exact .inr fromLiteral
    · obtain ⟨from_le, lt_end, opened⟩ :=
        ih (fun literal found => (carried literal found).1) token later code
      refine ⟨by omega, by omega, ?_⟩
      rcases opened with below | ⟨literal, found, start_eq⟩
      · exact .inl (Nat.le_of_succ_le below)
      · rcases (carried literal found).2 with ⟨line_eq, -⟩ | ⟨literal', found', place_eq⟩
        · rw [← congrArg Prod.fst start_eq] at line_eq
          exact .inl (Nat.le_of_eq line_eq.symm)
        · exact .inr ⟨literal', found', start_eq.trans place_eq⟩

theorem nothingAbove (line : Nat) :
    ∀ literal ∈ openLiteral? none, Line.Above line literal :=
  fun _ carried => nomatch carried

/-- The end of a source has no code. -/
theorem isCode_danglingPart (pending : Option Suspended) :
    ∀ token ∈ (danglingPart pending).tokens, token.isCode = false := by
  cases pending with
  | none => exact List.forall_mem_nil _
  | some rest => exact isCode_close rest.progress '\n' rest.line _

/-- The tokens up to the end of a source come in order, from a line on in front of
which nothing is pending: the end of a statement that has nothing to go on with
stands right behind the marker. -/
theorem inOrder_readLines_none (line : Nat) (lines : List (List Char)) :
    ∃ stop, InOrder (line, 1) stop (readLines line none lines).tokens := by
  have nothing : ∀ rest ∈ (none : Option Suspended),
      rest.line < line ∧ NotBehind rest.place (rest.line, rest.column + 1) :=
    fun _ found => nomatch found
  obtain ⟨ordered, suspended⟩ := inOrder_linesPart nothing (nothingAbove line) lines
  rw [readLines_eq, Part.tokens_append]
  cases pending_eq : pendingBehind line none lines with
  | none => exact ⟨_, ordered.append (.of_silent (List.forall_mem_nil _) (.refl _))⟩
  | some rest =>
    rw [pending_eq] at ordered
    have place_le := (suspended rest pending_eq).2
    exact ⟨_, ordered.append (.close rest.progress '\n' place_le (.refl _))⟩

theorem inOrder_readLines (lines : List (List Char)) :
    ∃ stop, InOrder (1, 1) stop (readLines 1 none lines).tokens :=
  inOrder_readLines_none 1 lines

/-- The code tokens of a source stand one behind the other, each with its start
in front of its end. -/
theorem pairwise_precedes (source : List String) :
    ((ofLines source).tokens.filter Token.isCode).Pairwise Token.Precedes ∧
      ∀ token ∈ (ofLines source).tokens, token.isCode = true →
        NotBehind token.start token.stop := by
  obtain ⟨stop, ordered⟩ := inOrder_readLines
    (source.map fun line => Text.dropEndWhile Text.isLineEnd line.toList)
  exact ⟨ordered.pairwise_isCode,
    fun token member code => (ordered.mem member (Token.inStatement_of_isCode code)).2.1⟩

end Tokenized

end FortranStyle
