import FortranStyle.Proofs.Reading.Cut
import FortranStyle.Proofs.Reading.Relocation

/-!
# Continuing a line

A line may be cut in a gap between two of its tokens and continued on the next
line, with a marker at the end of the first line and perhaps one at the start of
the second.  The statements then say the same, and so do the messages, but for
the numbers of lines in them.

There is one gap where this fails: the one between the slash and the second
bracket of `(/)`.  The reader takes a bracket with a slash behind it for the
opening of an array constructor unless it sees what follows the slash, and on a
line that ends there it does not.
-/

namespace FortranStyle

/-! ## Places in a line that is cut -/

namespace Relocation

/-- What stands behind so many characters of a line goes to the next line, behind
`lead` characters, and the lines below go one line down. -/
def cutLine (line length lead : Nat) : Relocation where
  place := fun line' column =>
    if line' < line then (line', column)
    else if line' = line then
      if column ≤ length then (line, column) else (line + 1, column - length + lead)
    else (line' + 1, column)
  quoted := fun line' => if line' < line then line' else line' + 1

variable {line length lead : Nat}

theorem carriesLines_cutLine_above {count : Nat} (above : count < line) :
    (cutLine line length lead).CarriesLines 1 1 count := by
  constructor
  · intro index index_lt offset
    simp only [cutLine]
    rw [if_pos (by omega)]
  · intro index index_lt
    simp only [cutLine]
    rw [if_pos (by omega)]

theorem carries_cutLine :
    (cutLine line length lead).Carries line (length + 1) (line + 1) (lead + 1) := by
  intro offset
  simp only [cutLine]
  rw [if_neg (Nat.lt_irrefl line), if_pos trivial, if_neg (by omega)]
  exact congrArg (line + 1, ·) (by omega)

theorem quoted_cutLine : (cutLine line length lead).quoted line = line + 1 :=
  if_neg (Nat.lt_irrefl line)

theorem carriesLines_cutLine_below (count : Nat) :
    (cutLine line length lead).CarriesLines (line + 1) (line + 2) count := by
  constructor
  · intro index index_lt offset
    simp only [cutLine]
    rw [if_neg (by omega), if_neg (by omega)]
    exact congrArg (·, 1 + offset) (by omega)
  · intro index index_lt
    simp only [cutLine]
    rw [if_neg (by omega)]
    omega

end Relocation

namespace Tokenized

/-! ## The two lines of a cut line -/

variable {line : Nat} {pending : Option Suspended} {front back lead : List Char}

theorem readRest_marker (line column : Nat) (progress : Progress) :
    Line.readRest line column progress ['&'] =
      ([Token.onLine .continuation line column ['&']],
        .suspended ⟨line, column, progress, none⟩) := by
  have noGap : ¬Text.isGap '&' = true := by decide
  have noComment : '&' ≠ '!' := by decide
  rw [Line.readRest, if_neg noGap, if_neg noComment, if_pos rfl]
  rfl

/-- The lines from a line on that is cut read as before, with markers between
the tokens in front of the cut and the tokens behind it, which are at their new
places, as the errors are. -/
theorem readLines_cutLine {bracket : Prop} (noBracket : ¬bracket) (isLead : Line.IsLead lead)
    (cuts : Line.CutsAt line front.length bracket
      (fun rest => Line.read line pending (front ++ rest)) back) (below : List (List Char)) :
    let relocation := Relocation.cutLine line front.length lead.length
    let whole := readLines line pending ((front ++ back) :: below)
    let cut := readLines line pending ((front ++ ['&']) :: (lead ++ back) :: below)
    (∃ first marks second, whole.tokens = first ++ second ∧
        cut.tokens = first ++ marks ++ second.map relocation.token ∧
        ∀ token ∈ marks, token.kind = .continuation) ∧
      cut.errors = whole.errors.map relocation.error := by
  intro relocation whole cut
  obtain ⟨first, ends, ends', progress, progress', agree, read_eq, stops, begins⟩ := cuts
  obtain ⟨rfl, rfl, rfl⟩ := agree.same noBracket
  obtain ⟨marks, areMarks, continued⟩ := Line.read_continued (front.length + 1) isLead begins
  have marked := stops '&' [] (by decide) (by decide) (by decide) (by decide)
  dsimp only at read_eq marked
  rw [List.append_nil] at read_eq marked
  rw [readRest_marker] at marked
  have carries : relocation.Carries line (front.length + 1) (line + 1) (lead.length + 1) :=
    Relocation.carries_cutLine
  have quoted : relocation.quoted line = line + 1 := Relocation.quoted_cutLine
  have fits := carries.fits_readRest quoted progress back
  rw [← carries.reading_readRest quoted] at continued
  generalize Line.readRest line (front.length + 1) progress back = rest at *
  have later : relocation.part (readLines (line + 1) rest.2.pending below) =
      readLines (line + 2) (rest.2.pending.map relocation.suspended) below :=
    (Relocation.carriesLines_cutLine_below below.length).part_readLines fits
  have whole_eq : whole = ⟨first ++ rest.1, (linePart line pending (front ++ back)).continuedLines,
      rest.2.errors⟩ ++ readLines (line + 1) rest.2.pending below := by
    simp only [whole, readLines, linePart, read_eq, Line.prepend]
  have cut_eq :
      ∃ lines, cut = ⟨first ++ [Token.onLine .continuation line (front.length + 1) ['&']] ++
      (marks ++ rest.1.map relocation.token), lines, rest.2.errors.map relocation.error⟩ ++
        relocation.part (readLines (line + 1) rest.2.pending below) := by
    rw [later, ← Relocation.pending_ending, ← Relocation.errors_ending]
    simp only [cut, readLines, linePart, marked, continued, Line.prepend, LineEnd.pending,
      Relocation.reading, ← Part.append_assoc]
    exact ⟨_, rfl⟩
  obtain ⟨lines, cut_eq⟩ := cut_eq
  refine ⟨⟨first, Token.onLine .continuation line (front.length + 1) ['&'] :: marks,
    rest.1 ++ (readLines (line + 1) rest.2.pending below).tokens, ?_, ?_, ?_⟩, ?_⟩
  · rw [whole_eq, Part.tokens_append, List.append_assoc]
  · rw [cut_eq, Part.tokens_append]
    simp [Relocation.part]
  · exact List.forall_mem_cons.mpr ⟨rfl, areMarks⟩
  · rw [cut_eq, whole_eq, Part.errors_append, Part.errors_append, List.map_append]
    rfl

/-- In the middle of `(/)`, two tokens become one. -/
theorem readLines_cutLine_bracket {bracket : Prop} (holds : bracket)
    (cuts : Line.CutsAt line front.length bracket
      (fun rest => Line.read line pending (front ++ rest)) back) (next : List Char)
    (below : List (List Char)) :
    ∃ first ends ends',
      first ++ ends <+: (readLines line pending ((front ++ back) :: below)).tokens ∧
        first ++ ends' <+: (readLines line pending ((front ++ ['&']) :: next :: below)).tokens ∧
        ends.map Token.face = [(.operator, "("), (.operator, "/")] ∧
        ends'.map Token.face = [(.operator, "(/")] := by
  obtain ⟨first, ends, ends', progress, progress', agree, read_eq, stops, begins⟩ := cuts
  have marked := stops '&' [] (by decide) (by decide) (by decide) (by decide)
  dsimp only at read_eq marked
  obtain ⟨ends_eq, ends_eq'⟩ := agree.fused holds
  refine ⟨first, ends, ends', ?_, ?_, ends_eq, ends_eq'⟩
  · rw [readLines, Part.tokens_append, linePart, read_eq]
    exact (List.prefix_append _ _).trans (List.prefix_append _ _)
  · rw [readLines, Part.tokens_append, linePart, marked]
    exact (List.prefix_append _ _).trans (List.prefix_append _ _)

/-! ## A gap in a line -/

/-- There are two consecutive code tokens of which one ends on a line, in front
of so many characters or with the last of them, and the other starts on that
line behind them. -/
def HasGap (tokens : List Token) (line length : Nat) : Prop :=
  ∃ before first second after,
    tokens.filter Token.isCode = before ++ first :: second :: after ∧
      first.endLine = line ∧ first.endColumn ≤ length ∧
      second.line = line ∧ length < second.column

/-- A code token of a source that ends on a line is read there.  One that starts
on a line is read there, or it is a literal that is carried over from there. -/
theorem token_of_line {above below : List (List Char)} {cs : List Char} {token : Token}
    (member : token ∈ (readLines 1 none (above ++ cs :: below)).tokens)
    (code : token.isCode = true) :
    let reading := Line.read (1 + above.length) (pendingBehind 1 none above) cs
    (token.endLine = 1 + above.length → token ∈ reading.1) ∧
      (token.line = 1 + above.length → 1 + above.length ≤ token.endLine →
        token ∈ reading.1 ∨
          ∃ literal ∈ openLiteral? reading.2.pending, token.start = literal.place) := by
  intro reading
  have known := above_linesPart (nothingAbove 1) above
  have carried := fun literal found => (Line.literal_of_read known cs literal found).1
  rw [readLines_append, readLines, readLines_eq, Part.tokens_append, Part.tokens_append,
    Part.tokens_append, List.mem_append, List.mem_append, List.mem_append] at member
  rcases member with earlier | here | later | dangling
  · obtain ⟨-, endLine_lt, -⟩ := token_of_linesPart (nothingAbove 1) above token earlier code
    exact ⟨fun _ => by omega, fun _ _ => by omega⟩
  · exact ⟨fun _ => here, fun _ _ => .inl here⟩
  · obtain ⟨endLine_ge, -, opened⟩ := token_of_linesPart carried below token later code
    refine ⟨fun _ => by omega, fun line_eq _ => .inr ?_⟩
    rcases opened with line_ge | fromLiteral
    · omega
    · exact fromLiteral
  · rw [isCode_danglingPart _ token dangling] at code
    contradiction

/-- What starts on a line, a code token or a literal, starts within the line. -/
theorem column_le_of_opened {above : List (List Char)} {cs : List Char} {place : Nat × Nat}
    (opened : Line.Opened (1 + above.length) cs.length (pendingBehind 1 none above) place)
    (line_eq : place.1 = 1 + above.length) : place.2 ≤ cs.length := by
  rcases opened with ⟨-, le⟩ | ⟨literal, found, rfl⟩
  · exact le
  · have line_lt := (above_linesPart (nothingAbove 1) above literal found).line_lt
    exact absurd line_eq (Nat.ne_of_lt line_lt)

/-- A line of a source with a gap in it goes on behind the gap, and code ends in
front of it. -/
theorem goesOn_of_hasGap {above below : List (List Char)} {cs : List Char} {length : Nat}
    (gap : HasGap (readLines 1 none (above ++ cs :: below)).tokens (1 + above.length) length) :
    length < cs.length ∧
      (∃ token ∈ (Line.read (1 + above.length) (pendingBehind 1 none above) cs).1,
        token.isCode = true ∧ token.endColumn ≤ length) ∧
      Line.GoesOn (1 + above.length) length
        (Line.read (1 + above.length) (pendingBehind 1 none above) cs) := by
  obtain ⟨before, first, second, after, code_eq, first_line, first_le, second_line, lt_second⟩ :=
    gap
  obtain ⟨stop, ordered⟩ := inOrder_readLines (above ++ cs :: below)
  have upright : ∀ token ∈ before ++ first :: second :: after,
      NotBehind token.start token.stop := by
    intro token listed
    rw [← code_eq, List.mem_filter] at listed
    exact (ordered.mem listed.1 (Token.inStatement_of_isCode listed.2)).2.1
  have precedes := ordered.pairwise_isCode
  rw [code_eq, List.pairwise_append, List.pairwise_cons, List.pairwise_cons] at precedes
  obtain ⟨-, ⟨fromFirst, fromSecond, -⟩, fromBefore⟩ := precedes
  have member : ∀ token ∈ before ++ first :: second :: after,
      token ∈ (readLines 1 none (above ++ cs :: below)).tokens ∧ token.isCode = true := by
    intro token listed
    rwa [← code_eq, List.mem_filter] at listed
  have firstUpright := upright first (by simp)
  have secondUpright := upright second (by simp)
  obtain ⟨firstMem, firstCode⟩ := member first (by simp)
  obtain ⟨secondMem, secondCode⟩ := member second (by simp)
  have firstHere := (token_of_line firstMem firstCode).1 first_line
  have second_ge : 1 + above.length ≤ second.endLine := by
    unfold NotBehind Token.start Token.stop at secondUpright
    omega
  have known := above_linesPart (nothingAbove 1) above
  have secondHere := (token_of_line secondMem secondCode).2 second_line second_ge
  have behind : second.column ≤ cs.length ∧
      ((∃ token ∈ (Line.read (1 + above.length) (pendingBehind 1 none above) cs).1,
        token.isCode = true ∧ token.line = 1 + above.length ∧ length < token.column) ∨
      ∃ literal ∈ openLiteral?
          (Line.read (1 + above.length) (pendingBehind 1 none above) cs).2.pending,
        literal.line = 1 + above.length ∧ length < literal.column) := by
    rcases secondHere with here | ⟨literal, found, start_eq⟩
    · have opened := (Line.token_of_read _ _ _ second here secondCode).2.2
      exact ⟨column_le_of_opened opened second_line,
        .inl ⟨second, here, secondCode, second_line, lt_second⟩⟩
    · have opened := (Line.literal_of_read known cs literal found).2
      rw [← start_eq] at opened
      have line_eq : second.line = literal.line := congrArg Prod.fst start_eq
      have column_eq : second.column = literal.column := congrArg Prod.snd start_eq
      exact ⟨column_le_of_opened opened second_line,
        .inr ⟨literal, found, line_eq.symm.trans second_line, column_eq ▸ lt_second⟩⟩
  refine ⟨Nat.lt_of_lt_of_le lt_second behind.1, ⟨first, firstHere, firstCode, first_le⟩,
    behind.2, ?_⟩
  intro token here code
  have endLine_eq := (Line.token_of_read _ _ _ token here code).1
  have listed : token ∈ before ++ first :: second :: after := by
    rw [← code_eq, List.mem_filter, readLines_append, readLines]
    exact ⟨List.mem_append_right _ (List.mem_append_left _ here), code⟩
  have tokenUpright := upright token listed
  rcases List.mem_append.mp listed with early | late
  · have order : token.Precedes first := fromBefore token early first List.mem_cons_self
    have lt_first := order.endColumn_lt firstUpright (endLine_eq.trans first_line.symm)
    exact .inl (Nat.le_trans (Nat.le_of_lt lt_first) first_le)
  rcases List.mem_cons.mp late with rfl | late
  · exact .inl first_le
  rcases List.mem_cons.mp late with rfl | late
  · exact .inr ⟨second_line, lt_second⟩
  · have order : second.Precedes token := fromSecond token late
    obtain ⟨line_eq, lt_token⟩ := order.column_lt secondUpright tokenUpright
      (endLine_eq.trans second_line.symm)
    exact .inr ⟨line_eq.trans second_line, Nat.lt_trans lt_second lt_token⟩

/-! ## Sources with a line cut -/

/-- A source says the same as another: the statements have the same tokens, but
for their places, and the errors have the same messages, but for the lines that
they quote. -/
structure SaysTheSame (relocation : Relocation) (source source' : Tokenized) : Prop where
  statements : source'.statements.map (List.map Token.face) =
    source.statements.map (List.map Token.face)
  causes : source'.errors.map (·.cause) =
    source.errors.map fun error => relocation.cause error.cause

theorem lineText_marker (front : List Char) :
    lineText (String.ofList (front ++ ['&'])) = front ++ ['&'] := by
  rw [lineText_append, if_neg (by decide)]
  rfl

/-- The lines above a cut line read the same. -/
theorem errors_above_cutLine (above : List (List Char)) (length lead : Nat) :
    (linesPart 1 none above).errors.map
        (Relocation.cutLine (1 + above.length) length lead).error =
      (linesPart 1 none above).errors := by
  have moved : (Relocation.cutLine (1 + above.length) length lead).CarriesLines 1 1 above.length :=
    Relocation.carriesLines_cutLine_above (by omega)
  exact congrArg Part.errors (moved.part_linesPart (by simp))

/-- A line cut in a gap says the same on two lines, but for the gap in `(/)`. -/
theorem saysTheSame_of_cuts {above below : List (List Char)} {front back lead : List Char}
    {bracket : Prop} (noBracket : ¬bracket) (isLead : Line.IsLead lead)
    (cuts : Line.CutsAt (1 + above.length) front.length bracket
      (fun rest => Line.read (1 + above.length) (pendingBehind 1 none above) (front ++ rest))
        back) :
    let whole := readLines 1 none (above ++ (front ++ back) :: below)
    let cut := readLines 1 none (above ++ (front ++ ['&']) :: (lead ++ back) :: below)
    (statementsOf cut.tokens).map (List.map Token.face) =
        (statementsOf whole.tokens).map (List.map Token.face) ∧
      cut.errors = whole.errors.map
        (Relocation.cutLine (1 + above.length) front.length lead.length).error := by
  intro whole cut
  obtain ⟨⟨first, marks, second, whole_eq, cut_eq, areMarks⟩, errors_eq⟩ :=
    readLines_cutLine noBracket isLead cuts below
  constructor
  · apply map_face_statementsOf
    simp only [whole, cut]
    rw [readLines_append, readLines_append, Part.tokens_append, Part.tokens_append, whole_eq,
      cut_eq]
    have noMarks : marks.filter (!·.kind.isSilent) = [] := by
      rw [List.filter_eq_nil_iff]
      intro token member
      rw [areMarks token member]
      decide
    simp only [List.filter_append, List.map_append, noMarks, List.filter_map, List.map_map,
      List.append_nil]
    rfl
  · simp only [whole, cut]
    rw [readLines_append, readLines_append, Part.errors_append, Part.errors_append, errors_eq,
      List.map_append, errors_above_cutLine]

/-- A line cut in the middle of `(/)` has other tokens on two lines. -/
theorem faces_ne_of_cuts {above below : List (List Char)} {front back : List Char}
    {bracket : Prop} (holds : bracket)
    (cuts : Line.CutsAt (1 + above.length) front.length bracket
      (fun rest => Line.read (1 + above.length) (pendingBehind 1 none above) (front ++ rest)) back)
    (next : List Char) :
    (statementsOf (readLines 1 none (above ++ (front ++ ['&']) :: next :: below)).tokens).map
        (List.map Token.face) ≠
      (statementsOf (readLines 1 none (above ++ (front ++ back) :: below)).tokens).map
        (List.map Token.face) := by
  intro same
  obtain ⟨first, ends, ends', ⟨rest, whole_eq⟩, ⟨rest', cut_eq⟩, ends_eq, ends_eq'⟩ :=
    readLines_cutLine_bracket holds cuts next below
  have codeFaces : ∀ tokens : List Token,
      ((statementsOf tokens).map (List.map Token.face)).flatten =
        (tokens.map Token.face).filter (·.1.isCode) := by
    intro tokens
    rw [← List.map_flatten, flatten_statementsOf, List.filter_map]
    rfl
  have flat := congrArg List.flatten same
  rw [codeFaces, codeFaces, readLines_append, readLines_append, Part.tokens_append,
    Part.tokens_append, ← whole_eq, ← cut_eq] at flat
  simp only [List.map_append, List.filter_append, ends_eq, ends_eq', List.append_assoc,
    List.append_cancel_left_eq] at flat
  have spelled : ("(/" : String) = "(" :=
    congrArg Prod.snd (List.cons_eq_cons.mp flat).1
  exact absurd spelled (by decide)

/-- A line cut in a gap between two of its tokens, and continued on the next line,
says the same as before, exactly when the gap is not that in front of the second
bracket of `(/)`. -/
theorem saysTheSame_cutLine_iff (above below : List String) {front back lead : List Char}
    (isLead : Line.IsLead lead)
    (gap : HasGap (ofLines (above ++ String.ofList (front ++ back) :: below)).tokens
      (1 + above.length) front.length) :
    SaysTheSame (Relocation.cutLine (1 + above.length) front.length lead.length)
        (ofLines (above ++ String.ofList (front ++ back) :: below))
        (ofLines (above ++ String.ofList (front ++ ['&']) ::
          String.ofList (lead ++ back) :: below)) ↔
      ¬Line.Bracket front back := by
  have tokens_eq : ∀ line rest, (ofLines (above ++ line :: rest)).tokens =
      (readLines 1 none (above.map lineText ++ lineText line :: rest.map lineText)).tokens := by
    intro line rest
    rw [(ofLines_eq _).1, List.map_append, List.map_cons]
  have errors_eq : ∀ line rest, (ofLines (above ++ line :: rest)).errors =
      (readLines 1 none (above.map lineText ++ lineText line :: rest.map lineText)).errors := by
    intro line rest
    rw [(ofLines_eq _).2, List.map_append, List.map_cons]
  have line_eq : 1 + above.length = 1 + (above.map lineText).length := by
    rw [List.length_map]
  rw [tokens_eq, line_eq] at gap
  obtain ⟨lt_length, before, goesOn⟩ := goesOn_of_hasGap gap
  have above_eq := above_linesPart (nothingAbove 1) (above.map lineText)
  -- The line end is behind the gap.
  have filled : Text.dropEndWhile Text.isLineEnd back ≠ [] := by
    intro empty
    rw [lineText_append, if_pos empty] at lt_length
    exact absurd (Text.dropEndWhile_prefix Text.isLineEnd front).length_le
      (Nat.not_le.mpr lt_length)
  rw [lineText_append, if_neg filled] at before goesOn
  have cuts := Line.read_cut above_eq before goesOn
  have bracket_iff : Line.Bracket front (Text.dropEndWhile Text.isLineEnd back) ↔
      Line.Bracket front back := by
    obtain ⟨lineEnd, back_eq⟩ := Text.dropEndWhile_prefix Text.isLineEnd back
    obtain ⟨c, rest, spelled⟩ := List.exists_cons_of_ne_nil filled
    rw [spelled] at back_eq ⊢
    rw [← back_eq]
    rfl
  have whole_line : lineText (String.ofList (front ++ back)) =
      front ++ Text.dropEndWhile Text.isLineEnd back := by
    rw [lineText_append, if_neg filled]
  have second_line : lineText (String.ofList (lead ++ back)) =
      lead ++ Text.dropEndWhile Text.isLineEnd back := by
    rw [lineText_append, if_neg filled]
  constructor
  · rintro ⟨same, -⟩ bracket
    unfold statements at same
    rw [tokens_eq, tokens_eq, List.map_cons, lineText_marker, second_line, whole_line] at same
    exact faces_ne_of_cuts (bracket_iff.mpr bracket) cuts _ same
  · intro noBracket
    obtain ⟨same, moved⟩ := saysTheSame_of_cuts (mt bracket_iff.mp noBracket) isLead cuts
    constructor
    · unfold statements
      rw [tokens_eq, tokens_eq, List.map_cons, lineText_marker, second_line, whole_line]
      exact same
    · rw [errors_eq, errors_eq, List.map_cons, lineText_marker, second_line, whole_line, moved,
        line_eq, List.map_map]
      rfl

/-- A line that goes on inside an array constructor is cut in front of the end of
the constructor, and a literal opened behind the cut fails on the line below. -/
theorem saysTheSame_cutLine_constructor :
    HasGap (ofLines ["x = (/ 1, &", "  2 /); y = 'ab&", "cd"]).tokens 2 3 ∧
      SaysTheSame (Relocation.cutLine 2 3 2) (ofLines ["x = (/ 1, &", "  2 /); y = 'ab&", "cd"])
        (ofLines ["x = (/ 1, &", "  2&", " & /); y = 'ab&", "cd"]) ∧
      (ofLines ["x = (/ 1, &", "  2&", " & /); y = 'ab&", "cd"]).errors.map (·.cause) =
        [.unterminated '\'' 3] := by
  let source := ofLines ["x = (/ 1, &", "  2 /); y = 'ab&", "cd"]
  let front := [' ', ' ', '2']
  let back := " /); y = 'ab&".toList
  have gap : HasGap source.tokens 2 3 := by
    refine ⟨(source.tokens.filter Token.isCode).take 5, ⟨.number, "2", 2, 3, 2, 3⟩,
      ⟨.operator, "/)", 2, 5, 2, 6⟩, (source.tokens.filter Token.isCode).drop 7, ?_, rfl,
      by decide, rfl, by decide⟩
    decide +kernel
  have isLead : Line.IsLead [' ', '&'] := ⟨[' '], by simp [Text.isGap], .inr rfl⟩
  have noBracket : ¬Line.Bracket front back := by
    rintro ⟨suffix, -⟩
    revert suffix
    decide
  have whole_eq : String.ofList (front ++ back) = "  2 /); y = 'ab&" := by decide +kernel
  have first_eq : String.ofList (front ++ ['&']) = "  2&" := by decide +kernel
  have second_eq : String.ofList ([' ', '&'] ++ back) = " & /); y = 'ab&" := by decide +kernel
  have cut := saysTheSame_cutLine_iff ["x = (/ 1, &"] ["cd"] isLead
    (by rw [whole_eq]; exact gap)
  rw [whole_eq, first_eq, second_eq] at cut
  have same := cut.mpr noBracket
  have errors : source.errors = [⟨.unterminated '\'' 2, 3, 1⟩] := by decide +kernel
  refine ⟨gap, same, same.causes.trans ?_⟩
  change source.errors.map _ = _
  rw [errors]
  rfl

/-- In `operator(/)`, the cut in front of the second bracket makes one token of
the first bracket and the slash. -/
theorem not_saysTheSame_cutLine_operator :
    HasGap (ofLines ["interface operator(/)"]).tokens 1 20 ∧
      ¬SaysTheSame (Relocation.cutLine 1 20 0) (ofLines ["interface operator(/)"])
        (ofLines ["interface operator(/&", ")"]) := by
  let source := ofLines ["interface operator(/)"]
  constructor
  · refine ⟨(source.tokens.filter Token.isCode).take 3, ⟨.operator, "/", 1, 20, 1, 20⟩,
      ⟨.operator, ")", 1, 21, 1, 21⟩, [], ?_, rfl, by decide, rfl, by decide⟩
    decide +kernel
  · rintro ⟨same, -⟩
    revert same
    decide +kernel

end Tokenized

end FortranStyle
