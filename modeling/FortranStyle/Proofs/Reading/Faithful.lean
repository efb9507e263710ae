import FortranStyle.Proofs.Reading.Tiling

/-!
# Tokens and text

The tokens of a source are faithful to its text: each is a part of its line, the
tokens of the statements come in the order of the text and do not overlap, and a
line that can be read is taken up by tokens, gap characters and semicolons.  Two
kinds of tokens stand out: the end of a statement has a place but no text of its
own, and a literal that goes over lines is a part of no line.  The comment lines
between the lines of such a literal have tokens of their own.
-/

namespace FortranStyle.Tokenized

/-! ## Tokens of successive lines -/

variable {line : Nat} {pending : Option Suspended}

/-- The tokens of a line are tiled, whatever is on it. -/
theorem tiles_of_read (above : ∀ literal ∈ openLiteral? pending, Line.Above line literal)
    (cs : List Char) : Line.Tiles line False 1 cs (Line.read line pending cs).1 :=
  Line.tiles_read cs (fun literal carried => (above literal carried).line_lt) False.elim

/-- A token of some lines ends on one of them, and one that starts on another
line is a literal. -/
theorem endLine_of_linesPart
    (above : ∀ literal ∈ openLiteral? pending, Line.Above line literal)
    (lines : List (List Char)) :
    ∀ token ∈ (linesPart line pending lines).tokens,
      line ≤ token.endLine ∧ token.endLine < line + lines.length ∧
        (token.line = token.endLine ∨ token.kind = .string ∧ token.line < token.endLine) := by
  induction lines generalizing line pending with
  | nil => exact List.forall_mem_nil _
  | cons cs rest ih =>
    rw [linesPart, Part.tokens_append, List.length_cons]
    refine List.forall_mem_append.mpr ⟨?_, ?_⟩
    · intro token here
      obtain ⟨endLine_eq, start⟩ := (tiles_of_read above cs).lines token here
      rw [endLine_eq]
      exact ⟨Nat.le_refl _, by omega, start⟩
    · intro token later
      have below := ih (fun literal found => (Line.literal_of_read above cs literal found).1)
        token later
      exact ⟨by omega, by omega, below.2.2⟩

/-- A token of some lines that starts and ends on one line is a part of it. -/
theorem isPartOf_linesPart
    (above : ∀ literal ∈ openLiteral? pending, Line.Above line literal)
    (lines : List (List Char)) :
    ∀ token ∈ (linesPart line pending lines).tokens,
      token.kind ≠ .endOfLine → token.line = token.endLine →
        ∃ cs, lines[token.line - line]? = some cs ∧ token.IsPartOf token.line cs := by
  induction lines generalizing line pending with
  | nil => exact List.forall_mem_nil _
  | cons cs rest ih =>
    rw [linesPart, Part.tokens_append]
    refine List.forall_mem_append.mpr ⟨?_, ?_⟩
    · intro token here noEnd oneLine
      have tiles := tiles_of_read above cs
      have line_eq := oneLine.trans (tiles.lines token here).1
      have part := tiles.isPartOf [] rfl token here line_eq noEnd
      rw [line_eq, Nat.sub_self]
      exact ⟨cs, rfl, part⟩
    · intro token later noEnd oneLine
      have carried := fun literal found => (Line.literal_of_read above cs literal found).1
      have line_le := (endLine_of_linesPart carried rest token later).1
      obtain ⟨text, found, part⟩ := ih carried token later noEnd oneLine
      have behind : token.line - line = token.line - (line + 1) + 1 := by omega
      rw [behind]
      exact ⟨text, found, part⟩

/-! ## The tokens over one line -/

section OneLine

variable {above below : List (List Char)} {cs : List Char}

/-- The tokens of a source are those of the lines above a line, of the line, of
the lines below it, and of the end. -/
theorem tokens_append_cons :
    (readLines 1 none (above ++ cs :: below)).tokens =
      (linesPart 1 none above).tokens ++
        ((Line.read (1 + above.length) (pendingBehind 1 none above) cs).1 ++
          ((linesPart (1 + above.length + 1)
              (Line.read (1 + above.length) (pendingBehind 1 none above) cs).2.pending
              below).tokens ++
            (danglingPart (pendingBehind 1 none (above ++ cs :: below))).tokens)) := by
  rw [readLines_append, readLines, readLines_eq, pendingBehind_append]
  rfl

/-- The end that is added at the end of a source stands on a line that has an
error. -/
theorem line_ne_of_danglingPart {lines : List (List Char)} {line : Nat}
    (settled : ∀ error ∈ (readLines 1 none lines).errors, error.line ≠ line) :
    ∀ token ∈ (danglingPart (pendingBehind 1 none lines)).tokens,
      token.line = token.endLine ∧ token.endLine ≠ line := by
  rw [readLines_eq, Part.errors_append] at settled
  cases pending_eq : pendingBehind 1 none lines with
  | none => exact List.forall_mem_nil _
  | some rest =>
    intro token member
    have line_ne : rest.line ≠ line := by
      refine settled ⟨.nothingToContinue, rest.line, rest.column⟩ ?_
      rw [pending_eq]
      exact List.mem_append_right _ (List.mem_singleton_self _)
    rw [mem_close member]
    exact ⟨rfl, line_ne⟩

/-- What is carried over a line to the lines below. -/
theorem above_read (above : List (List Char)) (cs : List Char) :
    ∀ literal ∈ openLiteral?
        (Line.read (1 + above.length) (pendingBehind 1 none above) cs).2.pending,
      Line.Above (1 + above.length + 1) literal :=
  fun literal carried =>
    (Line.literal_of_read (above_linesPart (nothingAbove 1) above) cs literal carried).1

/-- The tokens of a source that end on a line are those that are read of it. -/
theorem filter_of_endLine {p : Token → Bool}
    (onLine : ∀ token, p token = true → token.endLine = 1 + above.length)
    (settled : ∀ error ∈ (readLines 1 none (above ++ cs :: below)).errors,
      error.line ≠ 1 + above.length) :
    (readLines 1 none (above ++ cs :: below)).tokens.filter p =
      (Line.read (1 + above.length) (pendingBehind 1 none above) cs).1.filter p := by
  have without {tokens : List Token}
      (elsewhere : ∀ token ∈ tokens, token.endLine ≠ 1 + above.length) :
      tokens.filter p = [] := by
    rw [List.filter_eq_nil_iff]
    exact fun token member holds => elsewhere token member (onLine token holds)
  have before := without fun token earlier => by
    have line_lt := (endLine_of_linesPart (nothingAbove 1) above token earlier).2.1
    exact Nat.ne_of_lt line_lt
  have behind := without fun token later => by
    have line_gt := (endLine_of_linesPart (above_read above cs) below token later).1
    exact Nat.ne_of_gt line_gt
  have ending := without fun token member => (line_ne_of_danglingPart settled token member).2
  rw [tokens_append_cons, List.filter_append, List.filter_append, List.filter_append, before,
    behind, ending, List.append_nil, List.nil_append, List.append_nil]

/-- A token that goes over a line, and is not read of it, is a literal that is
carried over from it. -/
theorem literal_of_spans {column : Nat} {token : Token}
    (settled : ∀ error ∈ (readLines 1 none (above ++ cs :: below)).errors,
      error.line ≠ 1 + above.length)
    (member : token ∈ (readLines 1 none (above ++ cs :: below)).tokens)
    (spans : token.Spans (1 + above.length, column)) :
    let reading := Line.read (1 + above.length) (pendingBehind 1 none above) cs
    token ∈ reading.1 ∨
      token.kind = .string ∧ 1 + above.length < token.endLine ∧
        ∃ literal ∈ openLiteral? reading.2.pending, token.start = literal.place := by
  intro reading
  have line_le : token.line ≤ 1 + above.length ∧ 1 + above.length ≤ token.endLine := by
    unfold Token.Spans NotBehind Token.start Token.stop at spans
    omega
  rw [tokens_append_cons, List.mem_append, List.mem_append, List.mem_append] at member
  rcases member with earlier | here | later | dangling
  · have line_lt := (endLine_of_linesPart (nothingAbove 1) above token earlier).2.1
    omega
  · exact .inl here
  · obtain ⟨line_gt, -, line_eq | ⟨string, -⟩⟩ :=
      endLine_of_linesPart (above_read above cs) below token later
    · omega
    · have code : token.isCode = true := by rw [Token.isCode, string]; rfl
      obtain ⟨-, -, line_ge | carried⟩ :=
        token_of_linesPart (above_read above cs) below token later code
      · omega
      · exact .inr ⟨string, line_gt, carried⟩
  · obtain ⟨line_eq, line_ne⟩ := line_ne_of_danglingPart settled token dangling
    omega

/-- A line that can be read has no error of its own. -/
theorem errors_read_eq_nil
    (settled : ∀ error ∈ (readLines 1 none (above ++ cs :: below)).errors,
      error.line ≠ 1 + above.length) :
    (Line.read (1 + above.length) (pendingBehind 1 none above) cs).2.errors = [] := by
  rw [List.eq_nil_iff_forall_not_mem]
  intro error raised
  have line_eq := (Line.isErrorOf_read _ _ cs error raised).1
  refine settled error ?_ line_eq
  rw [readLines_append, readLines, Part.errors_append, Part.errors_append]
  exact List.mem_append_right _ (List.mem_append_left _ raised)

/-- Every character of a line that can be read is a gap character, a semicolon,
or lies in exactly one of the tokens on the line.  What else goes over a line is
a literal, around a comment line. -/
theorem covered_line
    (settled : ∀ error ∈ (readLines 1 none (above ++ cs :: below)).errors,
      error.line ≠ 1 + above.length)
    (filled : Text.trim cs ≠ [])
    (noPart : Line.HoldsNoPart (1 + above.length) (pendingBehind 1 none above) cs)
    {k : Nat} {c : Char} (found : cs[k]? = some c) :
    let tokens := (readLines 1 none (above ++ cs :: below)).tokens
    (Text.isGap c = true ∨ c = ';' ∨
      ∃ token, tokens.filter (fun token =>
        token.line = token.endLine ∧ token.Spans (1 + above.length, k + 1)) = [token]) ∧
      ∀ token ∈ tokens, token.Spans (1 + above.length, k + 1) → token.line ≠ token.endLine →
        Line.isSilent cs = true ∧ token.kind = .string ∧
          token.line < 1 + above.length ∧ 1 + above.length < token.endLine := by
  intro tokens
  have known := above_linesPart (nothingAbove 1) above
  have tiles : Line.Tiles (1 + above.length) True 1 cs _ :=
    Line.tiles_read cs (fun literal carried => (known literal carried).line_lt)
      fun _ => ⟨filled, errors_read_eq_nil settled, noPart⟩
  have oneLine : ∀ token ∈ (Line.read (1 + above.length) (pendingBehind 1 none above) cs).1,
      token.line = token.endLine :=
    fun token here =>
      (tiles.column_le trivial token here).1.trans (tiles.lines token here).1.symm
  constructor
  · have onLine : ∀ token : Token,
        decide (token.line = token.endLine ∧ token.Spans (1 + above.length, k + 1)) = true →
          token.endLine = 1 + above.length := by
      intro token holds
      obtain ⟨line_eq, spans⟩ := of_decide_eq_true holds
      unfold Token.Spans NotBehind Token.start Token.stop at spans
      omega
    rw [filter_of_endLine onLine settled, List.filter_congr fun token here =>
      decide_eq_decide.mpr (and_iff_right (oneLine token here))]
    exact tiles.exists_spans trivial (Nat.add_comm k 1) found
  · intro token member spans severalLines
    rcases literal_of_spans settled member spans with here | ⟨string, line_gt, literal⟩
    · exact absurd (oneLine token here) severalLines
    · obtain ⟨literal, carried, start_eq⟩ := literal
      cases silent : Line.isSilent cs with
      | false =>
        rw [(noPart silent).2] at carried
        contradiction
      | true =>
        rw [Line.read_of_isSilent silent, Line.pending_unchanged] at carried
        have line_eq : token.line = literal.line := congrArg Prod.fst start_eq
        exact ⟨rfl, string, line_eq ▸ (known literal carried).line_lt, line_gt⟩

end OneLine

/-! ## Sources -/

/-- No part of a literal that goes over lines stands on a line of a source.
Here the lines count from zero. -/
def HoldsNoPart (source : List String) (n : Nat) : Prop :=
  ∀ text ∈ (source.map lineText)[n]?,
    Line.HoldsNoPart (n + 1) (pendingBehind 1 none ((source.map lineText).take n)) text

theorem getElem?_lines {source : List String} {n : Nat} {text : String} :
    (ofLines source).lines[n]? = some text ↔
      (source.map lineText)[n]? = some text.toList := by
  change ((source.map lineText).map String.ofList)[n]? = some text ↔ _
  rw [List.getElem?_map, Option.map_eq_some_iff]
  constructor
  · rintro ⟨cs, found, rfl⟩
    rw [String.toList_ofList]
    exact found
  · intro found
    exact ⟨text.toList, found, String.ofList_toList⟩

/-- A token of a source that ends no statement is the part of a line that its
columns say, or a literal that goes over lines. -/
theorem isPartOf_or_string (source : List String) :
    ∀ token ∈ (ofLines source).tokens, token.kind ≠ .endOfLine →
      (∃ text, (ofLines source).lines[token.line - 1]? = some text ∧
        token.IsPartOf token.line text.toList) ∨
      token.kind = .string ∧ token.line < token.endLine := by
  intro token member noEnd
  change token ∈ (readLines 1 none (source.map lineText)).tokens at member
  rw [readLines_eq, Part.tokens_append, List.mem_append] at member
  rcases member with inLines | dangling
  · obtain ⟨-, -, oneLine | severalLines⟩ :=
      endLine_of_linesPart (nothingAbove 1) _ token inLines
    · obtain ⟨cs, found, part⟩ :=
        isPartOf_linesPart (nothingAbove 1) _ token inLines noEnd oneLine
      refine .inl ⟨String.ofList cs, getElem?_lines.mpr ?_, ?_⟩
      · rw [String.toList_ofList]
        exact found
      · rw [String.toList_ofList]
        exact part
    · exact .inr severalLines
  · cases pending_eq : pendingBehind 1 none (source.map lineText) with
    | none =>
      rw [pending_eq] at dangling
      contradiction
    | some rest =>
      rw [pending_eq] at dangling
      exact absurd (mem_close dangling ▸ rfl) noEnd

/-- The code tokens and the ends of statements come in the order of the text, and
none ends behind the start of the next. -/
theorem pairwise_inStatement (source : List String) :
    ((ofLines source).tokens.filter Token.inStatement).Pairwise
      (fun first second => Before first.start second.start ∧ first.Precedes second) := by
  obtain ⟨stop, ordered⟩ := inOrder_readLines (source.map lineText)
  refine ordered.pairwise.imp_of_mem ?_
  intro first second listed _ precedes
  obtain ⟨member, inside⟩ := List.mem_filter.mp listed
  exact ⟨(ordered.mem member inside).2.1.before precedes, precedes⟩

/-- The tokens of a source are faithful to its text.  A token that ends no
statement is the part of a line that its columns say, or a literal that goes
over lines.  The code tokens and the ends of statements come in the order of the
text, and none ends behind the start of the next.  On a line without an error,
that is not blank and holds no part of a literal that goes over lines, every
character is a gap character, a semicolon, or lies in exactly one of the tokens
on the line; what else goes over such a line is a literal around a comment. -/
theorem faithful (source : List String) :
    (∀ token ∈ (ofLines source).tokens, token.kind ≠ .endOfLine →
      (∃ text, (ofLines source).lines[token.line - 1]? = some text ∧
        token.IsPartOf token.line text.toList) ∨
      token.kind = .string ∧ token.line < token.endLine) ∧
    ((ofLines source).tokens.filter Token.inStatement).Pairwise
      (fun first second => Before first.start second.start ∧ first.Precedes second) ∧
    ∀ n text, (ofLines source).lines[n]? = some text →
      (∀ error ∈ (ofLines source).errors, error.line ≠ n + 1) →
      Text.trim text.toList ≠ [] → HoldsNoPart source n →
      ∀ k c, text.toList[k]? = some c →
        (Text.isGap c = true ∨ c = ';' ∨
          ∃ token, (ofLines source).tokens.filter (fun token =>
            token.line = token.endLine ∧ token.Spans (n + 1, k + 1)) = [token]) ∧
        ∀ token ∈ (ofLines source).tokens,
          token.Spans (n + 1, k + 1) → token.line ≠ token.endLine →
            Line.isSilent text.toList = true ∧ token.kind = .string ∧
              token.line < n + 1 ∧ n + 1 < token.endLine := by
  refine ⟨isPartOf_or_string source, pairwise_inStatement source, ?_⟩
  intro n text found settled filled noPart k c character
  have text_found := getElem?_lines.mp found
  obtain ⟨short, text_eq⟩ := List.getElem?_eq_some_iff.mp text_found
  have length_eq : ((source.map lineText).take n).length = n :=
    List.length_take_of_le (Nat.le_of_lt short)
  have split : source.map lineText =
      (source.map lineText).take n ++ text.toList :: (source.map lineText).drop (n + 1) := by
    rw [← text_eq, List.getElem_cons_drop, List.take_append_drop]
  have line_eq : 1 + ((source.map lineText).take n).length = n + 1 := by
    rw [length_eq, Nat.add_comm]
  have covered := @covered_line ((source.map lineText).take n)
    ((source.map lineText).drop (n + 1)) text.toList
  rw [← split, line_eq] at covered
  exact covered settled filled (noPart _ text_found) character

/-- A literal goes over three lines, of which the second is a comment line: a
character of the comment lies in the token of the comment and in no other that
stands on one line. -/
theorem faithful_comment :
    let source := ["s = 'a&", "! c", "&b'; t = 1"]
    (ofLines source).lines[1]? = some "! c" ∧
      (∀ error ∈ (ofLines source).errors, error.line ≠ 1 + 1) ∧
      HoldsNoPart source 1 ∧
      ∃ token, (ofLines source).tokens.filter (fun token =>
        token.line = token.endLine ∧ token.Spans (1 + 1, 2 + 1)) = [token] := by
  intro source
  have found : (ofLines source).lines[1]? = some "! c" := by decide +kernel
  have settled : ∀ error ∈ (ofLines source).errors, error.line ≠ 1 + 1 := by decide +kernel
  have noPart : HoldsNoPart source 1 := by
    intro text text_found
    have text_eq : ['!', ' ', 'c'] = text := by
      rw [← Option.some.injEq, ← Option.mem_def.mp text_found]
      decide +kernel
    subst text_eq
    exact fun loud => absurd loud (by decide +kernel)
  have covered := ((faithful source).2.2 1 "! c" found settled (by decide +kernel) noPart 2 'c'
    (by decide +kernel)).1
  refine ⟨found, settled, noPart, ?_⟩
  rcases covered with gap | semicolon | inToken
  · exact absurd gap (by decide)
  · exact absurd semicolon (by decide)
  · exact inToken

end FortranStyle.Tokenized
