import FortranStyle.Yaml.Cursor

/-!
# The text of scalars

Quoted scalars, plain scalars and block scalars.  Line ends inside a scalar are
folded: a single one is a space, and of several the first is dropped.

A reader answers with the text and the place behind it, or with nothing when the
scalar is malformed.
-/

namespace FortranStyle.Yaml.Scalar

/-- The text that stands for a line end and the further line ends after it. -/
def folded (first : Char) (others : List Char) : List Char :=
  (if first ≠ '\n' then [first] else if others.isEmpty then [' '] else []) ++ others

/-! ## Quoted scalars -/

/-- The further line ends inside a quoted scalar, with the spaces around them.  A
marker between documents may not stand there. -/
def quotedBreaks? : (fuel : Nat) → Cursor → Option (List Char × Cursor)
  | 0, cursor => some ([], cursor)
  | fuel + 1, cursor =>
      if cursor.isAtSeparator then none
      else
        let cursor := cursor.skipWhile fun c => c == ' ' || c == '\t'
        match cursor.lineBreak? with
        | some (mark, cursor) =>
            (quotedBreaks? fuel cursor).map fun (more, cursor) => (mark :: more, cursor)
        | none => some ([], cursor)

/-- What a single character behind a backslash stands for. -/
def replacement? : Char → Option Char
  | '0' => some '\x00'
  | 'a' => some '\x07'
  | 'b' => some '\x08'
  | 't' => some '\t'
  | '\t' => some '\t'
  | 'n' => some '\n'
  | 'v' => some '\x0b'
  | 'f' => some '\x0c'
  | 'r' => some '\r'
  | 'e' => some '\x1b'
  | ' ' => some ' '
  | '"' => some '"'
  | '\\' => some '\\'
  | '/' => some '/'
  | 'N' => some '\x85'
  | '_' => some '\xa0'
  | 'L' => some '\u2028'
  | 'P' => some '\u2029'
  | _ => none

/-- The number of hexadecimal digits behind an escape letter. -/
def escapeWidth? : Char → Option Nat
  | 'x' => some 2
  | 'u' => some 4
  | 'U' => some 8
  | _ => none

/-- The value of a hexadecimal digit. -/
def hexValue? (c : Char) : Option Nat :=
  let n := c.toNat
  if 0x30 ≤ n ∧ n ≤ 0x39 then some (n - 0x30)
  else if 0x41 ≤ n ∧ n ≤ 0x46 then some (n - 0x37)
  else if 0x61 ≤ n ∧ n ≤ 0x66 then some (n - 0x57)
  else none

/-- The number that hexadecimal digits write. -/
def hexNumber? (digits : List Char) : Option Nat :=
  digits.foldlM (fun n c => (hexValue? c).map (n * 16 + ·)) 0

/-- The character that an escape with digits stands for, the cursor being behind
the escape letter. -/
def numericEscape? (width : Nat) (cursor : Cursor) : Option (Char × Cursor) :=
  let digits := cursor.rest.take width
  if digits.length < width then none
  else
    (hexNumber? digits).bind fun n =>
      if n < 0x110000 then some (Char.ofNat n, cursor.skip width) else none

/-- Read the rest of a quoted scalar.  In double quotes a backslash starts an escape;
in single quotes only the quote itself is written twice. -/
def quotedRest? (quote : Char) : (fuel : Nat) → Cursor → Option (List Char × Cursor)
  | 0, _ => none
  | fuel + 1, cursor =>
      let add (text : List Char) (cursor : Cursor) :=
        (quotedRest? quote fuel cursor).map fun (more, cursor) => (text ++ more, cursor)
      match cursor.rest with
      | [] => none
      | c :: rest =>
          if c = quote then
            if quote = '\'' ∧ rest.head? = some '\'' then add ['\''] (cursor.skip 2)
            else some ([], cursor.next)
          else if c = '\\' ∧ quote = '"' then
            let behind := cursor.next
            match rest with
            | [] => none
            | e :: _ =>
                match replacement? e, escapeWidth? e with
                | some image, _ => add [image] behind.next
                | none, some width =>
                    (numericEscape? width behind.next).bind fun (image, cursor) =>
                      add [image] cursor
                | none, none =>
                    (behind.lineBreak?).bind fun (_, cursor) =>
                      (quotedBreaks? fuel cursor).bind fun (marks, cursor) => add marks cursor
          else if isSpace c then
            let (spaces, cursor) := cursor.span fun c => c == ' ' || c == '\t'
            match cursor.lineBreak? with
            | some (mark, cursor) =>
                (quotedBreaks? fuel cursor).bind fun (marks, cursor) =>
                  add (folded mark marks) cursor
            | none => add spaces cursor
          else
            add [c] cursor.next

/-- Read a quoted scalar behind its opening quote.  Every step takes a character. -/
def quoted? (quote : Char) (cursor : Cursor) : Option (List Char × Cursor) :=
  quotedRest? quote (cursor.rest.length + 1) cursor

/-! ## Plain scalars -/

/-- The number of characters up to the next space, or up to an indicator that ends
a plain scalar: a colon before a space, and commas and brackets inside a flow
collection. -/
def plainLength (inFlow : Bool) : List Char → Nat
  | [] => 0
  | c :: rest =>
      let isColon := c == ':' && endsWord rest (if inFlow then [',', '[', ']', '{', '}'] else [])
      let isIndicator := inFlow && [',', '?', '[', ']', '{', '}'].contains c
      if isSpace c || isColon || isIndicator then 0 else 1 + plainLength inFlow rest

/-- The further line ends inside a plain scalar, with the spaces around them;
nothing when a marker between documents follows one. -/
def plainBreaks? : (fuel : Nat) → Cursor → Option (List Char) × Cursor
  | 0, cursor => (some [], cursor)
  | fuel + 1, cursor =>
      if cursor.isAt ' ' then plainBreaks? fuel cursor.next
      else
        match cursor.lineBreak? with
        | some (mark, cursor) =>
            if cursor.isAtSeparator then (none, cursor)
            else
              let (more, cursor) := plainBreaks? fuel cursor
              (more.map (mark :: ·), cursor)
        | none => (some [], cursor)

/-- What stands between two pieces of a plain scalar. -/
structure PlainGap where
  /-- The text of the gap; a scalar does not go on behind an empty one. -/
  text : List Char
  hasBreak : Bool
  cursor : Cursor

/-- Read the gap behind a piece of a plain scalar. -/
def plainGap (cursor : Cursor) : PlainGap :=
  let (spaces, cursor) := cursor.span (· == ' ')
  match cursor.lineBreak? with
  | some (mark, cursor) =>
      if cursor.isAtSeparator then ⟨[], true, cursor⟩
      else
        match plainBreaks? (cursor.rest.length + 1) cursor with
        | (some marks, cursor) => ⟨folded mark marks, true, cursor⟩
        | (none, cursor) => ⟨[], true, cursor⟩
  | none => ⟨spaces, false, cursor⟩

/-- Read the pieces of a plain scalar. -/
def plainPieces (inFlow : Bool) (indent : Int) :
    (fuel : Nat) → Cursor → List Char × Bool × Cursor
  | 0, cursor => ([], false, cursor)
  | fuel + 1, cursor =>
      let length := plainLength inFlow cursor.rest
      let piece := cursor.rest.take length
      let gap := plainGap (cursor.skip length)
      let stops :=
        gap.text.isEmpty || gap.cursor.isAt '#' || (!inFlow && gap.cursor.column < indent) ||
          plainLength inFlow gap.cursor.rest == 0
      if stops then (piece, gap.hasBreak, gap.cursor)
      else
        let (more, hasBreak, cursor) := plainPieces inFlow indent fuel gap.cursor
        (piece ++ gap.text ++ more, hasBreak, cursor)

/-- Read a plain scalar.  Outside flow collections the lines that continue it are
indented by at least `indent`.  The answer also says whether a line ends behind the
scalar.  Every piece takes a character. -/
def plain (inFlow : Bool) (indent : Int) (cursor : Cursor) : List Char × Bool × Cursor :=
  plainPieces inFlow indent (cursor.rest.length + 1) cursor

/-! ## Block scalars -/

/-- What becomes of the line ends at the end of a block scalar. -/
inductive Chomping
  | strip
  | clip
  | keep
deriving DecidableEq, Repr

/-- The chomping that a sign asks for. -/
def chomping? : Char → Option Chomping
  | '+' => some .keep
  | '-' => some .strip
  | _ => none

/-- The indentation that a digit asks for. -/
def increment? (c : Char) : Option Nat :=
  if '1' ≤ c ∧ c ≤ '9' then some (c.toNat - 0x30) else none

/-- Read the indicators of a block scalar: a sign and a digit in either order,
both optional. -/
def blockIndicators (cursor : Cursor) : Chomping × Option Nat × Cursor :=
  match cursor.rest with
  | [] => (.clip, none, cursor)
  | c :: rest =>
      let second := rest.headD ' '
      match chomping? c, increment? c with
      | some chomping, _ =>
          match increment? second with
          | some increment => (chomping, some increment, cursor.skip 2)
          | none => (chomping, none, cursor.next)
      | none, some increment =>
          match chomping? second with
          | some chomping => (chomping, some increment, cursor.skip 2)
          | none => (.clip, some increment, cursor.next)
      | none, none => (.clip, none, cursor)

/-- The rest of a line that may hold spaces and a comment only; the place behind
its end. -/
def emptyLine? (cursor : Cursor) : Option Cursor :=
  let cursor := cursor.skipWhile (· == ' ')
  let cursor := if cursor.isAt '#' then cursor.skipWhile (!isBreak ·) else cursor
  match cursor.lineBreak? with
  | some (_, cursor) => some cursor
  | none => if cursor.rest.isEmpty then some cursor else none

/-- The empty lines at the start of a block scalar, and the widest indentation met
on the way to its first character. -/
def blockIndentation : (fuel : Nat) → Cursor → List Char × Nat × Cursor
  | 0, cursor => ([], 0, cursor)
  | fuel + 1, cursor =>
      if cursor.isAt ' ' then
        let (marks, widest, behind) := blockIndentation fuel cursor.next
        (marks, max cursor.next.column widest, behind)
      else
        match cursor.lineBreak? with
        | some (mark, cursor) =>
            let (marks, widest, behind) := blockIndentation fuel cursor
            (mark :: marks, widest, behind)
        | none => ([], 0, cursor)

/-- Skip spaces up to a column. -/
def skipTo (column : Nat) : (fuel : Nat) → Cursor → Cursor
  | 0, cursor => cursor
  | fuel + 1, cursor =>
      if cursor.column < column ∧ cursor.isAt ' ' then skipTo column fuel cursor.next else cursor

/-- The empty lines before the next line of a block scalar. -/
def blockBreaks (indent : Nat) : (fuel : Nat) → Cursor → List Char × Cursor
  | 0, cursor => ([], cursor)
  | fuel + 1, cursor =>
      let cursor := skipTo indent indent cursor
      match cursor.lineBreak? with
      | some (mark, cursor) =>
          let (marks, cursor) := blockBreaks indent fuel cursor
          (mark :: marks, cursor)
      | none => ([], cursor)

/-- Read the lines of a block scalar from the place behind its empty lines.  The
answer ends with the last line end and the empty lines after it. -/
def blockLines (isFolded : Bool) (indent : Nat) :
    (fuel : Nat) → List Char → Cursor → List Char × List Char × List Char × Cursor
  | 0, marks, cursor => ([], [], marks, cursor)
  | fuel + 1, marks, cursor =>
      if cursor.column ≠ indent ∨ cursor.rest.isEmpty then ([], [], marks, cursor)
      else
        let startsText (cursor : Cursor) := !cursor.isAt ' ' && !cursor.isAt '\t'
        let leadsText := startsText cursor
        let (line, cursor) := cursor.span (!isBreak ·)
        let (mark, cursor) : List Char × Cursor := match cursor.lineBreak? with
          | some (mark, cursor) => ([mark], cursor)
          | none => ([], cursor)
        let (others, cursor) := blockBreaks indent (cursor.rest.length + 1) cursor
        if cursor.column = indent ∧ !cursor.rest.isEmpty then
          let joint :=
            if isFolded && mark == ['\n'] && leadsText && startsText cursor then
              if others.isEmpty then [' '] else []
            else mark
          let (more, mark, last, cursor) := blockLines isFolded indent fuel others cursor
          (marks ++ line ++ joint ++ more, mark, last, cursor)
        else
          (marks ++ line, mark, others, cursor)

/-- Read a block scalar behind its indicator `|` or `>`, in a block that is
indented by `indent`. -/
def block? (isFolded : Bool) (indent : Int) (cursor : Cursor) : Option (List Char × Cursor) :=
  let (chomping, increment, cursor) := blockIndicators cursor
  if !(cursor.rest.head?.all fun c => c == ' ' || isBreak c) then none
  else
    (emptyLine? cursor).map fun cursor =>
      let fuel := cursor.rest.length + 1
      let least := max 1 (indent + 1).toNat
      let (marks, indent, cursor) : List Char × Nat × Cursor := match increment with
        | some increment =>
            let indent := least + increment - 1
            let (marks, cursor) := blockBreaks indent fuel cursor
            (marks, indent, cursor)
        | none =>
            let (marks, widest, cursor) := blockIndentation fuel cursor
            (marks, max least widest, cursor)
      let (text, mark, last, cursor) := blockLines isFolded indent fuel marks cursor
      let ending := match chomping with
        | .strip => []
        | .clip => mark
        | .keep => mark ++ last
      (text ++ ending, cursor)

end FortranStyle.Yaml.Scalar
