import FortranStyle.Checker
import FortranStyle.Proofs.Reading.Line
import FortranStyle.Proofs.Writing.Utf8

/-!
# Reading what lines were written as

Lines may be written in six ways: each of them is followed by a line feed, by a carriage
return, or by both, and a byte order mark may stand in front.  Read again, the file gives
these lines, and so the same findings whichever way was chosen.
-/

namespace FortranStyle

namespace Text

/-- The characters at which a line ends. -/
def lineBreaks : List Char :=
  ['\n', '\x0b', '\x0c', '\r', '\x1c', '\x1d', '\x1e', '\x85', '\u2028', '\u2029']

/-- A line that may be written, and read as one line. -/
def IsUnbroken (line : List Char) : Prop :=
  ∀ c ∈ line, c ∉ lineBreaks

instance (line : List Char) : Decidable (IsUnbroken line) :=
  inferInstanceAs (Decidable (∀ c ∈ line, c ∉ lineBreaks))

theorem IsUnbroken.isLineBreak_eq_false {line : List Char} (unbroken : IsUnbroken line) {c : Char}
    (inside : c ∈ line) : isLineBreak c = false := by
  have apart := unbroken c inside
  simp only [lineBreaks, List.mem_cons, List.not_mem_nil, or_false, not_or, ← Char.toNat_inj,
    Char.reduceToNat] at apart
  simp only [isLineBreak, Bool.or_eq_false_iff, Bool.and_eq_false_iff, decide_eq_false_iff_not,
    beq_eq_false_iff_ne]
  omega

theorem IsUnbroken.isLineEnd_eq_false {line : List Char} (unbroken : IsUnbroken line) :
    ∀ c ∈ line, isLineEnd c = false := by
  intro c inside
  rw [Bool.eq_false_iff]
  intro ends
  simp only [isLineEnd, Bool.or_eq_true, beq_iff_eq] at ends
  rcases ends with rfl | rfl <;> exact unbroken _ inside (by decide)

/-- What may follow each line that is written. -/
inductive Ending
  | lineFeed
  | carriageReturn
  /-- A carriage return and then a line feed. -/
  | both
deriving DecidableEq, Repr

/-- The characters that follow a line. -/
def Ending.text : Ending → List Char
  | lineFeed => ['\n']
  | carriageReturn => ['\r']
  | both => ['\r', '\n']

/-- The text of some lines, each with its ending. -/
def written (ending : Ending) (lines : List (List Char)) : List Char :=
  lines.flatMap (· ++ ending.text)

theorem written_cons (ending : Ending) (line : List Char) (rest : List (List Char)) :
    written ending (line :: rest) = line ++ (ending.text ++ written ending rest) := by
  rw [written, List.flatMap_cons, List.append_assoc]
  rfl

/-- The text starts with the first line, or with the ending of an empty one. -/
theorem head?_written {ending : Ending} {lines : List (List Char)} {c : Char}
    (starts : (written ending lines).head? = some c) :
    (∃ line, lines.head? = some line ∧ line.head? = some c) ∨ ending.text.head? = some c := by
  rcases lines with _ | ⟨line, rest⟩
  · contradiction
  rw [written_cons] at starts
  rcases line with _ | ⟨first, more⟩
  · right
    cases ending <;> exact starts
  · exact .inl ⟨_, rfl, starts⟩

/-! ## Line ends -/

/-- Put a character in front of a text whose line ends are unified, knowing the character that
comes next. -/
def unifyCons (c : Char) (later : List Char × Option Char) : List Char × Option Char :=
  if c = '\r' then (if later.2 = some '\n' then later.1 else '\n' :: later.1, some c)
  else (c :: later.1, some c)

theorem unifyLineEnds_eq (cs : List Char) :
    unifyLineEnds cs = (cs.foldr unifyCons ([], none)).1 :=
  rfl

theorem foldr_unifyCons_snd (cs : List Char) :
    (cs.foldr unifyCons ([], none)).2 = cs.head? := by
  rcases cs with _ | ⟨c, rest⟩
  · rfl
  · rw [List.foldr_cons, unifyCons]
    split_ifs <;> rfl

/-- A carriage return is written as a line feed, unless a line feed follows it. -/
theorem unifyLineEnds_cons (c : Char) (cs : List Char) :
    unifyLineEnds (c :: cs) =
      if c = '\r' then
        if cs.head? = some '\n' then unifyLineEnds cs else '\n' :: unifyLineEnds cs
      else c :: unifyLineEnds cs := by
  rw [unifyLineEnds_eq, unifyLineEnds_eq, List.foldr_cons, unifyCons, foldr_unifyCons_snd]
  split_ifs <;> rfl

theorem unifyLineEnds_append {line : List Char} (unbroken : IsUnbroken line) (rest : List Char) :
    unifyLineEnds (line ++ rest) = line ++ unifyLineEnds rest := by
  induction line with
  | nil => rfl
  | cons c more ih =>
    have unreturned : c ≠ '\r' := by
      rintro rfl
      exact unbroken _ (List.mem_cons_self ..) (by decide)
    rw [List.cons_append, unifyLineEnds_cons, if_neg unreturned,
      ih fun d inside => unbroken d (List.mem_cons_of_mem _ inside), List.cons_append]

/-- Each ending is read as one line feed.  A carriage return may not be followed by a line
feed that is not part of its ending. -/
theorem unifyLineEnds_ending {ending : Ending} {rest : List Char}
    (apart : ending = .carriageReturn → rest.head? ≠ some '\n') :
    unifyLineEnds (ending.text ++ rest) = '\n' :: unifyLineEnds rest := by
  cases ending with
  | lineFeed =>
    exact unifyLineEnds_cons '\n' rest
  | carriageReturn =>
    have fed : ¬rest.head? = some '\n' := apart rfl
    rw [Ending.text, List.singleton_append, unifyLineEnds_cons, if_pos rfl, if_neg fed]
  | both =>
    exact (unifyLineEnds_cons '\r' ('\n' :: rest)).trans (unifyLineEnds_cons '\n' rest)

/-- Whichever way lines are written, they are read as if a line feed followed each of them. -/
theorem unifyLineEnds_written {ending : Ending} {lines : List (List Char)}
    (unbroken : ∀ line ∈ lines, IsUnbroken line) :
    unifyLineEnds (written ending lines) = written .lineFeed lines := by
  induction lines with
  | nil => rfl
  | cons line rest ih =>
    have unbroken' : ∀ line ∈ rest, IsUnbroken line := fun line inside =>
      unbroken line (List.mem_cons_of_mem _ inside)
    have apart : ending = .carriageReturn → (written ending rest).head? ≠ some '\n' := by
      rintro rfl fed
      rcases head?_written fed with ⟨line, first, starts⟩ | starts
      · exact unbroken' line (List.mem_of_mem_head? first) '\n' (List.mem_of_mem_head? starts)
          (by decide)
      · contradiction
    rw [written_cons, written_cons, unifyLineEnds_append (unbroken line (List.mem_cons_self ..)),
      unifyLineEnds_ending apart, ih unbroken']
    rfl

/-! ## Lines -/

theorem splitLines_append {line : List Char} (unbroken : IsUnbroken line) (rest : List Char) :
    splitLines (line ++ '\n' :: rest) = line :: splitLines rest := by
  induction line with
  | nil => rfl
  | cons c more ih =>
    have inside := unbroken.isLineBreak_eq_false (List.mem_cons_self ..)
    have later := ih fun d inside => unbroken d (List.mem_cons_of_mem _ inside)
    rw [splitLines] at later ⊢
    rw [List.cons_append, List.foldr_cons, later, inside]
    rfl

theorem splitLines_written {lines : List (List Char)}
    (unbroken : ∀ line ∈ lines, IsUnbroken line) :
    splitLines (written .lineFeed lines) = lines := by
  induction lines with
  | nil => rfl
  | cons line rest ih =>
    have ended : line ++ (Ending.lineFeed.text ++ written .lineFeed rest) =
        line ++ '\n' :: written .lineFeed rest :=
      rfl
    rw [written_cons, ended, splitLines_append (unbroken line (List.mem_cons_self ..)),
      ih fun line inside => unbroken line (List.mem_cons_of_mem _ inside)]

/-- Lines that are written without the characters that end lines are read back. -/
theorem splitLines_unifyLineEnds_written {ending : Ending} {lines : List (List Char)}
    (unbroken : ∀ line ∈ lines, IsUnbroken line) :
    splitLines (unifyLineEnds (written ending lines)) = lines := by
  rw [unifyLineEnds_written unbroken, splitLines_written unbroken]

end Text

/-! ## Files -/

open Text

/-- The bytes of the file that some lines are written to. -/
def fileBytes (isMarked : Bool) (ending : Ending) (lines : List String) : List UInt8 :=
  let mark := if isMarked then ['\uFEFF'] else []
  (String.ofList (mark ++ written ending (lines.map String.toList))).toUTF8.data.toList

theorem fileBytes_eq (isMarked : Bool) (ending : Ending) (lines : List String) :
    fileBytes isMarked ending lines =
      ((if isMarked then ['\uFEFF'] else []) ++ written ending (lines.map String.toList)).flatMap
        String.utf8EncodeChar := by
  rw [fileBytes, String.toUTF8_eq_toByteArray]
  exact List.toList_data_toByteArray

/-- No line may be taken for a byte order mark in front of the file. -/
def StartsUnmarked (lines : List String) : Prop :=
  (lines.head?.bind fun line => line.toList.head?) ≠ some '\uFEFF'

instance (lines : List String) : Decidable (StartsUnmarked lines) :=
  inferInstanceAs (Decidable (_ ≠ _))

theorem decode_fileBytes {isMarked : Bool} {ending : Ending} {lines : List String}
    (unmarked : isMarked = false → StartsUnmarked lines) :
    decode (fileBytes isMarked ending lines) = .ok (written ending (lines.map String.toList)) := by
  rw [fileBytes_eq]
  cases isMarked with
  | true => exact decode_of_marked _
  | false =>
    refine decode_of_unmarked fun starts => ?_
    rcases head?_written starts with ⟨line, first, starts'⟩ | starts'
    · rw [List.head?_map, Option.map_eq_some_iff] at first
      obtain ⟨line', first', rfl⟩ := first
      exact unmarked rfl (Option.bind_eq_some_iff.mpr ⟨line', first', starts'⟩)
    · cases ending <;> contradiction

theorem splitLines_fileBytes {ending : Ending} {lines : List String}
    (unbroken : ∀ line ∈ lines, IsUnbroken line.toList) :
    (splitLines (unifyLineEnds (written ending (lines.map String.toList)))).map String.ofList =
      lines := by
  have unbroken' : ∀ line ∈ lines.map String.toList, IsUnbroken line :=
    List.forall_mem_map.mpr unbroken
  rw [splitLines_unifyLineEnds_written unbroken', List.map_map]
  exact (List.map_congr_left fun line _ => String.ofList_toList).trans (List.map_id _)

/-- A file gives back the lines that were written to it. -/
theorem readLines_fileBytes {tree : FileTree} {path : String} {isMarked : Bool} {ending : Ending}
    {lines : List String} (usable : '\x00' ∉ path.toList)
    (unbroken : ∀ line ∈ lines, IsUnbroken line.toList)
    (unmarked : isMarked = false → StartsUnmarked lines)
    (stored : tree.bytes (.ofString path) = .ok (fileBytes isMarked ending lines)) :
    tree.readLines path = .ok lines := by
  have named : ¬path.toList.contains '\x00' = true := by
    rwa [List.contains_iff_mem]
  rw [FileTree.readLines, if_neg named, stored]
  simp only [Except.mapError, bind, Except.bind, pure, Except.pure, decode_fileBytes unmarked,
    splitLines_fileBytes unbroken]

/-- Lines without line ends are kept as they are. -/
theorem lines_ofLines {path : String} {lines : List String}
    (unbroken : ∀ line ∈ lines, IsUnbroken line.toList) :
    (Source.ofLines path lines).lines = lines := by
  have kept : ∀ line ∈ lines, String.ofList (dropEndWhile isLineEnd line.toList) = line := by
    intro line inside
    rw [Line.dropEndWhile_eq_self (unbroken line inside).isLineEnd_eq_false, String.ofList_toList]
  change (lines.map fun line => dropEndWhile isLineEnd line.toList).map String.ofList = lines
  rw [List.map_map]
  exact (List.map_congr_left kept).trans (List.map_id _)

/-- However lines are written to a file, they are read back, and what is found in the file does
not depend on it. -/
theorem check_fileBytes {tree other : FileTree} {path : String} {isMarked isMarked' : Bool}
    {ending ending' : Ending} {lines : List String} (usable : '\x00' ∉ path.toList)
    (unbroken : ∀ line ∈ lines, IsUnbroken line.toList)
    (unmarked : isMarked = false ∨ isMarked' = false → StartsUnmarked lines)
    (stored : tree.bytes (.ofString path) = .ok (fileBytes isMarked ending lines))
    (stored' : other.bytes (.ofString path) = .ok (fileBytes isMarked' ending' lines)) :
    tree.readLines path = .ok lines ∧ (Source.ofLines path lines).lines = lines ∧
      ∀ checker : Checker,
        Checker.examine checker.settings tree path =
            (.checked, checkLines path lines checker.settings) ∧
          checker.check tree path = checker.check other path := by
  have read := readLines_fileBytes usable unbroken (fun plain => unmarked (.inl plain)) stored
  have read' := readLines_fileBytes usable unbroken (fun plain => unmarked (.inr plain)) stored'
  refine ⟨read, lines_ofLines unbroken, fun checker => ⟨?_, ?_⟩⟩
  · rw [Checker.examine, read]
  · rw [Checker.check, Checker.check, Checker.examine, Checker.examine, read, read']

/-- A source with a literal beyond ASCII, ended by line feeds behind carriage returns, or
marked and ended by carriage returns alone. -/
theorem check_fileBytes_literal :
    let lines := ["c = 'é€𝄞'", "", "end"]
    let fed : FileTree := .directory [("a.f90", .file
      [0x63, 0x20, 0x3d, 0x20, 0x27, 0xc3, 0xa9, 0xe2, 0x82, 0xac, 0xf0, 0x9d, 0x84, 0x9e, 0x27,
       0x0d, 0x0a, 0x0d, 0x0a, 0x65, 0x6e, 0x64, 0x0d, 0x0a])]
    let marked : FileTree := .directory [("a.f90", .file
      [0xef, 0xbb, 0xbf, 0x63, 0x20, 0x3d, 0x20, 0x27, 0xc3, 0xa9, 0xe2, 0x82, 0xac, 0xf0, 0x9d,
       0x84, 0x9e, 0x27, 0x0d, 0x0d, 0x65, 0x6e, 0x64, 0x0d])]
    fed.readLines "a.f90" = .ok lines ∧ (Source.ofLines "a.f90" lines).lines = lines ∧
      ∀ checker : Checker,
        Checker.examine checker.settings fed "a.f90" =
            (.checked, checkLines "a.f90" lines checker.settings) ∧
          checker.check fed "a.f90" = checker.check marked "a.f90" := by
  intro lines fed marked
  have stored : fed.bytes (.ofString "a.f90") = .ok (fileBytes false .both lines) := by
    rw [fileBytes_eq]
    decide +kernel
  have stored' :
      marked.bytes (.ofString "a.f90") = .ok (fileBytes true .carriageReturn lines) := by
    rw [fileBytes_eq]
    decide +kernel
  exact check_fileBytes (by decide) (by simp [lines, IsUnbroken, lineBreaks])
    (fun _ => by simp [lines, StartsUnmarked]) stored stored'

end FortranStyle
