import FortranStyle.Proofs.Rendering.Spelling
import FortranStyle.Program.Scan

/-!
# Forests of program units and their text

A forest holds program units and external procedures.  Both hold procedures
behind CONTAINS, and their bodies are trees of block constructs with calls and
assignments as leaves.  A forest is rendered one statement a line, indented by
twice its depth.
-/

namespace FortranStyle.Rendering

/-! ## Words and expressions -/

/-- A name, which may be spelled like any keyword. -/
structure Name where
  chars : List Char
  isName : (chars.head?.any Char.isAlpha && chars.all Lexeme.isNameChar) = true

/-- The name as a text. -/
def Name.text (name : Name) : String :=
  String.ofList name.chars

/-- What a text reads as within a statement that has begun. -/
def reading (chars : List Char) : Line.Reading :=
  Line.readRest 1 1 ⟨true, 0⟩ chars

/-- The code tokens that a text reads as. -/
def code (chars : List Char) : List Token :=
  (reading chars).1.filter Token.isCode

/-- A text that is read on one line without an error, a comment, a continuation
marker or a semicolon. -/
structure Expression where
  chars : List Char
  onOneLine : ∀ c ∈ chars, Text.isLineEnd c = false
  complete : (reading chars).2 = .complete
  ordinary : ∀ token ∈ (reading chars).1, Line.IsOrdinary token

/-- An expression in brackets: the first token opens a round bracket, and its
partner is the last token. -/
structure Bracketed extends Expression where
  opens : Statement.startsBracket (code chars) = true
  closes : Bracket.closingIndex? 0 (code chars) = some ((code chars).length - 1)

/-- A word of a statement that is always there: a name or the sign of
assignment. -/
inductive Word
  | name (name : Name)
  | equals

/-- The characters of a word. -/
def Word.chars : Word → List Char
  | name word => word.chars
  | equals => ['=']

/-- A statement: words, then perhaps an expression, and words behind it. -/
structure Phrase where
  front : List Word
  expression : Option Expression
  back : List Word

/-- The text of a statement, with a blank between its parts. -/
def Phrase.chars (phrase : Phrase) : List Char :=
  [' '].intercalate
    (phrase.front.map Word.chars ++ phrase.expression.toList.map Expression.chars ++
      phrase.back.map Word.chars)

/-- A fixed word. -/
def word (spelling : String)
    (isName : (spelling.toList.head?.any Char.isAlpha &&
      spelling.toList.all Lexeme.isNameChar) = true) : Word :=
  .name ⟨spelling.toList, isName⟩

/-- The word that names a kind of block. -/
def kindWord (kind : BlockKind) : Word :=
  word kind.word (by rcases kind with kind | kind | _ | _ | kind <;> (try cases kind) <;> decide)

/-! ## Bodies -/

/-- A statement that is a leaf of a body. -/
inductive Leaf
  | call (name : Name) (arguments : Option Expression)
  | assignment (target : Name) (value : Expression)

/-- A statement that opens a block construct of the given kind.  The control of a
loop starts with a name: a counter, WHILE or CONCURRENT. -/
inductive Opener : ConstructKind → Type
  | loop : Opener .doLoop
  | loopWith (first : Name) (control : Expression) : Opener .doLoop
  | ifThen (condition : Bracketed) : Opener .ifThen
  | selectCase (selector : Bracketed) : Opener .select
  | whereMask (mask : Bracketed) : Opener .whereMask
  | forallLoop (control : Bracketed) : Opener .forallLoop
  | associate (names : Bracketed) : Opener .associate
  | block : Opener .block
  | critical (control : Option Bracketed) : Opener .critical

/-- A statement that divides a block construct of the given kind. -/
inductive Divider : ConstructKind → Type
  | elseIf (condition : Bracketed) : Divider .ifThen
  | otherwise : Divider .ifThen
  | caseOf (values : Bracketed) : Divider .select
  | caseDefault : Divider .select
  | elsewhere (mask : Option Bracketed) : Divider .whereMask

/-- The statements of a procedure, or of a block construct of the given kind: the
branches of a construct stand between its dividing statements. -/
inductive Body : Option ConstructKind → Type
  | nil {within : Option ConstructKind} : Body within
  | leaf {within : Option ConstructKind} (statement : Leaf) (rest : Body within) : Body within
  | divider {kind : ConstructKind} (statement : Divider kind) (rest : Body (some kind)) :
      Body (some kind)
  | construct {within : Option ConstructKind} {kind : ConstructKind} (opener : Opener kind)
      (inner : Body (some kind)) (rest : Body within) : Body within

/-! ## Procedures and program units -/

/-- The first statement of a procedure. -/
structure ProcedureHeading where
  kind : ProcedureKind
  name : Name
  arguments : Option Bracketed

/-- Successive procedures with their bodies and the procedures inside them.  When
there are none inside, CONTAINS may be there all the same. -/
inductive Procedures
  | nil
  | cons (heading : ProcedureHeading) (body : Body none) (contains : Bool)
      (inner rest : Procedures)

/-- The first statement of a module or program.  The name of a module is not one
that makes the statement the header of a procedure. -/
inductive UnitHeading
  | program (name : Name)
  | module (name : Name)
      (free : ["procedure", "function", "subroutine"].contains (Text.lower name.text) = false)

/-- Successive program units and external procedures. -/
inductive Forest
  | nil
  | programUnit (heading : UnitHeading) (body : Body none) (contains : Bool)
      (inner : Procedures) (rest : Forest)
  | external (heading : ProcedureHeading) (body : Body none) (contains : Bool) (inner : Procedures)
      (rest : Forest)

namespace UnitHeading

def kind : UnitHeading → UnitKind
  | program _ => .program
  | module _ _ => .module

def name : UnitHeading → Name
  | program name => name
  | module name _ => name

end UnitHeading

/-! ## Clauses -/

/-- The statement on a line. -/
inductive Clause
  | leaf (statement : Leaf)
  | opener {kind : ConstructKind} (statement : Opener kind)
  | divider {kind : ConstructKind} (statement : Divider kind)
  | endConstruct (kind : ConstructKind)
  | procedure (heading : ProcedureHeading)
  | programUnit (heading : UnitHeading)
  | implicitNone
  | contains
  | endBlock (kind : BlockKind) (name : Name)

/-- The words of a statement that may start with a variable. -/
def Leaf.phrase : Leaf → Phrase
  | call name arguments =>
      ⟨[word "call" (by decide), .name name], arguments, []⟩
  | assignment target value => ⟨[.name target, .equals], some value, []⟩

def Opener.phrase {kind : ConstructKind} : Opener kind → Phrase
  | loop => ⟨[word "do" (by decide)], none, []⟩
  | loopWith first control => ⟨[word "do" (by decide), .name first], some control, []⟩
  | ifThen condition =>
      ⟨[word "if" (by decide)], some condition.toExpression, [word "then" (by decide)]⟩
  | selectCase selector =>
      ⟨[word "select" (by decide), word "case" (by decide)], some selector.toExpression, []⟩
  | whereMask mask => ⟨[word "where" (by decide)], some mask.toExpression, []⟩
  | forallLoop control => ⟨[word "forall" (by decide)], some control.toExpression, []⟩
  | associate names => ⟨[word "associate" (by decide)], some names.toExpression, []⟩
  | block => ⟨[word "block" (by decide)], none, []⟩
  | critical control => ⟨[word "critical" (by decide)], control.map (·.toExpression), []⟩

def Divider.phrase {kind : ConstructKind} : Divider kind → Phrase
  | elseIf condition =>
      ⟨[word "else" (by decide), word "if" (by decide)], some condition.toExpression,
        [word "then" (by decide)]⟩
  | otherwise => ⟨[word "else" (by decide)], none, []⟩
  | caseOf values => ⟨[word "case" (by decide)], some values.toExpression, []⟩
  | caseDefault => ⟨[word "case" (by decide), word "default" (by decide)], none, []⟩
  | elsewhere mask => ⟨[word "elsewhere" (by decide)], mask.map (·.toExpression), []⟩

/-- The words of a statement and the expression among them. -/
def Clause.phrase : Clause → Phrase
  | leaf statement => statement.phrase
  | opener statement => statement.phrase
  | divider statement => statement.phrase
  | endConstruct kind => ⟨[word "end" (by decide), kindWord (.construct kind)], none, []⟩
  | procedure heading =>
      ⟨[kindWord (.procedure heading.kind), .name heading.name],
        heading.arguments.map (·.toExpression), []⟩
  | programUnit heading => ⟨[kindWord (.unit heading.kind), .name heading.name], none, []⟩
  | implicitNone => ⟨[word "implicit" (by decide), word "none" (by decide)], none, []⟩
  | contains => ⟨[word "contains" (by decide)], none, []⟩
  | endBlock kind name => ⟨[word "end" (by decide), kindWord kind, .name name], none, []⟩

/-! ## Rows -/

/-- A line: the depth of its statement and the statement. -/
structure Row where
  depth : Nat
  clause : Clause

/-- The characters of a line, with two blanks of indentation for each level. -/
def Row.chars (row : Row) : List Char :=
  List.replicate (2 * row.depth) ' ' ++ row.clause.phrase.chars

/-- The lines of a body whose statements stand at the given depth.  A dividing
statement stands at the depth of the construct. -/
def Body.rows {within : Option ConstructKind} (depth : Nat) : Body within → List Row
  | nil => []
  | leaf statement rest => ⟨depth, .leaf statement⟩ :: rest.rows depth
  | divider statement rest => ⟨depth - 1, .divider statement⟩ :: rest.rows depth
  | @construct _ kind opener inner rest =>
      ⟨depth, .opener opener⟩ :: inner.rows (depth + 1) ++
        ⟨depth, .endConstruct kind⟩ :: rest.rows depth

/-- The line of CONTAINS, which is there when procedures follow, or anyway. -/
def containsRow (contains : Bool) (inner : Procedures) (depth : Nat) : List Row :=
  match contains, inner with
  | false, .nil => []
  | _, _ => [⟨depth, .contains⟩]

/-- The lines of successive procedures. -/
def Procedures.rows (depth : Nat) : Procedures → List Row
  | nil => []
  | cons heading body contains inner rest =>
      ⟨depth, .procedure heading⟩ :: body.rows (depth + 1) ++ containsRow contains inner depth ++
        inner.rows (depth + 1) ++
        ⟨depth, .endBlock (.procedure heading.kind) heading.name⟩ :: rest.rows depth

/-- The lines of a program unit. -/
def UnitHeading.rows (heading : UnitHeading) (body : Body none) (contains : Bool)
    (inner : Procedures) : List Row :=
  ⟨0, .programUnit heading⟩ :: (⟨1, .implicitNone⟩ ::
    (body.rows 1 ++ containsRow contains inner 0 ++ inner.rows 1)) ++
    [⟨0, .endBlock (.unit heading.kind) heading.name⟩]

/-- The lines of a forest. -/
def Forest.rows : Forest → List Row
  | nil => []
  | programUnit heading body contains inner rest =>
      heading.rows body contains inner ++ rest.rows
  | external heading body contains inner rest =>
      (Procedures.cons heading body contains inner .nil).rows 0 ++ rest.rows

/-- The text of a forest, line by line. -/
def Forest.render (forest : Forest) : List String :=
  forest.rows.map fun row => String.ofList row.chars

example :
    let condition : Bracketed :=
      ⟨⟨"(n > 0)".toList, by simp [Text.isLineEnd], by decide +kernel, by decide +kernel⟩,
        by decide +kernel, by decide +kernel⟩
    let value : Expression :=
      ⟨"x - 1".toList, by simp [Text.isLineEnd], by decide +kernel, by decide +kernel⟩
    (Forest.programUnit (.program ⟨"end".toList, by decide⟩)
      (.construct (.ifThen condition)
        (.leaf (.assignment ⟨"if".toList, by decide⟩ value) .nil) .nil)
      false .nil .nil).render =
      ["program end", "  implicit none", "  if (n > 0) then", "    if = x - 1", "  end if",
        "end program end"] := by
  decide

/-! ## What a scan should recover -/

/-- The number of lines of a body. -/
def Body.size {within : Option ConstructKind} (body : Body within) : Nat :=
  (body.rows 0).length

/-- The number of lines of successive procedures. -/
def Procedures.size (procedures : Procedures) : Nat :=
  (procedures.rows 0).length

/-- A program unit or procedure: its kind, its name, its first and its last line
and the procedures inside it. -/
structure Shape where
  kind : BlockKind
  name : String
  startLine : Nat
  endLine : Nat
  inner : List Shape

/-- Whether the shape is that of a program unit. -/
def Shape.isUnit (shape : Shape) : Bool :=
  match shape.kind with
  | .unit _ => true
  | _ => false

/-- The kind and the name of a program unit or procedure. -/
def Shape.heading (shape : Shape) : BlockKind × String :=
  (shape.kind, shape.name)

/-- The line behind the body and CONTAINS of a scope that starts on a line, with
`more` lines between its first statement and its body. -/
def innerLine (line more : Nat) (body : Body none) (contains : Bool) (inner : Procedures) : Nat :=
  line + 1 + more + body.size + (containsRow contains inner 0).length

/-- The shapes of successive procedures, the first of which starts on a line. -/
def Procedures.shapes (line : Nat) : Procedures → List Shape
  | nil => []
  | cons heading body contains inner rest =>
      let innerLine := innerLine line 0 body contains inner
      let endLine := innerLine + inner.size
      ⟨.procedure heading.kind, heading.name.text, line, endLine, inner.shapes innerLine⟩ ::
        rest.shapes (endLine + 1)

/-- The shapes of the program units and the external procedures of a forest that
starts on a line. -/
def Forest.shapes (line : Nat) : Forest → List Shape
  | nil => []
  | programUnit heading body contains inner rest =>
      let innerLine := innerLine line 1 body contains inner
      let endLine := innerLine + inner.size
      ⟨.unit heading.kind, heading.name.text, line, endLine, inner.shapes innerLine⟩ ::
        rest.shapes (endLine + 1)
  | external heading body contains inner rest =>
      let procedures := Procedures.cons heading body contains inner .nil
      procedures.shapes line ++ rest.shapes (line + procedures.size)

end FortranStyle.Rendering

namespace FortranStyle

open Rendering

mutual

/-- The shape of a procedure that has been recovered. -/
def Procedure.shape : Procedure → Shape
  | ⟨kind, token, startLine, endLine, _, _, _, _, _, _, _, _, children, _⟩ =>
    ⟨.procedure kind, token.text, startLine, endLine, Procedure.shapes children⟩

/-- The shapes of successive procedures. -/
def Procedure.shapes : List Procedure → List Shape
  | [] => []
  | procedure :: rest => procedure.shape :: Procedure.shapes rest

end

theorem Procedure.shape_eq (procedure : Procedure) :
    procedure.shape = ⟨.procedure procedure.kind, procedure.name, procedure.startLine,
      procedure.endLine, Procedure.shapes procedure.children⟩ := by
  cases procedure
  rfl

theorem Procedure.shapes_eq_map (procedures : List Procedure) :
    Procedure.shapes procedures = procedures.map Procedure.shape := by
  induction procedures with
  | nil => rfl
  | cons procedure rest ih => rw [Procedure.shapes, ih, List.map_cons]

/-- The shape of a program unit that has been recovered. -/
def ProgramUnit.shape (programUnit : ProgramUnit) : Shape :=
  ⟨.unit programUnit.kind, programUnit.name, programUnit.startLine, programUnit.endLine,
    Procedure.shapes programUnit.procedures⟩

end FortranStyle
