/-!
# Kinds of blocks

Everything that an END statement closes: program units, procedures, interfaces,
derived types and block constructs.
-/

namespace FortranStyle

/-- The kinds of program units. -/
inductive UnitKind
  | program
  | module
  | submodule
deriving DecidableEq, Repr

/-- The kinds of procedures. -/
inductive ProcedureKind
  | function
  | subroutine
deriving DecidableEq, Repr

/-- The block constructs. -/
inductive ConstructKind
  | associate
  | block
  | critical
  | doLoop
  | enumeration
  | forallLoop
  | ifThen
  | select
  | whereMask
deriving DecidableEq, Repr

/-- The kinds of blocks that an END statement can name. -/
inductive BlockKind
  | unit (kind : UnitKind)
  | procedure (kind : ProcedureKind)
  | interface
  | derivedType
  | construct (kind : ConstructKind)
deriving DecidableEq, Repr

/-- The word that opens a unit of the kind. -/
def UnitKind.word : UnitKind → String
  | program => "program"
  | module => "module"
  | submodule => "submodule"

/-- The word that opens a procedure of the kind. -/
def ProcedureKind.word : ProcedureKind → String
  | function => "function"
  | subroutine => "subroutine"

/-- The word that opens a construct of the kind. -/
def ConstructKind.word : ConstructKind → String
  | associate => "associate"
  | block => "block"
  | critical => "critical"
  | doLoop => "do"
  | enumeration => "enum"
  | forallLoop => "forall"
  | ifThen => "if"
  | select => "select"
  | whereMask => "where"

namespace BlockKind

/-- The word that names a kind of block. -/
def word : BlockKind → String
  | unit kind => kind.word
  | procedure kind => kind.word
  | interface => "interface"
  | derivedType => "type"
  | construct kind => kind.word

/-- All kinds of blocks. -/
def all : List BlockKind :=
  [unit .program, unit .module, unit .submodule, procedure .function, procedure .subroutine,
    interface, derivedType, construct .associate, construct .block, construct .critical,
    construct .doLoop, construct .enumeration, construct .forallLoop, construct .ifThen,
    construct .select, construct .whereMask]

/-- The kind of block with the given name. -/
def ofWord? (word : String) : Option BlockKind :=
  all.find? (·.word == word)

/-- Whether blocks of the kind hold declarations of their own. -/
def isScope : BlockKind → Bool
  | unit _ | procedure _ => true
  | _ => false

theorem ofWord?_word (kind : BlockKind) : ofWord? kind.word = some kind := by
  rcases kind with kind | kind | _ | _ | kind <;> (try cases kind) <;> decide

end BlockKind

end FortranStyle
