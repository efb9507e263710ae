import FortranStyle.Diagnostic

/-!
# The rules of style

Every rule has a name under which it is configured and reported, a default
severity, the representation of a file that it looks at, and a title.  The order
of `Rule.all` is the order in which the rules look at a file.
-/

namespace FortranStyle

/-- What a rule looks at. -/
inductive Representation
  | lines
  | tokens
  | tree
  /-- Errors met before a file could be judged. -/
  | internal
deriving DecidableEq, Repr

/-- The name of a representation in output. -/
def Representation.name : Representation → String
  | lines => "lines"
  | tokens => "tokens"
  | tree => "tree"
  | internal => "internal"

/-- The rules. -/
inductive Rule
  | lineLength
  | tabs
  | trailingBlanks
  | indentStep
  | constructorStyle
  | sectionOrder
  | literalKind
  | implicitNone
  | intentRequired
  | sideEffect
  | explicitVisibility
  | onlyRequired
  | usePlacement
  | namePrefix
  | oneUnitPerFile
  | setupContract
  | declarationKind
  | savedVariable
  | automaticArray
  | lexError
  | structuralError
  | readError
  | settingsError
  | unexpectedError
deriving DecidableEq, Repr

namespace Rule

/-- All rules, in the order in which they look at a file. -/
def all : List Rule :=
  [lineLength, tabs, trailingBlanks, indentStep, constructorStyle, sectionOrder, literalKind,
    implicitNone, intentRequired, sideEffect, explicitVisibility, onlyRequired, usePlacement,
    namePrefix, oneUnitPerFile, setupContract, declarationKind, savedVariable, automaticArray,
    lexError, structuralError, readError, settingsError, unexpectedError]

theorem mem_all (rule : Rule) : rule ∈ all := by
  cases rule <;> decide

/-- The name under which a rule is configured and reported. -/
def name : Rule → String
  | lineLength => "LINE-LENGTH"
  | tabs => "NO-TABS"
  | trailingBlanks => "TRAILING-WHITESPACE"
  | indentStep => "INDENT-STEP"
  | constructorStyle => "ARRAY-CTOR-STYLE"
  | sectionOrder => "SLICE-STRIDE-ORDER"
  | literalKind => "LITERAL-KIND"
  | implicitNone => "IMPLICIT-NONE"
  | intentRequired => "INTENT-REQUIRED"
  | sideEffect => "PURITY-SIDE-EFFECT"
  | explicitVisibility => "VISIBILITY-EXPLICIT"
  | onlyRequired => "USE-ONLY"
  | usePlacement => "USE-PLACEMENT"
  | namePrefix => "NAMING-PREFIX"
  | oneUnitPerFile => "ONE-MODULE-PER-FILE"
  | setupContract => "SETUP-CONTRACT"
  | declarationKind => "DECL-KIND"
  | savedVariable => "NO-SAVE"
  | automaticArray => "AUTOMATIC-ARRAY"
  | lexError => "LEX-ERROR"
  | structuralError => "STRUCTURE"
  | readError => "IO-ERROR"
  | settingsError => "CONFIG-ERROR"
  | unexpectedError => "INTERNAL-ERROR"

/-- The rule of a name. -/
def ofName? (name : String) : Option Rule :=
  all.find? (·.name == name)

theorem ofName?_name (rule : Rule) : ofName? rule.name = some rule := by
  cases rule <;> decide

/-- What a rule looks at. -/
def representation : Rule → Representation
  | lineLength | tabs | trailingBlanks | indentStep => .lines
  | constructorStyle | sectionOrder | literalKind => .tokens
  | lexError | structuralError | readError | settingsError | unexpectedError => .internal
  | _ => .tree

/-- Whether the findings of a rule depend on the recovered structure. -/
def needsStructure (rule : Rule) : Bool :=
  rule.representation == .tree || rule == indentStep

/-- The severity of a rule that is not configured. -/
def defaultSeverity : Rule → Severity
  | trailingBlanks | indentStep | constructorStyle | sectionOrder | literalKind | sideEffect
  | explicitVisibility | namePrefix | declarationKind | savedVariable | automaticArray => .warning
  | _ => .error

/-- What a rule is about, in one line. -/
def title : Rule → String
  | lineLength => "Line longer than the maximum line length"
  | tabs => "Line includes tab character"
  | trailingBlanks => "Trailing whitespace"
  | indentStep => "Statement not indented by two spaces per nesting level"
  | constructorStyle => "Used (/ 1,2,3 /) form of array constructor, rather than [1,2,3]"
  | sectionOrder => "Array section takes a scalar subscript before a ':' subscript"
  | literalKind => "Real literal constant without a _kind suffix"
  | implicitNone => "Program or module is missing IMPLICIT NONE"
  | intentRequired => "Dummy argument without an explicit INTENT"
  | sideEffect => "Function body has a side effect"
  | explicitVisibility => "Module visibility not explicit"
  | onlyRequired => "USE statement without an ONLY list"
  | usePlacement => "USE statement after the specification part"
  | namePrefix => "Public module procedure not prefixed with the module name"
  | oneUnitPerFile => "File must hold exactly one top-level program unit"
  | setupContract => "Setup module exposes more or less than its init and cleanup"
  | declarationKind => "Real or complex declaration without a kind parameter"
  | savedVariable => "SAVE attribute, SAVE statement or implicitly saved local"
  | automaticArray => "Local automatic array; use an allocatable array"
  | lexError => "Line could not be tokenized"
  | structuralError => "Unit or construct boundaries do not pair up"
  | readError => "File could not be read"
  | settingsError => "Rule configuration is invalid"
  | unexpectedError => "Checking the file failed unexpectedly"

/-- A finding of a rule with its default severity. -/
def diagnostic (rule : Rule) (file : String) (line column : Int) (message : String) : Diagnostic :=
  { rule := rule.name, severity := rule.defaultSeverity, file, line, column, message,
    isPartial := false }

/-- Rules in the order of their names. -/
def sortByName (rules : List Rule) : List Rule :=
  rules.mergeSort fun first second => first.name ≤ second.name

/-- The rules that look at one representation, by name. -/
def lookingAt (representation : Representation) : List Rule :=
  sortByName (all.filter (·.representation == representation))

end Rule

end FortranStyle
