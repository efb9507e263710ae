import FortranStyle.CommandLine.Switch
import FortranStyle.Report

/-!
# The arguments of a run

The words of a command line, read from left to right.  Words that are no switches
are the paths to check.  They stand together in one place, before, between or behind
the switches.

Reading stops at the first error, and where help or the version is asked for.  Words
that nobody takes are an error only at the end.  Two dashes that are attached to a
switch as its value are dropped: the switch is there, but its value is missing.
-/

namespace FortranStyle.CommandLine

/-- What a run is asked to do. -/
structure Arguments where
  paths : List String
  /-- The file with the settings, if one is asked for; its path may be missing. -/
  settingsFile : Option (Option String)
  /-- The rules to turn off, in order; a name may be missing. -/
  disabled : List (Option String)
  /-- How many files may be checked at once; the number may be missing. -/
  workers : Option Int
  /-- The form of the report; it may be missing. -/
  format : Option Report.Format
  listsRules : Bool
  verbose : Nat
  quiet : Nat
deriving DecidableEq, Repr

/-- Why no run follows. -/
inductive Stop
  | error (error : UsageError)
  | help
  | version
deriving DecidableEq, Repr

namespace Arguments

/-- What is done when nothing is asked for. -/
def default : Arguments :=
  { paths := ["."], settingsFile := none, disabled := [], workers := some 8,
    format := some .text, listsRules := false, verbose := 0, quiet := 0 }

/-- How much is printed: three, more when asked to be verbose, and less when asked to
be quiet. -/
def volume (arguments : Arguments) : Int :=
  3 + arguments.verbose - arguments.quiet

/-- The form of a report with a name. -/
def formatOf? : String → Option Report.Format
  | "text" => some .text
  | "json" => some .json
  | _ => none

/-- Read a value, unless it is missing. -/
def valueBy {α : Type} (read : String → Option α) (refusal : String → UsageError) :
    Option String → Except Stop (Option α)
  | none => .ok none
  | some text =>
      match read text with
      | some value => .ok (some value)
      | none => .error (.error (refusal text))

/-- Do as a switch says.  No value counts for a switch that takes none. -/
def apply (arguments : Arguments) (switch : Switch) (value : Option String) :
    Except Stop Arguments :=
  match switch with
  | .help => .error .help
  | .version => .error .version
  | .settings => .ok { arguments with settingsFile := some value }
  | .disable => .ok { arguments with disabled := arguments.disabled ++ [value] }
  | .workers => do
      return { arguments with workers := ← valueBy Text.integer? .notNumber value }
  | .format => do
      return { arguments with format := ← valueBy formatOf? .unknownFormat value }
  | .listRules => .ok { arguments with listsRules := true }
  | .verbose =>
      if arguments.quiet = 0 then .ok { arguments with verbose := arguments.verbose + 1 }
      else .error (.error .contradiction)
  | .quiet =>
      if arguments.verbose = 0 then .ok { arguments with quiet := arguments.quiet + 1 }
      else .error (.error .contradiction)

end Arguments

/-! ## Words with several switches -/

/-- What a word with switches asks for. -/
structure Request where
  /-- The switches with their values. -/
  switches : List (Switch × Option String)
  /-- A switch at the end whose value is the next word. -/
  open? : Option Switch
deriving DecidableEq, Repr

namespace Request

/-- Put a switch without value in front. -/
def cons (switch : Switch) (request : Request) : Request :=
  { request with switches := (switch, none) :: request.switches }

/-- A single switch without an attached value. -/
def single (switch : Switch) : Request :=
  if switch.takesValue then ⟨[], some switch⟩ else ⟨[(switch, none)], none⟩

/-- A value that is attached to a switch.  Two dashes are dropped. -/
def attachedValue (text : String) : Option String :=
  if text = "--" then none else some text

/-- A single switch with an attached value. -/
def valued (switch : Switch) (text : String) : Except UsageError Request :=
  if switch.takesValue then .ok ⟨[(switch, attachedValue text)], none⟩
  else .error (.unexpectedValue switch text)

/-- A switch given by a letter, and what is attached to it: its value, or further
letters, each of a switch. -/
def ofLetters (switch : Switch) : List Char → Except UsageError Request
  | [] => valued switch ""
  | c :: rest =>
      if switch.takesValue then valued switch (String.ofList (c :: rest))
      else
        match Switch.ofLetter? c, rest with
        | none, _ => .error (.unexpectedValue switch (String.ofList (c :: rest)))
        | some next, [] => .ok (cons switch (single next))
        | some next, d :: rest => (ofLetters next (d :: rest)).map (cons switch)

end Request

/-! ## The whole command line -/

/-- Where the paths were read. -/
inductive Operands
  | before
  /-- They were read up to the last word. -/
  | among (paths : List String)
  | behind (paths : List String)
deriving DecidableEq, Repr

namespace Operands

/-- A switch ends the paths. -/
def close : Operands → Operands
  | before => before
  | among paths => behind paths
  | behind paths => behind paths

/-- The paths, or the working directory when there are none. -/
def paths : Operands → List String
  | before => ["."]
  | among paths | behind paths => if paths.isEmpty then ["."] else paths

end Operands

/-- What was read of a command line so far. -/
structure Draft where
  arguments : Arguments
  operands : Operands
  /-- A switch that waits for its value, with the others of its word. -/
  waiting : Option (Switch × Request)
  /-- The words that nobody takes. -/
  left : List String

namespace Draft

/-- Before the first word. -/
def start : Draft :=
  ⟨.default, .before, none, []⟩

/-- Take some paths.  Behind the paths there are no more. -/
def take (draft : Draft) (word : String) (paths : List String) : Draft :=
  match draft.operands with
  | .before => { draft with operands := .among paths }
  | .among known => { draft with operands := .among (known ++ paths) }
  | .behind _ => { draft with left := draft.left ++ [word] }

/-- Do as the switches of a word say. -/
def apply (draft : Draft) (request : Request) : Except Stop Draft := do
  let arguments ← request.switches.foldlM
    (fun arguments (switch, value) => arguments.apply switch value) draft.arguments
  return { draft with arguments, operands := draft.operands.close, waiting := none }

/-- Do as the switches of a word say, as soon as the last one has its value. -/
def ask (draft : Draft) (request : Request) : Except Stop Draft :=
  match request.open? with
  | some switch => .ok { draft with waiting := some (switch, request) }
  | none => draft.apply request

/-- Read a word. -/
def step (draft : Draft) (word : Word) : Except Stop Draft :=
  match draft.waiting, word with
  | some (switch, request), .operand value =>
      draft.apply { request with switches := request.switches ++ [(switch, some value)] }
  | some (switch, _), _ => .error (.error (.missingValue switch))
  | none, .separator => .ok (draft.take "--" [])
  | none, .operand text => .ok (draft.take text [text])
  | none, .unknown text =>
      .ok { draft with
        operands := draft.operands.close, left := draft.left ++ [text] }
  | none, .long switch none => draft.ask (.single switch)
  | none, .long switch (some value) => do
      draft.ask (← (Request.valued switch value).mapError .error)
  | none, .short switch none => draft.ask (.single switch)
  | none, .short switch (some attached) => do
      draft.ask (← (Request.ofLetters switch attached).mapError .error)

/-- The arguments at the end of the command line. -/
def finish (draft : Draft) : Except Stop Arguments :=
  match draft.waiting, draft.left with
  | some (switch, _), _ => .error (.error (.missingValue switch))
  | none, [] => .ok { draft.arguments with paths := draft.operands.paths }
  | none, left => .error (.error (.unknownWords left))

end Draft

/-- Read the arguments of a run. -/
def Arguments.ofTexts (texts : List String) : Except Stop Arguments := do
  let words ← (Word.ofTexts texts).mapError .error
  (← words.foldlM Draft.step .start).finish

end FortranStyle.CommandLine
