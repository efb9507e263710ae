import FortranStyle.Text.Integer

/-!
# Switches on the command line

A switch has a long spelling, of which any beginning that fits no other switch will
do, and some have a letter.  A value is attached with an equals sign, or directly
behind a letter, or follows as the next word.  Only directly behind the first letter
of a word is an equals sign not part of what is attached.  Behind `--` there are no
switches.
-/

namespace FortranStyle.CommandLine

/-- A switch. -/
inductive Switch
  | help
  | settings
  | disable
  | workers
  | format
  | listRules
  | version
  | verbose
  | quiet
deriving DecidableEq, Repr

namespace Switch

/-- The spellings with two dashes. -/
def longSpellings : List (String × Switch) :=
  [("--help", help), ("--config", settings), ("--disable", disable), ("--max-workers", workers),
    ("--format", format), ("--list-rules", listRules), ("--version", version),
    ("--verbose", verbose), ("--quiet", quiet)]

/-- The switch with a letter. -/
def ofLetter? : Char → Option Switch
  | 'h' => some help
  | 'c' => some settings
  | 'v' => some verbose
  | 'q' => some quiet
  | _ => none

/-- Whether a value belongs to the switch. -/
def takesValue : Switch → Bool
  | settings | disable | workers | format => true
  | help | listRules | version | verbose | quiet => false

end Switch

/-- Why a command line is refused. -/
inductive UsageError
  /-- The beginning of several switches. -/
  | ambiguous (word : String)
  | missingValue (switch : Switch)
  | unexpectedValue (switch : Switch) (value : String)
  | notNumber (value : String)
  | unknownFormat (value : String)
  /-- More output and less output are both asked for. -/
  | contradiction
  | unknownWords (words : List String)
deriving DecidableEq, Repr

/-- A word of the command line. -/
inductive Word
  /-- The first `--`. -/
  | separator
  | operand (text : String)
  /-- A long spelling, and the value behind its equals sign. -/
  | long (switch : Switch) (value : Option String)
  /-- A letter, and what is attached to it. -/
  | short (switch : Switch) (attached : Option (List Char))
  /-- A word with a dash that is no switch. -/
  | unknown (text : String)
deriving DecidableEq, Repr

namespace Word

/-- Cut a text at its first equals sign. -/
def cutAtEquals (cs : List Char) : List Char × Option String :=
  let name := cs.takeWhile (· != '=')
  (name, if name.length < cs.length then some (String.ofList (cs.drop (name.length + 1)))
    else none)

/-- A word with a dash that fits no switch.  Negative numbers and words with a space
are operands. -/
def other (text : String) : Word :=
  if Text.isNegativeNumber text || text.toList.contains ' ' then operand text else unknown text

/-- Read a word with two dashes. -/
def ofLong (text : String) : Except UsageError Word :=
  let (name, value) := cutAtEquals text.toList
  let fitting := Switch.longSpellings.filter fun (spelling, _) => name <+: spelling.toList
  match Switch.longSpellings.lookup text with
  | some switch => .ok (long switch none)
  | none =>
      match Switch.longSpellings.lookup (String.ofList name), fitting with
      | some switch, _ => .ok (long switch value)
      | none, [(_, switch)] => .ok (long switch value)
      | none, [] => .ok (other text)
      | none, _ => .error (.ambiguous text)

/-- What is attached to the first letter of a word.  An equals sign in front does not
belong to it. -/
def attachedTo : List Char → Option (List Char)
  | [] => none
  | c :: rest => some (if c = '=' then rest else c :: rest)

/-- Read a word. -/
def ofText (text : String) : Except UsageError Word :=
  match text.toList with
  | '-' :: '-' :: _ => ofLong text
  | '-' :: letter :: attached =>
      match Switch.ofLetter? letter with
      | some switch => .ok (short switch (attachedTo attached))
      | none => .ok (other text)
  | _ => .ok (operand text)

/-- Read the words of a command line. -/
def ofTexts : List String → Except UsageError (List Word)
  | [] => .ok []
  | text :: rest =>
      if text = "--" then .ok (separator :: rest.map operand)
      else do return (← ofText text) :: (← ofTexts rest)

end Word

end FortranStyle.CommandLine
