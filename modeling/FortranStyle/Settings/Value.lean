import FortranStyle.Decimal.Shortest
import FortranStyle.Text.Quoted

/-!
# Values of a settings file

Settings are written as nested lists and mappings of scalars.  A value is shown
in messages much as it is written: texts in quotes, lists in square brackets,
mappings in braces, in the order in which they are given.
-/

namespace FortranStyle

/-- A value as a settings file can hold it.  A key of a mapping is any scalar. -/
inductive Value
  | null
  | bool (value : Bool)
  | int (value : Int)
  | real (value : Float)
  | text (value : String)
  /-- A date or a point in time, which no setting accepts: the kind of value, its
  plain text, and how it is shown inside other values. -/
  | moment (kind plain shown : String)
  | list (items : List Value)
  | mapping (entries : List (Value × Value))
deriving Inhabited

namespace Value

mutual

/-- How a value is shown. -/
def shown : Value → String
  | null => "None"
  | bool value => if value then "True" else "False"
  | int value => toString value
  | real value => Decimal.renderFloat value
  | text value => Text.quoted value
  | moment _ _ shown => shown
  | list items => "[" ++ ", ".intercalate (shownItems items) ++ "]"
  | mapping entries => "\x7b" ++ ", ".intercalate (shownEntries entries) ++ "\x7d"

/-- How the items of a list are shown. -/
def shownItems : List Value → List String
  | [] => []
  | item :: rest => item.shown :: shownItems rest

/-- How the entries of a mapping are shown. -/
def shownEntries : List (Value × Value) → List String
  | [] => []
  | (key, value) :: rest => (key.shown ++ ": " ++ value.shown) :: shownEntries rest

end

/-- The text of a value: a text as it is, and all else as it is shown. -/
def plain : Value → String
  | text value => value
  | moment _ plain _ => plain
  | value => value.shown

/-- The name of the kind of a value. -/
def kind : Value → String
  | null => "NoneType"
  | bool _ => "bool"
  | int _ => "int"
  | real _ => "float"
  | text _ => "str"
  | moment kind _ _ => kind
  | list _ => "list"
  | mapping _ => "dict"

/-- The size of a number; truth values count as one and zero. -/
def magnitude? : Value → Option Float
  | bool value => some (if value then 1 else 0)
  | int value => some (Float.ofInt value)
  | real value => some value
  | _ => none

/-- Whether a value says nothing: zero, false, or something empty. -/
def isBlank : Value → Bool
  | null => true
  | bool value => !value
  | int value => value == 0
  | real value => value == 0
  | text value => value == ""
  | moment .. => false
  | list items => items.isEmpty
  | mapping entries => entries.isEmpty

/-- Whether two scalars are the same key.  Numbers are compared by size, however
they are written. -/
def sameKey : Value → Value → Bool
  | null, null => true
  | int first, int second => first == second
  | text first, text second => first == second
  | moment _ _ first, moment _ _ second => first == second
  | first, second =>
      match first.magnitude?, second.magnitude? with
      | some first, some second => first == second
      | _, _ => false

/-- Add an entry to a mapping.  A key that is there already keeps its place and
takes the new value. -/
def insert (key value : Value) : List (Value × Value) → List (Value × Value)
  | [] => [(key, value)]
  | (other, old) :: rest =>
      if other.sameKey key then (other, value) :: rest else (other, old) :: insert key value rest

/-- The mapping of the given entries, the last one of a key taken. -/
def ofEntries (entries : List (Value × Value)) : Value :=
  mapping (entries.foldl (fun found (key, value) => insert key value found) [])

/-- The value of a key that is a text. -/
def lookup? (entries : List (Value × Value)) (name : String) : Option Value :=
  (entries.find? fun (key, _) => key.sameKey (text name)).map (·.2)

end Value

end FortranStyle
