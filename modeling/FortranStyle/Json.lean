import FortranStyle.Text.Quoted

/-!
# Diagnostics as JSON

Records are written one field a line, indented by two spaces a level, in ASCII:
every other character is an escape of four hexadecimal digits, or two such escapes
for a character beyond the first plane.
-/

namespace FortranStyle.Json

/-- The escape of a unit of sixteen bits. -/
def unitEscape (n : Nat) : List Char :=
  '\\' :: 'u' :: Text.hexDigits 4 n

/-- How one character is written inside a string. -/
def escaped (c : Char) : List Char :=
  let n := c.toNat
  if c = '"' then ['\\', '"']
  else if c = '\\' then ['\\', '\\']
  else if c = '\n' then ['\\', 'n']
  else if c = '\r' then ['\\', 'r']
  else if c = '\t' then ['\\', 't']
  else if n = 0x08 then ['\\', 'b']
  else if n = 0x0c then ['\\', 'f']
  else if 0x20 ≤ n ∧ n < 0x7f then [c]
  else if n < 0x10000 then unitEscape n
  else unitEscape (0xd800 + (n - 0x10000) / 0x400) ++ unitEscape (0xdc00 + (n - 0x10000) % 0x400)

/-- A text as a JSON string. -/
def quote (s : String) : String :=
  String.ofList ('"' :: s.toList.flatMap escaped ++ ['"'])

/-- A truth value. -/
def bool (value : Bool) : String :=
  if value then "true" else "false"

/-- An object inside a list, from the names and the written values of its
fields. -/
def record (fields : List (String × String)) : String :=
  "  \x7b\n" ++
    ",\n".intercalate (fields.map fun (name, value) => "    " ++ quote name ++ ": " ++ value) ++
    "\n  \x7d"

/-- A list of written records. -/
def list (records : List String) : String :=
  if records.isEmpty then "[]" else "[\n" ++ ",\n".intercalate records ++ "\n]"

end FortranStyle.Json
