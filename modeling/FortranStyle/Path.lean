import FortranStyle.Text.Quoted

/-!
# Paths

A path is a list of names below its root.  Empty names and single points are
dropped, but two points are kept: what they mean depends on the files.
-/

namespace FortranStyle

/-- A path: its root, which is empty for a relative path, and its names. -/
structure Path where
  root : String
  parts : List String
deriving DecidableEq, Repr

namespace Path

/-- The root of a path.  Exactly two slashes are a root of their own. -/
def rootOf (cs : List Char) : String :=
  match (cs.takeWhile (· == '/')).length with
  | 0 => ""
  | 2 => "//"
  | _ => "/"

/-- Cut a text at its slashes. -/
def splitSlashes : List Char → List (List Char)
  | [] => [[]]
  | c :: rest =>
      if c = '/' then [] :: splitSlashes rest
      else (splitSlashes rest).modifyHead (c :: ·)

/-- Read a path. -/
def ofString (s : String) : Path :=
  { root := rootOf s.toList
    parts := ((splitSlashes s.toList).filter fun part => part ≠ [] ∧ part ≠ ['.']).map
      String.ofList }

/-- The text of a path; a point stands for the path without names. -/
def toString (path : Path) : String :=
  if path.root = "" && path.parts.isEmpty then "."
  else path.root ++ "/".intercalate path.parts

instance : ToString Path :=
  ⟨Path.toString⟩

/-- The path of something below a directory. -/
def append (path : Path) (parts : List String) : Path :=
  { path with parts := path.parts ++ parts }

/-- The text of a name from its last point on.  A point at either end of the name
does not count. -/
def suffixOf (name : String) : String :=
  let cs := name.toList
  let tail := (cs.reverse.takeWhile (· != '.')).reverse
  let body := cs.length - tail.length - 1
  if tail.isEmpty || tail.length == cs.length || body == 0 then ""
  else String.ofList ('.' :: tail)

/-- The order of paths, name by name. -/
def le (first second : Path) : Bool :=
  !second.parts.lex first.parts fun a b => a < b

end Path

end FortranStyle
