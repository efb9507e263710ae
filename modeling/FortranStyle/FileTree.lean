import FortranStyle.Path

/-!
# File trees

The files below a working directory, as a value.  Nothing is known of what lies
above it except that it is a directory.
-/

namespace FortranStyle

/-- A file with its bytes, or a directory with its entries. -/
inductive FileTree
  | file (bytes : List UInt8)
  | directory (entries : List (String × FileTree))
deriving Inhabited

/-- Why a path leads to no file. -/
inductive PathError
  | notFound
  | notDirectory
  | isDirectory
  | nameTooLong
deriving DecidableEq, Repr

/-- The text shown for an error at a path. -/
def PathError.message (error : PathError) (path : String) : String :=
  let text := match error with
    | notFound => "[Errno 2] No such file or directory"
    | notDirectory => "[Errno 20] Not a directory"
    | isDirectory => "[Errno 21] Is a directory"
    | nameTooLong => "[Errno 36] File name too long"
  s!"{text}: {Text.quoted path}"

namespace FileTree

/-- The working directory without files. -/
def empty : FileTree :=
  .directory []

/-- Follow one name.  A place is the list of directories down to it, the innermost
first; the empty list lies above the working directory. -/
def follow (place : List FileTree) (part : String) : Except PathError (List FileTree) :=
  match place with
  | [] =>
      if part = ".." then .ok [] else .error .notFound
  | .file _ :: _ => .error .notDirectory
  | .directory entries :: above =>
      if part.utf8ByteSize > 255 then .error .nameTooLong
      else if part = ".." then .ok above
      else
        match entries.lookup part with
        | some node => .ok (node :: .directory entries :: above)
        | none => .error .notFound

/-- The place a path leads to.  A name has at most 255 bytes and a path at most
4095. -/
def resolve (tree : FileTree) (path : Path) : Except PathError (List FileTree) :=
  if path.toString.utf8ByteSize > 4095 then .error .nameTooLong
  else path.parts.foldlM follow (if path.root = "" then [tree] else [])

/-- The bytes of the file a path leads to. -/
def bytes (tree : FileTree) (path : Path) : Except PathError (List UInt8) := do
  match ← tree.resolve path with
  | .file bytes :: _ => return bytes
  | _ => throw .isDirectory

mutual

/-- All files at a node or below it, as the names that lead to them. -/
def files : FileTree → List (List String)
  | .file _ => [[]]
  | .directory entries => filesIn entries

/-- All files at some entries or below them. -/
def filesIn : List (String × FileTree) → List (List String)
  | [] => []
  | (name, node) :: rest => (files node).map (name :: ·) ++ filesIn rest

end

/-! ## Changing a tree -/

/-- Replace or add an entry. -/
def setEntry (name : String) (node : FileTree) :
    List (String × FileTree) → List (String × FileTree)
  | [] => [(name, node)]
  | (other, old) :: rest =>
      if other = name then (name, node) :: rest else (other, old) :: setEntry name node rest

/-- Put a node at the place that some names lead to.  Directories are made where
they are missing. -/
def insert (tree : FileTree) (parts : List String) (node : FileTree) : FileTree :=
  match parts, tree with
  | [], _ => node
  | name :: rest, .directory entries =>
      let inner := (entries.lookup name).getD .empty
      .directory (setEntry name (inner.insert rest node) entries)
  | name :: rest, .file _ => .directory [(name, empty.insert rest node)]

/-- Remove what some names lead to. -/
def erase (tree : FileTree) (parts : List String) : FileTree :=
  match parts, tree with
  | [name], .directory entries => .directory (entries.filter (·.1 != name))
  | name :: rest, .directory entries =>
      match entries.lookup name with
      | some inner => .directory (setEntry name (inner.erase rest) entries)
      | none => .directory entries
  | _, tree => tree

end FileTree

end FortranStyle
