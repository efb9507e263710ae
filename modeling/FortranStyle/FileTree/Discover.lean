import FortranStyle.FileTree

/-!
# Finding files to check

A directory stands for the source files in it and below it.  A file that is named
is checked whatever its name is, and what does not exist is reported.
-/

namespace FortranStyle.FileTree

/-- The suffixes of files with free-form source. -/
def sourceSuffixes : List String :=
  [".f90", ".f95", ".f03", ".f08", ".F90"]

/-- Whether the last of some names is that of a source file. -/
def isSourceName (parts : List String) : Bool :=
  parts.getLast?.any fun name => sourceSuffixes.contains (Path.suffixOf name)

/-- The source files in a directory and below it, in order. -/
def sourcesBelow (path : Path) (directory : FileTree) : List Path :=
  (directory.files.filter isSourceName).map path.append |>.mergeSort Path.le

/-- The files to check and the paths that lead nowhere. -/
structure Found where
  files : List Path
  missing : List Path
deriving DecidableEq, Repr

/-- A path that nothing can be asked about, and why. -/
structure PathFault where
  path : Path
  error : PathError
deriving DecidableEq, Repr

/-- The text shown for a path that nothing can be asked about. -/
def PathFault.message (fault : PathFault) : String :=
  fault.error.message fault.path.toString

/-- The files that a path stands for.  A path with a null character leads nowhere;
one that is too long is a fault. -/
def discoverAt (tree : FileTree) (path : Path) : Except PathFault Found :=
  if path.parts.any (·.toList.contains '\x00') then .ok ⟨[], [path]⟩
  else
    match tree.resolve path with
    | .ok (.directory entries :: _) => .ok ⟨sourcesBelow path (.directory entries), []⟩
    | .ok (.file _ :: _) => .ok ⟨[path], []⟩
    | .ok [] => .ok ⟨[], []⟩
    | .error .nameTooLong => .error ⟨path, .nameTooLong⟩
    | .error _ => .ok ⟨[], [path]⟩

/-- The files that some paths stand for, in the order of the paths. -/
def discover (tree : FileTree) (paths : List Path) : Except PathFault Found := do
  let found ← paths.mapM tree.discoverAt
  return ⟨found.flatMap (·.files), found.flatMap (·.missing)⟩

end FortranStyle.FileTree
