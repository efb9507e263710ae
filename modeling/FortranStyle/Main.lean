import FortranStyle.CommandLine.Run

/-!
# The program

The outer layer: it reads files, prints and ends.  The names of the files below the
working directory come in on standard input, one on a line; the files named on the
command line are read besides.  What is made of them is decided by
`FortranStyle.CommandLine.run`.
-/

namespace FortranStyle

/-- The lines of a stream without their line ends. -/
partial def readNames (stream : IO.FS.Stream) : IO (List String) := do
  let line ← stream.getLine
  if line.isEmpty then return []
  return String.ofList (Text.dropEndWhile Text.isLineEnd line.toList) :: (← readNames stream)

/-- Add a file to a tree, if it can be read. -/
def addFile (tree : FileTree) (name : String) : IO FileTree := do
  let path := Path.ofString name
  if path.root ≠ "" || path.parts.isEmpty then return tree
  try
    let bytes ← IO.FS.readBinFile name
    return tree.insert path.parts (.file bytes.toList)
  catch _ => return tree

/-- The files that the arguments name. -/
def namedFiles (texts : List String) : List String :=
  match CommandLine.Arguments.ofTexts texts with
  | .ok arguments => arguments.settingsPath?.toList ++ arguments.paths
  | .error _ => []

end FortranStyle

/-- Run the program. -/
def main (texts : List String) : IO UInt32 := do
  let listed ← FortranStyle.readNames (← IO.getStdin)
  let named := FortranStyle.namedFiles texts
  let tree ← (listed ++ named).foldlM FortranStyle.addFile FortranStyle.FileTree.empty
  match FortranStyle.CommandLine.run tree texts with
  | .ok output =>
      IO.print output.text
      return output.status.toUInt32
  | .error error =>
      IO.eprintln error.message
      return 1
