import JsonSchema.CommandLine.Run

/-!
# The program

Files that the command line may name are read first, the run is computed from them, and then its
results are printed and written.
-/

namespace JsonSchema.CommandLine

/-- The named files that can be read, by their full paths. -/
def readFiles (folder : Folder) : List String → IO (Entries String)
  | [] => return []
  | name :: rest => do
    let others ← readFiles folder rest
    let path := folder.resolve name
    try
      return (path, ← IO.FS.readFile path) :: others
    catch _ => return others

/-- Runs a command line in the current folder. -/
def perform (words : List String) : IO UInt32 := do
  let folder : Folder := { path := (← IO.currentDir).toString }
  let files ← readFiles folder (namedPaths words)
  let outcome := run { folder with files } words
  for (path, text) in outcome.written do
    IO.FS.writeFile path text
  (← IO.getStdout).putStr outcome.output
  (← IO.getStderr).putStr outcome.errors
  return outcome.exitCode.toUInt32

end JsonSchema.CommandLine

/-- Runs the program on its command line. -/
def main (words : List String) : IO UInt32 := JsonSchema.CommandLine.perform words
