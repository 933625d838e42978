import JsonSchema.Json.Basic

/-!
# Folders

The program runs in a folder and knows the texts of files by their full paths.
-/

namespace JsonSchema.CommandLine

/-- A folder with the files that can be read from it, by their full paths. -/
structure Folder where
  path : String
  files : Entries String := []

namespace Folder

/-- The segments of a path, without those that stay in place and those that are taken back. -/
def segments (path : String) : List String :=
  (path.splitOn "/").foldl (fun done segment =>
    if segment = "" ∨ segment = "." then done
    else if segment = ".." then done.dropLast
    else done ++ [segment]) []

/-- The full path of a path that is given from the folder. -/
def resolve (folder : Folder) (given : String) : String :=
  if given.startsWith "/" then "/" ++ "/".intercalate (segments given)
  else folder.path ++ String.join ((segments given).map ("/" ++ ·))

/-- The text of a file by its full path. -/
def text? (folder : Folder) (path : String) : Option String := Entries.find? path folder.files

/-- Whether a file is there, by its full path. -/
def holds (folder : Folder) (path : String) : Bool := (folder.text? path).isSome

/-- The last part of a path. -/
def lastName (path : String) : String := (path.splitOn "/").getLastD ""

/-- A path as reports show it: by its last part where the file is there. -/
def shown (folder : Folder) (path : String) : String :=
  if folder.holds path then lastName path else path

end Folder

/-- A text with every kind of line end turned into a line feed. -/
def unifyLineEnds : List Char → List Char
  | [] => []
  | '\r' :: '\n' :: rest => '\n' :: unifyLineEnds rest
  | '\r' :: rest => '\n' :: unifyLineEnds rest
  | c :: rest => c :: unifyLineEnds rest

end JsonSchema.CommandLine
