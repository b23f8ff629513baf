import SqlTemplate.Command
import SqlTemplate.Library.Plain

/-!
# The program

The command is a function of a disk, of libraries and of the words of its line. The program reads
off the disk what the line speaks of, hands it over, and writes what comes back. Of a directory only
the template files are read; the other files are noted without their content. Nothing is decided
here.
-/

set_option autoImplicit false

namespace SqlTemplate

def Request.paths : Request → List Path
  | .render _ inputs _ dialectsFile _ _ paramsFile =>
    inputs ++ dialectsFile.toList ++ paramsFile.toList
  | .list inputs _ => inputs
  | .dialects dialectsFile => dialectsFile.toList

/-- What is at an entry of a directory and below it, with the names that lead to each. -/
partial def readEntry (way : List String) (e : IO.FS.DirEntry) :
    IO (List (List String × Item)) := do
  let way := way ++ [e.fileName]
  match (← e.path.metadata).type with
  | .dir =>
    let below ← (← e.path.readDir).toList.mapM (readEntry way)
    return (way, .directory) :: below.flatten
  | .file =>
    if Path.hasEnding e.fileName then return [(way, .file (← IO.FS.readBinFile e.path))]
    else return [(way, .file .empty)]
  | _ => return [(way, .special)]

/-- What is at a path, and the directories on the way there. -/
def readPath (location : List String) (path : Path) : IO (List (List String × Item)) := do
  let here ← IO.currentDir
  let mut found : List (List String × Item) := []
  let mut way : List String := []
  for name in (if path.isAbsolute then [] else location) ++ path.parts do
    way := if name = ".." then way.dropLast else way ++ [name]
    if ← (here / Path.joinNames ("" :: way)).isDir then
      found := found ++ [(way, .directory)]
  let target := here / Path.joinNames ("" :: way)
  if !(← target.pathExists) then return found
  match (← target.metadata).type with
  | .dir =>
    let below ← (← target.readDir).toList.mapM (readEntry way)
    return found ++ below.flatten
  | .file => return found ++ [(way, .file (← IO.FS.readBinFile target))]
  | _ => return found ++ [(way, .special)]

/-- The part of the disk that a command line speaks of. -/
def readDisk (words : List String) : IO Disk := do
  let location := (Path.ofText (← IO.currentDir).toString).parts
  let paths := match Invocation.read words with
    | .ok invocation => invocation.request.paths
    | .error _ => []
  let found ← paths.mapM (readPath location)
  return found.flatten.foldl (fun disk (way, item) => disk.add (.absolute way) item)
    ⟨[], location⟩

end SqlTemplate

def main (words : List String) : IO UInt32 := do
  let outcome :=
    SqlTemplate.runCommand (← SqlTemplate.readDisk words) SqlTemplate.Library.plain words
  (← IO.getStdout).putStr outcome.output
  (← IO.getStderr).putStr outcome.log
  match outcome.ending with
  | .status code => return code.toUInt32
  | .stopped code => return code.toUInt32
  | .fault fault =>
    (← IO.getStderr).putStrLn s!"{fault.kind.name}: {fault.message}"
    return 1
