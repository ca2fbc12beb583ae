import Mend.Cli.Run
import Mend.Shell.Run

/-!
# The program on a real directory

Reads the files below the current directory, does what the command line asks for, and writes back the
files that are different afterwards. No scanner and no model can be reached from here: a job that
needs one is told so. Build commands run on the files that were read.
-/

open Mend

/-- Answers that nothing can be reached. -/
def noServer : Scanner.Server Unit where
  refusal? _ := none
  answer _ _ s := (.broken "no connection", s)

/-- A model that breaks off every session. -/
def noModel : Model.Service Unit := fun _ _ => return [.broken "no model service"]

/-- Reads what lies below a directory. Links are left alone. -/
partial def readEntries (here : IO.FS.DirEntry) : IO (List (Text × Entry)) := do
  let name := Text.ofString here.fileName
  match (← here.path.symlinkMetadata).type with
  | .dir =>
    let below ← (← here.path.readDir).toList.mapM readEntries
    return [(name, .dir below.flatten)]
  | .file => return [(name, .file (← IO.FS.readBinFile here.path).toList)]
  | _ => return []

/-- Writes the files of a tree that are not the same in another one, and removes those that it lacks.
-/
def writeBack (old new : Tree) : IO Unit := do
  let before := old.top.files
  let after := new.top.files
  let nameOf (place : Place) : String := (Text.join [Path.slash] place).toString
  for (place, contents) in after do
    if before.lookup place != some contents then
      if 1 < place.length then IO.FS.createDirAll (nameOf place.dropLast)
      IO.FS.writeBinFile (nameOf place) (ByteArray.mk contents.toArray)
  for (place, _) in before do
    if (after.lookup place).isNone then IO.FS.removeFile (nameOf place)

/-- The values of the variables that are set. -/
def readEnvironment : IO Environment := do
  let found ← Environment.names.mapM fun name => do
    return (← IO.getEnv name).map fun value => (Text.ofString name, Text.ofString value)
  return found.filterMap id

/-- The program. -/
def main (args : List String) : IO UInt32 := do
  let entries ← (← (← IO.currentDir).readDir).toList.mapM readEntries
  let tree : Tree := ⟨.dir entries.flatten⟩
  let environment ← readEnvironment
  let interpreter := Text.ofString ((← IO.getEnv "INTERPRETER").getD "interpreter")
  let (result, world) := Cli.run
    { environment, interpreter, server := noServer, model := noModel
      runner := Shell.runner environment, depth := ⟨980, by decide⟩ }
    (args.map Text.ofString) { tree, extra := () }
  writeBack tree world.tree
  IO.print result.out.toString
  IO.eprint result.err.toString
  match result.status with
  | .ok n => return n.toUInt32
  | .error e =>
    IO.eprintln e.message.toString
    return 1
