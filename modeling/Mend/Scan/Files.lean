import Mend.Project.Tree
import Mend.Settings.Basic
import Mend.Text.Class

/-!
# Source files

Which files of a project a local scan reads, and in which order: the files of a directory by name,
and then those of its subdirectories. Excluded directories and directories of tests are not entered.

## Main definitions

* `SourceFile`, `sourceFiles` — the files to read.
* `isTestPath` — whether a file lies in a directory of tests.
-/

namespace Mend.Scan

/-- The names of directories that hold tests. -/
def testDirectories : List Text := ["test", "tests", "__tests__"]

/-- Whether a directory lies on the way to a file that holds tests. -/
def isTestPath (path : Text) : Bool :=
  (Path.ofText path).parts.dropLast.any fun name => testDirectories.elem name.lower

/-- Whether a directory is not entered. -/
def isExcluded (s : LocalSettings) (name : Text) : Bool :=
  (s.excluded.map Text.lower ++ testDirectories).elem name.lower

/-- Whether a file has one of the extensions. -/
def hasExtension (s : LocalSettings) (name : Text) : Bool := s.extensions.any name.endsWith

/-- A file of the project, with its path below the project. -/
structure SourceFile where
  path : Text
  contents : Bytes

/-- Whether one name comes after another, or is the same. -/
def byName {α : Type} (a b : Text × α) : Bool := !Text.before b.1 a.1

/-- The files of a directory with one of the extensions, by name. -/
def filesHere (s : LocalSettings) (here : Place) (es : List (Text × Entry)) : List (Place × Bytes) :=
  let own := es.filterMap fun (name, e) =>
    match e with
    | .file contents => if hasExtension s name then some (name, contents) else none
    | .dir _ => none
  (own.mergeSort byName).map fun (name, contents) => (here ++ [name], contents)

mutual

/-- The files below an entry in the order of the scan, down to any depth. Every directory can be listed,
and nothing in it is anything else than a file or a directory. -/
def walk (s : LocalSettings) (here : Place) : Entry → List (Place × Bytes)
  | .file _ => []
  | .dir es =>
    filesHere s here es ++ ((walkEach s here es).mergeSort byName).flatMap (·.2)

/-- The files below each directory that is entered, with the name of the directory. -/
def walkEach (s : LocalSettings) (here : Place) :
    List (Text × Entry) → List (Text × List (Place × Bytes))
  | [] => []
  | (name, e) :: rest =>
    let others := walkEach s here rest
    if e.isDir && !isExcluded s name then (name, walk s (here ++ [name]) e) :: others else others

end

/-- The source files below an entry. -/
def sourceFiles (s : LocalSettings) (project : Entry) : List SourceFile :=
  ((walk s [] project).map fun (place, contents) => ⟨Text.join [Path.slash] place, contents⟩).filter
    fun f => !isTestPath f.path

end Mend.Scan
