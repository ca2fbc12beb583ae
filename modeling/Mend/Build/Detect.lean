import Mend.Project.Tree

/-!
# Build tools

How a project is compiled and tested if nobody says so: the files at its top tell which tool it is
built with. A project without a known tool is taken for one of scripts, which are checked by their
interpreter; but not if there are Java sources, which that check would never look at.

## Main definitions

* `Build.Commands`, `Build.detect` — the commands for a project.
-/

namespace Mend

/-- Whether some entry below an entry has a name of a certain kind. -/
def Entry.anyName (p : Text → Bool) : Entry → Bool
  | .file _ => false
  | .dir es => anyNameOf es
where
  /-- Whether one of some named entries, or one below it, has a name of the kind. -/
  anyNameOf : List (Text × Entry) → Bool
    | [] => false
    | (name, e) :: rest => p name || Entry.anyName p e || anyNameOf rest

namespace Build

/-- The commands that compile and test a project. -/
structure Commands where
  compile : List Text
  test : List Text
deriving DecidableEq, Repr

/-- Whether there are Java sources below a directory, hidden directories included. -/
def hasJava (t : Tree) (dir : Path) : Bool :=
  match t.entry dir with
  | .ok e => e.anyName fun name => name.endsWith ".java"
  | .error _ => false

/-- The commands for the project in a directory. -/
def detect (interpreter : Text) (t : Tree) (dir : Path) : Except Fault Commands := do
  let wrapper := dir.child "gradlew"
  if ← t.isThere (dir.child "pom.xml") then
    return ⟨["mvn", "-q", "-B", "compile"], ["mvn", "-q", "-B", "test"]⟩
  else if ← t.isThere wrapper then
    return ⟨[wrapper.toText, "-q", "compileJava"], [wrapper.toText, "-q", "test"]⟩
  else if ← t.isThere (dir.child "build.gradle") then return gradle
  else if ← t.isThere (dir.child "build.gradle.kts") then return gradle
  else if hasJava t dir then throw (.tool (.noBuildFile dir.toText))
  else
    return ⟨[interpreter, "-m", "compileall", "-q", "."], [interpreter, "-m", "pytest", "-q"]⟩
where
  /-- The commands of a project without a wrapper of its own. -/
  gradle : Commands := ⟨["gradle", "-q", "compileJava"], ["gradle", "-q", "test"]⟩

end Build

end Mend
