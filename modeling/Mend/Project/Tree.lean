import Mend.Project.Path
import Mend.Fault
import Mend.Sum

/-!
# File trees

The files that a job works on, as a tree of named entries. Paths lead through it from the top; two
dots lead one directory up. Every operation says which problem keeps it from being done.

## Main definitions

* `Entry` — a file with its contents, or a directory with its entries.
* `Entry.find?`, `Entry.put`, `Entry.erase` — looking up and changing the entry at a place.
* `Entry.locate` — the place that a path leads to.
* `Tree` — the tree of a job, with `read`, `write`, `delete` and `isThere` by path.
-/

namespace Mend

/-- A file or a directory. There are no links, no special files and no directories that cannot be
listed: a tree is what is left of a file system if these are taken for missing. -/
inductive Entry where
  | file (contents : Bytes)
  | dir (entries : List (Text × Entry))

/-- The names that lead from the top to an entry. -/
abbrev Place := List Text

namespace Entry

instance : Inhabited Entry := ⟨.dir []⟩

/-- The entries of a directory. -/
def entries : Entry → List (Text × Entry)
  | file _ => []
  | dir es => es

/-- Whether an entry is a directory. -/
def isDir : Entry → Bool
  | file _ => false
  | dir _ => true

/-- The entry at a place. -/
def find? (e : Entry) : Place → Option Entry
  | [] => some e
  | name :: rest =>
    match e.entries.lookup name with
    | some e' => find? e' rest
    | none => none

/-- Puts an entry into a list of entries, in the place of one of that name or at the end. -/
def putNamed (name : Text) (e : Entry) : List (Text × Entry) → List (Text × Entry)
  | [] => [(name, e)]
  | (n, e') :: rest => if n == name then (n, e) :: rest else (n, e') :: putNamed name e rest

/-- The entry with another one at a place below it; directories on the way are made. -/
def put (e new : Entry) : Place → Entry
  | [] => new
  | name :: rest =>
    .dir (putNamed name (put ((e.entries.lookup name).getD (.dir [])) new rest) e.entries)

/-- The entry without what is at a place below it. -/
def erase (e : Entry) : Place → Entry
  | [] => .dir []
  | [name] => .dir (e.entries.filter fun x => x.1 != name)
  | name :: rest =>
    match e.entries.lookup name with
    | some e' => .dir (putNamed name (erase e' rest) e.entries)
    | none => e

mutual

/-- The files below an entry, with their places. -/
def files : Entry → List (Place × Bytes)
  | file contents => [([], contents)]
  | dir es => filesOf es

/-- The files below named entries. -/
def filesOf : List (Text × Entry) → List (Place × Bytes)
  | [] => []
  | (name, e) :: rest => (files e).map (fun (place, b) => (name :: place, b)) ++ filesOf rest

end

/-- The longest name of an entry, in bytes. -/
def maxNameBytes : Nat := 255

/-- The longest path, in bytes. -/
def maxPathBytes : Nat := 4095

/-- The number of bytes of a text in a path. -/
def byteCount (t : Text) : Nat :=
  countOver (fun c => if Utf8.isKept c then 1 else Utf8.width c) t

/-- The place that names lead to from the place `here`. Every name but the last must lead to a
directory. -/
def locate (e : Entry) (here : Place) : List Text → Except FileProblem Place
  | [] => .ok here
  | name :: rest =>
    match e.find? here with
    | none => .error .missing
    | some (.file _) => .error .notDirectory
    | some (.dir _) =>
      if byteCount name > maxNameBytes then .error .nameTooLong
      else if name == [0x2E, 0x2E] then
        if here.isEmpty then .error .missing else locate e here.dropLast rest
      else locate e (here ++ [name]) rest

end Entry

/-- The tree of a job, with the working directory at its top. -/
structure Tree where
  top : Entry := .dir []

namespace Tree

/-- Why a path cannot be handed to the file system at all. -/
def checkPath (p : Path) : Except Fault Unit :=
  let t := p.toText
  match Utf8.encodeKeeping t with
  | .error i => .error (.unencodable t i)
  | .ok _ => if t.elem 0 then .error .nullInPath else .ok ()

/-- The place of a path. An absolute path counts as one that leads nowhere, whatever there is in the
file system around the tree; so does one that leads above the top. -/
def place (t : Tree) (p : Path) : Except FileProblem Place :=
  if Entry.byteCount p.toText > Entry.maxPathBytes then .error .nameTooLong
  else if p.isAbsolute then .error .missing
  else t.top.locate [] p.parts

/-- The entry that a path leads to. -/
def entry (t : Tree) (p : Path) : Except FileProblem Entry := do
  match t.top.find? (← t.place p) with
  | some e => .ok e
  | none => .error .missing

/-- A file fault at a path. -/
def atPath {α : Type} (p : Path) (r : Except FileProblem α) : Except Fault α :=
  match r with
  | .ok a => .ok a
  | .error problem => .error (.file ⟨problem, p.toText⟩)

/-- The contents of the file at a path. -/
def read (t : Tree) (p : Path) : Except Fault Bytes := do
  checkPath p
  match ← atPath p (t.entry p) with
  | .file contents => .ok contents
  | .dir _ => .error (.file ⟨.isDirectory, p.toText⟩)

/-- Whether something can be written at a place. -/
def writable (t : Tree) (here : Place) : Except FileProblem Unit :=
  match t.top.find? here, t.top.find? here.dropLast with
  | some (.dir _), _ => .error .isDirectory
  | _, some (.dir _) => .ok ()
  | _, _ => .error .missing

/-- The tree with a file at a path. The directory of the file must be there. -/
def write (t : Tree) (p : Path) (contents : Bytes) : Except Fault Tree := do
  checkPath p
  let here ← atPath p (t.place p)
  atPath p (t.writable here)
  return ⟨t.top.put (.file contents) here⟩

/-- The tree without the entry at a path. -/
def delete (t : Tree) (p : Path) : Except Fault Tree := do
  checkPath p
  let _ ← atPath p (t.entry p)
  return ⟨t.top.erase (← atPath p (t.place p))⟩

/-- Whether a path leads to something. A path that is too long cannot be answered. -/
def isThere (t : Tree) (p : Path) : Except Fault Bool :=
  match checkPath p with
  | .error .nullInPath | .error (.unencodable ..) => .ok false
  | .error e => .error e
  | .ok _ =>
    match t.entry p with
    | .ok _ => .ok true
    | .error .nameTooLong => .error (.file ⟨.nameTooLong, p.toText⟩)
    | .error _ => .ok false

/-- The files below a path, with their paths below it. -/
def filesBelow (t : Tree) (p : Path) : List (Text × Bytes) :=
  match t.entry p with
  | .ok e => e.files.map fun (place, contents) => (Text.join [Path.slash] place, contents)
  | .error _ => []

/-- The tree with a file at a path below a directory, its directories made where needed. -/
def lay (t : Tree) (parts : List Text) (e : Entry) : Tree := ⟨t.top.put e parts⟩

end Tree

end Mend
