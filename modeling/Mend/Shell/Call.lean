import Mend.Project.Tree

/-!
# Calls of programs

A program sees its arguments, its input and the file tree; it says text on its output and on its
error stream, and may change the tree or take some time.

## Main definitions

* `Shell.Call`, `Shell.Reply` — what a program sees, and what comes of it.
* `Shell.Program` — programs.
-/

namespace Mend.Shell

/-- One call of a program. -/
structure Call where
  name : Text
  args : List Text
  input : Text := []
  /-- Whether the input is a file, and no pipe. -/
  inputIsFile : Bool := false
  tree : Tree
  /-- The directory in which the program runs. -/
  dir : Place := []

/-- A piece of output, and whether it goes to the error stream. -/
structure Said where
  text : Text
  isError : Bool := false

/-- What comes of a call. -/
structure Reply where
  status : Nat := 0
  said : List Said := []
  tree : Tree
  /-- How long the program sleeps, in billionths of a second. -/
  pause : Nat := 0

namespace Call

/-- The file tree with a path below a directory: the place that the path leads to. -/
def place (c : Call) (t : Text) : Except FileProblem Place :=
  if t.isEmpty then .error .missing
  else
    let p := Path.ofText t
    if p.isAbsolute then .error .missing else c.tree.top.locate c.dir p.parts

/-- The entry that a path leads to. -/
def entry (c : Call) (t : Text) : Except FileProblem Entry := do
  match c.tree.top.find? (← c.place t) with
  | some e => .ok e
  | none => .error .missing

/-- The text of a file; a dash stands for the input. -/
def fileText (c : Call) (t : Text) : Except FileProblem Text := do
  if t == [0x2D] then return c.input
  match ← c.entry t with
  | .file b => return Utf8.decodeKeeping b
  | .dir _ => throw .isDirectory

/-- A reply that says some text. -/
def say (c : Call) (t : Text) : Reply := { tree := c.tree, said := [⟨t, false⟩] }

/-- A line on the error stream, behind the name of the program. -/
def complaint (c : Call) (parts : List Text) : Said := ⟨.cat [c.name, ": ", .cat parts, "\n"], true⟩

/-- A reply that fails with a complaint. -/
def fail (c : Call) (parts : List Text) (status : Nat) : Reply :=
  { tree := c.tree, status, said := [c.complaint parts] }

/-- The letters of the options before the operands, and the operands. -/
def options (c : Call) : Text × List Text := go c.args
where
  /-- Takes options from the front. -/
  go : List Text → Text × List Text
    | [] => ([], [])
    | a :: rest =>
      if a == Text.ofString "--" then ([], rest)
      else
        match a with
        | 0x2D :: d :: letters =>
          let (more, operands) := go rest
          (d :: letters ++ more, operands)
        | _ => ([], a :: rest)

/-- Does something for each operand on the tree as the ones before left it. A failure is told and
does not keep the others from being done. -/
def eachOperand (c : Call) (f : Call → Text → Except (List Text) Tree) (operands : List Text) :
    Reply :=
  operands.foldl (fun r t =>
    match f { c with tree := r.tree } t with
    | .ok tree => { r with tree }
    | .error parts => { r with status := 1, said := r.said ++ [c.complaint parts] })
    { tree := c.tree }

end Call

/-- A program. -/
abbrev Program := Call → Reply

end Mend.Shell
