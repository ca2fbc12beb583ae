import Mend.Shell.Script
import Mend.Shell.Expand
import Mend.Shell.Program

/-!
# The state of a shell

What running commands share: the file tree, the streams between them and the time that has passed;
and what belongs to one shell: its directory, its variables and its status.

## Main definitions

* `Shell.State`, `Shell.Stop`, `Shell.Eval` — running commands as changes of a state.
* `Shell.Streams` — where a command reads and writes.
-/

namespace Mend.Shell

/-- What has been written for a command to read. -/
structure Pipe where
  text : Text := []
  isFile : Bool := false

/-- Where a stream leads. -/
inductive Sink where
  | pipe (number : Nat)
  | file (place : Place)
  | nowhere

/-- The streams of a command. -/
structure Streams where
  /-- The pipe from which it reads. -/
  input : Nat := 0
  out : Sink := .pipe 1
  err : Sink := .pipe 1

/-- A variable. -/
structure Variable where
  name : Text
  value : Text
  /-- Whether other programs see it. -/
  isShared : Bool := false

/-- What belongs to one shell. -/
structure Session where
  /-- The name by which the shell speaks of itself. -/
  name : Text := "sh"
  /-- Whether it words its messages as `bash` does. -/
  isBash : Bool := false
  /-- Its number. -/
  number : Nat := 0
  dir : Place := []
  bindings : List Variable := []
  arguments : List Text := []
  status : Nat := 0
  /-- Whether it ends at the first failure. -/
  isStrict : Bool := false

/-- The state of running commands. -/
structure State where
  tree : Tree
  pipes : List Pipe := [{}, {}]
  /-- The time that has passed, in billionths of a second. -/
  elapsed : Nat := 0
  /-- The time that may pass. -/
  limit : Option Nat := none
  session : Session := {}

/-- Why no further command runs. -/
inductive Stop where
  /-- The shell has ended. -/
  | exited
  /-- A signal has ended the shell. -/
  | killed (signal : Nat)
  /-- The time is over. -/
  | late
deriving DecidableEq, Repr

/-- Running something. -/
abbrev Eval := ExceptT Stop (StateM State)

namespace Eval

/-- The shell. -/
def session : Eval Session := do return (← get).session

/-- Changes the shell. -/
def setSession (f : Session → Session) : Eval Unit :=
  modify fun s => { s with session := f s.session }

/-- Sets the status. -/
def setStatus (n : Nat) : Eval Unit := setSession fun s => { s with status := n }

/-- Makes a pipe with some text in it. -/
def newPipe (p : Pipe) : Eval Nat := do
  let n := (← get).pipes.length
  modify fun s => { s with pipes := s.pipes ++ [p] }
  return n

/-- The pipe of a number. -/
def pipe (n : Nat) : Eval Pipe := do return (← get).pipes[n]?.getD {}

/-- Replaces what is in a pipe. -/
def setPipe (n : Nat) (p : Pipe) : Eval Unit :=
  modify fun s => { s with pipes := s.pipes.set n p }

/-- Writes some text. -/
def write (sink : Sink) (t : Text) : Eval Unit := do
  match sink with
  | .nowhere => return
  | .pipe n =>
    let p ← pipe n
    setPipe n { p with text := p.text ++ t }
  | .file place =>
    let b := (Utf8.encodeKeeping t).toOption.getD []
    modify fun s =>
      let old := match s.tree.top.find? place with
        | some (.file old) => old
        | _ => []
      { s with tree := ⟨s.tree.top.put (.file (old ++ b)) place⟩ }

/-- Lets time pass. -/
def pass (time : Nat) : Eval Unit := do
  modify fun s => { s with elapsed := s.elapsed + time }
  let s ← get
  if s.limit.any (· ≤ s.elapsed) then throw .late

/-- A message of the shell about a line. -/
def complain (streams : Streams) (line : Nat) (parts : List Text) : Eval Unit := do
  let s ← session
  let mark : Text := if s.isBash then "line " else []
  write streams.err (.cat [s.name, ": ", mark, .decimal line, ": ", .cat parts, "\n"])

/-- The value of a variable. -/
def valueOf (name : Text) : Eval Text := do
  let s ← session
  match name with
  | [0x3F] => return .decimal s.status
  | [0x24] => return .decimal s.number
  | [0x23] => return .decimal (s.arguments.length - 1)
  | [0x40] | [0x2A] => return .join " " s.arguments.tail
  | _ =>
    if name.all Text.isAsciiDigit then return s.arguments[digitsValue 10 name]?.getD []
    else return ((s.bindings.find? (·.name == name)).map (·.value)).getD []

/-- Sets a variable. -/
def setVariable (name value : Text) (isShared : Bool) : Eval Unit :=
  setSession fun s =>
    let shared := isShared || s.bindings.any fun v => v.name == name && v.isShared
    { s with bindings := ⟨name, value, shared⟩ :: s.bindings.filter fun v => v.name != name }

/-- Runs something in a shell of its own: what it does to the shell is gone afterwards, except for
the status. -/
def apart (a : Eval Unit) : Eval Unit := do
  let old ← session
  let result ← tryCatch (do a; return none) fun stop => return some stop
  let status := (← session).status
  setSession fun _ => { old with status }
  match result with
  | none | some .exited => return
  | some stop => throw stop

/-- Runs a program. -/
def program (streams : Streams) (p : Program) (name : Text) (args : List Text) : Eval Unit := do
  let s ← get
  let input ← pipe streams.input
  let reply := p {
    name, args, input := input.text, inputIsFile := input.isFile, tree := s.tree
    dir := s.session.dir }
  modify fun s => { s with tree := reply.tree }
  pass reply.pause
  for said in reply.said do
    write (if said.isError then streams.err else streams.out) said.text
  setStatus reply.status

end Eval

/-! ## Finding programs -/

/-- What the name of a command leads to. -/
inductive Found where
  | program (p : Program)
  /-- A shell; `isBash` tells which. -/
  | shell (isBash : Bool)
  /-- A file that cannot be run. -/
  | denied
  | absent (p : FileProblem)

/-- The directories that programs lie in. -/
def programDirs : List (List Text) := [["bin"], ["usr", "bin"]]

/-- What a name without slashes leads to. -/
def findName (name : Text) : Found :=
  if name.isEmpty || name == [0x2E] || name == [0x2E, 0x2E] then .denied
  else if name == Text.ofString "sh" || name == Text.ofString "dash" then .shell false
  else if name == Text.ofString "bash" then .shell true
  else
    match Program.find? name with
    | some p => .program p
    | none =>
      if Entry.byteCount name > Entry.maxNameBytes then .absent .nameTooLong else .absent .missing

/-- What the name of a command leads to in a directory. -/
def find (t : Tree) (dir : Place) (name : Text) : Found :=
  if !name.elem Path.slash then findName name
  else
    let p := Path.ofText name
    if p.isAbsolute then
      if programDirs.elem p.parts.dropLast then
        match findName p.name with
        | .denied => .absent .missing
        | found => found
      else .absent .missing
    else
      match t.top.locate dir p.parts with
      | .error problem => .absent problem
      | .ok place => if (t.top.find? place).isSome then .denied else .absent .missing

end Mend.Shell
