import Mend.Act
import Mend.Log
import Mend.Project.Tree

/-!
# The world of a job

What a job and its collaborators share: the file tree, the log, the request to stop, and whatever
the collaborators keep for themselves. The tree says what can be read and written; the file system may
refuse it all the same, each time anew.

## Main definitions

* `Fate` — what becomes of a change to the file system.
* `World σ` — the shared state, with collaborators' own state in `σ`.
* `World.say`, `World.readFile`, `World.isThere`, `World.writeFile` — the actions on it.
* `World.makeCopy`, `World.removeCopy` — the actions on files outside the tree.
-/

namespace Mend

/-- Whether a problem means that there is nothing under a path. -/
def FileProblem.isAbsence : FileProblem → Bool
  | missing | notDirectory => true
  | _ => false

/-- What keeps the job from looking at a file: any problem but that there is none. -/
abbrev Obstacle := { problem : FileProblem // problem.isAbsence = false }

/-- What becomes of a change to the file system: a write that the tree allows, or the making or the
removal of a file outside the tree. -/
inductive Fate where
  | done
  /-- The file is not opened and stays as it is. -/
  | refused (problem : FileProblem)
  /-- The disk is full after so many bytes. -/
  | cutOff (bytes : Nat)
deriving DecidableEq, Repr

/-- The bytes that are in the file if a write of `contents` opens it. -/
def Fate.written (contents : Bytes) : Fate → Bytes
  | cutOff n => contents.take n
  | _ => contents

/-- What keeps a change from being done entirely. -/
def Fate.problem? : Fate → Option FileProblem
  | done => none
  | refused problem => some problem
  | cutOff _ => some .noSpace

/-- The shared state of a job; `σ` is what the collaborators keep for themselves. -/
structure World (σ : Type) where
  tree : Tree := {}
  /-- What becomes of each change to the file system, by its number. -/
  disk : Nat → Fate := fun _ => .done
  /-- How many changes have been tried. -/
  writes : Nat := 0
  /-- What keeps the job from reading a file or looking for it, by the number of the look. -/
  sight : Nat → Option Obstacle := fun _ => none
  /-- How many looks have been tried. -/
  looks : Nat := 0
  /-- The names of the files outside the tree, by the number of the change that makes them. -/
  copyName : Nat → Text := fun n => .cat ["/tmp/remediation-", .decimal n, ".bak"]
  /-- The lines of the log, the last one first. -/
  log : List Log.Line := []
  /-- Whether somebody asked to stop at the next file. -/
  cancelled : Bool := false
  /-- How many searches the scanner has been asked for. -/
  searches : Nat := 0
  extra : σ

namespace World

variable {σ : Type}

/-- The lines of the log in the order in which they were written. -/
def lines (w : World σ) : List Log.Line := w.log.reverse

/-- Writes a line to the log. -/
def say (level : Log.Level) (parts : List Text) : Act (World σ) Unit :=
  .modify fun w => { w with log := ⟨level, .cat parts⟩ :: w.log }

/-- Writes several lines to the log. -/
def tell (lines : List Log.Line) : Act (World σ) Unit :=
  .modify fun w => { w with log := lines.reverse ++ w.log }

/-- The world after one more look at a file. -/
def looked (w : World σ) : World σ := { w with looks := w.looks + 1 }

/-- What comes of a look at a path, of which the tree has an answer. -/
def seen {α : Type} (w : World σ) (p : Path) (answer : Except Fault α) : Except Fault α := do
  let a ← answer
  match w.sight w.looks with
  | none => return a
  | some obstacle => .error (.file ⟨obstacle, p.toText⟩)

/-- What comes of reading a file. -/
def reading (w : World σ) (p : Path) : Except Fault Bytes := w.seen p (w.tree.read p)

/-- The contents of a file. -/
def readFile (p : Path) : Act (World σ) Bytes := fun w => (w.reading p, w.looked)

/-- Whether a path leads to something. -/
def isThere (p : Path) : Act (World σ) Bool := fun w => (w.seen p (w.tree.isThere p), w.looked)

/-- Whether there is a file with certain contents. -/
def holds (p : Path) (contents : Bytes) : Act (World σ) Bool := do
  if ← isThere p then return (← readFile p) == contents else return false

/-- Replaces or makes a file. A write that fails half way leaves what it has written. -/
def writeFile (p : Path) (contents : Bytes) : Act (World σ) Unit := fun w =>
  let fate := w.disk w.writes
  let tried := { w with writes := w.writes + 1 }
  match w.tree.write p (fate.written contents) with
  | .error e => (.error e, tried)
  | .ok tree =>
    match fate with
    | .done => (.ok (), { tried with tree })
    | .refused problem => (.error (.file ⟨problem, p.toText⟩), tried)
    | .cutOff _ => (.error (.file ⟨.noSpace, p.toText⟩), { tried with tree })

/-- Makes or removes a file outside the tree. A problem that is `excused` is none. -/
def changeOutside (name : Text) (excused : Option FileProblem) : Act (World σ) Unit := fun w =>
  let tried := { w with writes := w.writes + 1 }
  match (w.disk w.writes).problem? with
  | none => (.ok (), tried)
  | some problem =>
    if excused = some problem then (.ok (), tried) else (.error (.file ⟨problem, name⟩), tried)

/-- Makes a file outside the tree, which gets a new name. -/
def makeCopy : Act (World σ) Text := do
  let w ← Act.get
  let name := w.copyName w.writes
  changeOutside name none
  return name

/-- Removes a file outside the tree, if it is there. -/
def removeCopy (name : Text) : Act (World σ) Unit := changeOutside name (some .missing)

/-- Asks to stop at the next file. -/
def cancel : Act (World σ) Unit := .modify fun w => { w with cancelled := true }

@[simp] theorem run_say (level : Log.Level) (parts : List Text) (w : World σ) :
    (say level parts).run w = (.ok (), { w with log := ⟨level, .cat parts⟩ :: w.log }) := rfl

@[simp] theorem run_readFile (p : Path) (w : World σ) :
    (readFile p).run w = (w.reading p, w.looked) := rfl

@[simp] theorem run_isThere (p : Path) (w : World σ) :
    (isThere p).run w = (w.seen p (w.tree.isThere p), w.looked) := rfl

end World

end Mend
