import Mend.World

/-!
# Backups

While a file is being fixed, its old contents are kept. Unless a change is accepted, leaving the
backup puts the old contents back, byte by byte, whatever has happened in between, as far as the file
system lets it.

## Main definitions

* `Backup` — the old contents of a file, and what has become of the file.
* `Held σ` — the world of a job together with a backup.
* `Backup.enter`, `Backup.writeCandidate`, `Backup.restore`, `Backup.commit`, `Backup.leave` — the
  steps of a fix.
-/

namespace Mend

/-- The old contents of a file under repair. -/
structure Backup where
  path : Path
  baseline : Bytes := []
  /-- Whether the file may differ from its old contents. -/
  dirty : Bool := false
  /-- Whether the change is accepted. -/
  committed : Bool := false
  /-- The name of the file outside the project that holds a copy of the old contents. -/
  copy : Option Text := none

/-- The world of a job while a file is under repair. -/
structure Held (σ : Type) where
  world : World σ
  backup : Backup

namespace Held

variable {σ α : Type}

/-- An action on the world. -/
def onWorld (a : Act (World σ) α) : Act (Held σ) α := fun h =>
  match a h.world with
  | (r, world) => (r, { h with world })

/-- Changes the backup. -/
def setBackup (f : Backup → Backup) : Act (Held σ) Unit :=
  .modify fun h => { h with backup := f h.backup }

@[simp] theorem run_onWorld (a : Act (World σ) α) (h : Held σ) :
    (onWorld a).run h = ((a.run h.world).1, { h with world := (a.run h.world).2 }) := rfl

@[simp] theorem run_setBackup (f : Backup → Backup) (h : Held σ) :
    (setBackup f).run h = (.ok (), { h with backup := f h.backup }) := rfl

end Held

namespace Backup

open Held

variable {σ : Type}

/-- The old contents as text. -/
def baselineText (b : Backup) : Text := Utf8.decodeKeeping b.baseline

/-- Keeps the contents of a file. -/
def enter (path : Path) : Act (Held σ) Unit := do
  setBackup fun _ => { path }
  let baseline ← onWorld (World.readFile path)
  setBackup fun b => { b with baseline }
  let name ← onWorld World.makeCopy
  setBackup fun b => { b with copy := some name }

/-- Replaces the contents of the file by a candidate. -/
def writeCandidate (content : Text) : Act (Held σ) Unit := do
  setBackup fun b => { b with dirty := true }
  match Utf8.encodeKeeping content with
  | .error i => Act.fail (.unencodable content i)
  | .ok bytes => onWorld (World.writeFile (← Act.get).backup.path bytes)

/-- Whether the file has its old contents. -/
def isIntact : Act (Held σ) Bool := do
  let b := (← Act.get).backup
  onWorld (World.holds b.path b.baseline)

/-- Writes the old contents into the file. -/
def putBaseline : Act (Held σ) Unit := do
  let b := (← Act.get).backup
  onWorld (World.writeFile b.path b.baseline)
  setBackup fun b => { b with dirty := false }
  onWorld (World.say Log.debug ["Restored baseline of ", b.path.toText])

/-- Puts the old contents back. Without force that is done only after a change by this backup; with
force also after a change by somebody else. -/
def restore (force : Bool) : Act (Held σ) Unit := do
  if force then
    if ← isIntact then setBackup fun b => { b with dirty := false } else putBaseline
  else if (← Act.get).backup.dirty then putBaseline
  else return ()

/-- Accepts the present contents. -/
def commit : Act (Held σ) Unit := setBackup fun b => { b with committed := true, dirty := false }

/-- Removes the copy of the old contents. -/
def dropCopy : Act (Held σ) Unit := do
  match (← Act.get).backup.copy with
  | none => return ()
  | some name =>
    onWorld (World.removeCopy name)
    setBackup fun b => { b with copy := none }

/-- Lets go of the file: the old contents come back unless a change was accepted, and the copy of them
is removed whatever came of that. -/
def leave : Act (Held σ) Unit := do
  let r ← (do
    if (← Act.get).backup.committed then return () else restore true : Act (Held σ) Unit).attempt
  dropCopy
  Act.ofExcept r

end Backup

end Mend
