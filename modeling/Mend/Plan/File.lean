import Mend.Plan.Basic
import Mend.World
import Mend.Json.Document

/-!
# Plan files

A plan can be saved and used again by a later job. A file that cannot be read, or that is no
document, is an error of the settings. A plan with a number of too many digits cannot be saved.
-/

namespace Mend.Plan

variable {σ : Type}

/-- The contents of a plan file. -/
def fileText (p : Plan) : Except Fault Text := do Json.document (← p.toValue)

/-- The plan in the contents of a file. -/
def ofText (depth : Json.Depth) (t : Text) : Except Fault Plan :=
  match Json.read depth t.unixLines with
  | .ok v => ofValue v
  | .error f => .error (.badDocument f)

/-- The plan in the contents of a file that must be UTF-8. -/
def ofBytes (depth : Json.Depth) (b : Bytes) : Except Fault Plan :=
  match Utf8.decode b with
  | .ok t => ofText depth t
  | .error f => .error (.undecodable f)

/-- Whether a fault means that a plan file cannot be read or is no document. -/
def isUnreadable : Fault → Bool
  | .file _ => true
  | .badDocument f =>
    match f.reason with
    | .tooDeep | .numeralTooLong _ => false
    | _ => true
  | _ => false

/-- Reads a plan from a file. -/
def load (depth : Json.Depth) (path : Path) : Act (World σ) Plan := do
  match ← Act.attempt (do Act.ofExcept (ofBytes depth (← World.readFile path))) with
  | .ok p => return p
  | .error e =>
    if isUnreadable e then Act.fail (.config (.planUnreadable path.toText e.message))
    else Act.fail e

/-- Writes a plan to a file. -/
def save (p : Plan) (path : Path) : Act (World σ) Unit := do
  let t ← Act.ofExcept p.fileText
  World.writeFile path (t.flatMap Utf8.encodeCode)

end Mend.Plan
