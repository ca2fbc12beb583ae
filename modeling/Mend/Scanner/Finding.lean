import Mend.Issue.Basic
import Mend.World

/-!
# Findings of a scanner

A finding as a scanner describes it, turned into an issue. A finding of an unknown category or
severity is left out; one in no known file is kept, although it cannot be fixed.

## Main definitions

* `issueOf` — the issue of a finding, if it makes one.
-/

namespace Mend.Scanner

variable {σ : Type}

/-- The path of a component; empty if it is not known. -/
def pathOf (components : List (Value × Value)) (component : Value) : Except Fault Value :=
  if component.isAtomic then
    .ok (((components.find? (·.1.same component)).map (·.2)).getD (.text []))
  else .error (.wrongKind (.cat ["unhashable type: '", component.kind, "'"]))

/-- The category and the severity of a finding; none if one of them is unknown. -/
def kindOf (v : Value) : Except Fault (Option (Category × Severity)) :=
  let read : Except Fault (Category × Severity) := do
    let category ← Category.read (← v.getD "type" (.text []))
    let severity ← Severity.read (← v.getD "severity" (.text []))
    return (category, severity)
  match read with
  | .ok kind => .ok (some kind)
  | .error e => if e.isInvalidValue then .ok none else .error e

/-- The first and the last line of a finding; zero stands for unknown. -/
def linesOf (v : Value) : Except Fault (Int × Int) := do
  let range := (← v.getD "textRange" .null).givenOr (.obj [])
  let first ← (((← range.getD "startLine" .null).givenOr (← v.getD "line" .null)).givenOr
    (.nat 0)).asInt
  let last ← ((← range.getD "endLine" .null).givenOr (.int first)).asInt
  return (first, last)

/-- The minutes that the repair of a finding takes. -/
def effortOf (v : Value) : Except Fault Int := do
  Effort.read ((← v.getD "effort" .null).givenOr (← v.getD "debt" .null))

/-- The issue of a finding in which the fields that decide something were read. -/
def issueWith (v key component filePath : Value) (category : Category) (severity : Severity)
    (lines : Int × Int) : Except Fault Issue := do
  let rule ← v.getD "rule" (.text [])
  let message ← v.getD "message" (.text [])
  let effort ← effortOf v
  let tags ← (← v.getD "tags" (.list [])).members
  Issue.make {
    key, rule, category, severity, message, filePath, lineStart := lines.1, lineEnd := lines.2
    effort, tags, component := component.givenOr .null }

/-- The issue of a finding, if it makes one. -/
def issueOf (components : List (Value × Value)) (v : Value) : Act (World σ) (Option Issue) := do
  let key ← Act.ofExcept (v.getD "key" (.text []))
  match ← Act.ofExcept (kindOf v) with
  | none =>
    World.say Log.warning
      ["Dropping issue ", key.shown, ": unsupported type/severity ",
        ((v.field? "type").getD .null).shown, "/", ((v.field? "severity").getD .null).shown]
    return none
  | some (category, severity) =>
    let lines ← Act.ofExcept (linesOf v)
    let component ← Act.ofExcept (v.getD "component" (.text []))
    let filePath ← Act.ofExcept (pathOf components component)
    if !filePath.isGiven then
      World.say Log.warning
        ["Issue ", key.shown, ": cannot resolve component '", component.shown,
          "' to a file, keeping it as unlocatable"]
    some <$> Act.ofExcept (issueWith v key component filePath category severity lines)

end Mend.Scanner
