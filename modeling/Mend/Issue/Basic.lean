import Mend.Issue.Severity
import Mend.Issue.Effort

/-!
# Issues

A finding of a static analysis, in the form in which the rest of the library handles it. The fields
that are only passed on keep the value that the source of the finding gave them; the fields that
decide something are read strictly.

## Main definitions

* `Issue` — a finding.
* `Issue.ofValue`, `Issue.toValue` — issues as documents.
* `Issue.make` — an issue from its parts, with its invariants checked.
* `Issue.WellTyped` — the issues whose passed-on fields are texts.
-/

namespace Mend

/-- A finding of a static analysis. -/
structure Issue where
  key : Value
  rule : Value
  category : Category
  severity : Severity
  message : Value
  filePath : Value
  lineStart : Nat
  lineEnd : Nat
  effort : Nat
  /-- The tags, each once, in no particular order. -/
  tags : List Value
  /-- The name by which the source knows the file. -/
  component : Value

namespace Issue

/-- The path of the file the issue lies in; empty if there is none. -/
def path (i : Issue) : Text := if i.filePath.isGiven then i.filePath.shown else []

/-- Only an issue in a file can be fixed. -/
def isLocatable (i : Issue) : Bool := i.filePath.isGiven

/-- The place of an issue: its file and lines. -/
def location (i : Issue) : Text :=
  let start := Text.cat [i.filePath.shown, ":", .decimal i.lineStart]
  if i.lineStart != 0 && i.lineEnd != 0 && i.lineEnd != i.lineStart then
    .cat [start, "-", .decimal i.lineEnd]
  else start

/-- The parts of an issue before they are checked. -/
structure Draft where
  key : Value
  rule : Value
  category : Category
  severity : Severity
  message : Value
  filePath : Value
  lineStart : Int := 0
  lineEnd : Int := 0
  effort : Int := Effort.defaultMinutes
  tags : List Value := []
  component : Value := .null

/-- The issue with the given parts, if no number is negative. -/
def make (d : Draft) : Except Fault Issue :=
  if d.effort < 0 then .error (.negativeEffort d.effort)
  else if d.lineStart < 0 || d.lineEnd < 0 then .error (.negativeLines d.lineStart d.lineEnd)
  else
    .ok {
      key := d.key, rule := d.rule, category := d.category, severity := d.severity
      message := d.message, filePath := d.filePath, lineStart := d.lineStart.toNat
      lineEnd := d.lineEnd.toNat, effort := d.effort.toNat, tags := d.tags
      component := d.component }

/-- The document of an issue, with its tags in ascending order. -/
def toValue (i : Issue) : Except Fault Value := do
  let tags ← Value.ascending i.tags
  return .record [
    ("key", i.key),
    ("rule", i.rule),
    ("type", .text i.category.name),
    ("severity", .text i.severity.name),
    ("message", i.message),
    ("file_path", i.filePath),
    ("line_start", .nat i.lineStart),
    ("line_end", .nat i.lineEnd),
    ("effort_minutes", .nat i.effort),
    ("tags", .list tags),
    ("component", i.component)]

/-- The issue of a document. Only the key, the category and the severity must be there. -/
def ofValue (v : Value) : Except Fault Issue := do
  let key ← v.require "key"
  let rule ← v.getD "rule" (.text [])
  let category ← Category.read (← v.require "type")
  let severity ← Severity.read (← v.require "severity")
  let message ← v.getD "message" (.text [])
  let filePath ← v.getD "file_path" (.text [])
  let lineStart ← (← v.getD "line_start" (.nat 0)).asInt
  let lineEnd ← (← v.getD "line_end" (.nat 0)).asInt
  let effort ← (← v.getD "effort_minutes" (.nat Effort.defaultMinutes)).asInt
  let tags ← (← v.getD "tags" (.list [])).members
  let component ← v.getD "component" .null
  make { key, rule, category, severity, message, filePath, lineStart, lineEnd, effort, tags,
         component }

/-- Whether a value is a text of characters. -/
def isPlainText : Value → Bool
  | .text t => t.all Text.isScalar
  | _ => false

/-- The issues whose passed-on fields are texts, and whose tags are distinct texts. -/
structure WellTyped (i : Issue) : Prop where
  key : isPlainText i.key
  rule : isPlainText i.rule
  message : isPlainText i.message
  filePath : isPlainText i.filePath
  component : i.component = .null ∨ isPlainText i.component
  tags : ∀ t ∈ i.tags, isPlainText t
  distinct : i.tags.Pairwise fun a b => a ≠ b

end Issue

end Mend
