import Mend.Scan.Keys
import Mend.Issue.Basic
import Mend.World

/-!
# Findings of a model

A model that looks at a file reports findings as documents of its own making. A finding that makes
no issue is left out, with a line in the log.

## Main definitions

* `DeepScanner` — what looks at a file.
* `firstLine`, `findingIssue` — the line for which a finding takes a key, and its issue.
* `deepScan` — the issues of the findings for a file.
-/

namespace Mend.Scan

variable {σ : Type}

/-- Looks at a file, given its path and its text, and reports findings. -/
abbrev DeepScanner (σ : Type) := (path text : Text) → Act (World σ) (List Value)

/-- Reads a name, with another one in place of a missing or unknown name. -/
def readOr {α : Type} (read : Value → Except Fault α) (v : Value) (other : α) : Except Fault α :=
  if v.isGiven then
    match read v with
    | .error (.notOneOf ..) => .ok other
    | r => r
  else .ok other

/-- The issue of a finding whose first line has been read, under a given key. -/
def findingIssue (path key : Text) (line : Int) (v : Value) : Except Fault Issue := do
  let rule := (← v.getD "rule" .null).givenOr (.str "ai:deep-scan")
  let category ← readOr Category.read (← v.getD "issue_type" .null) .codeSmell
  let severity ← readOr Severity.read (← v.getD "severity" .null) .major
  let message ← v.getD "message" (.text [])
  let last ← ((← v.getD "line_end" .null).givenOr (.int line)).asInt
  Issue.make {
    key := .text key, rule, category, severity, message, filePath := .text path, lineStart := line
    lineEnd := last, tags := [.str "deep-scan"] }

/-- The first line of a finding. A key is written with it, so it has no more digits than a numeral may
have. -/
def firstLine (v : Value) : Except Fault Int := do
  let line ← (← v.getD "line_start" (.nat 0)).asInt
  if Numeral.fits line then return line else .error .numberTooLong

/-- What becomes of a finding: an issue or a fault, and the keys that are left. A key is taken as
soon as the line is known. -/
def takeFinding (path : Text) (keys : KeyFactory) (v : Value) : Except Fault Issue × KeyFactory :=
  match firstLine v with
  | .error e => (.error e, keys)
  | .ok line =>
    let (key, keys) := keys.next path line
    (findingIssue path key line v, keys)

/-- The issues of some findings. A malformed finding is left out; any other fault ends the scan. -/
def takeFindings (path : Text) : KeyFactory → List Value → Act (World σ) (List Issue × KeyFactory)
  | keys, [] => return ([], keys)
  | keys, v :: rest =>
    match takeFinding path keys v with
    | (.ok issue, keys) => do
      let (issues, keys) ← takeFindings path keys rest
      return (issue :: issues, keys)
    | (.error e, keys) =>
      if e.isMalformedValue then do
        World.say Log.warning
          ["Ignoring malformed deep-scan finding in ", path, ": ", e.message]
        takeFindings path keys rest
      else Act.fail e

/-- The issues that a model finds in a file; none if it fails. -/
def deepScan (scanner : DeepScanner σ) (path text : Text) (keys : KeyFactory) :
    Act (World σ) (List Issue × KeyFactory) := do
  match ← (scanner path text).caught with
  | .ok findings => takeFindings path keys findings
  | .error e =>
    World.say Log.warning
      ["Deep scan failed for ", path, ", keeping pattern results: ", e.message]
    return ([], keys)

end Mend.Scan
