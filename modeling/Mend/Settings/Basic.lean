import Mend.Issue.Basic
import Mend.Project.Path

/-!
# Settings

What a job is told: where the project is, whether to fix or only to plan, where findings come from,
which of them count, and how hard to try. Limits that every job keeps are part of the types.

## Main definitions

* `ScannerSettings`, `LocalSettings`, `FixSettings` — settings of the parts of a job.
* `Selectors` — which findings count, and how many.
* `Config`, `Config.make` — the settings of a job.
-/

namespace Mend

/-- The most findings the scanner gives on one page. -/
def maxPageSize : Nat := 500

/-- What a job does. -/
inductive RunMode where
  /-- Scan and plan only. -/
  | plan
  /-- Fix the selected issues of a plan. -/
  | fix
deriving DecidableEq, Repr

/-- The mode with a name. -/
def RunMode.parse (t : Text) : Except Fault RunMode :=
  if t == Text.ofString "plan" then .ok .plan
  else if t == Text.ofString "fix" then .ok .fix
  else .error (.notOneOf "RunMode" t)

/-- The name of a mode. -/
def RunMode.name : RunMode → Text
  | .plan => "plan"
  | .fix => "fix"

/-! ## The scanner -/

/-- How to reach a scanner, and which project to ask for. -/
structure ScannerSettings where
  /-- The address, without slashes at its end. -/
  url : Text
  projectKey : Text
  token : Option Text
  branch : Option Text
  pageSize : Nat
  timeout : Number
  retries : Int
  one_le_pageSize : 1 ≤ pageSize
  pageSize_le : pageSize ≤ maxPageSize

namespace ScannerSettings

/-- The settings of a scanner before they are checked. -/
structure Draft where
  url : Text
  projectKey : Text
  token : Option Text := none
  branch : Option Text := none
  pageSize : Int := maxPageSize
  timeout : Number := .real 30
  retries : Int := 2

/-- Settings with everything in its limits. -/
def make (d : Draft) : Except Fault ScannerSettings :=
  let url := d.url.trimRight (· == Path.slash)
  if url.isEmpty then .error (.config .emptyUrl)
  else if d.projectKey.isEmpty then .error (.config .emptyProjectKey)
  else if h : 1 ≤ d.pageSize.toNat ∧ d.pageSize.toNat ≤ maxPageSize then
    if d.timeout.isAtMostZero then .error (.config .timeout)
    else
      .ok {
        url, projectKey := d.projectKey, token := d.token, branch := d.branch
        pageSize := d.pageSize.toNat, timeout := d.timeout, retries := d.retries
        one_le_pageSize := h.1, pageSize_le := h.2 }
  else .error (.config (.pageSize d.pageSize))

end ScannerSettings

/-! ## The local scan -/

/-- Which files a local scan reads, and whether a model looks at them too. -/
structure LocalSettings where
  extensions : List Text := [".java"]
  excluded : List Text :=
    [".git", ".gradle", ".idea", ".mvn", "bin", "build", "node_modules", "out", "target", "test",
     "tests"]
  /-- Whether a model adds findings to those of the patterns. -/
  deepScan : Bool := false
  /-- Only files of at least this many lines are shown to the model. -/
  deepScanMinLines : Int := 50

/-! ## The fix phase -/

/-- How a file is fixed and checked. -/
structure FixSettings where
  /-- The most tries at one file. -/
  maxAttempts : Nat := 3
  /-- Whether the tests run once after all files. -/
  runTests : Bool := true
  /-- The command that compiles; found out from the project if there is none. -/
  compileCommand : Option (List Text) := none
  testCommand : Option (List Text) := none
  buildTimeout : Number := .real 900
  /-- The model to use in place of the default one. -/
  model : Option Text := none
  maxTurns : Int := 1
  one_le_maxAttempts : 1 ≤ maxAttempts := by decide

namespace FixSettings

/-- The settings of the fix phase before they are checked. -/
structure Draft where
  maxAttempts : Int := 3
  runTests : Bool := true
  compileCommand : Option (List Text) := none
  testCommand : Option (List Text) := none
  buildTimeout : Number := .real 900
  model : Option Text := none
  maxTurns : Int := 1

/-- Settings with everything in its limits. -/
def make (d : Draft) : Except Fault FixSettings :=
  if h : 1 ≤ d.maxAttempts.toNat then
    if d.buildTimeout.isAtMostZero then .error (.config .buildTimeout)
    else
      .ok {
        maxAttempts := d.maxAttempts.toNat, runTests := d.runTests
        compileCommand := d.compileCommand, testCommand := d.testCommand
        buildTimeout := d.buildTimeout, model := d.model, maxTurns := d.maxTurns
        one_le_maxAttempts := h }
  else .error (.config .maxAttempts)

end FixSettings

/-! ## Selectors -/

/-- Which findings count, and the most that are kept. -/
structure Selectors where
  categories : List Category := Category.all
  severities : List Severity := Severity.descending
  maxIssues : Nat := 500
  one_le_maxIssues : 1 ≤ maxIssues := by decide

namespace Selectors

/-- Selectors with at least one finding allowed. -/
def make (categories : List Category) (severities : List Severity) (maxIssues : Int) :
    Except Fault Selectors :=
  if h : 1 ≤ maxIssues.toNat then
    .ok { categories, severities, maxIssues := maxIssues.toNat, one_le_maxIssues := h }
  else .error (.config (.maxIssues maxIssues))

/-- Whether an issue counts. -/
def accepts (s : Selectors) (i : Issue) : Bool :=
  s.categories.elem i.category && s.severities.elem i.severity

end Selectors

/-! ## The job -/

/-- The settings of a job. -/
structure Config where
  projectDir : Path
  mode : RunMode
  /-- The scanner to ask; the project is scanned locally if there is none. -/
  scanner : Option ScannerSettings
  localScan : LocalSettings
  selectors : Selectors
  fix : FixSettings
  /-- The keys of the issues to fix; every issue that lies in a file if there are none. -/
  selectedKeys : Option (List Value)

namespace Config

/-- The settings of a job before they are checked. -/
structure Draft where
  projectDir : Path
  mode : RunMode := .plan
  scanner : Option ScannerSettings := none
  localScan : LocalSettings := {}
  categories : List Category := Category.all
  severities : List Severity := Severity.descending
  maxIssues : Int := 500
  fix : FixSettings := {}
  selectedKeys : Option (List Value) := none

/-- Settings that make sense together. Sets of categories and severities are given in their natural
order. -/
def make (d : Draft) : Except Fault Config := do
  let categories := Category.all.filter d.categories.elem
  let severities := Severity.descending.filter d.severities.elem
  let selectors ← Selectors.make categories severities d.maxIssues
  if categories.isEmpty then throw (.config .noTypes)
  if severities.isEmpty then throw (.config .noSeverities)
  if d.selectedKeys.isSome && d.mode != .fix then throw (.config .keysOutsideFix)
  return {
    projectDir := d.projectDir, mode := d.mode, scanner := d.scanner, localScan := d.localScan, selectors
    fix := d.fix, selectedKeys := d.selectedKeys }

end Config

end Mend
