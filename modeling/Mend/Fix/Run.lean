import Mend.Fix.Attempt
import Mend.Plan.Selection

/-!
# Fix runs

A run works on the selected files of a plan, one after the other, because all share one tree. A
request to stop takes effect before the next file. In the end the whole project is compiled and, if
wanted, tested once more.

## Main definitions

* `Fix.select` — what a run is about.
* `Fix.fixFiles` — the files of a run.
* `Fix.certify` — the check at the end.
* `Fix.run` — a run.
-/

namespace Mend.Fix

variable {σ : Type}

open Fixer

/-- Tells the log which file is next. -/
def announce (total number : Nat) (g : FileGroup) : Act (Fixer σ) Unit :=
  say Log.info ["[", .decimal number, "/", .decimal total, "] ", g.path, " (",
    .decimal g.issues.length, " issues)"]

/-- Works on the file with a number, of `total`. -/
def fixNext (w : Workshop σ) (total number : Nat) (g : FileGroup) : Act (Fixer σ) FileResult := do
  announce total number g
  fixFile w g.path g.issues

/-- Works on files until all are done or somebody asks to stop: the results, and the files that were
not started. `number` is that of the next file, of `total`. -/
def fixFiles (w : Workshop σ) (total : Nat) :
    (number : Nat) → List FileGroup → Act (Fixer σ) (List FileResult × List Text)
  | _, [] => return ([], [])
  | number, g :: rest => do
    if (← Act.get).world.cancelled then
      let skipped := (g :: rest).map (·.path)
      say Log.warning ["Cancelled: ", .decimal skipped.length, " file(s) not started"]
      return ([], skipped)
    else
      let result ← fixNext w total number g
      let (results, skipped) ← fixFiles w total (number + 1) rest
      return (result :: results, skipped)

/-- The outcome of a check; a check that cannot be done has failed. -/
def check (failure : Text) (a : Act (World σ) BuildOutcome) : Act (Fixer σ) BuildOutcome := do
  match ← (onWorld a).caught with
  | .ok outcome => return outcome
  | .error e =>
    say Log.error [failure, e.message]
    return ⟨false, e.message⟩

/-- What the log says of a project that could not be compiled once more. -/
def buildFailure : Text := "Final build check could not run: "

/-- What the log says of tests that could not be run. -/
def testFailure : Text := "Test run could not run: "

/-- Compiles the project once more and runs its tests, if wanted. -/
def certify (w : Workshop σ) (r : Report) : Act (Fixer σ) Report := do
  say Log.info ["Final build check..."]
  let build ← check buildFailure (w.validator.compile w.projectDir)
  let r := { r with buildPassed := some build.ok, buildOutput := build.output }
  if w.settings.runTests then
    say Log.info ["Running test suite..."]
    let tests ← check testFailure (w.validator.test w.projectDir)
    if !tests.ok then say Log.warning ["Tests failed after fixes; committed files are kept"]
    return { r with testsPassed := some tests.ok, testOutput := tests.output }
  else return r

/-- Tells the log about the requested keys that cannot be fixed. -/
def tellKeys (s : Selection) : Act (Fixer σ) Unit := do
  if !s.unlocatable.isEmpty then
    say Log.warning ["Skipping ", .decimal s.unlocatable.length, " unlocatable issue(s)"]
  if !s.unknown.isEmpty then
    say Log.warning ["Unknown issue keys: ", ← Act.ofExcept (Report.keyList s.unknown)]

/-- Picks the issues with the given keys out of a plan. -/
def select (plan : Plan) (keys : Option (List Value)) : Act (Fixer σ) Selection := do
  let selection ← Act.ofExcept (plan.find keys)
  tellKeys selection
  say Log.info ["Fixing ", .decimal selection.issueCount, " issues in ",
    .decimal selection.groups.length, " files"]
  return selection

/-- The report about a run before the check at the end. -/
def gathered (s : Selection) (results : List FileResult) (skipped : List Text) (usage : Usage) :
    Report where
  results := results
  skipped := skipped
  cancelled := !skipped.isEmpty
  usage := ({} : Usage) + usage
  unlocatable := s.unlocatable
  unknown := s.unknown

/-- Tells the log what came of a run. -/
def summarize (r : Report) : Act (Fixer σ) Unit :=
  say Log.info ["Run complete: ", .decimal r.filesFixed, " files fixed, ",
    .decimal r.filesFailed, " failed, ", .ofInt r.issuesFixed, " issues fixed"]

/-- Fixes the issues of a plan with the given keys, or every issue that lies in a file. -/
def run (w : Workshop σ) (plan : Plan) (keys : Option (List Value)) : Act (Fixer σ) Report := do
  let selection ← select plan keys
  let (results, skipped) ← fixFiles w selection.groups.length 1 selection.groups
  let report := gathered selection results skipped (← Act.get).usage
  let report ← if results.isEmpty then pure report else certify w report
  summarize report
  return report

end Mend.Fix
