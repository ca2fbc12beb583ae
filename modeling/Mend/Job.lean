import Mend.Build.Command
import Mend.Fix.Run
import Mend.Model.DeepScan
import Mend.Model.Drafter
import Mend.Plan.Build
import Mend.Scanner.Fetch

/-!
# Jobs

A job makes a plan, from a scan or from an earlier job, and in fix mode works it off.

## Main definitions

* `Job.Staff` — the services that a job calls.
* `Job.scan`, `Job.plan` — where the plan comes from.
* `Job.run` — a job.
-/

namespace Mend

/-- The state of the world after a run of fixes. -/
def Fix.runOn {σ : Type} (w : Workshop σ) (plan : Plan) (keys : Option (List Value)) :
    Act (World σ) Report := fun world =>
  match Fix.run w plan keys (.start world) with
  | (r, f) => (r, f.world)

namespace Job

variable {σ : Type}

/-- The services that a job calls. -/
structure Staff (σ : Type) where
  server : Scanner.Server σ
  model : Model.Service σ
  validator : Validator σ

/-- What a job hands back. -/
structure Outcome where
  plan : Plan
  /-- What became of the plan, if it was worked off. -/
  report : Option Fix.Report := none

/-- The model that looks at files in a local scan, if one is wanted. -/
def deepScanner (s : Staff σ) (c : Config) : Option (Scan.DeepScanner σ) :=
  if c.localScan.deepScan then
    some (DeepScan.scanFile s.model c.fix.model DeepScan.defaultTurns)
  else none

/-- The findings of the scanner, or of a local scan if there is none. -/
def findings (s : Staff σ) (c : Config) : Act (World σ) ScanResult :=
  match c.scanner with
  | some settings => Scanner.fetchAll s.server settings c.selectors
  | none =>
    Scan.fetchLocal c.localScan c.projectDir Detector.standard (deepScanner s c) c.selectors

/-- Makes a plan from a scan. -/
def scan (s : Staff σ) (c : Config) : Act (World σ) Plan := do
  let kind : Text := if c.scanner.isSome then "remote scanner" else "local pattern scan"
  World.say Log.info ["Scanning ", c.projectDir.toText, " using ", kind, "..."]
  let r ← findings s c
  Plan.build r.issues r.facets c.scanner.isSome r.truncated

/-- The plan of a job. A given plan is taken as it is. -/
def plan (s : Staff σ) (c : Config) (given : Option Plan) : Act (World σ) Plan := do
  match given with
  | none => scan s c
  | some plan =>
    World.say Log.info
      ["Using previously computed plan (", .decimal plan.totalIssues, " issues)"]
    return plan

/-- What a run of fixes works with. -/
def workshop (s : Staff σ) (c : Config) : Fix.Workshop σ where
  projectDir := c.projectDir
  drafter := ModelDrafter.draft s.model c.fix.model c.fix.maxTurns
  validator := s.validator
  settings := c.fix

/-- Does a job. -/
def run (s : Staff σ) (c : Config) (given : Option Plan) : Act (World σ) Outcome := do
  let plan ← plan s c given
  match c.mode with
  | .plan => return { plan }
  | .fix =>
    let report ← Fix.runOn (workshop s c) plan c.selectedKeys
    return { plan, report := some report }

/-- Compiles and tests as the settings of the fix phase say. -/
def commandValidator (interpreter : Text) (runner : Build.Runner σ) (fix : FixSettings) :
    Validator σ :=
  ({ interpreter, compile := fix.compileCommand, test := fix.testCommand
     timeout := some fix.buildTimeout } : Build.Toolchain).validator runner

end Job

end Mend
