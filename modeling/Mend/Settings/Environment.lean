import Mend.Settings.Basic
import Mend.Text.Words

/-!
# Settings from outside

How the settings of a job are put together from environment variables and from the command line.
What the command line says goes before the environment, and the environment before the defaults.

## Main definitions

* `Environment`, `Config.ofEnvironment` — the settings that the environment gives.
* `Arguments`, `Config.ofArguments` — the settings of a command.
-/

namespace Mend

/-- Environment variables and their values. -/
abbrev Environment := List (Text × Text)

namespace Environment

/-- The variables that say something about a job. -/
def names : List String :=
  ["SONAR_HOST_URL", "SONAR_PROJECT_KEY", "SONAR_TOKEN", "SONAR_BRANCH", "MAX_ISSUES",
   "MAX_FIX_ATTEMPTS", "RUN_TESTS", "REMEDIATION_MODEL"]

/-- The value of a variable. -/
def get? (env : Environment) (name : String) : Option Text := env.lookup (Text.ofString name)

/-- The value of a variable that is not empty. -/
def given? (env : Environment) (name : String) : Option Text :=
  match env.get? name with
  | some (c :: rest) => some (c :: rest)
  | _ => none

/-- The whole number in a variable, or another one if it is empty. -/
def int (env : Environment) (name : String) (other : Int) : Except Fault Int :=
  match env.given? name with
  | none => .ok other
  | some value =>
    match Numeral.read value with
    | .ok n => .ok n
    | .error _ => .error (.config (.notInteger name value))

/-- The scanner that the environment names; it takes an address and a project. -/
def scanner (env : Environment) : Except Fault (Option ScannerSettings) :=
  match env.given? "SONAR_HOST_URL", env.given? "SONAR_PROJECT_KEY" with
  | some url, some projectKey =>
    some <$> ScannerSettings.make {
      url, projectKey, token := env.get? "SONAR_TOKEN", branch := env.given? "SONAR_BRANCH" }
  | _, _ => .ok none

/-- The settings of the fix phase that the environment gives. -/
def fix (env : Environment) : Except Fault FixSettings := do
  FixSettings.make {
    maxAttempts := ← env.int "MAX_FIX_ATTEMPTS" 3
    runTests := ((env.get? "RUN_TESTS").getD "true").lower == Text.ofString "true"
    model := env.given? "REMEDIATION_MODEL" }

end Environment

/-- The settings that the environment gives. -/
def Config.ofEnvironment (projectDir : Path) (env : Environment) : Except Fault Config := do
  let scanner ← env.scanner
  let maxIssues ← env.int "MAX_ISSUES" 500
  let fix ← env.fix
  Config.make { projectDir, scanner, maxIssues, fix }

/-! ## Lists -/

/-- The parts of a list between commas that are not blank. -/
def commaParts (t : Text) : List Text :=
  (Text.splitOn 0x2C t).filter fun part => !part.strip.isEmpty

/-- The members of a list between commas, each read by `parse`; an unknown name is the fault that
`fault` makes of the whole list. -/
def commaList {α : Type} (parse : Text → Except Fault α) (fault : Text → ConfigFault) (t : Text) :
    Except Fault (List α) :=
  match (commaParts t).mapM parse with
  | .ok as => .ok as
  | .error _ => .error (.config (fault t))

/-- The categories in a list between commas. -/
def Category.list (t : Text) : Except Fault (List Category) :=
  commaList Category.parse .unknownType t

/-- The severities in a list between commas. -/
def Severity.list (t : Text) : Except Fault (List Severity) :=
  commaList Severity.parse .unknownSeverity t

/-! ## The command line -/

/-- The options of a command, as they were given. -/
structure Arguments where
  projectDir : Text := "."
  scannerUrl : Option Text := none
  projectKey : Option Text := none
  branch : Option Text := none
  categories : Option Text := none
  severities : Option Text := none
  maxIssues : Option Int := none
  deepScan : Bool := false
  debug : Bool := false
  /-- Where to write the plan. -/
  out : Option Text := none
  /-- The plan to work on. -/
  plan : Option Text := none
  issues : Option Text := none
  maxAttempts : Option Int := none
  noTests : Bool := false
  compileCommand : Option Text := none
  testCommand : Option Text := none
  model : Option Text := none
  /-- Where to write the report. -/
  reportOut : Option Text := none

/-- An option that is given and not empty. -/
def given (t : Option Text) : Option Text :=
  match t with
  | some (c :: rest) => some (c :: rest)
  | _ => none

namespace Arguments

/-- The scanner of a command. An option goes before what the environment says; with one option
alone, the environment must name a scanner. -/
def scanner (a : Arguments) (env : Environment) (known : Option ScannerSettings) :
    Except Fault (Option ScannerSettings) :=
  let url := (given a.scannerUrl).orElse fun _ => known.map (·.url)
  let projectKey := (given a.projectKey).orElse fun _ => known.map (·.projectKey)
  match url, projectKey with
  | some url, some projectKey =>
    some <$> ScannerSettings.make {
      url, projectKey, token := env.get? "SONAR_TOKEN"
      branch := (given a.branch).orElse fun _ => known.bind (·.branch) }
  | _, _ =>
    if (given a.scannerUrl).isSome || (given a.projectKey).isSome then
      .error (.config .halfScanner)
    else .ok known

/-- The words of a command that may be missing. -/
def commandWords (command : Option Text) : Except Fault (Option (List Text)) :=
  match given command with
  | none => .ok none
  | some t => some <$> t.words

/-- The settings of the fix phase of a command. -/
def fix (a : Arguments) (known : FixSettings) : Except Fault FixSettings := do
  FixSettings.make {
    maxAttempts := a.maxAttempts.getD known.maxAttempts
    runTests := known.runTests && !a.noTests
    compileCommand := ← commandWords a.compileCommand
    testCommand := ← commandWords a.testCommand
    model := (given a.model).orElse fun _ => known.model }

/-- The keys in a list between commas, without the blanks around them, each once. -/
def keys (t : Text) : List Value :=
  Value.distinct ((commaParts t).map fun part => .text part.strip)

end Arguments

/-- The settings of a command. -/
def Config.ofArguments (a : Arguments) (mode : RunMode) (env : Environment) :
    Except Fault Config := do
  let projectDir := Path.ofText a.projectDir
  let known ← Config.ofEnvironment projectDir env
  let scanner ← a.scanner env known.scanner
  let fix ← if mode == .fix then a.fix known.fix else pure known.fix
  let selectedKeys := if mode == .fix then (given a.issues).map Arguments.keys else none
  let categories ← ((given a.categories).map Category.list).getD (.ok Category.all)
  let severities ← ((given a.severities).map Severity.list).getD (.ok Severity.descending)
  Config.make {
    projectDir, mode, scanner, localScan := { deepScan := a.deepScan }, categories, severities
    maxIssues := a.maxIssues.getD known.selectors.maxIssues, fix, selectedKeys }

end Mend
