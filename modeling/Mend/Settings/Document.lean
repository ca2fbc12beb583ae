import Mend.Json.Fields
import Mend.Settings.Environment

/-!
# Settings as documents

The settings of a job in the form of a document. A setting that is left out has its default; a name
that no setting has is refused.

## Main definitions

* `Config.ofValue`, `Config.toValue` — the settings of a job.
* `ScannerSettings.ofValue`, `FixSettings.ofValue`, `LocalSettings.ofValue`, `Selectors.ofValue` — the
  settings of its parts.
* `Arguments.ofValue` — the options of a command.
-/

namespace Mend

/-- Texts as a list in ascending order. -/
def ascendingTexts (ts : List Text) : Except Fault Value :=
  .list <$> Value.ascending (ts.map .text)

namespace ScannerSettings

/-- The settings of a scanner in a document. The address and the project must be there. -/
def ofValue (v : Value) : Except Fault ScannerSettings := do
  v.checkNames ["url", "project_key", "token", "branch", "page_size", "timeout", "http_retries"]
  v.checkThere ["url", "project_key"]
  make {
    url := ← ((v.field? "url").getD .null).asText "rstrip"
    projectKey := (v.textAt? "project_key").getD []
    token := v.textAt? "token"
    branch := v.textAt? "branch"
    pageSize := ← v.wholeAt "page_size" maxPageSize
    timeout := ← v.numberAt "timeout" (.real 30)
    retries := v.intAt "http_retries" 2 }

/-- The document of the settings of a scanner. -/
def toValue (s : ScannerSettings) : Value :=
  .record [
    ("url", .text s.url),
    ("project_key", .text s.projectKey),
    ("token", .opt .text s.token),
    ("branch", .opt .text s.branch),
    ("page_size", .nat s.pageSize),
    ("timeout", .num s.timeout),
    ("http_retries", .int s.retries)]

end ScannerSettings

/-- The settings of a local scan in a document. -/
def LocalSettings.ofValue (v : Value) : Except Fault LocalSettings := do
  v.checkNames ["extensions", "exclude_dirs", "deep_scan", "deep_scan_min_lines"]
  let usual : LocalSettings := {}
  return {
    extensions := (v.textsAt? "extensions").getD usual.extensions
    excluded := (v.textsAt? "exclude_dirs").getD usual.excluded
    deepScan := v.flagAt "deep_scan" false
    deepScanMinLines := v.intAt "deep_scan_min_lines" usual.deepScanMinLines }

/-- The document of the settings of a local scan. -/
def LocalSettings.toValue (s : LocalSettings) : Except Fault Value := do
  return .record [
    ("extensions", .texts s.extensions),
    ("exclude_dirs", ← ascendingTexts s.excluded),
    ("deep_scan", .bool s.deepScan),
    ("deep_scan_min_lines", .int s.deepScanMinLines)]

namespace FixSettings

/-- The settings of the fix phase in a document. -/
def ofValue (v : Value) : Except Fault FixSettings := do
  v.checkNames ["max_attempts", "run_tests", "compile_command", "test_command", "build_timeout",
    "model", "max_turns"]
  make {
    maxAttempts := ← v.wholeAt "max_attempts" 3
    runTests := v.flagAt "run_tests" true
    compileCommand := v.textsAt? "compile_command"
    testCommand := v.textsAt? "test_command"
    buildTimeout := ← v.numberAt "build_timeout" (.real 900)
    model := v.textAt? "model"
    maxTurns := v.intAt "max_turns" 1 }

/-- The document of the settings of the fix phase. -/
def toValue (f : FixSettings) : Value :=
  .record [
    ("max_attempts", .nat f.maxAttempts),
    ("run_tests", .bool f.runTests),
    ("compile_command", .opt .texts f.compileCommand),
    ("test_command", .opt .texts f.testCommand),
    ("build_timeout", .num f.buildTimeout),
    ("model", .opt .text f.model),
    ("max_turns", .int f.maxTurns)]

end FixSettings

/-- The selectors in a document. -/
def Selectors.ofValue (v : Value) : Except Fault Selectors := do
  let categories ← v.membersAt "types" Category.read Category.all
  let severities ← v.membersAt "severities" Severity.read Severity.descending
  make categories severities (← v.wholeAt "max_issues" 500)

namespace Config

/-- The settings of a job in a document. -/
def ofValue (v : Value) : Except Fault Config := do
  let mode ←
    match v.field? "mode" with
    | none => pure RunMode.plan
    | some m => RunMode.parse m.shown
  let categories ← v.membersAt "types" Category.read Category.all
  let severities ← v.membersAt "severities" Severity.read Severity.descending
  let selectedKeys ← (v.given? "selected_keys").mapM (·.members)
  let scanner ← (v.given? "scanner").mapM ScannerSettings.ofValue
  let localScan ← LocalSettings.ofValue ((v.given? "local").getD .null)
  let fix ← FixSettings.ofValue ((v.given? "fix").getD .null)
  v.checkNames ["project_dir", "mode", "types", "severities", "max_issues", "selected_keys",
    "scanner", "local", "fix"]
  make {
    projectDir := .ofText ((v.textAt? "project_dir").getD ".")
    mode, scanner, localScan, categories, severities
    maxIssues := ← v.wholeAt "max_issues" 500
    fix, selectedKeys }

/-- The document of the settings of a job. -/
def toValue (c : Config) : Except Fault Value := do
  return .record [
    ("project_dir", .text c.projectDir.toText),
    ("mode", .text c.mode.name),
    ("remote", .bool c.scanner.isSome),
    ("scanner", .opt ScannerSettings.toValue c.scanner),
    ("types", ← ascendingTexts (c.selectors.categories.map (·.name))),
    ("severities", ← ascendingTexts (c.selectors.severities.map (·.name))),
    ("max_issues", .nat c.selectors.maxIssues),
    ("local", ← c.localScan.toValue),
    ("fix", c.fix.toValue),
    ("selected_keys", .opt .list (← c.selectedKeys.mapM Value.ascending))]

end Config

/-- The options of a command in a document. -/
def Arguments.ofValue (v : Value) : Arguments where
  projectDir := (v.textAt? "project_dir").getD "."
  scannerUrl := v.textAt? "sonar_url"
  projectKey := v.textAt? "project_key"
  branch := v.textAt? "branch"
  categories := v.textAt? "types"
  severities := v.textAt? "severities"
  maxIssues := (v.given? "max_issues").map fun _ => v.intAt "max_issues" 0
  deepScan := v.flagAt "deep_scan" false
  debug := v.flagAt "debug" false
  out := v.textAt? "out"
  plan := v.textAt? "plan"
  issues := v.textAt? "issues"
  maxAttempts := (v.given? "max_attempts").map fun _ => v.intAt "max_attempts" 0
  noTests := v.flagAt "no_tests" false
  compileCommand := v.textAt? "compile_cmd"
  testCommand := v.textAt? "test_cmd"
  model := v.textAt? "model"
  reportOut := v.textAt? "report_out"

end Mend
