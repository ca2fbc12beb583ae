import Mend.Json.Access
import Mend.Sum

/-!
# Fix reports

What became of each file in the fix phase, and of the run as a whole.

## Main definitions

* `State`, `Outcome`, `Attempt`, `FileResult` — the fate of one file.
* `Usage` — what drafting consumed.
* `Report`, `Report.toValue`, `Report.text` — the whole run, as a document and as a report.
-/

namespace Mend.Fix

/-- The states of a file while it is fixed. -/
inductive State where
  | pending
  | drafting
  | validating
  | success
  | retrying
  | failed
  /-- The end of a file whose draft is accepted. -/
  | committed
  /-- The end of a file that has its old contents back. -/
  | rolledBack
deriving DecidableEq, Repr

/-- The name of a state in documents. -/
def State.name : State → Text
  | .pending => "pending"
  | .drafting => "drafting"
  | .validating => "validating"
  | .success => "success"
  | .retrying => "retrying"
  | .failed => "failed"
  | .committed => "committed"
  | .rolledBack => "rolled_back"

/-- All states. -/
def State.all : List State :=
  [.pending, .drafting, .validating, .success, .retrying, .failed, .committed, .rolledBack]

/-- How a single try ended. -/
inductive Outcome where
  | success
  | compileFailed
  | invalidOutput
  | toolError
deriving DecidableEq, Repr

/-- The name of an outcome in documents. -/
def Outcome.name : Outcome → Text
  | .success => "success"
  | .compileFailed => "compile_failed"
  | .invalidOutput => "invalid_output"
  | .toolError => "tool_error"

/-- All outcomes. -/
def Outcome.all : List Outcome := [.success, .compileFailed, .invalidOutput, .toolError]

/-- What drafting consumed: tokens read, tokens written and the cost in dollars. -/
structure Usage where
  inputTokens : Int := 0
  outputTokens : Int := 0
  cost : Number := .real 0

namespace Usage

/-- The sum of two consumptions. -/
def add (a b : Usage) : Usage where
  inputTokens := a.inputTokens + b.inputTokens
  outputTokens := a.outputTokens + b.outputTokens
  cost := a.cost + b.cost

instance : Add Usage := ⟨add⟩

/-- The document of a consumption; the cost has at most six decimal places. -/
def toValue (u : Usage) : Value :=
  .record [
    ("input_tokens", .int u.inputTokens),
    ("output_tokens", .int u.outputTokens),
    ("cost_usd", .num (u.cost.roundTo 6))]

/-- Whether nothing at all was consumed. -/
def isNone (u : Usage) : Bool := u.inputTokens == 0 && u.outputTokens == 0 && u.cost.isZero

end Usage

/-- One try at a file. -/
structure Attempt where
  number : Int
  outcome : Outcome
  diagnostic : Option Text := none
deriving DecidableEq, Repr

/-- The document of a try. -/
def Attempt.toValue (a : Attempt) : Value :=
  .record [
    ("number", .int a.number),
    ("outcome", .text a.outcome.name),
    ("diagnostic", .opt .text a.diagnostic)]

/-- What became of one file. -/
structure FileResult where
  path : Text
  issuesAttempted : Int
  issuesFixed : Int := 0
  attempts : List Attempt := []
  state : State := .rolledBack
  error : Option Text := none
  keys : List Value := []

namespace FileResult

/-- Whether a draft for the file was accepted. -/
def isCommitted (r : FileResult) : Bool := r.state == .committed

/-- Whether the file has its old contents back, and somebody has to look at it. -/
def needsReview (r : FileResult) : Bool := r.state == .rolledBack

/-- The document of a result. -/
def toValue (r : FileResult) : Value :=
  .record [
    ("file_path", .text r.path),
    ("issues_attempted", .int r.issuesAttempted),
    ("issues_fixed", .int r.issuesFixed),
    ("final_state", .text r.state.name),
    ("error", .opt .text r.error),
    ("issue_keys", .list r.keys),
    ("attempts", .list (r.attempts.map (·.toValue)))]

/-- The lines of a report about a file. -/
def lines (r : FileResult) : List Text :=
  let status : Text := if r.isCommitted then "committed" else "rolled back, needs manual review"
  Text.stack [
    [.cat ["- ", r.path, ": ", status, " (", .ofInt r.issuesFixed, "/", .ofInt r.issuesAttempted,
      " issues, ", .decimal r.attempts.length, " attempt(s))"]],
    r.attempts.map fun a => .cat ["  - attempt ", .ofInt a.number, ": ", a.outcome.name],
    match r.error with
    | some (c :: rest) => [.cat ["  - error: ", c :: rest]]
    | _ => []]

end FileResult

/-- The outcome of a whole run. -/
structure Report where
  results : List FileResult := []
  /-- Whether the whole project compiled in the end, if that was tried. -/
  buildPassed : Option Bool := none
  testsPassed : Option Bool := none
  buildOutput : Text := []
  testOutput : Text := []
  usage : Usage := {}
  cancelled : Bool := false
  /-- The files that were not started because of a cancellation. -/
  skipped : List Text := []
  unlocatable : List Value := []
  unknown : List Value := []

namespace Report

/-- How many files have an accepted draft. -/
def filesFixed (r : Report) : Nat := (r.results.filter (·.isCommitted)).length

/-- How many files have no accepted draft. -/
def filesFailed (r : Report) : Nat := (r.results.filter fun x => !x.isCommitted).length

/-- How many issues are fixed. -/
def issuesFixed (r : Report) : Int := sumOver (·.issuesFixed) r.results

/-- How many of the issues that were attempted are not fixed. -/
def issuesFailed (r : Report) : Int :=
  sumOver (fun x => x.issuesAttempted - x.issuesFixed) r.results

/-- The document of a report. -/
def toValue (r : Report) : Value :=
  .record [
    ("summary", .record [
      ("files_fixed", .nat r.filesFixed),
      ("files_failed", .nat r.filesFailed),
      ("issues_fixed", .int r.issuesFixed),
      ("issues_failed", .int r.issuesFailed),
      ("build_passed", .opt .bool r.buildPassed),
      ("tests_passed", .opt .bool r.testsPassed),
      ("cancelled", .bool r.cancelled)]),
    ("results", .list (r.results.map (·.toValue))),
    ("skipped_files", .texts r.skipped),
    ("unlocatable_keys", .list r.unlocatable),
    ("unknown_keys", .list r.unknown),
    ("build_output", .text r.buildOutput),
    ("test_output", .text r.testOutput),
    ("usage", r.usage.toValue)]

/-- The word for the result of a check. -/
def flag : Option Bool → Text
  | none => "not run"
  | some true => "passed"
  | some false => "FAILED"

/-- The text that a key is; the number says where it stands. -/
def keyText : Value × Nat → Except Fault Text
  | (.text t, _) => .ok t
  | (v, n) => .error (.wrongKind (.cat
    ["sequence item ", .decimal n, ": expected str instance, ", v.kind, " found"]))

/-- Keys separated by commas; each must be a text. -/
def keyList (keys : List Value) : Except Fault Text := do
  let texts ← (keys.zip (List.range keys.length)).mapM keyText
  return .join ", " texts

/-- The line about some keys, if there are any. -/
def keyLines (before : List Text) (label : Text) (keys : List Value) : Except Fault (List Text) := do
  if keys.isEmpty then return []
  return before ++ [label ++ (← keyList keys)]

/-- The lines about the consumption, if there was any. -/
def usageLines (u : Usage) : List Text :=
  if u.isNone then []
  else
    ["",
     "### Usage",
     .cat ["- Tokens: ", .ofInt u.inputTokens, " in / ", .ofInt u.outputTokens, " out"],
     .cat ["- Cost: $", u.cost.fixed 4]]

/-- The lines of a report. -/
def lines (r : Report) : Except Fault (List Text) := do
  let head : List Text :=
    ["## Fix Report",
     "",
     "### Summary",
     .cat ["- Files fixed: ", .decimal r.filesFixed],
     .cat ["- Files failed: ", .decimal r.filesFailed],
     .cat ["- Issues fixed: ", .ofInt r.issuesFixed],
     .cat ["- Issues failed: ", .ofInt r.issuesFailed],
     .cat ["- Final build: ", flag r.buildPassed],
     .cat ["- Final tests: ", flag r.testsPassed]]
  let cancelled : List Text :=
    if r.cancelled then
      [.cat ["- Cancelled, ", .decimal r.skipped.length, " file(s) not started"]]
    else []
  let files : List Text :=
    if r.results.isEmpty then [] else "" :: "### Files" :: r.results.flatMap (·.lines)
  let unlocatable ← keyLines [""] "Skipped unlocatable issues: " r.unlocatable
  let unknown ← keyLines [] "Unknown issue keys: " r.unknown
  return Text.stack [head, cancelled, files, unlocatable, unknown, usageLines r.usage]

/-- A report for people. -/
def text (r : Report) : Except Fault Text := do return .join "\n" (← r.lines)

end Report

end Mend.Fix
