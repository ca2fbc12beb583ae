import Mend.Fix.Report
import Mend.Json.Fields

/-!
# Reports as documents

The parts of a report in the form of documents with the fields of their types. A field that is left
out has its default; a name that no field has is refused.

## Main definitions

* `Usage.ofValue`, `FileResult.ofValue`, `Report.ofValue` — reports and their parts.
-/

namespace Mend.Fix

/-- The member of a closed list with a name. -/
def named {α : Type} (what : Text) (nameOf : α → Text) (all : List α) (name : Text) :
    Except Fault α :=
  match all.find? fun a => nameOf a == name with
  | some a => .ok a
  | none => .error (.notOneOf what name)

/-- The consumption in a document. -/
def Usage.ofValue (v : Value) : Except Fault Usage := do
  v.checkNames ["input_tokens", "output_tokens", "cost_usd"]
  return {
    inputTokens := ← v.wholeAt "input_tokens" 0
    outputTokens := ← v.wholeAt "output_tokens" 0
    cost := ← v.numberAt "cost_usd" (.real 0) }

/-- The try at a file in a document. -/
def Attempt.ofValue (v : Value) : Except Fault Attempt := do
  let outcome ← named "AttemptOutcome" Outcome.name Outcome.all ((v.textAt? "outcome").getD [])
  return { number := v.intAt "number" 0, outcome, diagnostic := v.textAt? "diagnostic" }

/-- The result of a file in a document. -/
def FileResult.ofValue (v : Value) : Except Fault FileResult := do
  let attempts ← ((v.itemsAt? "attempts").getD []).mapM Attempt.ofValue
  let state ← match v.textAt? "final_state" with
    | none => pure State.rolledBack
    | some name => named "FixState" State.name State.all name
  v.checkNames ["file_path", "issues_attempted", "issues_fixed", "attempts", "final_state", "error",
    "issue_keys"]
  v.checkThere ["file_path", "issues_attempted"]
  return {
    path := (v.textAt? "file_path").getD []
    issuesAttempted := ← v.wholeAt "issues_attempted" 0
    issuesFixed := ← v.wholeAt "issues_fixed" 0
    attempts, state
    error := v.textAt? "error"
    keys := (v.itemsAt? "issue_keys").getD [] }

/-- The report in a document. -/
def Report.ofValue (v : Value) : Except Fault Report := do
  let results ← ((v.itemsAt? "results").getD []).mapM FileResult.ofValue
  let usage ← ((v.given? "usage").map Usage.ofValue).getD (.ok {})
  v.checkNames ["results", "build_passed", "tests_passed", "build_output", "test_output", "usage",
    "cancelled", "skipped_files", "unlocatable_keys", "unknown_keys"]
  return {
    results, usage
    buildPassed := (v.given? "build_passed").map (·.isGiven)
    testsPassed := (v.given? "tests_passed").map (·.isGiven)
    buildOutput := (v.textAt? "build_output").getD []
    testOutput := (v.textAt? "test_output").getD []
    cancelled := v.flagAt "cancelled" false
    skipped := (v.textsAt? "skipped_files").getD []
    unlocatable := (v.itemsAt? "unlocatable_keys").getD []
    unknown := (v.itemsAt? "unknown_keys").getD [] }

end Mend.Fix
