import Mend.Model.Session
import Mend.Model.Storage
import Mend.Scan.Findings

/-!
# Deep scans by a model

A model is shown a file and asked to report each defect by a call of a tool.

## Main definitions

* `DeepScan.prompt`, `DeepScan.options` — what the model is told.
* `DeepScan.scanFile` — the findings that it reports.
-/

namespace Mend.DeepScan

open Model

variable {σ : Type}

/-- The most turns of a session. -/
def defaultTurns : Int := 10

/-- What the model is told before anything else. -/
def systemPrompt : Text :=
  "You are a static analysis expert. Report only real, actionable issues."

/-- How a session is opened: the model may use nothing but the tool for its reports. -/
def options (model : Option Text) (maxTurns : Int) : Options where
  systemPrompt := systemPrompt
  allowedTools := ["mcp__scan__store_issue"]
  maxTurns := maxTurns
  model := model

/-- The task for a file. -/
def prompt (path text : Text) : Text :=
  .cat [
    "\nYou are a static analysis expert. Review the following file and report real defects only:\n",
    "bugs, security vulnerabilities and significant code smells.\n",
    "\n## File\n", path, "\n\n```\n", text, "\n```\n",
    "\n## For Each Issue Found\n",
    "Call the `store_issue` tool with:\n",
    "- line_start / line_end: 1-based line numbers\n",
    "- rule: a short rule identifier (e.g. java:S2095)\n",
    "- issue_type: one of [BUG, VULNERABILITY, CODE_SMELL]\n",
    "- severity: one of [BLOCKER, CRITICAL, MAJOR, MINOR, INFO]\n",
    "- message: one sentence describing the problem\n",
    "\nDo not report style preferences. Call store_issue once per issue.\n"]

/-- What the log says about a finished answer. -/
def notices (path : Text) (a : Account) : List Log.Line :=
  ⟨Log.debug, .cat ["Deep scan of ", path, " finished in ", a.milliseconds.shown, "ms"]⟩ ::
    if a.isError then
      [⟨Log.warning, .cat ["Deep scan of ", path, " reported an error: ", a.result.shown]⟩]
    else []

/-- Goes through the messages of a session: the storage at the end, the answers to the calls, and
whether the session broke off. -/
def collect (path : Text) :
    Storage → List Message → Act (World σ) (Storage × List Storage.Reply × Option Fault)
  | s, [] => return (s, [], none)
  | s, .answer _ :: rest => collect path s rest
  | s, .account a :: rest => do
    World.tell (notices path a)
    collect path s rest
  | s, .toolCall arguments :: rest => do
    let (reply, s) := s.store arguments
    let (s, replies, fault) ← collect path s rest
    return (s, reply :: replies, fault)
  | s, .broken message :: _ => return (s, [], some (.broken message))

/-- A whole session about a file. -/
def session (service : Service σ) (model : Option Text) (maxTurns : Int) (path text : Text) :
    Act (World σ) (Storage × List Storage.Reply × Option Fault) := do
  let messages ← service (options model maxTurns) (prompt path text)
  collect path { required := ["line_start", "message"] } messages

/-- The findings that a model reports for a file. -/
def scanFile (service : Service σ) (model : Option Text) (maxTurns : Int) :
    Scan.DeepScanner σ := fun path text => do
  match ← session service model maxTurns path text with
  | (s, _, none) => return s.values
  | (_, _, some e) => Act.fail e

end Mend.DeepScan
