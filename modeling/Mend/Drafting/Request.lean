import Mend.Issue.Basic
import Mend.Fix.Report
import Mend.World

/-!
# Requests for a draft

What a drafter is asked: to answer with a corrected version of a whole file, given the issues in it
and what was wrong with earlier answers.

## Main definitions

* `Drafting.Request`, `Drafting.Request.prompt` — a request, and its words.
* `Drafting.Draft`, `Drafter` — an answer, and whatever gives answers.
-/

namespace Mend

namespace Drafting

/-- What a model is told before anything else. -/
def systemInstructions : Text :=
  .join "\n" [
    "You are a senior developer fixing static-analysis issues.",
    "You always answer with the COMPLETE corrected file in a single fenced code block.",
    "Fix every listed issue with minimal changes; do not refactor unrelated code,",
    "rename public APIs or drop existing behaviour. The file must still compile.",
    "If you cannot produce a correct file, answer with exactly: UNABLE_TO_FIX"]

/-- What a model is told after an answer without a usable file. -/
def invalidOutputInstruction : Text :=
  .cat [
    "Your previous answer did not contain a usable file. Reply with the full corrected ",
    "file inside a single fenced code block and nothing else."]

/-- Everything that is needed to fix one file. -/
structure Request where
  path : Text
  source : Text
  issues : List Issue
  instructions : Text := systemInstructions
  /-- What the compiler said about an earlier answer. -/
  diagnostic : Option Text := none
  /-- What to do better than in the last answer. -/
  corrective : Option Text := none

/-- The lines of an issue: the first one, and the last one if it is another. -/
def lineRange (i : Issue) : Except Fault Text := do
  let first ← Value.textOfInt i.lineStart
  if i.lineStart < i.lineEnd then return .cat [first, "-", ← Value.textOfInt i.lineEnd]
  else return first

/-- One issue in the list of a request. -/
def issueLine (number : Nat) (i : Issue) : Except Fault Text := do
  let lines ← lineRange i
  return .cat [.decimal number, ". [", i.severity.name, "] ", i.rule.shown, " at line ", lines, ": ",
    i.message.shown]

/-- The list of issues, one on a line. -/
def issueList (issues : List Issue) : Except Fault Text :=
  .join "\n" <$> (issues.zip (List.range issues.length)).mapM fun (i, n) => issueLine (n + 1) i

/-- The section about a rejected answer. -/
def diagnosticSection (diagnostic : Text) : Text :=
  .cat [
    "\n## Previous Attempt Failed to Compile\n",
    "Your previous version of this file was rejected by the compiler:\n",
    "```\n", diagnostic, "\n```\n",
    "Start again from the current file above and avoid this error.\n"]

/-- A section, if there is something to say. -/
def sectionOf (f : Text → Text) : Option Text → Text
  | some (c :: rest) => f (c :: rest)
  | _ => []

/-- The words of a request, unless the number of a line is too long to be written. -/
def Request.prompt (r : Request) : Except Fault Text := do
  let issues ← issueList r.issues
  return .cat [
    "\nFix the following issues in `", r.path, "`.\n",
    "\n## Issues to Fix\n", issues, "\n",
    "\n## Current File\n```\n", r.source, "\n```\n",
    sectionOf diagnosticSection r.diagnostic,
    sectionOf (fun t => .cat ["\n## Note\n", t, "\n"]) r.corrective,
    "\nReply with the complete corrected content of `", r.path, "` in one fenced code block.\n"]

/-- An answer: a new version of the file, if there is a usable one, and what it consumed. -/
structure Draft where
  content : Option Text
  usage : Fix.Usage := {}
  raw : Text := []

end Drafting

/-- Answers requests. -/
abbrev Drafter (σ : Type) := Drafting.Request → Act (World σ) Drafting.Draft

end Mend
