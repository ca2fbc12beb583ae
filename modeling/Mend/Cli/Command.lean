import Mend.Text.Class

/-!
# Commands and their options

What can be asked for on the command line: the commands, and the options that each of them knows.

## Main definitions

* `Cli.Switch` — an option.
* `Cli.Command`, `Cli.Command.switches` — the commands, and their options in order.
-/

namespace Mend.Cli

/-- What stands behind an option. -/
inductive Takes where
  | nothing
  | text
  | wholeNumber
deriving DecidableEq, Repr

/-- An option. -/
structure Switch where
  /-- Its spellings, dashes included. -/
  names : List Text
  takes : Takes := .text
  help : Text
deriving DecidableEq, Repr

/-- The option of one spelling. -/
def switch (name : Text) (takes : Takes) (help : Text) : Switch := { names := [name], takes, help }

namespace Switch

/-- Asks for help. -/
def forHelp : Switch where
  names := ["-h", "--help"]
  takes := .nothing
  help := "show this help message and exit"

/-- The spellings of an option, as messages name it. -/
def title (s : Switch) : Text := .join "/" s.names

/-- The last spelling of an option without its dashes. -/
def key (s : Switch) : Text := (s.names.getLast?.getD []).dropWhile (· == 0x2D)

/-- What is written for the argument of an option. -/
def metavar (s : Switch) : Text := s.key.upper.map fun c => if c == 0x2D then 0x5F else c

/-- A spelling together with its argument. -/
def written (s : Switch) (name : Text) : Text :=
  if s.takes = .nothing then name else .cat [name, " ", s.metavar]

end Switch

/-- A command. -/
inductive Command where
  | plan
  | fix
deriving DecidableEq, Repr

namespace Command

/-- The commands in the order in which they are listed. -/
def all : List Command := [.plan, .fix]

/-- The word for a command. -/
def name : Command → Text
  | .plan => "plan"
  | .fix => "fix"

/-- What a command does. -/
def help : Command → Text
  | .plan => "Fetch issues and build a remediation plan"
  | .fix => "Fix selected issues with compile-checked rewrites"

/-- The options of all commands. -/
def commonSwitches : List Switch := [
  .forHelp,
  switch "--project-dir" .text "Project root to scan and fix (default: current directory)",
  switch "--sonar-url" .text
    "Scanner server URL (default: SONAR_HOST_URL env var; local scan when unset)",
  switch "--project-key" .text "Scanner project key (default: SONAR_PROJECT_KEY env var)",
  switch "--branch" .text "Branch to analyze on the scanner",
  switch "--types" .text "Comma separated issue types: BUG,VULNERABILITY,CODE_SMELL (default: all)",
  switch "--severities" .text
    "Comma separated severities: BLOCKER,CRITICAL,MAJOR,MINOR,INFO (default: all)",
  switch "--max-issues" .wholeNumber "Maximum number of issues to fetch (default: 500)",
  switch "--deep-scan" .nothing "Augment the local pattern scan with a generative scan",
  switch "--debug" .nothing "Enable debug logging"]

/-- The options of a command. -/
def switches : Command → List Switch
  | .plan => commonSwitches ++ [
      switch "--out" .text "Write the plan as JSON for a later fix run"]
  | .fix => commonSwitches ++ [
      switch "--plan" .text "Reuse a plan written by 'plan --out' instead of scanning again",
      switch "--issues" .text "Comma separated issue keys to fix (default: every locatable issue)",
      switch "--max-attempts" .wholeNumber "Rewrite attempts per file (default: 3)",
      switch "--no-tests" .nothing "Skip the final test run",
      switch "--compile-cmd" .text "Compile-only command (default: detected from the project)",
      switch "--test-cmd" .text "Test command (default: detected from the project)",
      switch "--model" .text "Model used by the rewriter",
      switch "--report-out" .text "Write the fix report as JSON"]

end Command

/-- The name of the program. -/
def programName : Text := "remediation-agent"

/-- The name of the program together with a command. -/
def programFor : Option Command → Text
  | none => programName
  | some c => .cat [programName, " ", c.name]

end Mend.Cli
