import Mend.Cli.Help
import Mend.Cli.Parse
import Mend.Job
import Mend.Plan.File
import Mend.Plan.Summary

/-!
# The program

What the program does for a command line: it shows help, refuses the line, or does a job, shows its
log and its result, and writes the result to a file if that is wanted. The status at the end says
how things went.

## Main definitions

* `Cli.Surroundings` — what the program finds around it.
* `Cli.Result` — what the program shows, and its status.
* `Cli.run` — the program.
-/

namespace Mend.Cli

variable {σ : Type}

/-- What the program finds around it. -/
structure Surroundings (σ : Type) where
  environment : Environment
  server : Scanner.Server σ
  model : Model.Service σ
  runner : Build.Runner σ
  /-- The interpreter that checks a project of scripts. -/
  interpreter : Text
  /-- How deep a plan may be nested that is loaded. -/
  depth : Json.Depth

/-- What the program shows, and how it ends. -/
structure Result where
  out : Text := []
  err : Text := []
  /-- The status; none if the program breaks off with a fault. -/
  status : Except Fault Nat

/-- The mode of a command. -/
def Command.mode : Command → RunMode
  | .plan => .plan
  | .fix => .fix

/-- Does the job of a command. -/
def job (s : Surroundings σ) (c : Command) (a : Arguments) : Act (World σ) Job.Outcome := do
  let config ← Act.ofExcept (Config.ofArguments a c.mode s.environment)
  let plan ← match c, given a.plan with
    | .fix, some path => some <$> Plan.load s.depth (.ofText path)
    | _, _ => pure none
  let staff : Job.Staff σ := {
    server := s.server, model := s.model
    validator := Job.commandValidator s.interpreter s.runner config.fix }
  Job.run staff config plan

/-- What the log says of a job that failed, and the status. -/
def failure (c : Command) (e : Fault) : Text × Nat :=
  match e, c with
  | .config f, _ => (.cat ["Invalid configuration: ", f.message], 1)
  | .scan f, _ => (.cat ["Scan failed (", f.name, "): ", f.message], 2)
  | e, .plan => (.cat ["Planning failed: ", e.message], 1)
  | e, .fix => (.cat ["Fix run failed: ", e.message], 1)

/-- The status after a run of fixes: whether every file is fixed and no check has failed. -/
def statusOf (r : Fix.Report) : Nat :=
  if r.filesFailed = 0 && r.buildPassed != some false && r.testsPassed != some false then 0 else 3

/-- A result for people. -/
def display (o : Job.Outcome) : Except Fault Text :=
  match o.report with
  | none => o.plan.summary Plan.summaryFiles
  | some r => r.text

/-- Writes a result to a file, if that is wanted. -/
def keep (a : Arguments) (o : Job.Outcome) : Act (World σ) Unit := do
  match o.report, given a.out, given a.reportOut with
  | none, some out, _ =>
    o.plan.save (.ofText out)
    World.say Log.info ["Plan written to ", out]
  | some r, _, some out =>
    let t ← Act.ofExcept (Json.document r.toValue)
    World.writeFile (.ofText out) (t.flatMap Utf8.encodeCode)
    World.say Log.info ["Report written to ", out]
  | _, _, _ => return

/-- What the console shows of some lines of the log. -/
def shownLines (debug : Bool) (lines : List Log.Line) : Text :=
  Log.shown (.ofText Log.console) (if debug then Log.debug else Log.info)
    (lines.map fun l => ⟨Log.rootName, l.level, l.text⟩)

/-- Does a command. -/
def execute (s : Surroundings σ) (c : Command) (a : Arguments) (w : World σ) : Result × World σ :=
  match (job s c a).run w with
  | (.error .interrupted, w) =>
    ({ out := shownLines a.debug w.lines, status := .error .interrupted }, w)
  | (.error e, w) =>
    let (text, status) := failure c e
    let lines := w.lines ++ [⟨Log.error, text⟩]
    ({ out := shownLines a.debug lines, status := .ok status }, w)
  | (.ok o, w) =>
    let before := shownLines a.debug w.lines
    match display o with
    | .error e => ({ out := before, status := .error e }, w)
    | .ok text =>
      let (r, w') := (keep a o).run w
      let after := shownLines a.debug (w'.lines.drop w.lines.length)
      ({ out := .cat [before, "\n", text, "\n", after]
         status := r.map fun () => (o.report.map statusOf).getD 0 }, w')

/-- What the program says when it refuses its command line. -/
def Refusal.text (r : Refusal) : Text :=
  .cat [usage r.command, programFor r.command, ": error: ", r.message, "\n"]

/-- The program, for the words behind its name. -/
def run (s : Surroundings σ) (words : List Text) (w : World σ) : Result × World σ :=
  match parse words with
  | .error r => ({ err := r.text, status := .ok 2 }, w)
  | .ok (.help c) => ({ out := help c, status := .ok 0 }, w)
  | .ok (.command c a) => execute s c a w

end Mend.Cli
