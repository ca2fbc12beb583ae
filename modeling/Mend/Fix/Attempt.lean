import Mend.Fix.Backup
import Mend.Drafting.Request
import Mend.Settings.Basic

/-!
# Attempts at a file

A file is fixed in a bounded number of attempts. An attempt asks for a draft, writes it, and compiles
the whole project. Every attempt starts from the old contents of the file; after a failed one they
are put back first, and the next request says what went wrong.

## Main definitions

* `BuildOutcome`, `Validator` — what compiles and tests a project.
* `Fixer σ` — the state of a run.
* `Fix.Ending`, `Fix.attemptOnce` — how an attempt ends, and doing one.
* `Fix.attemptLoop`, `Fix.attempted` — all attempts at a file.
* `Fix.fixFile` — the whole work on a file.
-/

namespace Mend

/-- How a compilation or a test run ended. -/
structure BuildOutcome where
  ok : Bool
  output : Text := []

/-- Compiles and tests a whole project. -/
structure Validator (σ : Type) where
  compile : Path → Act (World σ) BuildOutcome
  test : Path → Act (World σ) BuildOutcome

namespace Fix

/-- A state that a file enters, in which attempt. -/
structure Transition where
  path : Text
  state : State
  attempt : Option Nat := none
deriving DecidableEq, Repr

/-- The state of a run. -/
structure Fixer (σ : Type) extends Held σ where
  /-- The states that files have entered, the last one first. -/
  transitions : List Transition := []
  /-- What all answers have consumed so far. -/
  usage : Usage := {}
  /-- The attempts at the present file. -/
  attempts : List Attempt := []

/-- What a run works with. -/
structure Workshop (σ : Type) where
  projectDir : Path
  drafter : Drafter σ
  validator : Validator σ
  settings : FixSettings := {}

namespace Fixer

variable {σ α : Type}

/-- The state of a run that has not begun. -/
def start (world : World σ) : Fixer σ where
  world := world
  backup := { path := {} }

/-- An action on the file under repair. -/
def onHeld (a : Act (Held σ) α) : Act (Fixer σ) α := fun f =>
  match a f.toHeld with
  | (r, held) => (r, { f with toHeld := held })

/-- An action on the world. -/
def onWorld (a : Act (World σ) α) : Act (Fixer σ) α := onHeld (Held.onWorld a)

/-- Writes a line to the log. -/
def say (level : Log.Level) (parts : List Text) : Act (Fixer σ) Unit :=
  onWorld (World.say level parts)

/-- Notes that a file enters a state. -/
def transition (path : Text) (state : State) (attempt : Option Nat) : Act (Fixer σ) Unit := do
  .modify fun f => { f with transitions := ⟨path, state, attempt⟩ :: f.transitions }
  let suffix : Text := match attempt with
    | some n => if n = 0 then [] else .cat [" (attempt ", .decimal n, ")"]
    | none => []
  say Log.debug ["  ", path, ": ", state.name, suffix]

@[simp] theorem run_onHeld (a : Act (Held σ) α) (f : Fixer σ) :
    (onHeld a).run f = ((a.run f.toHeld).1, { f with toHeld := (a.run f.toHeld).2 }) := rfl

@[simp] theorem run_onWorld (a : Act (World σ) α) (f : Fixer σ) :
    (onWorld a).run f = ((a.run f.world).1, { f with world := (a.run f.world).2 }) := rfl

@[simp] theorem run_say (level : Log.Level) (parts : List Text) (f : Fixer σ) :
    (say level parts).run f =
      (.ok (), { f with world.log := ⟨level, .cat parts⟩ :: f.world.log }) := rfl

/-- The last state of each file, in the order in which the files were first seen. -/
def states (f : Fixer σ) : List (Text × State) :=
  f.transitions.reverse.foldl
    (fun known t =>
      if known.any (·.1 == t.path) then
        known.map fun x => if x.1 == t.path then (x.1, t.state) else x
      else known ++ [(t.path, t.state)]) []

end Fixer

/-! ## One attempt -/

/-- How an attempt ends. -/
inductive Ending where
  | success
  /-- There is no usable draft. -/
  | invalidOutput (reason : Text)
  /-- The project does not compile with the draft. -/
  | compileFailed (diagnostic : Text)
  /-- The drafter, the compiler or the file system failed. -/
  | toolError (reason : Text)
deriving DecidableEq, Repr

namespace Ending

/-- The outcome in the record of an attempt. -/
def outcome : Ending → Outcome
  | success => .success
  | invalidOutput _ => .invalidOutput
  | compileFailed _ => .compileFailed
  | toolError _ => .toolError

/-- The record of an attempt. -/
def attempt (e : Ending) (number : Nat) : Attempt :=
  match e with
  | success => ⟨number, .success, none⟩
  | invalidOutput t => ⟨number, .invalidOutput, some t⟩
  | compileFailed t => ⟨number, .compileFailed, some t⟩
  | toolError t => ⟨number, .toolError, some t⟩

end Ending

/-- What the next attempt is told about the earlier ones. -/
structure Feedback where
  /-- What the compiler said about the last draft that it refused. -/
  diagnostic : Option Text := none
  /-- What to do better than in the last answer. -/
  corrective : Option Text := none
  /-- Why the last attempt failed. -/
  lastError : Option Text := none
deriving DecidableEq, Repr

/-- The feedback after one more attempt. -/
def Feedback.after (f : Feedback) : Ending → Feedback
  | .success => f
  | .invalidOutput t =>
    { f with corrective := some Drafting.invalidOutputInstruction, lastError := some t }
  | .compileFailed t =>
    { diagnostic := some t, corrective := none, lastError := some "compilation failed" }
  | .toolError t => { f with corrective := none, lastError := some t }

/-- What the next attempt asks for, given the old contents of the file. -/
def Feedback.request (f : Feedback) (path source : Text) (issues : List Issue) :
    Drafting.Request where
  path := path
  source := source
  issues := issues
  diagnostic := f.diagnostic
  corrective := f.corrective

variable {σ : Type}

open Fixer

/-- Whether two texts are the same but for line feeds at their ends. -/
def isUnchanged (content baseline : Text) : Bool :=
  content.trimRight (· == Text.newline) == baseline.trimRight (· == Text.newline)

/-- What to make of a draft for a file with given old contents: a candidate, or why there is none. -/
def candidateOf (d : Drafting.Draft) (baseline : Text) : Except Ending Text :=
  match d.content with
  | none => .error (.invalidOutput "Rewriter returned no usable file")
  | some content =>
    if isUnchanged content baseline then
      .error (.invalidOutput "Rewriter returned the file unchanged")
    else .ok content

/-- Asks for a candidate. No file is touched. -/
def draft (w : Workshop σ) (r : Drafting.Request) : Act (Fixer σ) (Except Ending Text) := do
  match ← (onWorld (w.drafter r)).caught with
  | .error e => return .error (.toolError (ToolFault.drafter e.message).message)
  | .ok d =>
    .modify fun f => { f with usage := f.usage + d.usage }
    return candidateOf d (← Act.get).backup.baselineText

/-- Why a candidate is refused after a compilation, if it is. -/
def refusal : Except Fault BuildOutcome → Option Ending
  | .ok outcome => if outcome.ok then none else some (.compileFailed outcome.output)
  | .error (.tool fault) => some (.toolError fault.message)
  | .error e => some (.toolError (ToolFault.validator e.message).message)

/-- Compiles the project with a candidate in place. If it is refused, the old contents come back. -/
def judge (w : Workshop σ) : Act (Fixer σ) Ending := do
  match refusal (← (onWorld (w.validator.compile w.projectDir)).caught) with
  | none => return .success
  | some ending =>
    onHeld (Backup.restore false)
    return ending

/-- Writes a candidate and compiles the project. Unless it compiles, the old contents are back at
the end. -/
def validate (w : Workshop σ) (candidate : Text) : Act (Fixer σ) Ending := do
  match ← (onHeld (Backup.writeCandidate candidate)).attempt with
  | .error (.file fault) =>
    onHeld (Backup.restore true)
    return .toolError (ToolFault.candidateUnwritable fault).message
  | .error e => Act.fail e
  | .ok () => judge w

/-- One attempt at a file. -/
def attemptOnce (w : Workshop σ) (path : Text) (issues : List Issue) (number : Nat)
    (feedback : Feedback) : Act (Fixer σ) Ending := do
  transition path .drafting (some number)
  let source := (← Act.get).backup.baselineText
  match ← draft w (feedback.request path source issues) with
  | .error ending => return ending
  | .ok candidate =>
    transition path .validating (some number)
    validate w candidate

/-! ## All attempts -/

/-- Puts an attempt on record. -/
def record (a : Attempt) : Act (Fixer σ) Unit :=
  .modify fun f => { f with attempts := f.attempts ++ [a] }

/-- Why a file was given up. -/
def exhausted (path : Text) (attempts : Nat) (lastError : Option Text) : Text :=
  let reason : Text := match lastError with
    | some (c :: rest) => .cat [" (", c :: rest, ")"]
    | _ => []
  .cat [path, ": gave up after ", .decimal attempts, " attempt(s)", reason]

/-- The attempts from `number` on, of which `left` may be made. The result says why the file was
given up, if it was. -/
def attemptsFrom (w : Workshop σ) (path : Text) (issues : List Issue) :
    (left number : Nat) → Feedback → Act (Fixer σ) (Option Text)
  | 0, _, feedback => do
    let count := (← Act.get).attempts.length
    transition path .failed (some count)
    return some (exhausted path count feedback.lastError)
  | left + 1, number, feedback => do
    match ← attemptOnce w path issues number feedback with
    | .success =>
      onHeld Backup.commit
      record (Ending.success.attempt number)
      transition path .success (some number)
      return none
    | ending =>
      record (ending.attempt number)
      say Log.info ["  Attempt ", .decimal number, " failed: ", ending.outcome.name]
      if left ≠ 0 then transition path .retrying (some number)
      attemptsFrom w path issues left (number + 1) (feedback.after ending)

/-- All attempts at a file. -/
def attemptLoop (w : Workshop σ) (path : Text) (issues : List Issue) :
    Act (Fixer σ) (Option Text) :=
  attemptsFrom w path issues w.settings.maxAttempts 1 {}

/-! ## One file -/

/-- Keeps the old contents of a file and makes all attempts at it. The result is how they ended. -/
def attempted (w : Workshop σ) (path : Text) (issues : List Issue) :
    Act (Fixer σ) (Except Fault (Option Text)) := do
  onHeld (Backup.enter (w.projectDir.child path))
  (attemptLoop w path issues).attempt

/-- The attempts at a file with its old contents kept. The result says whether a change was accepted,
and why the file was given up, if it was. -/
def fixKept (w : Workshop σ) (path : Text) (issues : List Issue) :
    Act (Fixer σ) (Bool × Option Text) := do
  let r ← attempted w path issues
  let committed := (← Act.get).backup.committed
  onHeld Backup.leave
  return (committed, ← Act.ofExcept r)

/-- How the work on a file ended. A failed file operation gives the file up; any other fault ends
the run. -/
def verdict (path : Text) : Except Fault (Bool × Option Text) → Act (Fixer σ) (Bool × Option Text)
  | .ok r => return r
  | .error (.file fault) => do
    let reason := Text.cat ["Cannot process ", path, ": ", fault.message]
    say Log.error [reason]
    return (false, some reason)
  | .error e => Act.fail e

/-- Takes up a file, at which no attempts have been made yet. -/
def takeUp (path : Text) : Act (Fixer σ) Unit := do
  .modify fun f => { f with attempts := [] }
  transition path .pending none

/-- The result of the work on a file. -/
def resultOf (path : Text) (issues : List Issue) (attempts : List Attempt) (committed : Bool)
    (error : Option Text) : FileResult where
  path := path
  issuesAttempted := issues.length
  issuesFixed := if committed then issues.length else 0
  attempts := attempts
  state := if committed then .committed else .rolledBack
  error := error
  keys := issues.map (·.key)

/-- Puts on record how the work on a file ended. -/
def conclude (path : Text) (issues : List Issue) (committed : Bool) (error : Option Text) :
    Act (Fixer σ) FileResult := do
  let attempts := (← Act.get).attempts
  if committed then
    say Log.info ["  Committed ", path, " after ", .decimal attempts.length, " attempt(s)"]
  else say Log.warning ["  Rolled back ", path, ", marked for manual review"]
  transition path (if committed then .committed else .rolledBack) none
  return resultOf path issues attempts committed error

/-- Works on one file until its change is accepted or given up. -/
def fixFile (w : Workshop σ) (path : Text) (issues : List Issue) : Act (Fixer σ) FileResult := do
  takeUp path
  let (committed, error) ← verdict path (← (fixKept w path issues).attempt)
  conclude path issues committed error

end Fix

end Mend
