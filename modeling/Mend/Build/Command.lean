import Mend.Build.Detect
import Mend.Fix.Attempt

/-!
# Build commands

A project is compiled and tested by running a command in its directory. What the command prints is
kept from its end, where compilers put the errors.

## Main definitions

* `Build.tail` — the end of a long output.
* `Build.Runner` — whatever runs commands.
* `Build.Toolchain`, `Build.Toolchain.validator` — compiling and testing with commands.
-/

namespace Mend.Build

/-- How much of an output is kept. -/
def outputLimit : Int := 4000

/-- The last characters of a text that is longer than a limit, behind a mark. A limit of zero keeps
everything; a negative limit says how much to leave out at the beginning. -/
def tail (t : Text) (limit : Int) : Text :=
  if t.length ≤ limit then t
  else
    let dropped := if 0 < limit then t.length - limit.toNat else limit.natAbs
    .cat ["...\n", t.drop dropped]

/-- How a command that was started came to its end. -/
inductive Ending where
  | finished (ok : Bool) (output : Bytes)
  | timedOut
deriving DecidableEq, Repr

/-- Runs a command in a directory, for a number of seconds at most. A command that cannot be started
is a fault. -/
abbrev Runner (σ : Type) := List Text → Path → Option Number → Act (World σ) Ending

/-- The commands of a project; one that is not given is found out from the project. -/
structure Toolchain where
  /-- The interpreter that checks a project of scripts. -/
  interpreter : Text
  compile : Option (List Text) := none
  test : Option (List Text) := none
  /-- The most seconds that a command may take. -/
  timeout : Option Number := some (.real 900)

namespace Toolchain

variable {σ : Type}

/-- A command that has at least one word. -/
def command (given : Option (List Text)) : Option (List Text) :=
  given.filter fun words => !words.isEmpty

/-- The fault of a command that could not be started. -/
def unstarted (words : List Text) (e : Fault) : Fault :=
  match e with
  | .file cause =>
    if cause.problem = .missing || cause.problem = .denied then
      .tool (.cannotRun (words.headD []) cause)
    else e
  | e => e

/-- The fault of a command that took too long. -/
def overdue (words : List Text) (timeout : Option Number) : Fault :=
  .tool (.timedOut (.join " " words) ((timeout.getD (.int 0)).fixed 0))

/-- Runs a command in a directory. -/
def run (c : Toolchain) (runner : Runner σ) (dir : Path) (words : List Text) :
    Act (World σ) BuildOutcome := do
  World.say Log.debug ["Running: ", .join " " words, " (cwd=", dir.toText, ")"]
  match ← (runner words dir c.timeout).attempt with
  | .error e => Act.fail (unstarted words e)
  | .ok .timedOut => Act.fail (overdue words c.timeout)
  | .ok (.finished ok output) => return ⟨ok, tail (Utf8.decodeReplacing output) outputLimit⟩

/-- The given command, or the one that fits the project. -/
def commandFor (c : Toolchain) (dir : Path) (given : Option (List Text))
    (choose : Commands → List Text) : Act (World σ) (List Text) := do
  match command given with
  | some words => return words
  | none => return choose (← Act.ofExcept (detect c.interpreter (← Act.get).tree dir))

/-- Compiles and tests with the commands. -/
def validator (c : Toolchain) (runner : Runner σ) : Validator σ where
  compile dir := do c.run runner dir (← c.commandFor dir c.compile (·.compile))
  test dir := do c.run runner dir (← c.commandFor dir c.test (·.test))

end Toolchain

end Mend.Build
