import Mend.Cli.Command
import Mend.Number.Numeral
import Mend.Settings.Environment
import Mend.Text.Quoted

/-!
# Reading the command line

The words behind the name of the program are read from left to right: first options of the program
itself, then a command with its options. An option may be cut short as long as no other one begins
so, and its argument may stand behind an equals sign. Words that mean nothing are collected and
refused in the end.

## Main definitions

* `Cli.Role`, `Cli.roleOf` — what a word looks like.
* `Cli.readSwitches` — the options of a command.
* `Cli.Request`, `Cli.parse` — what is asked for.
-/

namespace Mend.Cli

/-- What a word looks like. -/
inductive Role where
  /-- An argument. -/
  | plain
  /-- Two dashes, behind which everything is an argument. -/
  | divider
  /-- An option, perhaps with an argument in the same word; `glued` if it stands directly behind a
  letter. -/
  | option (s : Switch) (argument : Option Text) (glued : Bool)
  /-- Something like an option that is none. -/
  | unknown

/-- A word with what it looks like. -/
abbrev Word := Text × Role

/-- A refusal of the command line: the command whose options are at fault, if any, and why. -/
structure Refusal where
  command : Option Command
  message : Text

/-- Whether a word is a negative number, which is an argument and no option. -/
def isNegativeNumber (t : Text) : Bool :=
  let t := if t.getLast? == some Text.newline then t.dropLast else t
  match t with
  | 0x2D :: rest =>
    let whole := rest.takeWhile Text.isDigit
    match rest.drop whole.length with
    | [] => !whole.isEmpty
    | 0x2E :: fraction => !fraction.isEmpty && fraction.all Text.isDigit
    | _ => false
  | _ => false

/-- The options that a word may mean, each with the spelling that it means. -/
def candidates (switches : List Switch) (t : Text) : List (Text × Role) :=
  let spellings := switches.flatMap fun s => s.names.map fun name => (name, s)
  let name := t.takeWhile (· != 0x3D)
  let argument := if name.length < t.length then some (t.drop (name.length + 1)) else none
  if Text.startsWith t "--" then
    (spellings.filter fun x => Text.startsWith x.1 name).map fun (n, s) =>
      (n, .option s argument false)
  else
    spellings.filterMap fun (n, s) =>
      if n == t.take 2 then some (n, .option s (some (t.drop 2)) true)
      else if Text.startsWith n t then some (n, .option s none false)
      else none

/-- What a word looks like among some options; or why it cannot be told. -/
def roleOf (switches : List Switch) (t : Text) : Except Text Role :=
  let named (name : Text) := switches.find? fun s => s.names.elem name
  let name := t.takeWhile (· != 0x3D)
  if t.head? != some 0x2D then .ok .plain
  else
    match named t, named name with
    | some s, _ => .ok (.option s none false)
    | none, some s => .ok (.option s (some (t.drop (name.length + 1))) false)
    | none, none =>
      if t.length = 1 then .ok .plain
      else
        match candidates switches t with
        | [(_, role)] => .ok role
        | [] =>
          if isNegativeNumber t || t.elem 0x20 then .ok .plain else .ok .unknown
        | many => .error (.cat ["ambiguous option: ", t, " could match ",
            Text.join ", " (many.map (·.1))])

/-- What some words look like. -/
def rolesOf (switches : List Switch) : List Text → Except Text (List Word)
  | [] => .ok []
  | t :: rest =>
    if t == Text.ofString "--" then .ok ((t, .divider) :: rest.map fun t => (t, .plain))
    else do
      let role ← roleOf switches t
      return (t, role) :: (← rolesOf switches rest)

/-- Why an option is refused. -/
def refused (s : Switch) (reason : Text) : Text := .cat ["argument ", s.title, ": ", reason]

/-- What an option without an argument makes of one: it is refused, unless it is letters behind a
single dash. `afterSign` tells whether an equals sign stands before it. -/
def spareArgument (s : Switch) (afterSign : Bool) : Text → Except Text Unit
  | [] => .error (refused s (.cat ["ignored explicit argument ", Text.quoted []]))
  | c :: rest =>
    if afterSign || c == 0x2D then
      .error (refused s (.cat ["ignored explicit argument ", Text.quoted (c :: rest)]))
    else if s.names.elem [0x2D, c] then
      match rest with
      | [] => .ok ()
      | 0x3D :: rest => spareArgument s true rest
      | d :: rest => spareArgument s false (d :: rest)
    else .ok ()

/-- Sees to an option that takes nothing. -/
def checkBare (s : Switch) (argument : Option Text) (glued : Bool) : Except Text Unit :=
  match argument with
  | none => .ok ()
  | some t => spareArgument s (!glued) t

/-- The argument of an option, if it is acceptable. -/
def checkArgument (s : Switch) (t : Text) : Except Text Text :=
  match s.takes, Numeral.read t with
  | .wholeNumber, .error _ => .error (refused s (.cat ["invalid int value: ", t.quoted]))
  | _, _ => .ok t

/-! ## The options of a command -/

/-- What has been read of the options of a command. -/
structure Given where
  /-- The options with their arguments, the last one first. -/
  options : List (Text × Text) := []
  /-- The words that mean nothing. -/
  extras : List Text := []
  /-- Whether help is asked for. -/
  help : Bool := false

/-- The words of a command with its options read. Nothing counts behind a call for help. -/
def readSwitches : Given → List Word → Except Text Given
  | g, [] => .ok g
  | g, (t, role) :: rest =>
    match role with
    | .plain | .divider | .unknown => readSwitches { g with extras := g.extras ++ [t] } rest
    | .option s argument glued =>
      let set (value : Text) : Given := { g with options := (s.key, value) :: g.options }
      if s.takes = .nothing then do
        checkBare s argument glued
        if s = .forHelp then return { g with help := true } else readSwitches (set []) rest
      else
        match argument, rest with
        | some value, rest => do
          let value ← checkArgument s value
          readSwitches (set value) rest
        | none, (value, .plain) :: rest => do
          let value ← checkArgument s value
          readSwitches (set value) rest
        | none, _ => .error (refused s "expected one argument")

/-- The options of a command as they were given. -/
def Given.arguments (g : Given) : Arguments :=
  let text (key : String) : Option Text := g.options.lookup (Text.ofString key)
  let number (key : String) : Option Int := (text key).bind fun t => (Numeral.read t).toOption
  let flag (key : String) : Bool := (text key).isSome
  { projectDir := (text "project-dir").getD "."
    scannerUrl := text "sonar-url", projectKey := text "project-key", branch := text "branch"
    categories := text "types", severities := text "severities"
    maxIssues := number "max-issues", deepScan := flag "deep-scan", debug := flag "debug"
    out := text "out", plan := text "plan", issues := text "issues"
    maxAttempts := number "max-attempts", noTests := flag "no-tests"
    compileCommand := text "compile-cmd", testCommand := text "test-cmd", model := text "model"
    reportOut := text "report-out" }

/-! ## The whole line -/

/-- What is asked for. -/
inductive Request where
  | help (c : Option Command)
  | command (c : Command) (a : Arguments)

/-- Refuses words that mean nothing. -/
def checkExtras (extras : List Text) : Except Refusal Unit :=
  if extras.isEmpty then .ok ()
  else .error ⟨none, .cat ["unrecognized arguments: ", Text.join " " extras]⟩

/-- Reads a command with its options; `extras` are words before it that mean nothing. -/
def readCommand (extras : List Text) (name : Text) (words : List Text) : Except Refusal Request := do
  match Command.all.find? fun c => c.name == name with
  | none =>
    throw ⟨none, .cat ["argument command: invalid choice: ", name.quoted, " (choose from ",
      Text.join ", " (Command.all.map fun c => c.name.quoted), ")"]⟩
  | some c =>
    let refuse {α : Type} (r : Except Text α) : Except Refusal α := r.mapError fun m => ⟨some c, m⟩
    let g ← refuse (do readSwitches {} (← rolesOf c.switches words))
    if g.help then return .help (some c)
    else
      checkExtras (extras ++ g.extras)
      return .command c g.arguments

/-- Reads words up to a command. -/
def readLine (extras : List Text) : List Word → Except Refusal Request
  | [] => do
    checkExtras extras
    return .help none
  | (t, role) :: rest =>
    match role with
    | .plain => readCommand extras t (rest.map (·.1))
    | .divider =>
      if rest.isEmpty then readLine (extras ++ [t]) rest
      else readCommand extras t (rest.map (·.1))
    | .unknown => readLine (extras ++ [t]) rest
    | .option s argument glued =>
      match checkBare s argument glued with
      | .ok () => .ok (.help none)
      | .error message => .error ⟨none, message⟩

/-- What the words behind the name of the program ask for. -/
def parse (words : List Text) : Except Refusal Request :=
  match rolesOf [.forHelp] words with
  | .ok ws => readLine [] ws
  | .error message => .error ⟨none, message⟩

end Mend.Cli
