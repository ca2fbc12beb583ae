import Mend.Shell.State
import Mend.Build.Command
import Mend.Settings.Environment

/-!
# Running commands

Commands are run one after the other on the file tree of a job. What they print on either stream is
collected in the order in which it is printed. The depth of a run is bounded; a run that goes deeper
counts as one that does not end in time.

## Main definitions

* `Shell.exec` — running a script.
* `Shell.runShell` — a shell with its arguments.
* `Shell.runner` — running build commands.
-/

namespace Mend.Shell

open Eval

/-- The name of a signal, or its number. -/
def signal? (t : Text) : Option Nat :=
  let t := if Text.startsWith t "SIG" then t.drop 3 else t
  let known : List (Text × Nat) :=
    [("HUP", 1), ("INT", 2), ("QUIT", 3), ("ABRT", 6), ("KILL", 9), ("SEGV", 11), ("PIPE", 13),
     ("TERM", 15)]
  match known.lookup t with
  | some n => some n
  | none => if t.isEmpty || !t.all Text.isAsciiDigit then none else some (digitsValue 10 t)

/-- What a shell says of a command that a signal has ended. -/
def signalNotice (signal : Nat) : Text :=
  let known : List (Nat × Text) :=
    [(1, "Hangup\n"), (3, "Quit\n"), (6, "Aborted\n"), (9, "Killed\n"),
     (11, "Segmentation fault\n"), (15, "Terminated\n")]
  (known.lookup signal).getD []

/-- Sends a signal to a process. Only the shell itself is known. -/
def kill (streams : Streams) (line : Nat) (args : List Text) : Eval Unit := do
  let (signal, targets) := match args with
    | (0x2D :: 0x73 :: []) :: name :: rest => (signal? name, rest)
    | (0x2D :: d :: name) :: rest => (signal? (d :: name), rest)
    | args => (some 15, args)
  let own := Text.decimal (← session).number
  match signal, targets with
  | some n, t :: _ =>
    if t == own then
      if n = 0 then setStatus 0 else throw (.killed n)
    else
      complain streams line ["kill: No such process", "\n"]
      setStatus 1
  | _, _ =>
    complain streams line ["kill: Illegal option"]
    setStatus 2

/-- Goes to a directory. -/
def changeDir (streams : Streams) (line : Nat) (args : List Text) : Eval Unit := do
  let s ← get
  let target := args.headD []
  let place := if (Path.ofText target).isAbsolute then .error .missing
    else s.tree.top.locate s.session.dir (Path.ofText target).parts
  match place.toOption.bind fun place => (s.tree.top.find? place).map fun e => (place, e) with
  | some (place, .dir _) =>
    setSession fun s => { s with dir := place }
    setStatus 0
  | _ =>
    complain streams line ["cd: can't cd to ", target]
    setStatus 2

/-- Sets variables, or shares them with other programs. -/
def share (args : List Text) : Eval Unit := do
  for a in args do
    match assignment? [.bare a] with
    | some (name, [.bare value]) => setVariable name value true
    | some (name, _) => setVariable name [] true
    | none => setVariable a (← valueOf a) true
  setStatus 0

/-- Sets options of the shell or its arguments. -/
def setOptions : List Text → Eval Unit
  | [] => setStatus 0
  | a :: rest => do
    match a with
    | 0x2D :: letters =>
      if letters == [0x2D] then
        setSession fun s => { s with arguments := s.arguments.take 1 ++ rest }
        setStatus 0
      else
        if letters.elem 0x65 then setSession fun s => { s with isStrict := true }
        setOptions rest
    | 0x2B :: letters =>
      if letters.elem 0x65 then setSession fun s => { s with isStrict := false }
      setOptions rest
    | _ =>
      setSession fun s => { s with arguments := s.arguments.take 1 ++ a :: rest }
      setStatus 0

/-- Takes a line of the input into variables. -/
def readLine (streams : Streams) (names : List Text) : Eval Unit := do
  let p ← pipe streams.input
  let line := p.text.takeWhile (· != Text.newline)
  let rest := p.text.drop line.length
  setPipe streams.input { p with text := rest.drop 1 }
  let rec assign (t : Text) : List Text → Eval Unit
    | [] => return
    | [name] => setVariable name (Text.trim isSpace t) false
    | name :: names => do
      let t := Text.trimLeft isSpace t
      let word := t.takeWhile fun c => !isSpace c
      setVariable name word false
      assign (t.drop word.length) names
  assign line names
  setStatus (if rest.isEmpty then 1 else 0)

/-- The programs that a shell has in itself, in its own manner. -/
def ownProgram? (isBash : Bool) (name : Text) : Option Program :=
  let own : List (Text × Program) :=
    [("echo", if isBash then Program.echo else Program.plainEcho),
     ("printf", Program.printFormat true), ("true", Program.succeed), ("false", Program.refuse),
     ("test", Program.test false), ("[", Program.test true)]
  own.lookup name

/-- Commands that have no effect here. -/
def idle : List Text := [":", "wait", "trap", "umask", "ulimit", "hash", "times"]

/-- The sink that a redirection leads to, or why it cannot be opened. -/
def openSink (r : Redirection) (target : Text) : Eval (Except Text Sink) := do
  if target == Text.ofString "/dev/null" then return .ok .nowhere
  else
    let s ← get
    let p := Path.ofText target
    let absent (why : Text) : Except Text Sink := .error (.cat ["cannot create ", target, ": ", why])
    if target.isEmpty || p.isAbsolute then return absent "Directory nonexistent"
    else
      match s.tree.top.locate s.session.dir p.parts with
      | .error .notDirectory => return absent "Not a directory"
      | .error _ => return absent "Directory nonexistent"
      | .ok place =>
        match s.tree.top.find? place, s.tree.top.find? place.dropLast with
        | some (.dir _), _ => return absent "Is a directory"
        | some (.file _), _ =>
          if r != .appending then set { s with tree := ⟨s.tree.top.put (.file []) place⟩ }
          return .ok (.file place)
        | none, some (.dir _) =>
          set { s with tree := ⟨s.tree.top.put (.file []) place⟩ }
          return .ok (.file place)
        | none, _ => return absent "Directory nonexistent"

/-- The pipe that a file is read from, or why it cannot be opened. -/
def openInput (target : Text) : Eval (Except Text Nat) := do
  let s ← get
  let call : Call := { name := [], args := [], tree := s.tree, dir := s.session.dir }
  if target == Text.ofString "/dev/null" then return .ok (← newPipe {})
  else
    match call.entry target with
    | .ok (.file b) => return .ok (← newPipe ⟨Utf8.decodeKeeping b, true⟩)
    | .ok (.dir _) => return .ok (← newPipe { isFile := true })
    | .error .missing => return .error (.cat ["cannot open ", target, ": No such file"])
    | .error p => return .error (.cat ["cannot open ", target, ": ", p.reason])

/-- The streams behind a redirection. -/
def redirectTo (streams : Streams) (stream : Nat) (how : Redirection) (target : Text) :
    Eval (Except Text Streams) := do
  match how with
  | .reading => return (← openInput target).map fun n => { streams with input := n }
  | .joining =>
    let sink : Option Sink := match target with
      | [0x31] => some streams.out
      | [0x32] => some streams.err
      | [0x2D] => some .nowhere
      | [0x30] => some .nowhere
      | _ => none
    match sink with
    | none => return .error (.cat [target, ": bad fd number"])
    | some sink =>
      if stream = 2 then return .ok { streams with err := sink }
      else return .ok { streams with out := sink }
  | how =>
    match ← openSink how target with
    | .error e => return .error e
    | .ok sink =>
      if stream = 2 then return .ok { streams with err := sink }
      else if stream = 1 then return .ok { streams with out := sink }
      else return .ok streams

mutual

/-- The fragments of a word. -/
def fragments : Nat → Streams → Word → Eval (List Fragment)
  | 0, _, _ => throw .late
  | _ + 1, _, [] => return []
  | fuel + 1, streams, p :: rest => do
    let here ← match p with
      | .bare t => pure (Fragment.solid t true)
      | .quoted t => pure (.solid t false)
      | .variable [0x40] _ true => pure (.several (← session).arguments.tail)
      | .variable name other isQuoted => do
        let value ← valueOf name
        let value := if value.isEmpty then other else value
        pure (if isQuoted then .solid value false else .loose value)
      | .output script isQuoted => do
        let n ← newPipe {}
        apart (runLines fuel { streams with out := .pipe n } script)
        let value := Text.trimRight (· == Text.newline) (← pipe n).text
        pure (if isQuoted then .solid value false else .loose value)
    return here :: (← fragments fuel streams rest)

/-- The text of a word that is not cut into fields. -/
def textOf : Nat → Streams → Word → Eval Text
  | 0, _, _ => throw .late
  | fuel + 1, streams, w => do
    return (← fragments fuel streams w).flatMap fun
      | .solid t _ => t
      | .loose t => t
      | .several ts => Text.join " " ts

/-- The texts that words stand for. -/
def expand : Nat → Streams → List Word → Eval (List Text)
  | 0, _, _ => throw .late
  | _ + 1, _, [] => return []
  | fuel + 1, streams, w :: ws => do
    let fs := fields (← fragments fuel streams w)
    let s ← get
    let here := fs.flatMap fun f => f.paths s.tree s.session.dir
    return here ++ (← expand fuel streams ws)

/-- The streams behind redirections, or why one of them cannot be opened. -/
def redirected : Nat → Streams → List Redirect → Eval (Except Text Streams)
  | 0, _, _ => throw .late
  | _ + 1, streams, [] => return .ok streams
  | fuel + 1, streams, r :: rs => do
    match ← redirectTo streams r.stream r.how (← textOf fuel streams r.target) with
    | .error e => return .error e
    | .ok streams => redirected fuel streams rs

/-- Sets variables one after the other. -/
def assign : Nat → Streams → (isShared : Bool) → List (Text × Word) → Eval Unit
  | 0, _, _, _ => throw .late
  | _ + 1, _, _, [] => return
  | fuel + 1, streams, isShared, (name, w) :: rest => do
    setVariable name (← textOf fuel streams w) isShared
    assign fuel streams isShared rest

/-- Runs a script with other streams, unless they cannot be opened. -/
def within : Nat → Streams → (line : Nat) → List Redirect → (Streams → Eval Unit) → Eval Unit
  | 0, _, _, _, _ => throw .late
  | fuel + 1, streams, line, rs, run => do
    match ← redirected fuel streams rs with
    | .ok inner => run inner
    | .error e =>
      complain streams line [e]
      setStatus 2

/-- Calls a program by its name. -/
def callProgram : Nat → Streams → (line : Nat) → List Text → Eval Unit
  | 0, _, _, _ => throw .late
  | _ + 1, _, _, [] => return
  | fuel + 1, streams, line, name :: args => do
    let s ← get
    match find s.tree s.session.dir name with
    | .program p => program streams p name args
    | .shell isBash =>
      let nested (a : Eval Unit) : Eval Unit := do
        let old ← session
        match ← tryCatch (do apart a; return none) fun stop => return some stop with
        | some (.killed n) =>
          setSession fun _ => { old with status := 128 + n }
          write streams.err (signalNotice n)
        | some stop => throw stop
        | none => return
      nested (runShell fuel streams isBash name args)
    | .denied =>
      complain streams line [name, ": Permission denied"]
      setStatus 126
    | .absent _ =>
      let what : Text :=
        if !s.session.isBash then "not found"
        else if name.elem Path.slash then "No such file or directory" else "command not found"
      complain streams line [name, ": ", what]
      setStatus 127

/-- Calls a command: one of the shell's own, or a program. -/
def callCommand : Nat → Streams → (line : Nat) → List Text → Eval Unit
  | 0, _, _, _ => throw .late
  | _ + 1, _, _, [] => return
  | fuel + 1, streams, line, name :: args => do
    let s ← session
    match ownProgram? s.isBash name with
    | some p =>
      let mark : Text := if s.isBash then "line " else []
      program streams p (.cat [s.name, ": ", mark, .decimal line, ": ", name]) args
    | none =>
      if idle.elem name then setStatus 0
      else
        match name.toString with
        | "exit" =>
          match args with
          | [] => throw .exited
          | a :: _ =>
            if !a.isEmpty && a.all Text.isAsciiDigit then setStatus (digitsValue 10 a % 256)
            else
              complain streams line ["exit: Illegal number: ", a]
              setStatus 2
            throw .exited
        | "cd" | "chdir" => changeDir streams line args
        | "kill" => kill streams line args
        | "export" | "readonly" | "local" => share args
        | "unset" =>
          setSession fun s => { s with bindings := s.bindings.filter fun v => !args.elem v.name }
          setStatus 0
        | "set" => setOptions args
        | "shift" =>
          setSession fun s =>
            { s with arguments := s.arguments.take 1 ++ s.arguments.drop 2, status := 0 }
        | "read" => readLine streams (args.filter fun a => a.head? != some 0x2D)
        | "eval" => do
          setStatus 0
          runLines fuel streams (.join " " args)
        | "." => do
          let file := args.headD []
          let call : Call := { name := [], args := [], tree := (← get).tree, dir := s.dir }
          match call.fileText file with
          | .ok script =>
            setSession fun s => { s with name := .cat [s.name, ": ", .decimal line, ": ", file] }
            runLines fuel streams script
            setSession fun now => { now with name := s.name }
          | .error _ =>
            complain streams line [".: ", file, ": not found"]
            setStatus 2
            throw .exited
        | "exec" =>
          match args with
          | [] => setStatus 0
          | program :: _ => do
            let label (parts : List Text) := complain streams line (Text.ofString "exec: " :: program :: parts)
            match find (← get).tree s.dir program with
            | .denied =>
              label [": Permission denied"]
              setStatus 126
            | .absent _ =>
              label [": not found"]
              setStatus 127
            | .shell isBash => runShell fuel streams isBash program args.tail
            | .program _ => callProgram fuel streams line args
            throw .exited
        | "command" =>
          match args with
          | flag :: target :: _ =>
            if flag == Text.ofString "-v" then
              let found := (ownProgram? s.isBash target).isSome || idle.elem target
              match found, find (← get).tree s.dir target with
              | true, _ => do
                write streams.out (target ++ [Text.newline])
                setStatus 0
              | _, .program _ | _, .shell _ => do
                write streams.out (.cat ["/usr/bin/", target, "\n"])
                setStatus 0
              | _, _ => setStatus 127
            else callCommand fuel streams line args
          | args => callCommand fuel streams line args
        | _ => callProgram fuel streams line (name :: args)

/-- Runs commands. Where a failure is looked at, it does not end a strict shell. -/
def exec : Nat → Streams → (isWatched : Bool) → Script → Eval Unit
  | 0, _, _, _ => throw .late
  | fuel + 1, streams, isWatched, script => do
    let settle : Eval Unit := do
      let s ← session
      if s.isStrict && !isWatched && s.status ≠ 0 then throw .exited
    match script with
    | .skip => return
    | .call line sets words rs =>
      let args ← expand fuel streams words
      within fuel streams line rs fun inner => do
        match args with
        | [] =>
          setStatus 0
          assign fuel streams false sets
        | args =>
          let old := (← session).bindings
          assign fuel streams true sets
          callCommand fuel inner line args
          if !sets.isEmpty then setSession fun s => { s with bindings := old }
      settle
    | .next a b =>
      exec fuel streams isWatched a
      exec fuel streams isWatched b
    | .both a b =>
      exec fuel streams true a
      if (← session).status = 0 then exec fuel streams isWatched b
    | .either a b =>
      exec fuel streams true a
      if (← session).status ≠ 0 then exec fuel streams isWatched b
    | .inverted a =>
      exec fuel streams true a
      setStatus (if (← session).status = 0 then 1 else 0)
    | .pipe a b =>
      let n ← newPipe {}
      apart (exec fuel { streams with out := .pipe n } isWatched a)
      apart (exec fuel { streams with input := n } isWatched b)
      settle
    | .apart line a rs =>
      within fuel streams line rs fun inner => apart (exec fuel inner isWatched a)
      settle
    | .group line a rs => within fuel streams line rs fun inner => exec fuel inner isWatched a
    | .branch condition yes no =>
      exec fuel streams true condition
      if (← session).status = 0 then exec fuel streams isWatched yes
      else
        setStatus 0
        exec fuel streams isWatched no
    | .each name words body => do
      setStatus 0
      eachWord fuel streams isWatched name body (← expand fuel streams words)
    | .loop condition whileTrue body => do
      exec fuel streams true condition
      if ((← session).status = 0) = whileTrue then
        exec fuel streams isWatched body
        pass 1000000
        exec fuel streams isWatched script
      else setStatus 0

/-- Runs a script once for each of some texts. -/
def eachWord : Nat → Streams → Bool → Text → Script → List Text → Eval Unit
  | 0, _, _, _, _, _ => throw .late
  | _ + 1, _, _, _, _, [] => return
  | fuel + 1, streams, isWatched, name, body, t :: ts => do
    setVariable name t false
    exec fuel streams isWatched body
    eachWord fuel streams isWatched name body ts

/-- Runs the lines of a script one after the other. -/
def execLines : Nat → Streams → List Script → Eval Unit
  | 0, _, _ => throw .late
  | _ + 1, _, [] => return
  | fuel + 1, streams, line :: rest => do
    exec fuel streams false line
    execLines fuel streams rest

/-- Runs the text of a script. A defect is told when the lines before it have run. -/
def runLines : Nat → Streams → Text → Eval Unit
  | 0, _, _ => throw .late
  | fuel + 1, streams, t => do
    let (lines, defect) := linesOf t
    execLines fuel streams lines
    match defect with
    | none => return
    | some (line, d) =>
      complain streams line [d.message]
      setStatus 2
      throw .exited

/-- Runs a shell with its arguments: a script among them, or one in a file. -/
def runShell : Nat → Streams → (isBash : Bool) → (name : Text) → List Text → Eval Unit
  | 0, _, _, _, _ => throw .late
  | fuel + 1, streams, isBash, name, args => do
    setSession fun s => {
      name, isBash, number := s.number + 1, dir := s.dir, arguments := [name]
      bindings := s.bindings.filter (·.isShared) }
    let isOption (a : Text) : Bool := a.head? == some 0x2D && 1 < a.length
    let letters := (args.takeWhile isOption).flatten
    let operands := args.dropWhile isOption
    if letters.elem 0x65 then setSession fun s => { s with isStrict := true }
    if letters.elem 0x63 then
      match operands with
      | [] =>
        write streams.err (.cat [name, ": 0: -c requires an argument\n"])
        setStatus 2
      | script :: names =>
        setSession fun s => { s with
          name := names.headD name, arguments := if names.isEmpty then [name] else names }
        runLines fuel streams script
    else
      match operands with
      | [] => do
        let script := (← pipe streams.input).text
        setPipe streams.input {}
        runLines fuel streams script
      | file :: _ =>
        setSession fun s => { s with name := file, arguments := operands }
        let s ← get
        let call : Call := { name := [], args := [], tree := s.tree, dir := s.session.dir }
        match call.fileText file with
        | .ok script => runLines fuel streams script
        | .error .missing =>
          write streams.err (.cat [name, ": 0: cannot open ", file, ": No such file\n"])
          setStatus 2
        | .error p =>
          write streams.err (.cat [name, ": 0: cannot open ", file, ": ", p.reason, "\n"])
          setStatus 2

end

/-! ## Build commands -/

/-- How deep a run may go. -/
def maxDepth : Nat := 8000

/-- How long it takes to start a program, in billionths of a second. -/
def startTime : Nat := 1000000

/-- A number of seconds in billionths; nothing if it has no end. -/
def billionths (seconds : Number) : Option Nat :=
  match seconds with
  | .int n => some (n.toNat * 1000000000)
  | .real x => if x.isInf || x.isNaN then none else some (Real.truncated (x * 1000000000)).toNat

/-- Why a command cannot be handed over at all. -/
def checkWords (words : List Text) : Except Fault Unit := do
  for w in words do
    if w.elem 0 then throw .nullInPath
    match Utf8.encodeKeeping w with
    | .error i => throw (.unencodable w i)
    | .ok _ => pure ()

/-- The directory in which a command starts. -/
def startDir (t : Tree) (dir : Path) : Except Fault Place := do
  Tree.checkPath dir
  match ← Tree.atPath dir (t.entry dir) with
  | .dir _ => Tree.atPath dir (t.place dir)
  | .file _ => throw (.file ⟨.notDirectory, dir.toText⟩)

/-- What a run has come to. -/
def ending (r : Except Stop Unit × State) : Build.Ending :=
  match r with
  | (.error .late, _) => .timedOut
  | (.error (.killed _), s) => .finished false (output s)
  | (.error .exited, s) | (.ok (), s) => .finished (s.session.status = 0) (output s)
where
  /-- What has been printed. -/
  output (s : State) : Bytes := (Utf8.encodeKeeping ((s.pipes[1]?.map (·.text)).getD [])).toOption.getD []

/-- Starts a command with some environment variables. -/
def start (env : Environment) (words : List Text) (t : Tree) (dir : Path) (timeout : Option Number) :
    Except Fault (Build.Ending × Tree) := do
  checkWords words
  let place ← startDir t dir
  let name := words.headD []
  let state : State := {
    tree := t, limit := timeout.bind billionths
    session := { name, dir := place, bindings := env.map fun (n, v) => ⟨n, v, true⟩ } }
  let run (a : Eval Unit) : Except Fault (Build.Ending × Tree) :=
    let r := (do pass startTime; a : Eval Unit).run state
    .ok (ending r, r.2.tree)
  match find t place name with
  | .program p => run (program {} p name words.tail)
  | .shell isBash => run (runShell maxDepth {} isBash name words.tail)
  | .denied => .error (.file ⟨.denied, name⟩)
  | .absent problem => .error (.file ⟨problem, name⟩)

/-- Runs build commands on the file tree of a job. -/
def runner {σ : Type} (env : Environment) : Build.Runner σ := fun words dir timeout w =>
  match start env words w.tree dir timeout with
  | .error e => (.error e, w)
  | .ok (ending, tree) => (.ok ending, { w with tree })

end Mend.Shell
