import Mend.Build.Command
import Mend.Proofs.Fix.Mirror
import Mend.Proofs.Project.Outline

/-!
# Commands that compile and test

Which commands are run, and that none is run for a project of Java sources without a build file unless
it was given. What is run can be written down without any difference to what is done.

## Main definitions

* `Build.Uncompilable` — projects for which no command is found.
* `Build.Site`, `Build.Site.workshop` — a workshop that compiles and tests with commands.
* `Build.Site.processes` — the commands that are run in a run of fixes.

## Main statements

* `Build.Toolchain.run_compile_of_uncompilable` — without a command, the compilation fails and nothing
  is run.
* `Build.Site.mirrors_recorded` — writing down what is run changes nothing.
-/

namespace Mend.Build

variable {σ : Type}

/-! ## Projects without a command -/

/-- The files at the top of a project that tell how it is compiled. -/
def buildFiles : List String := ["pom.xml", "gradlew", "build.gradle", "build.gradle.kts"]

/-- Whether a project has Java sources but no file that tells how they are compiled. -/
structure Uncompilable (t : Tree) (dir : Path) : Prop where
  java : hasJava t dir = true
  unbuilt : ∀ name ∈ buildFiles, t.isThere (dir.child (.ofString name)) ≠ .ok true

namespace Uncompilable

variable {t t' : Tree} {dir : Path}

theorem congr (h : Uncompilable t dir) (houtline : t'.outline = t.outline) : Uncompilable t' dir where
  java := by rw [← hasJava_outline, houtline, hasJava_outline, h.java]
  unbuilt name hname := by
    rw [← Tree.isThere_outline, houtline, Tree.isThere_outline]
    exact h.unbuilt name hname

/-- Writing over a file finds no command. -/
theorem of_write {p : Path} {a b : Bytes} (h : Uncompilable t dir) (hwrite : t.write p a = .ok t')
    (hread : t.read p = .ok b) : Uncompilable t' dir :=
  h.congr (Tree.outline_of_write hwrite hread)

/-- A search that does not find a file goes on or fails. -/
theorem exists_error_of_absent {α : Type} {p : Path} {found others : Except Fault α}
    (habsent : t.isThere p ≠ .ok true) (hothers : ∃ e, e ≠ .interrupted ∧ others = .error e) :
    ∃ e, e ≠ .interrupted ∧ (do if ← t.isThere p then found else others) = .error e := by
  rcases hthere : t.isThere p with e | _ | _
  · obtain ⟨fault, rfl⟩ := Tree.exists_file_of_isThere hthere
    exact ⟨_, by simp, rfl⟩
  · exact hothers
  · exact absurd hthere habsent

/-- No command is found, and the search is not interrupted. -/
theorem detect_eq (h : Uncompilable t dir) (interpreter : Text) :
    ∃ e, e ≠ .interrupted ∧ detect interpreter t dir = .error e := by
  refine exists_error_of_absent (h.unbuilt "pom.xml" (by decide)) ?_
  refine exists_error_of_absent (h.unbuilt "gradlew" (by decide)) ?_
  refine exists_error_of_absent (h.unbuilt "build.gradle" (by decide)) ?_
  refine exists_error_of_absent (h.unbuilt "build.gradle.kts" (by decide)) ?_
  rw [if_pos h.java]
  exact ⟨_, by simp, rfl⟩

end Uncompilable

/-! ## Running commands -/

namespace Toolchain

variable {c : Toolchain} {runner : Runner σ} {dir : Path} {s : World σ}

theorem run_commandFor_of_some {given : Option (List Text)} {words : List Text}
    (h : command given = some words) (choose : Commands → List Text) :
    (c.commandFor dir given choose).run s = (.ok words, s) := by
  rw [commandFor, h]
  rfl

/-- Where no command is given and none is found, there is none. -/
theorem run_commandFor_of_none {given : Option (List Text)} (h : command given = none)
    (hproject : Uncompilable s.tree dir) (choose : Commands → List Text) :
    ∃ e, e ≠ .interrupted ∧ (c.commandFor dir given choose).run s = (.error e, s) := by
  obtain ⟨e, hne, he⟩ := hproject.detect_eq c.interpreter
  refine ⟨e, hne, ?_⟩
  rw [commandFor, h]
  simp [Act.run_bind, he]

/-- Without a command, the compilation fails and nothing is run. -/
theorem run_compile_of_uncompilable (h : command c.compile = none) (hproject : Uncompilable s.tree dir) :
    ∃ e, e ≠ .interrupted ∧ ((c.validator runner).compile dir).run s = (.error e, s) := by
  obtain ⟨e, hne, he⟩ := run_commandFor_of_none h hproject (c := c) (·.compile)
  exact ⟨e, hne, Act.run_bind_error he⟩

/-- The tests of such a project are those that a given command runs. -/
theorem run_test_of_uncompilable (c : Toolchain) (runner : Runner σ)
    (hproject : Uncompilable s.tree dir) :
    (∃ e, command c.test = none ∧ ((c.validator runner).test dir).run s = (.error e, s)) ∨
      ∃ words, command c.test = some words ∧
        ((c.validator runner).test dir).run s = (c.run runner dir words).run s := by
  cases h : command c.test with
  | none =>
      obtain ⟨e, -, he⟩ := run_commandFor_of_none h hproject (c := c) (·.test)
      exact .inl ⟨e, rfl, Act.run_bind_error he⟩
  | some words =>
      exact .inr ⟨words, rfl, Act.run_bind_ok (run_commandFor_of_some h _)⟩

end Toolchain

/-! ## What is run -/

/-- A command that was run, with the tree that it found and the tree that it left. -/
structure Process where
  words : List Text
  dir : Path
  before : Tree
  after : Tree

/-- What collaborators keep for themselves, and the commands that were run so far. -/
structure Recorded (σ : Type) where
  own : σ
  processes : List Process := []

/-- An action that runs no command. -/
def aside {α : Type} (a : Act (World σ) α) : Act (World (Recorded σ)) α := fun s =>
  match a.run (s.mapExtra Recorded.own) with
  | (r, s') => (r, s'.mapExtra fun own => ⟨own, s.extra.processes⟩)

/-- A runner that writes down what it runs. -/
def recording (runner : Runner σ) : Runner (Recorded σ) := fun words dir timeout s =>
  match (runner words dir timeout).run (s.mapExtra Recorded.own) with
  | (r, s') => (r, s'.mapExtra fun own =>
      ⟨own, s.extra.processes ++ [⟨words, dir, s.tree, s'.tree⟩]⟩)

namespace Toolchain

/-- Running a command leaves the world as the runner does, but for what is told before. -/
theorem world_run (c : Toolchain) (runner : Runner σ) (dir : Path) (words : List Text) (s : World σ) :
    ∃ log, ((c.run runner dir words).run s).2 =
      ((runner words dir c.timeout).run { s with log := log }).2 := by
  let telling : Act (World σ) Unit :=
    World.say Log.debug ["Running: ", .join " " words, " (cwd=", dir.toText, ")"]
  refine ⟨(telling.run s).2.log, ?_⟩
  unfold Toolchain.run
  rw [Act.run_bind_ok (World.run_say ..), Act.run_bind_ok (Act.run_attempt ..)]
  split <;> rfl

/-- A command that is run is written down, and nothing but the command changes the tree. -/
theorem processes_run (c : Toolchain) (runner : Runner σ) (dir : Path) (words : List Text)
    (s : World (Recorded σ)) :
    ((c.run (recording runner) dir words).run s).2.extra.processes = s.extra.processes ++
      [⟨words, dir, s.tree, ((c.run (recording runner) dir words).run s).2.tree⟩] := by
  obtain ⟨log, hworld⟩ := c.world_run (recording runner) dir words s
  rw [hworld]
  rfl

end Toolchain

/-- A workshop that compiles and tests with commands. -/
structure Site (σ : Type) where
  projectDir : Path
  drafter : Drafter σ
  tools : Toolchain
  runner : Runner σ
  settings : FixSettings := {}

namespace Site

/-- The workshop itself. -/
def workshop (b : Site σ) : Fix.Workshop σ where
  projectDir := b.projectDir
  drafter := b.drafter
  validator := b.tools.validator b.runner
  settings := b.settings

/-- The same workshop, where it is written down what is run. -/
def recorded (b : Site σ) : Site (Recorded σ) where
  projectDir := b.projectDir
  drafter r := aside (b.drafter r)
  tools := b.tools
  runner := recording b.runner
  settings := b.settings

/-- The commands that are run in a run of fixes. -/
def processes (b : Site σ) (plan : Plan) (keys : Option (List Value)) (f : Fix.Fixer σ) : List Process :=
  ((Fix.run b.recorded.workshop plan keys).run (f.mapExtra fun own => ⟨own, []⟩)).2.world.extra.processes

theorem mirrors_commandFor (c : Toolchain) (dir : Path) (given : Option (List Text))
    (choose : Commands → List Text) :
    Act.Mirrors (World.mapExtra (Recorded.own (σ := σ))) (c.commandFor dir given choose)
      (c.commandFor dir given choose) := by
  rw [Toolchain.commandFor, Toolchain.commandFor]
  cases Toolchain.command given with
  | some words => exact .pure _
  | none => exact .get_bind fun s => .bind (.ofExcept _) fun _ => .pure _

theorem mirrors_run (c : Toolchain) (runner : Runner σ) (dir : Path) (words : List Text) :
    Act.Mirrors (World.mapExtra Recorded.own) (c.run (recording runner) dir words)
      (c.run runner dir words) := by
  refine .bind ⟨fun _ => rfl⟩ fun _ => .bind (.attempt ⟨fun _ => rfl⟩) fun r => ?_
  rcases r with e | ending
  · exact .fail _
  · cases ending with
    | finished ok output => exact .pure _
    | timedOut => exact .fail _

/-- A workshop does the same when it is written down what is run. -/
theorem mirrors_recorded (b : Site σ) : b.recorded.workshop.Mirrors Recorded.own b.workshop where
  projectDir := rfl
  settings := rfl
  drafter _ := ⟨fun _ => rfl⟩
  compile _ := .bind (mirrors_commandFor ..) fun _ => mirrors_run ..
  test _ := .bind (mirrors_commandFor ..) fun _ => mirrors_run ..

end Site

end Mend.Build
