import Mend.Proofs.Build.Commands
import Mend.Proofs.Fix.Refusal
import Mend.Shell.Run

/-!
# Runs on projects without a build file

Nothing compiles a project of Java sources that has no build file, if no command for that is given. So
no file of it is ever committed, and every file gets its old contents back. In the end only the tests
can be run, if there is a command for them; what these do to the project stays.

## Main definitions

* `Fix.RestoresAll` — whether a run that ends with a report leaves every file what it was.

## Main statements

* `Fix.run_uncompilable` — a run on such a project.
* `Fix.exists_not_restoresAll` — two such runs that do not leave the project what it was.
-/

namespace Mend

open Build

variable {σ : Type}

namespace Build

/-- A workshop whose drafter leaves the tree alone cannot compile such a project. -/
theorem Site.refuses {β : Type} (b : Site σ) (hcompile : Toolchain.command b.tools.compile = none)
    (htree : ∀ r s, ((b.drafter r).run s).2.tree = s.tree) {view : World σ → β}
    (hview : ∀ r s, view ((b.drafter r).run s).2 = view s)
    (htouched : ∀ {p : Path} {s s' : World σ}, World.Touched p s s' → view s' = view s) :
    b.workshop.Refuses (Uncompilable · b.projectDir) view where
  drafter := htree
  drafter_view := hview
  compile _ hproject := Toolchain.run_compile_of_uncompilable hcompile hproject
  overwritten hproject := hproject.of_write
  touched := htouched

end Build

namespace Fix

/-- A run that ends with a report, on a project of Java sources without a build file and without a
command to compile it, by a drafter that leaves the project alone. No file is committed, and the check
at the end fails if there was any file. Nothing is run but perhaps, once and in the end, the given
command for the tests; it finds the project as it was at the beginning if every write was done, and
nothing else changes the project. -/
theorem run_uncompilable (b : Site σ) (hcompile : Toolchain.command b.tools.compile = none)
    (hdrafter : ∀ r s, ((b.drafter r).run s).2.tree = s.tree) (plan : Plan)
    (keys : Option (List Value)) (f : Fixer σ) (hproject : Uncompilable f.world.tree b.projectDir)
    {report : Report} {f' : Fixer σ} (hrun : (run b.workshop plan keys).run f = (.ok report, f')) :
    (∀ r ∈ report.results, r.isCommitted = false) ∧
      report.buildPassed = (if report.results.isEmpty then none else some false) ∧
      ∃ t : Tree,
        ((∀ n, f.world.disk n = .done) → (∀ r s, ((b.drafter r).run s).2.disk = s.disk) →
          t = f.world.tree) ∧
        (b.processes plan keys f = [] ∧ f'.world.tree = t ∨
          ∃ words, Toolchain.command b.tools.test = some words ∧ b.settings.runTests = true ∧
            report.results ≠ [] ∧
            b.processes plan keys f = [⟨words, b.projectDir, t, f'.world.tree⟩]) := by
  have hown := (b.mirrors_recorded.run plan keys).run (f.mapExtra fun own => ⟨own, []⟩)
  have hran := ran_run b.recorded.workshop plan keys (f.mapExtra fun own => ⟨own, []⟩)
  rw [Site.processes]
  rcases hrecorded : (run b.recorded.workshop plan keys).run (f.mapExtra fun own => ⟨own, []⟩)
    with ⟨r, g⟩
  rw [hrecorded] at hown hran
  obtain ⟨rfl, rfl⟩ := Prod.mk.inj (hrun.symm.trans hown)
  have hw : b.recorded.workshop.Refuses (Uncompilable · b.projectDir) fun s => s.extra.processes :=
    b.recorded.refuses hcompile (fun r s => hdrafter r _) (fun _ _ => rfl) fun h => congrArg _ h.extra
  obtain ⟨hresults, hpassed, s, hkind, hview, htree, hend⟩ := hran.refused hw hproject
  refine ⟨hresults, hpassed, s.tree, ?_, ?_⟩
  · intro hdone hdisk
    refine htree (b.recorded.refuses hcompile (fun r s => hdrafter r _) (fun r s => hdisk r _) ?_) hdone
    exact fun h => h.disk
  · have hnone : s.extra.processes = [] := hview
    have hidle (hquiet : g.world.quiet = s.quiet) :
        g.world.extra.processes = [] ∧ (g.mapExtra Recorded.own).world.tree = s.tree :=
      ⟨(congrArg (·.extra.processes) hquiet).trans hnone, congrArg (·.tree) hquiet⟩
    rcases hend with hquiet | ⟨htests, hne, hquiet⟩
    · exact .inl (hidle hquiet)
    · rcases Toolchain.run_test_of_uncompilable b.tools (recording b.runner) hkind
        with ⟨e, -, he⟩ | ⟨words, hwords, htest⟩
      · exact .inl (hidle (hquiet.trans (congrArg (·.2.quiet) he)))
      · have hprocesses := b.tools.processes_run b.runner b.projectDir words s
        replace hquiet := hquiet.trans (congrArg (·.2.quiet) htest)
        have hafter : g.world.extra.processes =
            ((b.tools.run (recording b.runner) b.projectDir words).run s).2.extra.processes :=
          congrArg (·.extra.processes) hquiet
        have hleft : (g.mapExtra Recorded.own).world.tree =
            ((b.tools.run (recording b.runner) b.projectDir words).run s).2.tree :=
          congrArg (·.tree) hquiet
        rw [hnone, List.nil_append, ← hleft] at hprocesses
        exact .inr ⟨words, hwords, htests, hne, hafter.trans hprocesses⟩

/-- A run that is about to fix a project that is nothing but the file `A.java` with a `y` in it. What
becomes of the writes is given. -/
def loneSource (disk : Nat → Fate) : Fixer Unit :=
  .start { tree := ⟨.dir [("A.java", .file [0x79])]⟩, disk, extra := () }

/-- The plan to fix that file. -/
def loneSourcePlan : Plan := { groups := [⟨"A.java", []⟩] }

/-- Where every file is to become an `x`, and a command for the tests may be given. -/
def siteWith (test : Option (List Text)) : Site Unit where
  projectDir := {}
  drafter _ := .ofExcept (.ok { content := some [0x78] })
  tools := { interpreter := "python3", test }
  runner := Shell.runner []
  settings := (small true).settings

/-- Tests that write a `z` over the file. -/
def overwritingTests : List Text := ["sh", "-c", "echo z > A.java"]

theorem uncompilable_loneSource (disk : Nat → Fate) : Uncompilable (loneSource disk).world.tree {} where
  java := by
    show hasJava ⟨.dir [("A.java", .file [0x79])]⟩ {} = true
    decide +kernel
  unbuilt name hname := by
    simp only [buildFiles, List.mem_cons, List.not_mem_nil, or_false] at hname
    rcases hname with rfl | rfl | rfl | rfl <;> exact fun h => nomatch h

/-- The file is given up, then the tests run on what it was at the beginning. -/
theorem run_uncompilable_overwritingTests :
    ∃ report f', (run (siteWith (some overwritingTests)).workshop loneSourcePlan none).run
        (loneSource fun _ => .done) = (.ok report, f') ∧
      report.results.any (·.isCommitted) = false ∧ report.buildPassed = some false ∧
      (siteWith (some overwritingTests)).processes loneSourcePlan none (loneSource fun _ => .done) =
        [⟨overwritingTests, {}, (loneSource fun _ => .done).world.tree, f'.world.tree⟩] := by
  have hended : ((run (siteWith (some overwritingTests)).workshop loneSourcePlan none).run
      (loneSource fun _ => .done)).1.isOk = true := by decide +kernel
  obtain ⟨report, f', hrun⟩ := exists_ending_of_isOk hended
  obtain ⟨hresults, hpassed, t, htree, hend⟩ := run_uncompilable (siteWith (some overwritingTests)) rfl
    (fun _ _ => rfl) loneSourcePlan none (loneSource fun _ => .done) (uncompilable_loneSource _) hrun
  obtain rfl := htree (fun _ => rfl) fun _ _ => rfl
  rcases hend with ⟨hnone, -⟩ | ⟨words, hwords, -, hne, hprocesses⟩
  · have hone : ((siteWith (some overwritingTests)).processes loneSourcePlan none
        (loneSource fun _ => .done)).length = 1 := by decide +kernel
    rw [hnone] at hone
    cases hone
  · obtain rfl : overwritingTests = words := Option.some.inj hwords
    refine ⟨report, f', hrun, ?_, ?_, hprocesses⟩
    · simpa using hresults
    · simpa [hne] using hpassed

/-- Whether a run leaves every file what it was, if it ends with a report. -/
def RestoresAll (b : Site σ) (plan : Plan) (keys : Option (List Value)) (f : Fixer σ) : Prop :=
  ∀ report f', (run b.workshop plan keys).run f = (.ok report, f') →
    ∀ p, f'.world.tree.contents? p = f.world.tree.contents? p

/-- A file is not what it was if a run ends with a report and leaves something else in it. -/
theorem not_restoresAll {b : Site σ} {plan : Plan} {keys : Option (List Value)} {f : Fixer σ} (p : Path)
    (hended : ((run b.workshop plan keys).run f).1.isOk = true)
    (hother : ((run b.workshop plan keys).run f).2.world.tree.contents? p ≠ f.world.tree.contents? p) :
    ¬ RestoresAll b plan keys f := by
  intro hall
  obtain ⟨report, f', hrun⟩ := exists_ending_of_isOk hended
  rw [hrun] at hother
  exact hother (hall report f' hrun p)

/-- Without a command to compile it, a project without a build file need not be what it was in the end:
the tests can write to it, and the disk can be full when the old contents are to be put back. -/
theorem exists_not_restoresAll :
    (∀ test, Toolchain.command (siteWith test).tools.compile = none) ∧
      (∀ test r s, (((siteWith test).drafter r).run s).2.tree = s.tree) ∧
      (∀ disk, Uncompilable (loneSource disk).world.tree {}) ∧
      ¬ RestoresAll (siteWith (some overwritingTests)) loneSourcePlan none (loneSource fun _ => .done) ∧
      ¬ RestoresAll (siteWith none) loneSourcePlan none
        (loneSource fun n => if n ≤ 1 then .done else .cutOff 0) := by
  refine ⟨fun _ => rfl, fun _ _ _ => rfl, uncompilable_loneSource, ?_, ?_⟩
  · exact not_restoresAll (Path.child {} "A.java") (by decide +kernel) (by decide +kernel)
  · exact not_restoresAll (Path.child {} "A.java") (by decide +kernel) (by decide +kernel)

end Fix

end Mend
