import Mend.Fix.Run
import Mend.Proofs.Fix.File

/-!
# What a run does

A run is a list of visits to files, one after the other, with a check of the whole project behind
them. Between the visits nothing happens but that the log grows.

## Main definitions

* `Fix.Visit`, `Fix.visits` — the files that are started, and the state of the run at each start.
* `Fix.FixedAll` — the ways in which the work on all files ends.
* `Fix.Certified` — the ways in which the check at the end goes.
* `Fix.Ran` — the ways in which a run ends.
-/

namespace Mend.Fix

variable {σ : Type}

open Fixer

/-! ## Files in turn -/

/-- A file that is started, and the state of the run then. -/
structure Visit (σ : Type) where
  group : FileGroup
  before : Fixer σ

/-- What comes of the visit to a file. -/
def Visit.run (w : Workshop σ) (v : Visit σ) : Except Fault FileResult × Fixer σ :=
  (fixFile w v.group.path v.group.issues).run v.before

theorem Visit.fixed_of_run {w : Workshop σ} {v : Visit σ} {r : Except Fault FileResult}
    {f : Fixer σ} (h : v.run w = (r, f)) : Fixed w v.group.path v.group.issues v.before r f := by
  have hfixed := fixed_fixFile w v.group.path v.group.issues v.before
  rw [Visit.run] at h
  rwa [h] at hfixed

/-- The path of the file that is visited. -/
def Visit.target (w : Workshop σ) (v : Visit σ) : Path := w.projectDir.child v.group.path

/-- The state of a run that has told which file is next. -/
def Fixer.announced (f : Fixer σ) (total number : Nat) (g : FileGroup) : Fixer σ :=
  ((announce total number g).run f).2

/-- A visit, and those that come behind it unless it breaks the run off. -/
def Visit.followed (v : Visit σ) (next : Fixer σ → List (Visit σ)) :
    Except Fault FileResult × Fixer σ → List (Visit σ)
  | (.ok _, f) => v :: next f
  | (.error _, _) => [v]

/-- The files that are started, of those from `number` on. -/
def visitsFrom (w : Workshop σ) (total : Nat) : (number : Nat) → List FileGroup → Fixer σ →
    List (Visit σ)
  | _, [], _ => []
  | number, g :: rest, f =>
    if f.world.cancelled then []
    else
      let visit : Visit σ := ⟨g, f.announced total number g⟩
      visit.followed (visitsFrom w total (number + 1) rest) (visit.run w)

section

variable {w : Workshop σ} {total number : Nat} {g : FileGroup} {rest : List FileGroup}
  {f f' : Fixer σ}

theorem visitsFrom_stopped (hc : f.world.cancelled = true) :
    visitsFrom w total number (g :: rest) f = [] := by
  simp [visitsFrom, hc]

theorem visitsFrom_broken {e : Fault} (hc : f.world.cancelled = false)
    (hv : Visit.run w ⟨g, f.announced total number g⟩ = (.error e, f')) :
    visitsFrom w total number (g :: rest) f = [⟨g, f.announced total number g⟩] := by
  simp [visitsFrom, Visit.followed, hc, hv]

theorem visitsFrom_next {result : FileResult} (hc : f.world.cancelled = false)
    (hv : Visit.run w ⟨g, f.announced total number g⟩ = (.ok result, f')) :
    visitsFrom w total number (g :: rest) f =
      ⟨g, f.announced total number g⟩ :: visitsFrom w total (number + 1) rest f' := by
  simp [visitsFrom, Visit.followed, hc, hv]

end

/-- The state of a run that leaves files out because somebody asked to stop. -/
def Fixer.stopped (f : Fixer σ) (skipped : List Text) : Fixer σ :=
  f.said Log.warning ["Cancelled: ", .decimal skipped.length, " file(s) not started"]

/-- The ways in which the work on all files ends. -/
inductive FixedAll (w : Workshop σ) (total : Nat) : (number : Nat) → List FileGroup → Fixer σ →
    Except Fault (List FileResult × List Text) → Fixer σ → Prop
  | done {number : Nat} {f : Fixer σ} : FixedAll w total number [] f (.ok ([], [])) f
  | stopped {number : Nat} {g : FileGroup} {rest : List FileGroup} {f : Fixer σ}
      (hc : f.world.cancelled = true) :
      FixedAll w total number (g :: rest) f (.ok ([], (g :: rest).map (·.path)))
        (f.stopped ((g :: rest).map (·.path)))
  | broken {number : Nat} {g : FileGroup} {rest : List FileGroup} {f f' : Fixer σ} {e : Fault}
      (hc : f.world.cancelled = false)
      (hv : Visit.run w ⟨g, f.announced total number g⟩ = (.error e, f')) :
      FixedAll w total number (g :: rest) f (.error e) f'
  | next {number : Nat} {g : FileGroup} {rest : List FileGroup} {f f' f'' : Fixer σ}
      {result : FileResult} {r : Except Fault (List FileResult × List Text)}
      (hc : f.world.cancelled = false)
      (hv : Visit.run w ⟨g, f.announced total number g⟩ = (.ok result, f'))
      (hrest : FixedAll w total (number + 1) rest f' r f'') :
      FixedAll w total number (g :: rest) f (r.map fun x => (result :: x.1, x.2)) f''

theorem run_fixNext (w : Workshop σ) (total number : Nat) (g : FileGroup) (f : Fixer σ) :
    (fixNext w total number g).run f = Visit.run w ⟨g, f.announced total number g⟩ := by
  have hannounce : (announce total number g).run f = (.ok (), f.announced total number g) := rfl
  unfold fixNext
  rw [Act.run_bind, hannounce]
  rfl

theorem fixedAll_fixFiles (w : Workshop σ) (total number : Nat) (groups : List FileGroup)
    (f : Fixer σ) :
    FixedAll w total number groups f ((fixFiles w total number groups).run f).1
      ((fixFiles w total number groups).run f).2 := by
  induction groups generalizing number f with
  | nil => exact .done
  | cons g rest ih =>
      cases hc : f.world.cancelled with
      | true =>
          have hrun : (fixFiles w total number (g :: rest)).run f =
              (.ok ([], (g :: rest).map (·.path)), f.stopped ((g :: rest).map (·.path))) := by
            simp [fixFiles, Act.run_bind, hc, Fixer.stopped, said]
          rw [hrun]
          exact .stopped hc
      | false =>
          rcases hv : Visit.run w ⟨g, f.announced total number g⟩ with ⟨e | result, f'⟩
          · have hrun : (fixFiles w total number (g :: rest)).run f = (.error e, f') := by
              simp [fixFiles, Act.run_bind, hc, run_fixNext, hv]
            rw [hrun]
            exact .broken hc hv
          · have hrest := ih (number + 1) f'
            rcases hfiles : (fixFiles w total (number + 1) rest).run f' with ⟨r, f''⟩
            rw [hfiles] at hrest
            have hrun : (fixFiles w total number (g :: rest)).run f =
                (r.map fun x => (result :: x.1, x.2), f'') := by
              cases r <;> simp [fixFiles, Act.run_bind, hc, run_fixNext, hv, hfiles, Except.map]
            rw [hrun]
            exact .next hc hv hrest

/-! ## The check at the end -/

/-- The state of a run in which a check could not be done. -/
def Fixer.unchecked (f : Fixer σ) (failure : Text) (e : Fault) : Fixer σ :=
  f.said Log.error [failure, e.message]

/-- The ways in which a check ends. -/
inductive Checked (failure : Text) (a : Act (World σ) BuildOutcome) (f : Fixer σ) :
    Except Fault BuildOutcome → Fixer σ → Prop
  | interrupted {s : World σ} (ha : a.run f.world = (.error .interrupted, s)) :
      Checked failure a f (.error .interrupted) (f.inWorld s)
  | answered {s : World σ} {outcome : BuildOutcome} (ha : a.run f.world = (.ok outcome, s)) :
      Checked failure a f (.ok outcome) (f.inWorld s)
  /-- A check that cannot be done has failed. -/
  | failed {s : World σ} {e : Fault} (ha : a.run f.world = (.error e, s)) (he : e ≠ .interrupted) :
      Checked failure a f (.ok ⟨false, e.message⟩) ((f.inWorld s).unchecked failure e)

theorem checked_check (failure : Text) (a : Act (World σ) BuildOutcome) (f : Fixer σ) :
    Checked failure a f ((check failure a).run f).1 ((check failure a).run f).2 := by
  rcases ha : a.run f.world with ⟨answer, s⟩
  have honWorld : (onWorld a).run f = (answer, f.inWorld s) := by
    simp [ha, inWorld]
  by_cases hi : answer = .error .interrupted
  · subst hi
    have hrun : (check failure a).run f = (.error .interrupted, f.inWorld s) := by
      simp [check, Act.run_bind, Act.run_caught, honWorld]
    rw [hrun]
    exact .interrupted ha
  · have hcaught := Act.run_caught_of_ne honWorld hi
    cases answer with
    | ok outcome =>
        have hrun : (check failure a).run f = (.ok outcome, f.inWorld s) := by
          simp [check, Act.run_bind, hcaught]
        rw [hrun]
        exact .answered ha
    | error e =>
        have hrun : (check failure a).run f =
            (.ok ⟨false, e.message⟩, (f.inWorld s).unchecked failure e) := by
          simp [check, Act.run_bind, hcaught, Fixer.unchecked, said]
        rw [hrun]
        exact .failed ha fun he => hi (he ▸ rfl)

namespace Fixer

/-- The state of a run that goes on to compile the project once more. -/
def building (f : Fixer σ) : Fixer σ := f.said Log.info ["Final build check..."]

/-- The state of a run that goes on to test the project. -/
def testing (f : Fixer σ) : Fixer σ := f.said Log.info ["Running test suite..."]

/-- The state of a run that has tested the project. -/
def tested (f : Fixer σ) (ok : Bool) : Fixer σ :=
  if !ok then f.said Log.warning ["Tests failed after fixes; committed files are kept"] else f

@[simp] theorem quiet_tested (f : Fixer σ) (ok : Bool) :
    (f.tested ok).world.quiet = f.world.quiet := by
  cases ok <;> rfl

end Fixer

/-- The report after the project was compiled once more. -/
def Report.built (r : Report) (build : BuildOutcome) : Report :=
  { r with buildPassed := some build.ok, buildOutput := build.output }

/-- The report after the project was tested. -/
def Report.tested (r : Report) (tests : BuildOutcome) : Report :=
  { r with testsPassed := some tests.ok, testOutput := tests.output }

/-- The ways in which the check at the end goes. -/
inductive Certified (w : Workshop σ) (r : Report) (f : Fixer σ) :
    Except Fault Report → Fixer σ → Prop
  | unbuilt {e : Fault} {f' : Fixer σ}
      (hb : Checked buildFailure (w.validator.compile w.projectDir) f.building (.error e) f') :
      Certified w r f (.error e) f'
  | built {build : BuildOutcome} {f' : Fixer σ}
      (hb : Checked buildFailure (w.validator.compile w.projectDir) f.building (.ok build) f')
      (ht : w.settings.runTests = false) :
      Certified w r f (.ok (r.built build)) f'
  | untested {build : BuildOutcome} {e : Fault} {g f' : Fixer σ}
      (hb : Checked buildFailure (w.validator.compile w.projectDir) f.building (.ok build) g)
      (ht : w.settings.runTests = true)
      (hc : Checked testFailure (w.validator.test w.projectDir) g.testing (.error e) f') :
      Certified w r f (.error e) f'
  | tested {build tests : BuildOutcome} {g f' : Fixer σ}
      (hb : Checked buildFailure (w.validator.compile w.projectDir) f.building (.ok build) g)
      (ht : w.settings.runTests = true)
      (hc : Checked testFailure (w.validator.test w.projectDir) g.testing (.ok tests) f') :
      Certified w r f (.ok ((r.built build).tested tests)) (f'.tested tests.ok)

theorem certified_certify (w : Workshop σ) (r : Report) (f : Fixer σ) :
    Certified w r f ((certify w r).run f).1 ((certify w r).run f).2 := by
  have hbuilding : (say Log.info ["Final build check..."]).run f = (.ok (), f.building) := rfl
  have hb := checked_check buildFailure (w.validator.compile w.projectDir) f.building
  rcases hbuild : (check buildFailure (w.validator.compile w.projectDir)).run f.building
    with ⟨e | build, g⟩
  · rw [hbuild] at hb
    have hrun : (certify w r).run f = (.error e, g) := by
      simp [certify, Act.run_bind, -run_say, hbuilding, hbuild]
    rw [hrun]
    exact .unbuilt hb
  · rw [hbuild] at hb
    cases ht : w.settings.runTests with
    | false =>
        have hrun : (certify w r).run f = (.ok (r.built build), g) := by
          simp [certify, Act.run_bind, -run_say, hbuilding, hbuild, ht, Report.built]
        rw [hrun]
        exact .built hb ht
    | true =>
        have htesting : (say Log.info ["Running test suite..."]).run g = (.ok (), g.testing) := rfl
        have hc := checked_check testFailure (w.validator.test w.projectDir) g.testing
        rcases htest : (check testFailure (w.validator.test w.projectDir)).run g.testing
          with ⟨e | tests, f'⟩
        · rw [htest] at hc
          have hrun : (certify w r).run f = (.error e, f') := by
            simp [certify, Act.run_bind, -run_say, hbuilding, hbuild, ht, htesting, htest]
          rw [hrun]
          exact .untested hb ht hc
        · rw [htest] at hc
          have hfailing :
              (say Log.warning ["Tests failed after fixes; committed files are kept"]).run f' =
                (.ok (), f'.tested false) := rfl
          have hrun : (certify w r).run f =
              (.ok ((r.built build).tested tests), f'.tested tests.ok) := by
            cases hok : tests.ok <;>
              simp [certify, Act.run_bind, -run_say, hbuilding, hbuild, ht, htesting, htest, hok,
                hfailing, Report.built, Report.tested, Fixer.tested]
          rw [hrun]
          exact .tested hb ht hc

/-! ## Whole runs -/

/-- The state of a run without the log. -/
def Fixer.quiet (f : Fixer σ) : Fixer σ := f.inWorld f.world.quiet

/-- Picking issues says something and does nothing else. -/
theorem quiet_tellKeys (s : Selection) (f : Fixer σ) : ((tellKeys s).run f).2.quiet = f.quiet := by
  by_cases hunlocatable : s.unlocatable.isEmpty <;> by_cases hunknown : s.unknown.isEmpty <;>
    cases hkeys : Report.keyList s.unknown <;>
      simp [tellKeys, Act.run_bind, hunlocatable, hunknown, hkeys, World.quiet, Fixer.quiet, inWorld]

theorem quiet_select (plan : Plan) (keys : Option (List Value)) (f : Fixer σ) :
    ((select plan keys).run f).2.quiet = f.quiet := by
  cases hfind : plan.find keys with
  | error e => simp [select, Act.run_bind, hfind]
  | ok s =>
      have htell := quiet_tellKeys s f
      rcases hrun : (tellKeys s).run f with ⟨e | u, g⟩ <;> rw [hrun] at htell
      · simpa [select, Act.run_bind, hfind, hrun] using htell
      · rw [← htell]
        simp [select, Act.run_bind, hfind, hrun, World.quiet, Fixer.quiet, inWorld]

theorem quiet_run_select (plan : Plan) (keys : Option (List Value)) (f : Fixer σ) :
    ((select plan keys).run f).2.world.quiet = f.world.quiet :=
  congrArg (·.world) (quiet_select plan keys f)

namespace Fixer

/-- The state of a run that has told what came of it. -/
def summarized (f : Fixer σ) (r : Report) : Fixer σ := ((summarize r).run f).2

@[simp] theorem quiet_summarized (f : Fixer σ) (r : Report) :
    (f.summarized r).world.quiet = f.world.quiet := rfl

end Fixer

/-- The ways in which a run ends. -/
inductive Ran (w : Workshop σ) (plan : Plan) (keys : Option (List Value)) (f : Fixer σ) :
    Except Fault Report → Fixer σ → Prop
  | unselected {e : Fault} {f' : Fixer σ} (hs : (select plan keys).run f = (.error e, f')) :
      Ran w plan keys f (.error e) f'
  | broken {s : Selection} {e : Fault} {g f' : Fixer σ}
      (hs : (select plan keys).run f = (.ok s, g))
      (hf : FixedAll w s.groups.length 1 s.groups g (.error e) f') :
      Ran w plan keys f (.error e) f'
  | idle {s : Selection} {skipped : List Text} {g f' : Fixer σ}
      (hs : (select plan keys).run f = (.ok s, g))
      (hf : FixedAll w s.groups.length 1 s.groups g (.ok ([], skipped)) f') :
      Ran w plan keys f (.ok (gathered s [] skipped f'.usage))
        (f'.summarized (gathered s [] skipped f'.usage))
  | unchecked {s : Selection} {results : List FileResult} {skipped : List Text} {e : Fault}
      {g g' f' : Fixer σ} (hs : (select plan keys).run f = (.ok s, g))
      (hf : FixedAll w s.groups.length 1 s.groups g (.ok (results, skipped)) g')
      (hne : results ≠ []) (hc : Certified w (gathered s results skipped g'.usage) g' (.error e) f') :
      Ran w plan keys f (.error e) f'
  | checked {s : Selection} {results : List FileResult} {skipped : List Text} {report : Report}
      {g g' f' : Fixer σ} (hs : (select plan keys).run f = (.ok s, g))
      (hf : FixedAll w s.groups.length 1 s.groups g (.ok (results, skipped)) g')
      (hne : results ≠ [])
      (hc : Certified w (gathered s results skipped g'.usage) g' (.ok report) f') :
      Ran w plan keys f (.ok report) (f'.summarized report)

theorem ran_run (w : Workshop σ) (plan : Plan) (keys : Option (List Value)) (f : Fixer σ) :
    Ran w plan keys f ((run w plan keys).run f).1 ((run w plan keys).run f).2 := by
  rcases hs : (select plan keys).run f with ⟨e | s, g⟩
  · have hrun : (run w plan keys).run f = (.error e, g) := by
      simp [run, Act.run_bind, hs]
    rw [hrun]
    exact .unselected hs
  · have hf := fixedAll_fixFiles w s.groups.length 1 s.groups g
    rcases hfiles : (fixFiles w s.groups.length 1 s.groups).run g with ⟨e | ⟨results, skipped⟩, g'⟩
    · rw [hfiles] at hf
      have hrun : (run w plan keys).run f = (.error e, g') := by
        simp [run, Act.run_bind, hs, hfiles]
      rw [hrun]
      exact .broken hs hf
    · rw [hfiles] at hf
      cases results with
      | nil =>
          have hrun : (run w plan keys).run f = (.ok (gathered s [] skipped g'.usage),
              g'.summarized (gathered s [] skipped g'.usage)) := by
            simp [run, Act.run_bind, hs, hfiles, summarize, summarized]
          rw [hrun]
          exact .idle hs hf
      | cons result results =>
          have hc := certified_certify w (gathered s (result :: results) skipped g'.usage) g'
          rcases hcertify : (certify w (gathered s (result :: results) skipped g'.usage)).run g'
            with ⟨e | report, f'⟩
          · rw [hcertify] at hc
            have hrun : (run w plan keys).run f = (.error e, f') := by
              simp [run, Act.run_bind, hs, hfiles, hcertify]
            rw [hrun]
            exact .unchecked hs hf (by simp) hc
          · rw [hcertify] at hc
            have hrun : (run w plan keys).run f = (.ok report, f'.summarized report) := by
              simp [run, Act.run_bind, hs, hfiles, hcertify, summarize, summarized]
            rw [hrun]
            exact .checked hs hf (by simp) hc

/-- The files that are started in a run. -/
def visits (w : Workshop σ) (plan : Plan) (keys : Option (List Value)) (f : Fixer σ) :
    List (Visit σ) :=
  match (select plan keys).run f with
  | (.ok s, g) => visitsFrom w s.groups.length 1 s.groups g
  | (.error _, _) => []

/-- Where files are picked, they are visited, and nothing else has happened before. -/
theorem visits_of_select {w : Workshop σ} {plan : Plan} {keys : Option (List Value)}
    {f g : Fixer σ} {s : Selection} (hs : (select plan keys).run f = (.ok s, g)) :
    visits w plan keys f = visitsFrom w s.groups.length 1 s.groups g ∧
      g.world.quiet = f.world.quiet := by
  have hquiet := quiet_run_select plan keys f
  rw [hs] at hquiet
  exact ⟨by rw [visits, hs], hquiet⟩

end Mend.Fix
