import Mend.Proofs.Fix.Certification
import Mend.Proofs.Fix.Containment
import Mend.Proofs.Fix.Stopping

/-!
# The accounts of a run

Whenever a run ends with a report, the files that were picked are those with a result, followed by those
that were left out. The counters of the report add up, a file that was left out has caused nothing at
all, and the check at the end is made just if a file was started.

## Main definitions

* `Fix.OnlyVisits` — whether the state of a run changes in the visits to files only.
* `Fix.Parted` — what the work on files comes to that are started in part.
* `Fix.FinalCheck` — the calls of the check at the end, and what the report says of them.
-/

namespace Mend.Fix

variable {σ : Type}

open Fixer

/-! ## Counters -/

namespace Report

/-- Every file with a result has a change that was accepted or was not. -/
theorem filesFixed_add_filesFailed (r : Report) :
    r.filesFixed + r.filesFailed = r.results.length := by
  rw [filesFixed, filesFailed]
  induction r.results with
  | nil => rfl
  | cons x rest ih => cases hx : x.isCommitted <;> simp [hx] <;> omega

/-- Every issue that was attempted is fixed or is not. -/
theorem issuesFixed_add_issuesFailed (r : Report) :
    r.issuesFixed + r.issuesFailed = sumOver (·.issuesAttempted) r.results := by
  rw [issuesFixed, issuesFailed]
  induction r.results with
  | nil => rfl
  | cons x rest ih =>
      simp only [sumOver_cons]
      omega

end Report

/-- The result of the work on a file counts all its issues. -/
theorem Fixed.issuesAttempted_eq {w : Workshop σ} {path : Text} {issues : List Issue}
    {f f' : Fixer σ} {result : FileResult} (h : Fixed w path issues f (.ok result) f') :
    result.issuesAttempted = issues.length := by
  generalize hr : Except.ok result = r at h
  cases h with
  | concluded _ =>
      cases hr
      rfl
  | contained _ =>
      cases hr
      rfl
  | broken _ _ => cases hr

/-! ## What happens between the visits -/

/-- From a state of a run, through visits to files, to a state: but for the log, the state changes in
the visits, and at no other time. -/
def OnlyVisits (w : Workshop σ) : Fixer σ → List (Visit σ) → Fixer σ → Prop
  | f, [], f' => f'.quiet = f.quiet
  | f, v :: rest, f' => v.before.quiet = f.quiet ∧ OnlyVisits w (v.run w).2 rest f'

namespace OnlyVisits

variable {w : Workshop σ} {f f' : Fixer σ} {vs : List (Visit σ)}

theorem of_quiet {g : Fixer σ} (hg : g.quiet = f.quiet) (h : OnlyVisits w g vs f') :
    OnlyVisits w f vs f' := by
  cases vs with
  | nil => exact Eq.trans h hg
  | cons v rest => exact ⟨h.1.trans hg, h.2⟩

/-- The state at the end is the one at the beginning if there is no visit, and otherwise the one behind
the last visit. -/
theorem last (h : OnlyVisits w f vs f') :
    vs = [] ∧ f'.quiet = f.quiet ∨
      ∃ earlier v, vs = earlier ++ [v] ∧ f'.quiet = (v.run w).2.quiet := by
  induction vs generalizing f with
  | nil => exact .inl ⟨rfl, h⟩
  | cons v rest ih =>
      rcases ih h.2 with ⟨rfl, hsame⟩ | ⟨earlier, u, rfl, hsame⟩
      · exact .inr ⟨[], v, rfl, hsame⟩
      · exact .inr ⟨v :: earlier, u, rfl, hsame⟩

end OnlyVisits

/-- What the work on files comes to, from one state of a run to another: some are started, and the
others are left out. -/
structure Parted (w : Workshop σ) (vs : List (Visit σ)) (results : List FileResult)
    (started left : List FileGroup) (f f' : Fixer σ) : Prop where
  visited : vs.map (·.group) = started
  ended : vs.map (fun v => (v.run w).1) = results.map .ok
  covers : Covers started results
  attempted : sumOver (·.issuesAttempted) results = countOver (·.issues.length) started
  only : OnlyVisits w f vs f'
  asked : left ≠ [] → f'.world.cancelled = true

theorem FixedAll.parted {w : Workshop σ} {total number : Nat} {groups : List FileGroup}
    {f f' : Fixer σ} {results : List FileResult} {skipped : List Text}
    (h : FixedAll w total number groups f (.ok (results, skipped)) f') :
    ∃ started left, groups = started ++ left ∧ skipped = left.map (·.path) ∧
      Parted w (visitsFrom w total number groups f) results started left f f' := by
  generalize hr : Except.ok (results, skipped) = r at h
  induction h generalizing results with
  | done =>
      cases hr
      exact ⟨[], [], rfl, rfl, rfl, rfl, ⟨rfl, by simp⟩, rfl, rfl, by simp⟩
  | @stopped number g rest f hc =>
      cases hr
      rw [visitsFrom_stopped hc]
      exact ⟨[], g :: rest, rfl, rfl, rfl, rfl, ⟨rfl, by simp⟩, rfl, rfl, fun _ => hc⟩
  | broken _ _ => cases hr
  | @next number g rest f f' f'' result r hc hv hrest ih =>
      cases r with
      | error e => cases hr
      | ok x =>
          obtain ⟨rest', skipped'⟩ := x
          cases hr
          obtain ⟨started, left, hgroups, hskipped, hparted⟩ := ih rfl
          have hfixed := Visit.fixed_of_run hv
          rw [visitsFrom_next hc hv]
          refine ⟨g :: started, left, by rw [hgroups]; rfl, hskipped, ?_, ?_, ?_, ?_, ?_,
            hparted.asked⟩
          · rw [List.map_cons, hparted.visited]
          · rw [List.map_cons, List.map_cons, hparted.ended, hv]
          · exact hparted.covers.cons hfixed.result_spec
          · rw [sumOver_cons, countOver_cons, hparted.attempted, hfixed.issuesAttempted_eq]
            push_cast
            rfl
          · refine ⟨rfl, ?_⟩
            rw [hv]
            exact hparted.only

/-! ## The check at the end -/

/-- The calls of the check at the end, and what the report says of them. Without results there is none.
Otherwise the project is compiled once, and tested once if that is wanted. -/
inductive FinalCheck (runTests : Bool) (report : Report) : List Call → Prop
  | idle (hresults : report.results = []) (hbuild : report.buildPassed = none)
      (htests : report.testsPassed = none) : FinalCheck runTests report []
  | built {compiling : Call} {answer : Except Fault BuildOutcome} (hresults : report.results ≠ [])
      (hrun : runTests = false) (hcompiling : compiling.exchange = .compile answer)
      (hbuild : report.buildPassed = some (passes answer)) (htests : report.testsPassed = none) :
      FinalCheck runTests report [compiling]
  | tested {compiling testing : Call} {answer answer' : Except Fault BuildOutcome}
      (hresults : report.results ≠ []) (hrun : runTests = true)
      (hcompiling : compiling.exchange = .compile answer)
      (htesting : testing.exchange = .test answer')
      (hbuild : report.buildPassed = some (passes answer))
      (htests : report.testsPassed = some (passes answer')) :
      FinalCheck runTests report [compiling, testing]

/-- A check is one call, and its outcome is what the answer counts as. -/
theorem Checked.call_of_ok {failure : Text} {exchange : Except Fault BuildOutcome → Exchange}
    {a : Act (World σ) BuildOutcome} {f f' : Fixer (Journaled σ)} {outcome : BuildOutcome}
    (h : Checked failure (noted exchange a) f (.ok outcome) f') :
    ∃ call answer, f'.calls = f.calls ++ [call] ∧ call.exchange = exchange answer ∧
      outcome.ok = passes answer := by
  have hnoted := calls_noted exchange a f.world
  have hok := h.ok_eq
  cases h with
  | answered ha =>
      rw [ha] at hnoted hok
      exact ⟨_, _, hnoted, rfl, hok⟩
  | failed ha _ =>
      rw [ha] at hnoted hok
      exact ⟨_, _, hnoted, rfl, hok⟩

theorem Certified.finalCheck {w : Workshop σ} {r report : Report} {f f' : Fixer (Journaled σ)}
    (h : Certified w.journaled r f (.ok report) f') (hresults : r.results ≠ [])
    (hnone : r.testsPassed = none) :
    ∃ final, f'.calls = f.calls ++ final ∧ FinalCheck w.settings.runTests report final := by
  cases h with
  | built hb ht =>
      obtain ⟨call, answer, hcalls, hcall, hok⟩ := Checked.call_of_ok hb
      exact ⟨[call], hcalls, .built hresults ht hcall (congrArg some hok) hnone⟩
  | @tested build tests g f' hb ht hc =>
      obtain ⟨call, answer, hcalls, hcall, hok⟩ := Checked.call_of_ok hb
      obtain ⟨call', answer', hcalls', hcall', hok'⟩ := Checked.call_of_ok hc
      have hquiet := calls_of_quiet (quiet_tested f' tests.ok)
      refine ⟨[call, call'], ?_, .tested hresults ht hcall hcall' (congrArg some hok)
        (congrArg some hok')⟩
      have htesting : g.testing.calls = g.calls := rfl
      have hbuilding : f.building.calls = f.calls := rfl
      rw [hquiet, hcalls', htesting, hcalls, hbuilding, List.append_assoc]
      rfl

/-- The calls of a run that ends with a report are those of the visits to files and those of the check at
the end. -/
theorem exists_finalCheck {w : Workshop σ} {plan : Plan} {keys : Option (List Value)} {f : Fixer σ}
    {report : Report} (hrun : ((run w plan keys).run f).1 = .ok report) :
    ∃ final, runCalls w plan keys f = visitCalls w (visits w plan keys f) ++ final ∧
      FinalCheck w.settings.runTests report final := by
  have hran := ran_run w.journaled plan keys f.journaling
  rw [run_run_eq] at hrun
  replace hrun : ((run w.journaled plan keys).run f.journaling).1 = .ok report := hrun
  rw [hrun] at hran
  rw [runCalls]
  generalize ((run w.journaled plan keys).run f.journaling).2 = f' at hran
  cases hran with
  | @idle s skipped g g' hs hf =>
      refine ⟨[], ?_, .idle rfl rfl rfl⟩
      rw [calls_of_quiet (quiet_summarized g' _), calls_of_select hs hf, List.append_nil]
  | @checked s results skipped report g g' f' hs hf hne hc =>
      obtain ⟨final, hfinal, hcheck⟩ := hc.finalCheck hne rfl
      refine ⟨final, ?_, hcheck⟩
      rw [calls_of_quiet (quiet_summarized f' report), hfinal, calls_of_select hs hf]

/-! ## Whole runs -/

/-- A check changes nothing of what a run keeps besides the world. -/
theorem Checked.inWorld_eq {failure : Text} {a : Act (World σ) BuildOutcome} {f f' : Fixer σ}
    {r : Except Fault BuildOutcome} (h : Checked failure a f r f') : f' = f.inWorld f'.world := by
  cases h <;> rfl

theorem Certified.inWorld_eq {w : Workshop σ} {report : Report} {f f' : Fixer σ}
    {r : Except Fault Report} (h : Certified w report f r f') : f' = f.inWorld f'.world := by
  cases h with
  | unbuilt hb => exact hb.inWorld_eq
  | built hb _ => exact hb.inWorld_eq
  | untested hb _ hc =>
      have hbuilt := hb.inWorld_eq
      have htested := hc.inWorld_eq
      rw [htested, hbuilt]
      rfl
  | @tested _ tests _ g hb _ hc =>
      have hbuilt := hb.inWorld_eq
      have htested := hc.inWorld_eq
      rw [htested, hbuilt]
      cases tests.ok <;> rfl

theorem Certified.report_of_ok {w : Workshop σ} {r report : Report} {f f' : Fixer σ}
    (h : Certified w r f (.ok report) f') :
    report.results = r.results ∧ report.skipped = r.skipped ∧ report.cancelled = r.cancelled := by
  cases h <;> exact ⟨rfl, rfl, rfl⟩

theorem find_of_select {plan : Plan} {keys : Option (List Value)} {f g : Fixer σ} {s : Selection}
    (hs : (select plan keys).run f = (.ok s, g)) : plan.find keys = .ok s := by
  cases hfind : plan.find keys with
  | error e => simp [select, Act.run_bind, hfind] at hs
  | ok s' =>
      rcases htell : (tellKeys s').run f with ⟨e | u, g'⟩
      · simp [select, Act.run_bind, hfind, htell] at hs
      · have hsame : s' = s := by
          simpa [select, Act.run_bind, hfind, htell] using congrArg Prod.fst hs
        rw [hsame]

/-- A run that ends with a report has picked issues, worked on files, and done nothing else before the
check at the end. -/
theorem Ran.of_ok {w : Workshop σ} {plan : Plan} {keys : Option (List Value)} {f f' : Fixer σ}
    {report : Report} (h : Ran w plan keys f (.ok report) f') :
    ∃ s g h, (select plan keys).run f = (.ok s, g) ∧
      FixedAll w s.groups.length 1 s.groups g (.ok (report.results, report.skipped)) h ∧
      report.cancelled = !report.skipped.isEmpty ∧ f' = h.inWorld f'.world ∧
      (report.results = [] → f'.world.quiet = h.world.quiet) := by
  cases h with
  | idle hs hf => exact ⟨_, _, _, hs, hf, rfl, rfl, fun _ => quiet_summarized ..⟩
  | @checked s results skipped _ g h f' hs hf hne hc =>
      obtain ⟨hresults, hskipped, hcancelled⟩ := hc.report_of_ok
      replace hresults : report.results = results := hresults
      replace hskipped : report.skipped = skipped := hskipped
      have hworld : f'.summarized report = h.inWorld (f'.summarized report).world :=
        congrArg (·.summarized report) hc.inWorld_eq
      rw [hresults, hskipped, hcancelled]
      exact ⟨_, _, _, hs, hf, rfl, hworld, fun hnil => absurd hnil hne⟩

/-- The accounts of a run from one state to another: what was picked and started and what was left out,
what happened and what did not, and what the report says. -/
structure Accounted (w : Workshop σ) (plan : Plan) (keys : Option (List Value)) (s : Selection)
    (started left : List FileGroup) (report : Report) (f f' : Fixer σ) : Prop where
  groups : s.groups = started ++ left
  skipped : report.skipped = left.map (·.path)
  paths : report.results.map (·.path) ++ report.skipped = s.groups.map (·.path)
  cancelled : report.cancelled = true ↔ report.skipped ≠ []
  files : report.filesFixed + report.filesFailed = report.results.length
  issues : report.issuesFixed + report.issuesFailed + countOver (·.issues.length) left = s.issueCount
  /-- Nothing but the visits and the check at the end does anything. -/
  work : ∃ h, Parted w (visits w plan keys f) report.results started left f h ∧
    f' = h.inWorld f'.world ∧ (report.results = [] → f'.world.quiet = h.world.quiet)
  check : ∃ final, runCalls w plan keys f = visitCalls w (visits w plan keys f) ++ final ∧
    FinalCheck w.settings.runTests report final
  /-- A file in whose turn a request to stop comes is the last one. -/
  last : ∀ earlier v later, visits w plan keys f = earlier ++ v :: later → v.IsAsked w → later = []
  /-- Files are left out on request only. -/
  asked : left ≠ [] → f.world.cancelled = true ∨
    ∃ earlier v, visits w plan keys f = earlier ++ [v] ∧ v.IsAsked w
  /-- Nothing is started after a request that comes beforehand. -/
  before : f.world.cancelled = true → started = []

/-- Whenever a run ends with a report, whatever requests to stop came and when, its accounts agree. The
results are those of the files that were started, in the order in which they were picked, and each is
final; the other files are left out, which the report calls a cancellation. The file in whose turn a
request came is the last one started. A file that is left out is not visited, and nothing happens but in
visits and in the check at the end. The counters add up to the number of files and to the number of
issues. The project is compiled once more if a file was started, and then tested if that is wanted. -/
theorem run_accounted (w : Workshop σ) (hstop : w.NeverWithdraws) (plan : Plan)
    (keys : Option (List Value)) (f : Fixer σ) {report : Report} {f' : Fixer σ}
    (hrun : (run w plan keys).run f = (.ok report, f')) :
    ∃ s started left, plan.find keys = .ok s ∧
      Accounted w plan keys s started left report f f' := by
  have hran : Ran w plan keys f (.ok report) f' := by
    have h := ran_run w plan keys f
    rwa [hrun] at h
  obtain ⟨s, g, h, hs, hf, hcancelled, hworld, hquiet⟩ := hran.of_ok
  obtain ⟨started, left, hgroups, hskipped, hparted⟩ := hf.parted
  have hselected : g.quiet = f.quiet := by
    have hquiet := quiet_select plan keys f
    rwa [hs] at hquiet
  rw [← (visits_of_select hs).1] at hparted
  replace hparted : Parted w (visits w plan keys f) report.results started left f h :=
    { hparted with only := hparted.only.of_quiet hselected }
  refine ⟨s, started, left, find_of_select hs, {
    groups := hgroups
    skipped := hskipped
    paths := by rw [hparted.covers.paths, hskipped, hgroups, List.map_append]
    cancelled := by simp [hcancelled]
    files := report.filesFixed_add_filesFailed
    issues := ?_
    work := ⟨h, hparted, hworld, hquiet⟩
    check := exists_finalCheck (congrArg Prod.fst hrun)
    last := fun _ _ _ => later_eq_nil_of_isAsked hstop
    asked := fun hleft => ?_
    before := fun hc => ?_ }⟩
  · rw [report.issuesFixed_add_issuesFailed, hparted.attempted, Selection.issueCount, hgroups,
      countOver_append]
    push_cast
    rfl
  · have hend := hparted.asked hleft
    rcases hparted.only.last with ⟨-, hsame⟩ | ⟨earlier, v, hvs, hsame⟩
    · have hstart : h.world.cancelled = f.world.cancelled := congrArg (·.world.cancelled) hsame
      exact .inl (hstart ▸ hend)
    · have hbehind : h.world.cancelled = (v.run w).2.world.cancelled :=
        congrArg (·.world.cancelled) hsame
      have hv := (Visit.isAsked_iff hstop (visits_eq_append hvs).1).2 (hbehind ▸ hend)
      exact .inr ⟨earlier, v, hvs, hv⟩
  · rw [← hparted.visited, visits_of_cancelled hc]
    rfl

/-- A run that is about to fix the empty files with the names `a` and `b`. -/
def twoFiles : Fixer Unit :=
  .start { tree := ⟨.dir [([0x61], .file []), ([0x62], .file [])]⟩, extra := () }

/-- The plan to fix both. -/
def twoFilesPlan : Plan := { groups := [⟨[0x61], []⟩, ⟨[0x62], []⟩] }

/-- A workshop in which every file is to become an `x`, and somebody asks to stop at every draft. -/
def hurried : Workshop Unit :=
  { small true with
    drafter := fun _ s => (.ok { content := some [0x78] }, { s with cancelled := true }) }

/-- The first file is fixed, and the second one is left out. -/
theorem run_accounted_twoFiles :
    ∃ report f' s started left, (run hurried twoFilesPlan none).run twoFiles = (.ok report, f') ∧
      Accounted hurried twoFilesPlan none s started left report twoFiles f' ∧
      started.length = 1 ∧ left.length = 1 ∧
      ∀ v ∈ visits hurried twoFilesPlan none twoFiles, v.IsAsked hurried := by
  have hstop : hurried.NeverWithdraws := ⟨fun _ _ _ => rfl, fun _ _ h => h⟩
  have hended : ((run hurried twoFilesPlan none).run twoFiles).1.toOption.map
      (fun report => (report.results.length, report.skipped.length)) = some (1, 1) := by
    decide +kernel
  obtain ⟨report, f', hrun, hlengths⟩ := exists_ending_of_map_eq_some hended
  obtain ⟨hresults, hskipped⟩ := Prod.mk.inj hlengths
  obtain ⟨s, started, left, -, haccounted⟩ :=
    run_accounted hurried hstop twoFilesPlan none twoFiles hrun
  obtain ⟨h, hparted, -⟩ := haccounted.work
  refine ⟨report, f', s, started, left, hrun, haccounted, ?_, ?_, by decide +kernel⟩
  · have hpaths := congrArg List.length hparted.covers.paths
    simpa [hresults] using hpaths.symm
  · have hpaths := congrArg List.length haccounted.skipped
    simpa [hskipped] using hpaths.symm

end Mend.Fix
