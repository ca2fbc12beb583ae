import Mend.Proofs.Fix.Accounting

/-!
# What a run consumes

The consumption that is counted grows by that of every draft, when the drafter answers, and by nothing
else. The count is that of all runs in a row: it is not set back when the next run begins, and every
report gives all of it.

## Main definitions

* `Fix.Usage.IsCount` — the counts that are sums over the answers.
* `Fix.countCalls` — what the answers in a list of calls consumed.
* `Fix.Turn`, `Fix.afterTurns`, `Fix.turnCalls` — runs in a row, their end and their calls.

## Main statements

* `Fix.run_usage` — what a run counts is what its calls consumed.
* `Fix.run_usage_of_turns` — the report of a run counts what the runs before consumed as well.
-/

namespace Mend.Fix

variable {σ : Type}

open Fixer

/-! ## Counts -/

/-- A count of consumptions that adds up. -/
structure Usage.IsCount (count : Usage → Int) : Prop where
  none : count {} = 0
  add : ∀ a b, count (a + b) = count a + count b

theorem Usage.isCount_inputTokens : IsCount (·.inputTokens) := ⟨rfl, fun _ _ => rfl⟩

theorem Usage.isCount_outputTokens : IsCount (·.outputTokens) := ⟨rfl, fun _ _ => rfl⟩

/-- What the answer to a call consumed. Only drafts consume something, and nothing is known of a call
that fails. -/
def Exchange.count (count : Usage → Int) : Exchange → Int
  | .draft _ (.ok d) => count d.usage
  | _ => 0

/-- What the answers to some calls consumed. -/
def countCalls (count : Usage → Int) (calls : List Call) : Int :=
  sumOver (·.exchange.count count) calls

theorem countCalls_append (count : Usage → Int) (calls later : List Call) :
    countCalls count (calls ++ later) = countCalls count calls + countCalls count later :=
  sumOver_append ..

/-- What a run counts besides the calls that are written down. -/
def Fixer.surplus (count : Usage → Int) (f : Fixer (Journaled σ)) : Int :=
  count f.usage - countCalls count f.calls

section

variable {count : Usage → Int} {f f' : Fixer (Journaled σ)}

theorem surplus_congr (hcalls : f'.calls = f.calls) (husage : f'.usage = f.usage) :
    f'.surplus count = f.surplus count := by
  rw [surplus, surplus, hcalls, husage]

/-- A call that consumes what is counted meanwhile makes no difference. -/
theorem surplus_of_call {call : Call} (hcalls : f'.calls = f.calls ++ [call])
    (husage : count f'.usage = count f.usage + call.exchange.count count) :
    f'.surplus count = f.surplus count := by
  have hcall : countCalls count [call] = call.exchange.count count := Int.add_zero _
  rw [surplus, surplus, hcalls, husage, countCalls_append, hcall]
  omega

/-- Checks consume nothing. -/
theorem countCalls_of_checks {calls : List Call} (h : ∀ c ∈ calls, c.IsCheck) :
    countCalls count calls = 0 := by
  induction calls with
  | nil => rfl
  | cons c rest ih =>
      obtain ⟨answer, hc⟩ := h c (List.mem_cons_self ..)
      have hzero : c.exchange.count count = 0 := by
        rcases hc with hc | hc <;> rw [hc] <;> rfl
      rw [countCalls, sumOver_cons, hzero, Int.zero_add]
      exact ih fun d hd => h d (List.mem_cons_of_mem c hd)

theorem surplus_of_checks {checks : List Call} (hcalls : f'.calls = f.calls ++ checks)
    (hchecks : ∀ c ∈ checks, c.IsCheck) (husage : f'.usage = f.usage) :
    f'.surplus count = f.surplus count := by
  rw [surplus, surplus, hcalls, husage, countCalls_append, countCalls_of_checks hchecks, Int.add_zero]

end

/-! ## One file -/

section

variable {w : Workshop σ} {count : Usage → Int} {path : Text} {issues : List Issue}
  {left number : Nat} {feedback : Feedback} {candidate : Text} {f f' : Fixer (Journaled σ)}

theorem Judged.usage_eq {w : Workshop σ} {f f' : Fixer σ} {r : Except Fault Ending}
    (h : Judged w f r f') : f'.usage = f.usage := by
  cases h <;> rfl

theorem Validated.usage_eq {w : Workshop σ} {f f' : Fixer σ} {r : Except Fault Ending}
    (h : Validated w candidate f r f') : f'.usage = f.usage := by
  cases h with
  | judged _ _ hj => exact hj.usage_eq
  | _ => rfl

theorem Validated.surplus_eq {r : Except Fault Ending} (h : Validated w.journaled candidate f r f') :
    f'.surplus count = f.surplus count := by
  obtain ⟨compiling, hcalls, hcompile, -⟩ := h.calls
  refine surplus_of_checks hcalls ?_ h.usage_eq
  intro c hc
  obtain ⟨answer, -, hexchange, -⟩ := hcompile c (by simpa using hc)
  exact ⟨answer, .inl hexchange⟩

/-- An attempt counts what the drafter's answer consumed, if there is one, and nothing else. -/
theorem Attempted.surplus_eq (hcount : Usage.IsCount count) {r : Except Fault Ending}
    (h : Attempted w.journaled path issues number feedback f r f') :
    f'.surplus count = f.surplus count := by
  cases h with
  | interrupted hd =>
      have hcalls := calls_of_drafter hd
      exact surplus_of_call hcalls (Int.add_zero _).symm
  | unanswered hd _ =>
      have hcalls := calls_of_drafter hd
      exact surplus_of_call hcalls (Int.add_zero _).symm
  | unusable hd _ =>
      have hcalls := calls_of_drafter hd
      exact surplus_of_call hcalls (hcount.add ..)
  | validated hd _ hv =>
      have hcalls := calls_of_drafter hd
      rw [hv.surplus_eq]
      exact surplus_of_call hcalls (hcount.add ..)

theorem Attempts.surplus_eq (hcount : Usage.IsCount count) {r : Except Fault (Option Text)}
    (h : Attempts w.journaled path issues left number feedback f r f') :
    f'.surplus count = f.surplus count := by
  induction h with
  | givenUp => exact surplus_congr rfl rfl
  | broken h => exact h.surplus_eq hcount
  | @accepted left number feedback f g h =>
      have haccepted : (g.accepted path number).surplus count = g.surplus count := surplus_congr rfl rfl
      exact haccepted.trans (h.surplus_eq hcount)
  | @refused left number feedback f g _ ending _ h _ _ ih =>
      have hrefused : (g.refused path number ending (left ≠ 0)).surplus count = g.surplus count := by
        refine surplus_congr (calls_refused ..) ?_
        cases decide (left ≠ 0) <;> rfl
      exact ih.trans (hrefused.trans (h.surplus_eq hcount))

theorem Made.surplus_eq (hcount : Usage.IsCount count) {old : Bytes} {r : Except Fault (Option Text)}
    {left : Except Fault Unit} {h : Held (Journaled σ)} (hmade : Made w.journaled path issues f old r f')
    (hleave : Backup.leave.run f'.toHeld = (left, h)) :
    (f'.withHeld h).surplus count = f.surplus count := by
  have hattempts := hmade.attempts.surplus_eq hcount
  have hback : (f'.withHeld h).surplus count = f'.surplus count :=
    surplus_congr (congrArg Journaled.calls (Backup.left_of_run hleave).touched.extra) rfl
  exact hback.trans hattempts

theorem Kept.surplus_eq (hcount : Usage.IsCount count) {r : Except Fault (Bool × Option Text)}
    (h : Kept w.journaled path issues f r f') : f'.surplus count = f.surplus count := by
  cases h with
  | unkept hentered => cases hentered <;> rfl
  | committed hmade hleave => exact hmade.surplus_eq hcount hleave
  | undone hmade _ hleave => exact hmade.surplus_eq hcount hleave

/-- The work on a file counts what the drafter's answers consumed, whatever comes of them. -/
theorem Fixed.surplus_eq (hcount : Usage.IsCount count) {r : Except Fault FileResult}
    (h : Fixed w.journaled path issues f r f') : f'.surplus count = f.surplus count := by
  have htaken : (f.takenUp path).surplus count = f.surplus count := surplus_congr rfl rfl
  cases h with
  | @concluded committed _ g hk =>
      have hconcluded : (g.concluded path committed).surplus count = g.surplus count :=
        surplus_congr (calls_of_quiet (quiet_concluded ..)) (by cases committed <;> rfl)
      exact hconcluded.trans ((hk.surplus_eq hcount).trans htaken)
  | @contained fault g hk =>
      have hcontained : (g.contained path fault).surplus count = g.surplus count := surplus_congr rfl rfl
      exact hcontained.trans ((hk.surplus_eq hcount).trans htaken)
  | broken hk _ => exact (hk.surplus_eq hcount).trans htaken

/-! ## One run -/

theorem FixedAll.surplus_eq (hcount : Usage.IsCount count) {total : Nat} {groups : List FileGroup}
    {r : Except Fault (List FileResult × List Text)}
    (h : FixedAll w.journaled total number groups f r f') : f'.surplus count = f.surplus count := by
  have hvisit {g : FileGroup} {number : Nat} {f f' : Fixer (Journaled σ)} {r : Except Fault FileResult}
      (hv : Visit.run w.journaled ⟨g, f.announced total number g⟩ = (r, f')) :
      f'.surplus count = f.surplus count :=
    ((Visit.fixed_of_run hv).surplus_eq hcount).trans (surplus_congr rfl rfl)
  induction h with
  | done => rfl
  | stopped _ => exact surplus_congr rfl rfl
  | broken _ hv => exact hvisit hv
  | next _ hv _ ih => exact ih.trans (hvisit hv)

theorem Certified.surplus_eq {report : Report} {r : Except Fault Report}
    (h : Certified w.journaled report f r f') : f'.surplus count = f.surplus count := by
  obtain ⟨final, hcalls, hchecks⟩ := h.calls
  refine surplus_of_checks hcalls hchecks ?_
  rw [h.inWorld_eq]
  rfl

theorem select_surplus_eq {plan : Plan} {keys : Option (List Value)} {r : Except Fault Selection}
    (hs : (select plan keys).run f = (r, f')) : f'.surplus count = f.surplus count := by
  have hquiet := quiet_select plan keys f
  rw [hs] at hquiet
  refine surplus_congr (calls_of_quiet (congrArg (·.world) hquiet)) ?_
  exact congrArg (·.usage) hquiet

theorem Ran.surplus_eq (hcount : Usage.IsCount count) {plan : Plan} {keys : Option (List Value)}
    {r : Except Fault Report} (h : Ran w.journaled plan keys f r f') :
    f'.surplus count = f.surplus count := by
  cases h with
  | unselected hs => exact select_surplus_eq hs
  | broken hs hf => exact (hf.surplus_eq hcount).trans (select_surplus_eq hs)
  | idle hs hf =>
      exact (surplus_congr rfl rfl).trans ((hf.surplus_eq hcount).trans (select_surplus_eq hs))
  | unchecked hs hf _ hc =>
      exact hc.surplus_eq.trans ((hf.surplus_eq hcount).trans (select_surplus_eq hs))
  | checked hs hf _ hc =>
      have hchecked := hc.surplus_eq.trans ((hf.surplus_eq hcount).trans (select_surplus_eq hs))
      exact (surplus_congr rfl rfl).trans hchecked

end

section

variable {w : Workshop σ} {plan : Plan} {keys : Option (List Value)} {f f' : Fixer σ}
  {count : Usage → Int}

/-- What a run counts is what was counted before and what its calls consumed. -/
theorem run_usage (w : Workshop σ) (plan : Plan) (keys : Option (List Value)) (f : Fixer σ)
    (hcount : Usage.IsCount count) :
    count ((run w plan keys).run f).2.usage =
      count f.usage + countCalls count (runCalls w plan keys f) := by
  have hsame := (ran_run w.journaled plan keys f.journaling).surplus_eq hcount
  rw [run_run_eq]
  replace hsame : count ((run w.journaled plan keys).run f.journaling).2.usage -
    countCalls count (runCalls w plan keys f) = count f.usage - 0 := hsame
  show count ((run w.journaled plan keys).run f.journaling).2.usage = _
  omega

theorem Certified.usage_of_ok {r report : Report} (h : Certified w r f (.ok report) f') :
    report.usage = r.usage := by
  cases h <;> rfl

/-- A report gives what is counted at the end of its run. -/
theorem Ran.usage_of_ok (hcount : Usage.IsCount count) {report : Report}
    (h : Ran w plan keys f (.ok report) f') : count report.usage = count f'.usage := by
  have hgathered (u : Usage) : count (({} : Usage) + u) = count u := by
    rw [hcount.add, hcount.none, Int.zero_add]
  cases h with
  | idle _ _ => exact hgathered _
  | @checked s results skipped report g g' f' _ _ _ hc =>
      have hstays : (f'.summarized report).usage = g'.usage := congrArg (·.usage) hc.inWorld_eq
      rw [hc.usage_of_ok, hstays]
      exact hgathered _

end

/-! ## Runs in a row -/

/-- A run, and what happens to the world before it. -/
structure Turn (σ : Type) where
  before : World σ → World σ := id
  plan : Plan
  keys : Option (List Value) := none

/-- The state in which a run begins behind another one. -/
def Turn.start (t : Turn σ) (f : Fixer σ) : Fixer σ := f.inWorld (t.before f.world)

/-- A run behind another one. -/
def Turn.run (w : Workshop σ) (t : Turn σ) (f : Fixer σ) : Except Fault Report × Fixer σ :=
  (Fix.run w t.plan t.keys).run (t.start f)

/-- The state at the end of some runs in a row. -/
def afterTurns (w : Workshop σ) : List (Turn σ) → Fixer σ → Fixer σ
  | [], f => f
  | t :: rest, f => afterTurns w rest (t.run w f).2

/-- The calls of some runs in a row. -/
def turnCalls (w : Workshop σ) : List (Turn σ) → Fixer σ → List Call
  | [], _ => []
  | t :: rest, f => runCalls w t.plan t.keys (t.start f) ++ turnCalls w rest (t.run w f).2

theorem usage_afterTurns (w : Workshop σ) (turns : List (Turn σ)) (f : Fixer σ)
    {count : Usage → Int} (hcount : Usage.IsCount count) :
    count (afterTurns w turns f).usage = count f.usage + countCalls count (turnCalls w turns f) := by
  induction turns generalizing f with
  | nil => exact (Int.add_zero _).symm
  | cons t rest ih =>
      have hrun := run_usage w t.plan t.keys (t.start f) hcount
      rw [afterTurns, ih, Turn.run, hrun, turnCalls, countCalls_append, Int.add_assoc]
      rfl

/-- The report of a run behind others. -/
theorem count_report_of_turns {w : Workshop σ} {world : World σ} {earlier : List (Turn σ)} {t : Turn σ}
    {report : Report} {f' : Fixer σ} {count : Usage → Int} (hcount : Usage.IsCount count)
    (hrun : t.run w (afterTurns w earlier (.start world)) = (.ok report, f')) :
    count report.usage = countCalls count (turnCalls w earlier (.start world)) +
      countCalls count (runCalls w t.plan t.keys (t.start (afterTurns w earlier (.start world)))) := by
  generalize hf : afterTurns w earlier (.start world) = f at hrun ⊢
  have hbefore := usage_afterTurns w earlier (.start world) hcount
  have hown := run_usage w t.plan t.keys (t.start f) hcount
  have hran := ran_run w t.plan t.keys (t.start f)
  rw [Turn.run] at hrun
  rw [hrun] at hown hran
  rw [hf] at hbefore
  have hstart : count (Fixer.start world).usage = 0 := hcount.none
  have hbegin : (t.start f).usage = f.usage := rfl
  rw [hran.usage_of_ok hcount, hown, hbegin, hbefore, hstart, Int.zero_add]

/-- The report of a run gives the tokens of the drafts that were answered in it, in whatever attempts and
whatever came of them, and of those that were answered in the runs before it with the same fixer. So it
is right about its run just if these were for free, as it is for the first run. -/
theorem run_usage_of_turns (w : Workshop σ) (world : World σ) (earlier : List (Turn σ)) (t : Turn σ)
    {report : Report} {f' : Fixer σ}
    (hrun : t.run w (afterTurns w earlier (.start world)) = (.ok report, f')) :
    let before := turnCalls w earlier (.start world)
    let own := runCalls w t.plan t.keys (t.start (afterTurns w earlier (.start world)))
    report.usage.inputTokens =
        countCalls (·.inputTokens) before + countCalls (·.inputTokens) own ∧
      report.usage.outputTokens =
        countCalls (·.outputTokens) before + countCalls (·.outputTokens) own ∧
      (report.usage.inputTokens = countCalls (·.inputTokens) own ∧
          report.usage.outputTokens = countCalls (·.outputTokens) own ↔
        countCalls (·.inputTokens) before = 0 ∧ countCalls (·.outputTokens) before = 0) ∧
      (earlier = [] → countCalls (·.inputTokens) before = 0 ∧
        countCalls (·.outputTokens) before = 0) := by
  intro before own
  have hinput : report.usage.inputTokens =
      countCalls (·.inputTokens) before + countCalls (·.inputTokens) own :=
    count_report_of_turns Usage.isCount_inputTokens hrun
  have houtput : report.usage.outputTokens =
      countCalls (·.outputTokens) before + countCalls (·.outputTokens) own :=
    count_report_of_turns Usage.isCount_outputTokens hrun
  refine ⟨hinput, houtput, ?_, ?_⟩
  · rw [hinput, houtput]
    omega
  · intro hfirst
    subst hfirst
    exact ⟨rfl, rfl⟩

/-- A workshop in which every draft is an `x` and consumes 100 tokens read and 50 tokens written. -/
def billed : Workshop Unit :=
  { small true with
    drafter := fun _ =>
      .ofExcept (.ok { content := some [0x78], usage := { inputTokens := 100, outputTokens := 50 } }) }

/-- The second run makes three attempts, none of which changes the file that the first run has fixed,
but reports the tokens of four. -/
theorem run_usage_of_turns_billed :
    ∃ report f', Turn.run billed { plan := smallPlan }
        (afterTurns billed [{ plan := smallPlan }] (.start emptyFile.world)) = (.ok report, f') ∧
      report.usage.inputTokens = 400 ∧ report.usage.outputTokens = 200 ∧
      countCalls (·.inputTokens) (runCalls billed smallPlan none
        (afterTurns billed [{ plan := smallPlan }] (.start emptyFile.world))) = 300 := by
  have hended : (Turn.run billed { plan := smallPlan }
      (afterTurns billed [{ plan := smallPlan }] (.start emptyFile.world))).1.isOk = true := by
    decide +kernel
  obtain ⟨report, f', hrun⟩ := exists_ending_of_isOk hended
  obtain ⟨hinput, houtput, -⟩ :=
    run_usage_of_turns billed emptyFile.world [{ plan := smallPlan }] { plan := smallPlan } hrun
  refine ⟨report, f', hrun, hinput.trans ?_, houtput.trans ?_, ?_⟩ <;> decide +kernel

end Mend.Fix
