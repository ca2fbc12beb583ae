import Mend.Fix.Attempt
import Mend.Proofs.Fix.Backup

/-!
# What an attempt does

The ways in which an attempt ends, and all attempts at a file, as relations: one constructor for each
way. What is proved of attempts further on is proved by cases on these, and never by looking at the
actions again.

## Main definitions

* `Fix.Validated`, `Fix.Attempted` — the ways in which one attempt ends.
* `Fix.Attempts` — the ways in which all attempts at a file end.
-/

namespace Mend.Fix

variable {σ : Type}

open Fixer

namespace Fixer

/-! ## Notes -/

/-- The state of a run with another world. -/
def inWorld (f : Fixer σ) (s : World σ) : Fixer σ := { f with world := s }

/-- The state of a run with another world and another backup. -/
def withHeld (f : Fixer σ) (h : Held σ) : Fixer σ := { f with toHeld := h }

/-- The state of a run with something more in the log. -/
def said (f : Fixer σ) (level : Log.Level) (parts : List Text) : Fixer σ :=
  { f with world.log := ⟨level, .cat parts⟩ :: f.world.log }

/-- The state of a run in which a file has entered a state. -/
def entered (f : Fixer σ) (path : Text) (state : State) (attempt : Option Nat) : Fixer σ :=
  ((transition path state attempt).run f).2

/-- The state of a run that has consumed something more. -/
def consumed (f : Fixer σ) (u : Usage) : Fixer σ := { f with usage := f.usage + u }

variable (f : Fixer σ) (path : Text) (state : State) (attempt : Option Nat)

theorem run_transition :
    (transition path state attempt).run f = (.ok (), f.entered path state attempt) := rfl

@[simp] theorem quiet_entered : (f.entered path state attempt).world.quiet = f.world.quiet := rfl

@[simp] theorem backup_entered : (f.entered path state attempt).backup = f.backup := rfl

@[simp] theorem attempts_entered : (f.entered path state attempt).attempts = f.attempts := rfl

end Fixer

/-! ## One attempt -/

/-- The ways in which compiling a candidate ends. -/
inductive Judged (w : Workshop σ) (f : Fixer σ) : Except Fault Ending → Fixer σ → Prop
  | interrupted {s : World σ}
      (hc : (w.validator.compile w.projectDir).run f.world = (.error .interrupted, s)) :
      Judged w f (.error .interrupted) (f.inWorld s)
  | accepted {s : World σ} {outcome : BuildOutcome}
      (hc : (w.validator.compile w.projectDir).run f.world = (.ok outcome, s))
      (hok : outcome.ok = true) :
      Judged w f (.ok .success) (f.inWorld s)
  | rejected {s : World σ} {answer : Except Fault BuildOutcome} {ending : Ending}
      {r : Except Fault Unit} {h : Held σ}
      (hc : (w.validator.compile w.projectDir).run f.world = (answer, s))
      (he : refusal answer = some ending)
      (hr : Backup.Restored false ⟨s, f.backup⟩ r h) :
      Judged w f (r.map fun () => ending) (f.withHeld h)

theorem ok_of_refusal {answer : Except Fault BuildOutcome} (h : refusal answer = none) :
    ∃ outcome, answer = .ok outcome ∧ outcome.ok = true := by
  cases answer with
  | ok outcome => exact ⟨outcome, rfl, by simpa [refusal] using h⟩
  | error e => cases e <;> cases h

theorem judged_judge (w : Workshop σ) (f : Fixer σ) :
    Judged w f ((judge w).run f).1 ((judge w).run f).2 := by
  rcases hc : (w.validator.compile w.projectDir).run f.world with ⟨answer, s⟩
  by_cases ha : answer = .error .interrupted
  · subst ha
    have hrun : (judge w).run f = (.error .interrupted, f.inWorld s) := by
      simp [judge, Act.run_bind, Act.run_caught, hc, inWorld]
    rw [hrun]
    exact .interrupted hc
  · have hcaught : (onWorld (w.validator.compile w.projectDir)).caught.run f =
        (.ok answer, f.inWorld s) := by
      apply Act.run_caught_of_ne _ ha
      simp [hc, inWorld]
    cases he : refusal answer with
    | none =>
        obtain ⟨outcome, rfl, hok⟩ := ok_of_refusal he
        have hrun : (judge w).run f = (.ok .success, f.inWorld s) := by
          simp [judge, Act.run_bind, hcaught, he]
        rw [hrun]
        exact .accepted hc hok
    | some ending =>
        have hr := Backup.restored_restore false ⟨s, f.backup⟩
        rcases hrestore : (Backup.restore false).run ⟨s, f.backup⟩ with ⟨r, h⟩
        rw [hrestore] at hr
        have hrun : (judge w).run f = (r.map fun () => ending, f.withHeld h) := by
          cases r <;>
            simp [judge, Act.run_bind, hcaught, he, hrestore, inWorld, withHeld, Except.map]
        rw [hrun]
        exact .rejected hc he hr

/-- The ways in which writing and compiling a candidate ends. -/
inductive Validated (w : Workshop σ) (candidate : Text) (f : Fixer σ) :
    Except Fault Ending → Fixer σ → Prop
  /-- The candidate is no text that can be written. -/
  | unencodable {i : Nat} (hi : Utf8.encodeKeeping candidate = .error i) :
      Validated w candidate f (.error (.unencodable candidate i))
        (f.withHeld ⟨f.world, f.backup.changed⟩)
  | unwritten {bytes : Bytes} {fault : FileFault} {s : World σ} {r : Except Fault Unit} {h : Held σ}
      (hbytes : Utf8.encodeKeeping candidate = .ok bytes)
      (hw : (World.writeFile f.backup.path bytes).run f.world = (.error (.file fault), s))
      (hr : Backup.Restored true ⟨s, f.backup.changed⟩ r h) :
      Validated w candidate f
        (r.map fun () => .toolError (ToolFault.candidateUnwritable fault).message) (f.withHeld h)
  /-- The file system cannot be given the path. -/
  | unnameable {bytes : Bytes} {e : Fault} {s : World σ}
      (hbytes : Utf8.encodeKeeping candidate = .ok bytes)
      (hw : (World.writeFile f.backup.path bytes).run f.world = (.error e, s))
      (he : ∀ fault, e ≠ .file fault) :
      Validated w candidate f (.error e) (f.withHeld ⟨s, f.backup.changed⟩)
  | judged {bytes : Bytes} {s : World σ} {r : Except Fault Ending} {f' : Fixer σ}
      (hbytes : Utf8.encodeKeeping candidate = .ok bytes)
      (hw : (World.writeFile f.backup.path bytes).run f.world = (.ok (), s))
      (hj : Judged w (f.withHeld ⟨s, f.backup.changed⟩) r f') :
      Validated w candidate f r f'

theorem validated_validate (w : Workshop σ) (candidate : Text) (f : Fixer σ) :
    Validated w candidate f ((validate w candidate).run f).1 ((validate w candidate).run f).2 := by
  cases hbytes : Utf8.encodeKeeping candidate with
  | error i =>
      have hrun : (validate w candidate).run f =
          (.error (.unencodable candidate i), f.withHeld ⟨f.world, f.backup.changed⟩) := by
        simp [validate, Act.run_bind, Backup.run_writeCandidate, hbytes, withHeld]
      rw [hrun]
      exact .unencodable hbytes
  | ok bytes =>
      rcases hw : (World.writeFile f.backup.path bytes).run f.world with ⟨e | u, s⟩
      · by_cases hfile : ∃ fault, e = .file fault
        · obtain ⟨fault, rfl⟩ := hfile
          have hr := Backup.restored_restore true ⟨s, f.backup.changed⟩
          rcases hrestore : (Backup.restore true).run ⟨s, f.backup.changed⟩ with ⟨r, h⟩
          rw [hrestore] at hr
          have hrun : (validate w candidate).run f =
              (r.map fun () => .toolError (ToolFault.candidateUnwritable fault).message,
                f.withHeld h) := by
            cases r <;> simp [validate, Act.run_bind, Backup.run_writeCandidate, hbytes, hw,
              hrestore, withHeld, Except.map]
          rw [hrun]
          exact .unwritten hbytes hw hr
        · have hrun : (validate w candidate).run f =
              (.error e, f.withHeld ⟨s, f.backup.changed⟩) := by
            cases e <;> simp_all [validate, Act.run_bind, Backup.run_writeCandidate, withHeld]
          rw [hrun]
          exact .unnameable hbytes hw fun fault he => hfile ⟨fault, he⟩
      · have hrun : (validate w candidate).run f =
            (judge w).run (f.withHeld ⟨s, f.backup.changed⟩) := by
          simp [validate, Act.run_bind, Backup.run_writeCandidate, hbytes, hw, withHeld]
        rw [hrun]
        exact .judged hbytes hw (judged_judge ..)

/-- The ways in which an attempt ends. -/
inductive Attempted (w : Workshop σ) (path : Text) (issues : List Issue) (number : Nat)
    (feedback : Feedback) (f : Fixer σ) : Except Fault Ending → Fixer σ → Prop
  | interrupted {s : World σ}
      (hd : (w.drafter (feedback.request path f.backup.baselineText issues)).run
        (f.entered path .drafting (some number)).world = (.error .interrupted, s)) :
      Attempted w path issues number feedback f (.error .interrupted)
        ((f.entered path .drafting (some number)).inWorld s)
  /-- The drafter failed. -/
  | unanswered {e : Fault} {s : World σ}
      (hd : (w.drafter (feedback.request path f.backup.baselineText issues)).run
        (f.entered path .drafting (some number)).world = (.error e, s))
      (he : e ≠ .interrupted) :
      Attempted w path issues number feedback f
        (.ok (.toolError (ToolFault.drafter e.message).message))
        ((f.entered path .drafting (some number)).inWorld s)
  /-- There is no usable draft. -/
  | unusable {d : Drafting.Draft} {s : World σ} {ending : Ending}
      (hd : (w.drafter (feedback.request path f.backup.baselineText issues)).run
        (f.entered path .drafting (some number)).world = (.ok d, s))
      (hc : candidateOf d f.backup.baselineText = .error ending) :
      Attempted w path issues number feedback f (.ok ending)
        (((f.entered path .drafting (some number)).inWorld s).consumed d.usage)
  | validated {d : Drafting.Draft} {s : World σ} {candidate : Text} {r : Except Fault Ending}
      {f' : Fixer σ}
      (hd : (w.drafter (feedback.request path f.backup.baselineText issues)).run
        (f.entered path .drafting (some number)).world = (.ok d, s))
      (hc : candidateOf d f.backup.baselineText = .ok candidate)
      (hv : Validated w candidate ((((f.entered path .drafting (some number)).inWorld s).consumed
        d.usage).entered path .validating (some number)) r f') :
      Attempted w path issues number feedback f r f'

theorem run_draft_interrupted {w : Workshop σ} {r : Drafting.Request} {f : Fixer σ} {s : World σ}
    (hd : (w.drafter r).run f.world = (.error .interrupted, s)) :
    (draft w r).run f = (.error .interrupted, f.inWorld s) := by
  simp [draft, Act.run_bind, Act.run_caught, hd, inWorld]

theorem run_draft_error {w : Workshop σ} {r : Drafting.Request} {f : Fixer σ} {s : World σ}
    {e : Fault} (hd : (w.drafter r).run f.world = (.error e, s)) (he : e ≠ .interrupted) :
    (draft w r).run f =
      (.ok (.error (.toolError (ToolFault.drafter e.message).message)), f.inWorld s) := by
  have hcaught : (onWorld (w.drafter r)).caught.run f = (.ok (.error e), f.inWorld s) := by
    apply Act.run_caught_of_ne
    · simp [hd, inWorld]
    · simpa using he
  simp [draft, Act.run_bind, hcaught]

theorem run_draft_ok {w : Workshop σ} {r : Drafting.Request} {f : Fixer σ} {s : World σ}
    {d : Drafting.Draft} (hd : (w.drafter r).run f.world = (.ok d, s)) :
    (draft w r).run f =
      (.ok (candidateOf d f.backup.baselineText), (f.inWorld s).consumed d.usage) := by
  have hcaught : (onWorld (w.drafter r)).caught.run f = (.ok (.ok d), f.inWorld s) := by
    apply Act.run_caught_of_ne
    · simp [hd, inWorld]
    · simp
  simp [draft, Act.run_bind, hcaught, inWorld, consumed]

theorem attempted_attemptOnce (w : Workshop σ) (path : Text) (issues : List Issue) (number : Nat)
    (feedback : Feedback) (f : Fixer σ) :
    Attempted w path issues number feedback f
      ((attemptOnce w path issues number feedback).run f).1
      ((attemptOnce w path issues number feedback).run f).2 := by
  have htransition := run_transition f path .drafting (some number)
  rcases hd : (w.drafter (feedback.request path f.backup.baselineText issues)).run
    (f.entered path .drafting (some number)).world with ⟨e | d, s⟩
  · by_cases he : e = .interrupted
    · subst he
      have hrun : (attemptOnce w path issues number feedback).run f =
          (.error .interrupted, (f.entered path .drafting (some number)).inWorld s) := by
        simp [attemptOnce, Act.run_bind, htransition, run_draft_interrupted hd]
      rw [hrun]
      exact .interrupted hd
    · have hrun : (attemptOnce w path issues number feedback).run f =
          (.ok (.toolError (ToolFault.drafter e.message).message),
            (f.entered path .drafting (some number)).inWorld s) := by
        simp [attemptOnce, Act.run_bind, htransition, run_draft_error hd he]
      rw [hrun]
      exact .unanswered hd he
  · cases hc : candidateOf d f.backup.baselineText with
    | error ending =>
        have hrun : (attemptOnce w path issues number feedback).run f =
            (.ok ending, ((f.entered path .drafting (some number)).inWorld s).consumed d.usage) := by
          simp [attemptOnce, Act.run_bind, htransition, run_draft_ok hd, hc]
        rw [hrun]
        exact .unusable hd hc
    | ok candidate =>
        have hrun : (attemptOnce w path issues number feedback).run f =
            (validate w candidate).run ((((f.entered path .drafting (some number)).inWorld s).consumed
              d.usage).entered path .validating (some number)) := by
          simp [attemptOnce, Act.run_bind, htransition, run_draft_ok hd, hc, run_transition]
        rw [hrun]
        exact .validated hd hc (validated_validate ..)

/-! ## Accepted attempts -/

theorem candidateOf_eq_ok {d : Drafting.Draft} {baseline candidate : Text}
    (h : candidateOf d baseline = .ok candidate) : d.content = some candidate := by
  rw [candidateOf] at h
  split at h
  · cases h
  · rename_i content hcontent
    split at h
    · cases h
    · rw [hcontent, Except.ok.inj h]

/-- A draft without a candidate is invalid output. -/
theorem candidateOf_eq_error {d : Drafting.Draft} {baseline : Text} {ending : Ending}
    (h : candidateOf d baseline = .error ending) : ∃ reason, ending = .invalidOutput reason := by
  rw [candidateOf] at h
  split at h
  · exact ⟨_, (Except.error.inj h).symm⟩
  · split at h
    · exact ⟨_, (Except.error.inj h).symm⟩
    · cases h

/-- A refused candidate did not compile, or it is not known whether it does. -/
theorem refusal_eq_some {answer : Except Fault BuildOutcome} {ending : Ending}
    (h : refusal answer = some ending) :
    ending.outcome = .compileFailed ∨ ending.outcome = .toolError := by
  cases answer with
  | ok outcome =>
      by_cases hok : outcome.ok = true
      · simp [refusal, hok] at h
      · rw [refusal, if_neg hok] at h
        exact .inl (Option.some.inj h ▸ rfl)
  | error e =>
      refine .inr ?_
      cases e <;> exact Option.some.inj h ▸ rfl

/-- What an attempt has done whose candidate is accepted. -/
inductive Accepted (w : Workshop σ) (path : Text) (issues : List Issue) (number : Nat)
    (feedback : Feedback) (f : Fixer σ) : World σ → Prop
  | intro {d : Drafting.Draft} {s written compiled : World σ} {candidate : Text} {bytes : Bytes}
      {outcome : BuildOutcome}
      (hd : (w.drafter (feedback.request path f.backup.baselineText issues)).run
        (f.entered path .drafting (some number)).world = (.ok d, s))
      (hc : candidateOf d f.backup.baselineText = .ok candidate)
      (hbytes : Utf8.encodeKeeping candidate = .ok bytes)
      (hw : (World.writeFile f.backup.path bytes).run ((((f.entered path .drafting
        (some number)).inWorld s).consumed d.usage).entered path .validating (some number)).world =
          (.ok (), written))
      (hv : (w.validator.compile w.projectDir).run written = (.ok outcome, compiled))
      (hok : outcome.ok = true) :
      Accepted w path issues number feedback f compiled

section

variable {w : Workshop σ} {path : Text} {issues : List Issue} {number : Nat} {feedback : Feedback}
  {candidate : Text} {f f' : Fixer σ}

theorem Judged.of_success (h : Judged w f (.ok .success) f') :
    ∃ outcome, (w.validator.compile w.projectDir).run f.world = (.ok outcome, f'.world) ∧
      outcome.ok = true := by
  generalize hr : Except.ok Ending.success = r at h
  cases h with
  | interrupted _ => cases hr
  | accepted hc hok => exact ⟨_, hc, hok⟩
  | @rejected _ _ ending r _ _ he _ =>
      cases r with
      | error e => cases hr
      | ok u =>
          obtain rfl : Ending.success = ending := Except.ok.inj hr
          rcases refusal_eq_some he with hout | hout <;> cases hout

theorem Validated.of_success (h : Validated w candidate f (.ok .success) f') :
    ∃ bytes s outcome, Utf8.encodeKeeping candidate = .ok bytes ∧
      (World.writeFile f.backup.path bytes).run f.world = (.ok (), s) ∧
      (w.validator.compile w.projectDir).run s = (.ok outcome, f'.world) ∧ outcome.ok = true := by
  generalize hr : Except.ok Ending.success = r at h
  cases h with
  | unencodable _ => cases hr
  | @unwritten _ _ _ r _ _ _ _ => cases r <;> cases hr
  | unnameable _ _ _ => cases hr
  | judged hbytes hw hj =>
      obtain ⟨outcome, hcompile, hok⟩ := Judged.of_success (hr ▸ hj)
      exact ⟨_, _, outcome, hbytes, hw, hcompile, hok⟩

theorem Attempted.of_success (h : Attempted w path issues number feedback f (.ok .success) f') :
    Accepted w path issues number feedback f f'.world := by
  cases h with
  | unusable _ hc =>
      obtain ⟨reason, he⟩ := candidateOf_eq_error hc
      cases he
  | validated hd hc hv =>
      obtain ⟨bytes, s, outcome, hbytes, hw, hcompile, hok⟩ := hv.of_success
      exact .intro hd hc hbytes hw hcompile hok

end

/-! ## All attempts -/

namespace Fixer

/-- The state of a run after an attempt that is accepted. -/
def accepted (f : Fixer σ) (path : Text) (number : Nat) : Fixer σ :=
  ({ f with
      backup := { f.backup with committed := true, dirty := false }
      attempts := f.attempts ++ [Ending.success.attempt number] } : Fixer σ).entered
    path .success (some number)

/-- The state of a run after an attempt that is not accepted; `again` says whether there is another
one. -/
def refused (f : Fixer σ) (path : Text) (number : Nat) (ending : Ending) (again : Bool) :
    Fixer σ :=
  let f := ({ f with attempts := f.attempts ++ [ending.attempt number] } : Fixer σ).said Log.info
    ["  Attempt ", .decimal number, " failed: ", ending.outcome.name]
  if again then f.entered path .retrying (some number) else f

end Fixer

/-- The ways in which all attempts at a file end. -/
inductive Attempts (w : Workshop σ) (path : Text) (issues : List Issue) :
    (left number : Nat) → Feedback → Fixer σ → Except Fault (Option Text) → Fixer σ → Prop
  | givenUp {number : Nat} {feedback : Feedback} {f : Fixer σ} :
      Attempts w path issues 0 number feedback f
        (.ok (some (exhausted path f.attempts.length feedback.lastError)))
        (f.entered path .failed (some f.attempts.length))
  | broken {left number : Nat} {feedback : Feedback} {f f' : Fixer σ} {e : Fault}
      (h : Attempted w path issues number feedback f (.error e) f') :
      Attempts w path issues (left + 1) number feedback f (.error e) f'
  | accepted {left number : Nat} {feedback : Feedback} {f f' : Fixer σ}
      (h : Attempted w path issues number feedback f (.ok .success) f') :
      Attempts w path issues (left + 1) number feedback f (.ok none) (f'.accepted path number)
  | refused {left number : Nat} {feedback : Feedback} {f g f' : Fixer σ} {ending : Ending}
      {r : Except Fault (Option Text)}
      (h : Attempted w path issues number feedback f (.ok ending) g) (he : ending ≠ .success)
      (hrest : Attempts w path issues left (number + 1) (feedback.after ending)
        (g.refused path number ending (left ≠ 0)) r f') :
      Attempts w path issues (left + 1) number feedback f r f'

theorem attempts_attemptsFrom (w : Workshop σ) (path : Text) (issues : List Issue)
    (left number : Nat) (feedback : Feedback) (f : Fixer σ) :
    Attempts w path issues left number feedback f
      ((attemptsFrom w path issues left number feedback).run f).1
      ((attemptsFrom w path issues left number feedback).run f).2 := by
  induction left generalizing number feedback f with
  | zero => exact .givenUp
  | succ left ih =>
      have hattempted := attempted_attemptOnce w path issues number feedback f
      rcases hone : (attemptOnce w path issues number feedback).run f with ⟨e | ending, g⟩
      · rw [hone] at hattempted
        have hrun : (attemptsFrom w path issues (left + 1) number feedback).run f =
            (.error e, g) := by
          simp [attemptsFrom, Act.run_bind, hone]
        rw [hrun]
        exact .broken hattempted
      · rw [hone] at hattempted
        by_cases he : ending = .success
        · subst he
          have hrun : (attemptsFrom w path issues (left + 1) number feedback).run f =
              (.ok none, g.accepted path number) := by
            simp [attemptsFrom, Act.run_bind, hone, Backup.commit, record, run_transition,
              Fixer.accepted]
          rw [hrun]
          exact .accepted hattempted
        · have hrun : (attemptsFrom w path issues (left + 1) number feedback).run f =
              (attemptsFrom w path issues left (number + 1) (feedback.after ending)).run
                (g.refused path number ending (left ≠ 0)) := by
            cases ending with
            | success => exact absurd rfl he
            | _ =>
                by_cases hleft : left = 0 <;>
                  simp [attemptsFrom, Act.run_bind, hone, record, run_transition, Fixer.refused,
                    hleft, said]
          rw [hrun]
          exact .refused hattempted he (ih ..)

end Mend.Fix
