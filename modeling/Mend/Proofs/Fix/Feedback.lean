import Mend.Proofs.Fix.Views

/-!
# Feedback to the drafter

What the drafter is told in an attempt is a matter of the earlier attempts at the same file: of the
last one among them that did not compile, however long ago that was, and of whether there was no usable
draft in the one just before. The file and the issues that it is asked about are always the same.

## Main definitions

* `Fix.lastDiagnostic`, `Fix.correctiveAfter` — what is to be told behind some attempts.
* `Fix.Trial.Informed` — an attempt that is told just that.

## Main statements

* `Fix.fixFile_informed` — all attempts at a file are told just that.
-/

namespace Mend.Fix

variable {σ : Type}

open Fixer

/-! ## What is to be told -/

/-- What the compiler said in an attempt that failed because the project did not compile. -/
def Trial.diagnostic (t : Trial) : Option Text :=
  match t.outcome, t.compiling with
  | some .compileFailed, some ⟨.compile (.ok outcome), _, _⟩ => some outcome.output
  | _, _ => none

/-- What the compiler said in the last attempt that failed because the project did not compile. -/
def lastDiagnostic (earlier : List Trial) : Option Text :=
  (earlier.filterMap Trial.diagnostic).getLast?

/-- The instruction that is due if there was no usable draft in the last attempt. -/
def correctiveAfter (earlier : List Trial) : Option Text :=
  if earlier.getLast?.bind (·.outcome) = some .invalidOutput then
    some Drafting.invalidOutputInstruction
  else none

/-- What the drafter is told in an attempt at a file with certain old contents, behind earlier
attempts. -/
structure Trial.Informed (path : Text) (issues : List Issue) (old : Bytes) (earlier : List Trial)
    (t : Trial) : Prop where
  /-- It is asked about the old contents and all issues, and told what is to be told. -/
  asked : ∃ answer, t.drafting.exchange =
    .draft { path, issues
             source := Utf8.decodeKeeping old
             diagnostic := lastDiagnostic earlier
             corrective := correctiveAfter earlier } answer
  /-- The earlier attempts are on record. -/
  recorded : ∀ u ∈ earlier, u.outcome.isSome = true
  /-- A second call, if there is one, asks whether the project compiles. -/
  compiled : ∀ call, t.compiling = some call → ∃ answer, call.exchange = .compile answer
  /-- If the project does not compile, it is the compiler that says so. -/
  diagnosed : t.outcome = some .compileFailed → ∃ call diagnostic, t.compiling = some call ∧
    call.exchange = .compile (.ok ⟨false, diagnostic⟩) ∧ t.diagnostic = some diagnostic

/-! ## One attempt -/

theorem Trial.diagnostic_eq_none {t : Trial} (h : t.outcome ≠ some .compileFailed) :
    t.diagnostic = none := by
  rw [diagnostic]
  split
  case h_1 houtcome _ => exact absurd houtcome h
  case h_2 => rfl

theorem lastDiagnostic_concat (earlier : List Trial) (t : Trial) :
    lastDiagnostic (earlier ++ [t]) = t.diagnostic.or (lastDiagnostic earlier) := by
  rw [lastDiagnostic, List.filterMap_append, List.getLast?_append, lastDiagnostic]
  cases h : t.diagnostic <;> simp [h]

theorem correctiveAfter_concat (earlier : List Trial) (t : Trial) :
    correctiveAfter (earlier ++ [t]) =
      if t.outcome = some .invalidOutput then some Drafting.invalidOutputInstruction else none := by
  rw [correctiveAfter, List.getLast?_concat, Option.bind_some]

/-- The feedback of earlier attempts, which are all on record. -/
structure Feedback.Recalls (feedback : Feedback) (earlier : List Trial) : Prop where
  diagnostic : feedback.diagnostic = lastDiagnostic earlier
  corrective : feedback.corrective = correctiveAfter earlier
  recorded : ∀ u ∈ earlier, u.outcome.isSome = true

theorem Feedback.recalls_nil : ({} : Feedback).Recalls [] := ⟨rfl, rfl, by simp⟩

/-- After another failed attempt, the feedback recalls that one as well. -/
theorem Feedback.Recalls.after {feedback : Feedback} {earlier : List Trial} {ending : Ending}
    {t : Trial} (h : feedback.Recalls earlier) (he : ending ≠ .success)
    (houtcome : t.outcome = some ending.outcome)
    (hdiagnostic : ∀ diagnostic, ending = .compileFailed diagnostic → t.diagnostic = some diagnostic) :
    (feedback.after ending).Recalls (earlier ++ [t]) := by
  have hrecorded : ∀ u ∈ earlier ++ [t], u.outcome.isSome = true := by
    intro u hu
    rcases List.mem_append.1 hu with hu | hu
    · exact h.recorded u hu
    · rw [List.mem_singleton.1 hu, houtcome]
      rfl
  refine ⟨?_, ?_, hrecorded⟩
  · rw [lastDiagnostic_concat]
    cases ending with
    | success => exact absurd rfl he
    | compileFailed diagnostic => rw [hdiagnostic diagnostic rfl]; rfl
    | invalidOutput reason =>
        rw [Trial.diagnostic_eq_none (by simp [houtcome, Ending.outcome])]
        exact h.diagnostic
    | toolError reason =>
        rw [Trial.diagnostic_eq_none (by simp [houtcome, Ending.outcome])]
        exact h.diagnostic
  · rw [correctiveAfter_concat, houtcome]
    cases ending with
    | success => exact absurd rfl he
    | compileFailed _ | invalidOutput _ | toolError _ => rfl

section

variable {w : Workshop σ} {path : Text} {issues : List Issue} {left number : Nat}
  {feedback : Feedback} {f f' : Fixer (Journaled σ)}

/-- An attempt tells the drafter what the feedback says. -/
theorem Attempted.informed {r : Except Fault Ending} {earlier : List Trial}
    (h : Attempted w.journaled path issues number feedback f r f')
    (hfeedback : feedback.Recalls earlier) :
    ∃ t : Trial, f'.calls = f.calls ++ t.calls ∧ t.outcome = recorded r ∧
      (∀ diagnostic, r = .ok (.compileFailed diagnostic) → t.diagnostic = some diagnostic) ∧
      t.Informed path issues f.backup.baseline earlier := by
  have hasked (answer : Except Fault Drafting.Draft) :
      Exchange.draft (feedback.request path f.backup.baselineText issues) answer =
        .draft { path, issues
                 source := Utf8.decodeKeeping f.backup.baseline
                 diagnostic := lastDiagnostic earlier
                 corrective := correctiveAfter earlier } answer := by
    rw [Feedback.request, hfeedback.diagnostic, hfeedback.corrective]
    rfl
  cases h with
  | interrupted hd =>
      have hcalls := calls_of_drafter hd
      exact ⟨⟨none, _, none⟩, hcalls, rfl, by simp, ⟨_, hasked _⟩, hfeedback.recorded, by simp,
        by simp⟩
  | unanswered hd _ =>
      have hcalls := calls_of_drafter hd
      exact ⟨⟨some .toolError, _, none⟩, hcalls, rfl, by simp, ⟨_, hasked _⟩, hfeedback.recorded,
        by simp, by simp⟩
  | unusable hd hc =>
      have hcalls := calls_of_drafter hd
      obtain ⟨reason, rfl⟩ := candidateOf_eq_error hc
      exact ⟨⟨some .invalidOutput, _, none⟩, hcalls, rfl, by simp, ⟨_, hasked _⟩,
        hfeedback.recorded, by simp, by simp⟩
  | validated hd _ hv =>
      have hdrafting := calls_of_drafter hd
      obtain ⟨compiling, hcompiling, hexchange, hrefused⟩ := hv.calls
      have hcalls := hcompiling.trans ((congrArg (· ++ _) hdrafting).trans (List.append_assoc ..))
      refine ⟨⟨recorded r, _, compiling⟩, hcalls, rfl, ?_, ⟨_, hasked _⟩, hfeedback.recorded, ?_, ?_⟩
      · rintro diagnostic rfl
        obtain ⟨⟨_, before, after⟩, rfl, rfl⟩ := hrefused diagnostic rfl
        rfl
      · intro call hcall
        obtain ⟨answer, -, hanswer, -⟩ := hexchange call hcall
        exact ⟨answer, hanswer⟩
      · intro houtcome
        cases r with
        | error e => cases houtcome
        | ok ending =>
            cases ending with
            | compileFailed diagnostic =>
                obtain ⟨⟨_, before, after⟩, rfl, rfl⟩ := hrefused diagnostic rfl
                exact ⟨_, diagnostic, rfl, rfl, rfl⟩
            | success | invalidOutput _ | toolError _ => cases houtcome

/-- All attempts that are made with the feedback of earlier ones are told what is to be told. -/
theorem Attempts.informed {r : Except Fault (Option Text)} {earlier : List Trial}
    (h : Attempts w.journaled path issues left number feedback f r f')
    (hfeedback : feedback.Recalls earlier) :
    ∃ trials : List Trial, f'.calls = f.calls ++ trials.flatMap Trial.calls ∧
      f'.outcomes = f.outcomes ++ trials.filterMap (·.outcome) ∧
      AllShow (fun earlier t => t.Informed path issues f.backup.baseline earlier) earlier trials := by
  generalize hold : f.backup.baseline = old
  refine h.exists_trials _
    (fun earlier feedback g => feedback.Recalls earlier ∧ g.backup.baseline = old) earlier ?_
    ⟨hfeedback, hold⟩
  rintro earlier number feedback g g' r ⟨hfeedback, rfl⟩ ha
  obtain ⟨t, hcalls, houtcome, hdiagnostic, ht⟩ := ha.informed hfeedback
  refine ⟨t, hcalls, houtcome, ht, ?_⟩
  rintro ending rfl he again
  refine ⟨hfeedback.after he houtcome fun diagnostic hending => ?_, ?_⟩
  · exact hdiagnostic diagnostic (congrArg Except.ok hending)
  · rw [backup_refused, ha.kept.baseline]

end

/-- If there is no file with contents, nothing is asked for it. Otherwise the calls made for it are those
of a list of attempts, of which each is on record but perhaps the last. In all of them the drafter is
asked about the old contents and all issues, and told what the compiler said in the last attempt before
that did not compile, and whether there was no usable draft in the one just before. -/
theorem fixFile_informed (w : Workshop σ) (path : Text) (issues : List Issue) (f : Fixer σ) :
    let read := f.world.tree.read (w.projectDir.child path)
    (∀ e, read = .error e → fileCalls w path issues f = []) ∧
      ∀ old, read = .ok old → ∃ trials : List Trial,
        fileCalls w path issues f = trials.flatMap Trial.calls ∧
          ((fixFile w path issues).run f).2.outcomes = trials.filterMap (·.outcome) ∧
          ∀ earlier t later, trials = earlier ++ t :: later → t.Informed path issues old earlier := by
  refine ⟨fun e hread => fileCalls_of_unread issues hread, fun old hread => ?_⟩
  rcases @idle_or_attempts_fixFile σ w path issues f with
    ⟨hcalls, houtcomes⟩ | ⟨old', r, g, hread', hattempts, hcalls, houtcomes⟩
  · exact ⟨[], hcalls, houtcomes, by simp⟩
  · obtain rfl := Except.ok.inj (hread.symm.trans hread')
    obtain ⟨trials, htrials, hrecorded, hinformed⟩ := hattempts.informed Feedback.recalls_nil
    exact ⟨trials, hcalls.trans htrials, houtcomes.trans hrecorded, hinformed⟩

/-- A workshop in which no file compiles. The drafter has no usable answer once the compiler has said
something, and fails if it is told so. -/
def moody : Workshop Unit :=
  .still {}
    (fun r => match r.diagnostic, r.corrective with
      | none, _ => .ok { content := some [0x78] }
      | some _, none => .ok { content := none }
      | some _, some _ => .error (.broken []))
    (fun _ => .ok ⟨false, [0x65]⟩) { maxAttempts := 4 }

/-- The words of the compiler are passed on in every attempt behind the first one, whatever comes
between. -/
theorem fixFile_informed_moody :
    ((fileCalls moody [0x61] [] emptyFile).filterMap fun call => match call.exchange with
        | .draft request _ => some (request.diagnostic, request.corrective)
        | _ => none) =
      [(none, none), (some [0x65], none),
        (some [0x65], some Drafting.invalidOutputInstruction), (some [0x65], none)] ∧
    ∃ trials : List Trial, fileCalls moody [0x61] [] emptyFile = trials.flatMap Trial.calls ∧
      trials.filterMap (·.outcome) = [.compileFailed, .invalidOutput, .toolError, .invalidOutput] ∧
      ∀ earlier t later, trials = earlier ++ t :: later → t.Informed [0x61] [] [] earlier := by
  obtain ⟨trials, hcalls, houtcomes, hinformed⟩ :=
    (fixFile_informed moody [0x61] [] emptyFile).2 [] rfl
  refine ⟨by decide +kernel, trials, hcalls, ?_, hinformed⟩
  rw [← houtcomes]
  decide +kernel

end Mend.Fix
