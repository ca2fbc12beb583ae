import Mend.Proofs.Fix.Certification
import Mend.Proofs.Fix.Containment

/-!
# The history of a file

The states that a file enters while it is fixed, and the attempts that are put on record. If the
collaborators are not interrupted, the drafts can be written as bytes and the file can be written wherever
that is tried, every attempt but the last one is followed by another one, and the last one is accepted,
or is the last that may be made.

## Main definitions

* `Fix.Unhindered` — whether the file can be written wherever that is tried.
* `Fix.Trial.Regular`, `Fix.Trial.states` — what an attempt consists of, and the states it enters.
* `Fix.Course` — the attempts at a file, what is put on record, and the states they enter.
* `Fix.Close`, `Fix.Closed` — how the last attempt ends, and how the work on the file does.
-/

namespace Mend

/-- Whether the file at a path of a tree can be written. -/
def Tree.TakesWrites (t : Tree) (p : Path) : Prop := ∃ b t', t.write p b = .ok t'

theorem World.exists_run_writeFile {σ : Type} {s : World σ} {p : Path} (h : s.tree.TakesWrites p)
    (hdone : ∀ n, s.disk n = .done) (contents : Bytes) :
    ∃ s', (writeFile p contents).run s = (.ok (), s') := by
  obtain ⟨b, t, hwrite⟩ := h
  obtain ⟨t', hwrite'⟩ := Tree.exists_write_of_write hwrite contents
  exact ⟨_, run_writeFile_of_done hwrite' (hdone _)⟩

namespace Fix

variable {σ : Type}

open Fixer

/-! ## What writes depend on -/

/-- Whether a call answers a draft with contents that are not those of the file again. -/
def Exchange.HasCandidate (old : Bytes) : Exchange → Prop
  | .draft _ (.ok d) =>
    ∃ content, d.content = some content ∧ isUnchanged content (Utf8.decodeKeeping old) = false
  | _ => False

/-- Whether the file is written right behind a call: a candidate, or the old contents in place of one
that is refused. -/
def Exchange.IsBeforeWrite (old : Bytes) : Exchange → Prop
  | .draft request answer => HasCandidate old (.draft request answer)
  | .compile answer => refusal answer ≠ none
  | .test _ => False

/-- Whether all drafts in some calls can be written as bytes, and the file at a path, of which `old` are
the old contents, can be written wherever that is tried behind one of them. -/
structure Unhindered (target : Path) (old : Bytes) (calls : List Call) : Prop where
  drafts : DraftsWritable calls
  writes : ∀ c ∈ calls, c.exchange.IsBeforeWrite old → c.after.TakesWrites target

theorem unhindered_append {target : Path} {old : Bytes} {calls more : List Call} :
    Unhindered target old (calls ++ more) ↔
      Unhindered target old calls ∧ Unhindered target old more := by
  constructor
  · rintro ⟨hdrafts, hwrites⟩
    obtain ⟨hcalls, hmore⟩ := draftsWritable_append.1 hdrafts
    exact ⟨⟨hcalls, fun c hc => hwrites c (List.mem_append_left _ hc)⟩,
      ⟨hmore, fun c hc => hwrites c (List.mem_append_right _ hc)⟩⟩
  · rintro ⟨⟨hdrafts, hwrites⟩, ⟨hdrafts', hwrites'⟩⟩
    refine ⟨draftsWritable_append.2 ⟨hdrafts, hdrafts'⟩, fun c hc => ?_⟩
    exact (List.mem_append.1 hc).elim (hwrites c) (hwrites' c)

theorem hasCandidate_iff {request : Drafting.Request} {d : Drafting.Draft} {old : Bytes} :
    Exchange.HasCandidate old (.draft request (.ok d)) ↔
      ∃ candidate, candidateOf d (Utf8.decodeKeeping old) = .ok candidate := by
  cases hcontent : d.content with
  | none => simp [Exchange.HasCandidate, candidateOf, hcontent]
  | some content =>
      cases hsame : isUnchanged content (Utf8.decodeKeeping old) <;>
        simp [Exchange.HasCandidate, candidateOf, hcontent, hsame]

/-! ## One attempt -/

/-- What an attempt at a file with given old contents consists of: a draft is asked for, and if there is
a candidate, and only then, the project is compiled once. -/
structure Trial.Regular (old : Bytes) (t : Trial) : Prop where
  drafted : ∃ request answer, t.drafting.exchange = .draft request answer
  compiled : ∀ call, t.compiling = some call → ∃ answer, call.exchange = .compile answer
  compiled_iff : t.compiling ≠ none ↔ t.drafting.exchange.HasCandidate old
  compiled_of_success : t.outcome = some .success → t.compiling ≠ none

/-- The states that a file enters in the attempt with a number, up to what comes of the attempt. -/
def Trial.states (path : Text) (number : Nat) (t : Trial) : List Transition :=
  ⟨path, .drafting, some number⟩ ::
    if t.compiling.isSome then [⟨path, .validating, some number⟩] else []

@[simp] theorem transitions_entered (f : Fixer σ) (path : Text) (state : State)
    (attempt : Option Nat) :
    (f.entered path state attempt).transitions = ⟨path, state, attempt⟩ :: f.transitions := rfl

section

variable {w : Workshop σ} {path : Text} {issues : List Issue} {left number : Nat}
  {feedback : Feedback} {candidate : Text} {f f' : Fixer (Journaled σ)}
  (hanswers : w.Answers) (hkeeps : w.Keeps World.disk) (hdone : ∀ n, f.world.disk n = .done)
include hanswers hkeeps hdone

/-- A candidate is compiled once. If the file can be written afterwards, the attempt comes to an end. -/
theorem Judged.unhindered {r : Except Fault Ending} (h : Judged w.journaled f r f') :
    ∃ call, f'.calls = f.calls ++ [call] ∧ (∃ answer, call.exchange = .compile answer) ∧
      f'.transitions = f.transitions ∧
      (Unhindered f.backup.path f.backup.baseline [call] → ∃ ending, r = .ok ending) := by
  cases h with
  | interrupted hc => exact absurd (congrArg Prod.fst hc) (hanswers.journaled.compile _ _)
  | accepted hc _ =>
      have hcalls := calls_of_compile hc
      exact ⟨_, hcalls, ⟨_, rfl⟩, rfl, fun _ => ⟨_, rfl⟩⟩
  | @rejected s answer ending r h hc he hr =>
      have hback := congrArg Journaled.calls hr.touched.extra
      have hcalls := hback.trans (calls_of_compile hc)
      refine ⟨_, hcalls, ⟨_, rfl⟩, rfl, fun hfree => ?_⟩
      have hdisk : s.disk = f.world.disk := hkeeps.journaled.compile_of_run hc
      have htakes : s.tree.TakesWrites f.backup.path :=
        hfree.writes _ (List.mem_singleton_self _) (by simp [Exchange.IsBeforeWrite, he])
      cases r with
      | ok u => exact ⟨ending, rfl⟩
      | error e' =>
          cases hr with
          | unseen hforce _ => cases hforce
          | @failed n _ _ _ hw =>
              obtain ⟨s', hs'⟩ := World.exists_run_writeFile (s := s.afterLooks n) htakes
                (by rwa [← hdisk] at hdone) f.backup.baseline
              cases hw.symm.trans hs'

/-- A candidate that can be written is compiled. -/
theorem Validated.unhindered {r : Except Fault Ending} (h : Validated w.journaled candidate f r f')
    (hwritable : Utf8.IsWritable candidate) (htakes : f.world.tree.TakesWrites f.backup.path) :
    ∃ call, f'.calls = f.calls ++ [call] ∧ (∃ answer, call.exchange = .compile answer) ∧
      f'.transitions = f.transitions ∧
      (Unhindered f.backup.path f.backup.baseline [call] → ∃ ending, r = .ok ending) := by
  cases h with
  | unencodable hi =>
      obtain ⟨bytes, hbytes⟩ := Utf8.exists_encodeKeeping_iff.2 hwritable
      cases hi.symm.trans hbytes
  | @unwritten bytes _ _ _ _ _ hw _ =>
      obtain ⟨s', hs'⟩ := World.exists_run_writeFile htakes hdone bytes
      cases hw.symm.trans hs'
  | @unnameable bytes _ _ _ hw _ =>
      obtain ⟨s', hs'⟩ := World.exists_run_writeFile htakes hdone bytes
      cases hw.symm.trans hs'
  | @judged bytes s _ _ _ hw hj =>
      have hwritten := (World.wrote_of_run hw).touched
      have hdone' : ∀ n, s.disk n = .done := by rwa [hwritten.disk]
      obtain ⟨call, hcalls, hrest⟩ := hj.unhindered hanswers hkeeps hdone'
      have hsame : (f.withHeld ⟨s, f.backup.changed⟩).calls = f.calls :=
        congrArg Journaled.calls hwritten.extra
      exact ⟨call, by rw [hcalls, hsame], hrest⟩

/-- What an attempt does if nothing hinders it: it enters its states and comes to an end. -/
theorem Attempted.unhindered {r : Except Fault Ending}
    (h : Attempted w.journaled path issues number feedback f r f') :
    ∃ t : Trial, f'.calls = f.calls ++ t.calls ∧ t.outcome = recorded r ∧
      (Unhindered f.backup.path f.backup.baseline t.calls → t.Regular f.backup.baseline ∧
        f'.transitions.reverse = f.transitions.reverse ++ t.states path number ∧
        ∃ ending, r = .ok ending) := by
  cases h with
  | interrupted hd => exact absurd (congrArg Prod.fst hd) (hanswers.journaled.drafter _ _)
  | unanswered hd _ =>
      have hcalls := calls_of_drafter hd
      refine ⟨⟨some .toolError, _, none⟩, hcalls, rfl,
        fun _ => ⟨⟨⟨_, _, rfl⟩, by simp, ?_, by simp⟩, ?_, _, rfl⟩⟩
      · simp [Exchange.HasCandidate]
      · simp [Trial.states, inWorld]
  | unusable hd hc =>
      have hcalls := calls_of_drafter hd
      obtain ⟨reason, rfl⟩ := candidateOf_eq_error hc
      replace hc : candidateOf _ (Utf8.decodeKeeping f.backup.baseline) = _ := hc
      refine ⟨⟨some .invalidOutput, _, none⟩, hcalls, rfl,
        fun _ => ⟨⟨⟨_, _, rfl⟩, by simp, ?_, by simp⟩, ?_, _, rfl⟩⟩
      · simp [hasCandidate_iff, hc]
      · simp [Trial.states, inWorld, consumed]
  | @validated d s candidate r _ hd hc hv =>
      have hdrafting := calls_of_drafter hd
      obtain ⟨compiling, hcompiling, hcompiled, -⟩ := hv.calls
      have hcalls := hcompiling.trans ((congrArg (· ++ _) hdrafting).trans (List.append_assoc ..))
      refine ⟨⟨recorded r, _, compiling⟩, hcalls, rfl, fun hfree => ?_⟩
      rw [Trial.calls, ← List.singleton_append] at hfree
      obtain ⟨hdraft, hcompile⟩ := unhindered_append.1 hfree
      have hcandidate : Exchange.HasCandidate f.backup.baseline
          (.draft (feedback.request path f.backup.baselineText issues) (.ok d)) :=
        hasCandidate_iff.2 ⟨candidate, hc⟩
      have hwritable : Utf8.IsWritable candidate :=
        hdraft.drafts _ (List.mem_singleton_self _) candidate (candidateOf_eq_ok hc)
      have htakes : s.tree.TakesWrites f.backup.path :=
        hdraft.writes _ (List.mem_singleton_self _) hcandidate
      have hdisk := hkeeps.journaled.drafter_of_run hd
      have hdone' : ∀ n, s.disk n = .done := fun n => (congrFun hdisk n).trans (hdone n)
      obtain ⟨call, hcall, hexchange, htransitions, hends⟩ :=
        hv.unhindered hanswers hkeeps hdone' hwritable htakes
      obtain rfl : compiling = some call := by
        have hsame := List.append_cancel_left (hcompiling.symm.trans hcall)
        cases compiling with
        | none => cases hsame
        | some c => exact congrArg some (List.head_eq_of_cons_eq hsame)
      refine ⟨⟨⟨_, _, rfl⟩, ?_, ?_, by simp⟩, ?_, hends hcompile⟩
      · rintro c ⟨rfl⟩
        exact hexchange
      · exact ⟨fun _ => hcandidate, fun _ => by simp⟩
      · rw [htransitions]
        simp [Trial.states, inWorld, consumed]

end

/-! ## All attempts at a file -/

/-- The states that a file enters in attempts from `number` on, each of which is followed by another
one. -/
def retriedStates (path : Text) : (number : Nat) → List Trial → List Transition
  | _, [] => []
  | number, t :: rest =>
    t.states path number ++ ⟨path, .retrying, some number⟩ :: retriedStates path (number + 1) rest

/-- The attempts at a file from `number` on, of which the last may have the number `most`: what they
consist of, what is put on record, and the states that the file enters up to what comes of the last
attempt. -/
structure Course (path : Text) (old : Bytes) (most number : Nat) (earlier : List Trial)
    (last : Trial) (attempts : List Attempt) (states : List Transition) : Prop where
  regular : ∀ t ∈ earlier ++ [last], t.Regular old
  failed : ∀ t ∈ earlier, ∃ outcome, t.outcome = some outcome ∧ outcome ≠ .success
  bounded : number + earlier.length ≤ most
  numbers : attempts.map (·.number) = (List.range' number attempts.length).map Int.ofNat
  outcomes : attempts.map (·.outcome) = (earlier ++ [last]).filterMap (·.outcome)
  states_eq : states = retriedStates path number earlier ++ last.states path (number + earlier.length)

/-- How the last attempt at a file ends, which has the number `number` and may have `most`, why the file
is given up then, if it is, and the state that it enters. -/
inductive Close (path : Text) (most number : Nat) (last : Trial) :
    Option Text → List Transition → Prop
  | accepted (houtcome : last.outcome = some .success) (hcompiled : last.compiling ≠ none) :
      Close path most number last none [⟨path, .success, some number⟩]
  | givenUp {outcome : Outcome} {error : Text} (houtcome : last.outcome = some outcome)
      (hfailed : outcome ≠ .success) (hlast : number = most) :
      Close path most number last (some error) [⟨path, .failed, some number⟩]

theorem outcome_ne_success {ending : Ending} (h : ending ≠ .success) : ending.outcome ≠ .success := by
  cases ending <;> simp_all [Ending.outcome]

@[simp] theorem number_attempt (ending : Ending) (number : Nat) :
    (ending.attempt number).number = number := by
  cases ending <;> rfl

namespace Course

variable {path : Text} {old : Bytes} {most number : Nat} {earlier : List Trial} {last t : Trial}
  {attempts : List Attempt} {states : List Transition} {ending : Ending}

/-- One attempt, which is on record as it ended. -/
theorem single (ht : t.Regular old) (hbounded : number ≤ most)
    (houtcome : t.outcome = some ending.outcome) :
    Course path old most number [] t [ending.attempt number] (t.states path number) where
  regular := by simpa using ht
  failed := by simp
  bounded := hbounded
  numbers := by simp
  outcomes := by simp [houtcome]
  states_eq := rfl

/-- One more failed attempt before the others. -/
theorem cons (ht : t.Regular old) (houtcome : t.outcome = some ending.outcome)
    (he : ending ≠ .success) (h : Course path old most (number + 1) earlier last attempts states) :
    Course path old most number (t :: earlier) last (ending.attempt number :: attempts)
      (t.states path number ++ ⟨path, .retrying, some number⟩ :: states) where
  regular := by simpa using ⟨ht, by simpa using h.regular⟩
  failed := by simpa using ⟨⟨_, houtcome, outcome_ne_success he⟩, h.failed⟩
  bounded := by
    have hbounded := h.bounded
    rw [List.length_cons]
    omega
  numbers := by simp [h.numbers, List.range'_succ]
  outcomes := by simpa [houtcome] using h.outcomes
  states_eq := by
    have hnumber : number + 1 + earlier.length = number + (t :: earlier).length := by
      rw [List.length_cons]
      omega
    rw [h.states_eq, hnumber, retriedStates, List.append_assoc, List.cons_append]

/-- As many attempts are on record as were made, if none was broken off. -/
theorem length_attempts (h : Course path old most number earlier last attempts states)
    {outcome : Outcome} (houtcome : last.outcome = some outcome) :
    attempts.length = earlier.length + 1 := by
  have hall : ∀ t ∈ earlier ++ [last], t.outcome.isSome = true := by
    intro t ht
    rcases List.mem_append.1 ht with ht | ht
    · obtain ⟨outcome', houtcome', -⟩ := h.failed t ht
      rw [houtcome']
      rfl
    · rw [List.mem_singleton.1 ht, houtcome]
      rfl
  have hlength := congrArg List.length h.outcomes
  rw [List.length_map, List.filterMap_length_eq_length.2 hall] at hlength
  simpa using hlength

end Course

@[simp] theorem calls_entered (f : Fixer (Journaled σ)) (path : Text) (state : State)
    (attempt : Option Nat) : (f.entered path state attempt).calls = f.calls := rfl

@[simp] theorem transitions_refused (f : Fixer σ) (path : Text) (number : Nat) (ending : Ending)
    (again : Bool) : (f.refused path number ending again).transitions =
      if again then ⟨path, .retrying, some number⟩ :: f.transitions else f.transitions := by
  cases again <;> rfl

/-- What the attempts at a file come to if nothing hinders them. -/
theorem Attempts.unhindered {w : Workshop σ} {path : Text} {issues : List Issue} {left number : Nat}
    {feedback : Feedback} {f f' : Fixer (Journaled σ)} {r : Except Fault (Option Text)}
    (hanswers : w.Answers) (hkeeps : w.Keeps World.disk)
    (h : Attempts w.journaled path issues left number feedback f r f')
    (hdone : ∀ n, f.world.disk n = .done) (hnumber : f.attempts.length + 1 = number)
    (hleft : left ≠ 0) :
    ∃ earlier last, f'.calls = f.calls ++ (earlier ++ [last]).flatMap Trial.calls ∧
      (Unhindered f.backup.path f.backup.baseline ((earlier ++ [last]).flatMap Trial.calls) →
        ∃ attempts states closing error, r = .ok error ∧ f'.attempts = f.attempts ++ attempts ∧
          f'.transitions.reverse = f.transitions.reverse ++ states ++ closing ∧
          Course path f.backup.baseline (number + left - 1) number earlier last attempts states ∧
          Close path (number + left - 1) (number + earlier.length) last error closing) := by
  induction h with
  | givenUp => exact absurd rfl hleft
  | @broken left number feedback f f' e h =>
      obtain ⟨t, hcalls, -, ht⟩ := h.unhindered hanswers hkeeps hdone
      refine ⟨[], t, by simpa using hcalls, fun hfree => ?_⟩
      obtain ⟨-, -, ending, he⟩ := ht (by simpa using hfree)
      cases he
  | @accepted left number feedback f f' h =>
      obtain ⟨t, hcalls, houtcome, ht⟩ := h.unhindered hanswers hkeeps hdone
      have haccepted : (f'.accepted path number).calls = f'.calls := rfl
      refine ⟨[], t, by simp [haccepted, hcalls], fun hfree => ?_⟩
      obtain ⟨hregular, htransitions, -⟩ := ht (by simpa using hfree)
      exact ⟨_, _, _, _, rfl, by simp [Fixer.accepted, h.attempts_eq],
        by simp [Fixer.accepted, htransitions], .single hregular (by omega) houtcome,
        .accepted houtcome (hregular.compiled_of_success houtcome)⟩
  | @refused left number feedback f g f' ending r h he hrest ih =>
      obtain ⟨t, hcalls, houtcome, ht⟩ := h.unhindered hanswers hkeeps hdone
      replace houtcome : t.outcome = some ending.outcome := houtcome
      by_cases hlast : left = 0
      · -- There is no other attempt behind this one.
        subst hlast
        cases hrest
        refine ⟨[], t, by simp [hcalls], fun hfree => ?_⟩
        obtain ⟨hregular, htransitions, -⟩ := ht (by simpa using hfree)
        refine ⟨_, _, [⟨path, .failed, some number⟩], _, rfl, by simp [h.attempts_eq], ?_,
          .single hregular (by omega) houtcome,
          .givenUp houtcome (outcome_ne_success he) (by simp)⟩
        simp [h.attempts_eq, htransitions, hnumber]
      · have hdisk : g.world.disk = f.world.disk :=
          (respects_disk hkeeps.journaled _).attempted h rfl
        have hkept := h.kept
        have hrefused : (g.refused path number ending (left ≠ 0)).world.disk = g.world.disk :=
          congrArg (·.disk) (quiet_refused g path number ending (left ≠ 0))
        have hmost : number + 1 + left - 1 = number + (left + 1) - 1 := by omega
        obtain ⟨earlier, last, hmore, hfurther⟩ := ih (by rwa [hrefused, hdisk])
          (by simp [h.attempts_eq, hnumber]) hlast
        simp only [calls_refused, backup_refused, hkept.path, hkept.baseline, hmost] at hmore hfurther
        refine ⟨t :: earlier, last, by simp [hmore, hcalls], fun hfree => ?_⟩
        obtain ⟨hfirst, hlater⟩ := unhindered_append.1 (by simpa using hfree)
        obtain ⟨hregular, htransitions, -⟩ := ht hfirst
        obtain ⟨attempts, states, closing, error, hr, hattempts, hstates, hcourse, hclose⟩ :=
          hfurther (by simpa using hlater)
        have hnumber' : number + 1 + earlier.length = number + (t :: earlier).length := by
          rw [List.length_cons]
          omega
        refine ⟨_, _, closing, error, hr, ?_, ?_, hcourse.cons hregular houtcome he,
          hnumber' ▸ hclose⟩
        · simp [hattempts, h.attempts_eq]
        · simp [hstates, htransitions, hlast]

/-- What all attempts at a file come to if nothing hinders them. -/
theorem Made.unhindered {w : Workshop σ} {path : Text} {issues : List Issue}
    {f f' : Fixer (Journaled σ)} {old : Bytes} {r : Except Fault (Option Text)} (hanswers : w.Answers)
    (hkeeps : w.Keeps World.disk) (h : Made w.journaled path issues f old r f')
    (hdone : ∀ n, f.world.disk n = .done) (hnone : f.attempts = []) :
    ∃ earlier last, f'.calls = f.calls ++ (earlier ++ [last]).flatMap Trial.calls ∧
      (Unhindered (w.projectDir.child path) old ((earlier ++ [last]).flatMap Trial.calls) →
        ∃ states closing error, r = .ok error ∧
          f'.transitions.reverse = f.transitions.reverse ++ states ++ closing ∧
          Course path old w.settings.maxAttempts 1 earlier last f'.attempts states ∧
          Close path w.settings.maxAttempts (earlier.length + 1) last error closing) := by
  have hleft : w.settings.maxAttempts ≠ 0 := Nat.one_le_iff_ne_zero.1 w.settings.one_le_maxAttempts
  replace hnone : (f.keeping (w.journaled.projectDir.child path) old).attempts = [] := hnone
  obtain ⟨earlier, last, hcalls, hends⟩ :=
    h.attempts.unhindered hanswers hkeeps hdone (by rw [hnone]; rfl) hleft
  refine ⟨earlier, last, hcalls, fun hfree => ?_⟩
  obtain ⟨attempts, states, closing, error, hr, hattempts, hstates, hcourse, hclose⟩ := hends hfree
  obtain rfl : f'.attempts = attempts := by rw [hattempts, hnone, List.nil_append]
  rw [Nat.add_comm 1 earlier.length] at hclose
  rw [Nat.add_sub_cancel_left] at hcourse hclose
  exact ⟨states, closing, error, hr, hstates, hcourse, hclose⟩

/-! ## The work on a file -/

namespace FileResult

/-- Whether a result says that a change was accepted, and that all issues are fixed. -/
structure IsAccepted (r : FileResult) : Prop where
  state : r.state = .committed
  issuesFixed : r.issuesFixed = r.issuesAttempted
  error : r.error = none

/-- Whether a result says that the file was given up, and why. -/
structure IsGivenUp (r : FileResult) : Prop where
  state : r.state = .rolledBack
  issuesFixed : r.issuesFixed = 0
  error : r.error ≠ none

end FileResult

theorem isAccepted_resultOf (path : Text) (issues : List Issue) (attempts : List Attempt) :
    (resultOf path issues attempts true none).IsAccepted := ⟨rfl, rfl, rfl⟩

theorem isGivenUp_resultOf (path : Text) (issues : List Issue) (attempts : List Attempt)
    (error : Text) : (resultOf path issues attempts false (some error)).IsGivenUp :=
  ⟨rfl, rfl, by simp [resultOf]⟩

/-- What the work on a file comes to, whose last attempt has the number `number` and may have `most`,
and the states that the file enters behind those of that attempt. -/
inductive Closed (path : Text) (issues : List Issue) (most number : Nat) (last : Trial)
    (attempts : List Attempt) : FileResult → List Transition → Prop
  | committed {result : FileResult} (houtcome : last.outcome = some .success)
      (hcompiled : last.compiling ≠ none) (hresult : result.IsAccepted)
      (hissues : result.issuesAttempted = issues.length) (hattempts : result.attempts = attempts)
      (hcount : attempts.length = number) :
      Closed path issues most number last attempts result
        [⟨path, .success, some number⟩, ⟨path, .committed, none⟩]
  | rolledBack {result : FileResult} {outcome : Outcome} (houtcome : last.outcome = some outcome)
      (hfailed : outcome ≠ .success) (hlast : number = most) (hresult : result.IsGivenUp)
      (hissues : result.issuesAttempted = issues.length) (hattempts : result.attempts = attempts)
      (hcount : attempts.length = number) :
      Closed path issues most number last attempts result
        [⟨path, .failed, some number⟩, ⟨path, .rolledBack, none⟩]

section

variable {w : Workshop σ} {path : Text} {issues : List Issue} {old : Bytes}
  {f f' : Fixer (Journaled σ)}

/-- What the attempts at a file come to with its old contents kept. If letting go of the file fails, the
file is given up already. -/
theorem Kept.unhindered (hanswers : w.Answers) (hkeeps : w.Keeps World.disk)
    (hp : (w.projectDir.child path).IsNameable) {r : Except Fault (Bool × Option Text)}
    (h : Kept w.journaled path issues f r f')
    (hread : f.world.reading (w.projectDir.child path) = .ok old)
    (hdone : ∀ n, f.world.disk n = .done) (hnone : f.attempts = []) :
    ∃ earlier last, f'.calls = f.calls ++ (earlier ++ [last]).flatMap Trial.calls ∧
      (Unhindered (w.projectDir.child path) old ((earlier ++ [last]).flatMap Trial.calls) →
        ∃ error states closing,
          (r = .ok (error.isNone, error) ∨ error ≠ none ∧ ∃ fault, r = .error (.file fault)) ∧
          f'.transitions.reverse = f.transitions.reverse ++ states ++ closing ∧
          Course path old w.settings.maxAttempts 1 earlier last f'.attempts states ∧
          Close path w.settings.maxAttempts (earlier.length + 1) last error closing) := by
  cases h with
  | unkept hentered =>
      cases hentered with
      | unread he => cases he.symm.trans hread
      | uncopied _ hdisk => exact absurd (hdone _) hdisk
  | @committed _ g left h hmade hleave =>
      obtain rfl := Except.ok.inj (hmade.read.symm.trans hread)
      have hleft := Backup.left_of_run hleave
      obtain ⟨earlier, last, hcalls, hends⟩ := hmade.unhindered hanswers hkeeps hdone hnone
      refine ⟨earlier, last, (congrArg Journaled.calls hleft.touched.extra).trans hcalls, fun hfree => ?_⟩
      obtain ⟨states, closing, error, hended, hends⟩ := hends hfree
      have hdisk : g.world.disk = f.world.disk :=
        (respects_disk hkeeps.journaled _).made hmade rfl
      obtain rfl : left = .ok () :=
        hleft.eq_ok_of_accepted (hmade.committed_iff.2 rfl) (by rw [hdisk, hdone])
      obtain rfl := Except.ok.inj hended
      exact ⟨none, states, closing, .inl rfl, hends⟩
  | @undone _ ended g left h hmade hne hleave =>
      obtain rfl := Except.ok.inj (hmade.read.symm.trans hread)
      have hleft := Backup.left_of_run hleave
      obtain ⟨earlier, last, hcalls, hends⟩ := hmade.unhindered hanswers hkeeps hdone hnone
      refine ⟨earlier, last, (congrArg Journaled.calls hleft.touched.extra).trans hcalls, fun hfree => ?_⟩
      obtain ⟨states, closing, error, rfl, hended⟩ := hends hfree
      refine ⟨error, states, closing, ?_, hended⟩
      cases error with
      | none => exact absurd rfl hne
      | some reason =>
          cases left with
          | ok u => exact .inl rfl
          | error e =>
              obtain ⟨fault, rfl⟩ := hleft.exists_file (hmade.path_eq ▸ hp)
              exact .inr ⟨by simp, fault, rfl⟩

@[simp] theorem transitions_concluded (f : Fixer σ) (path : Text) (committed : Bool) :
    (f.concluded path committed).transitions =
      ⟨path, if committed then .committed else .rolledBack, none⟩ :: f.transitions := by
  cases committed <;> rfl

@[simp] theorem attempts_concluded (f : Fixer σ) (path : Text) (committed : Bool) :
    (f.concluded path committed).attempts = f.attempts := by
  cases committed <;> rfl

@[simp] theorem transitions_contained (f : Fixer σ) (path : Text) (fault : FileFault) :
    (f.contained path fault).transitions = ⟨path, .rolledBack, none⟩ :: f.transitions := rfl

@[simp] theorem transitions_takenUp (f : Fixer σ) (path : Text) :
    (f.takenUp path).transitions = ⟨path, .pending, none⟩ :: f.transitions := rfl

/-- What the work on a file that can be read comes to. -/
theorem Fixed.unhindered (hanswers : w.Answers) (hkeeps : w.Keeps World.disk)
    (hp : (w.projectDir.child path).IsNameable) {r : Except Fault FileResult}
    (h : Fixed w.journaled path issues f r f')
    (hread : f.world.reading (w.projectDir.child path) = .ok old)
    (hdone : ∀ n, f.world.disk n = .done) :
    ∃ earlier last, f'.calls = f.calls ++ (earlier ++ [last]).flatMap Trial.calls ∧
      (Unhindered (w.projectDir.child path) old ((earlier ++ [last]).flatMap Trial.calls) →
        ∃ result states closing, r = .ok result ∧ f'.transitions.reverse =
            f.transitions.reverse ++ ⟨path, .pending, none⟩ :: (states ++ closing) ∧
          Course path old w.settings.maxAttempts 1 earlier last f'.attempts states ∧
          Closed path issues w.settings.maxAttempts (earlier.length + 1) last f'.attempts result
            closing) := by
  cases h with
  | @concluded committed error f' hk =>
      obtain ⟨earlier, last, hcalls, hends⟩ := hk.unhindered hanswers hkeeps hp hread hdone rfl
      have hconcluded := congrArg Journaled.calls (extra_concluded f' path committed)
      refine ⟨earlier, last, hconcluded.trans hcalls, fun hfree => ?_⟩
      obtain ⟨error, states, closing, hended | ⟨-, fault, hended⟩, hstates, hcourse, hclose⟩ :=
        hends hfree
      · cases hended
        rw [attempts_concluded]
        cases hclose with
        | accepted houtcome hcompiled =>
            refine ⟨_, states, _, rfl, ?_, hcourse, .committed houtcome hcompiled
              (isAccepted_resultOf ..) rfl rfl (hcourse.length_attempts houtcome)⟩
            simp [hstates]
        | givenUp houtcome hfailed hlast =>
            refine ⟨_, states, _, rfl, ?_, hcourse, .rolledBack houtcome hfailed hlast
              (isGivenUp_resultOf ..) rfl rfl (hcourse.length_attempts houtcome)⟩
            simp [hstates]
      · cases hended
  | @contained fault f' hk =>
      obtain ⟨earlier, last, hcalls, hends⟩ := hk.unhindered hanswers hkeeps hp hread hdone rfl
      refine ⟨earlier, last, hcalls, fun hfree => ?_⟩
      obtain ⟨error, states, closing, hended | ⟨hne, -⟩, hstates, hcourse, hclose⟩ := hends hfree
      · cases hended
      · cases hclose with
        | accepted _ _ => exact absurd rfl hne
        | givenUp houtcome hfailed hlast =>
            refine ⟨_, states, _, rfl, ?_, hcourse, .rolledBack houtcome hfailed hlast
              (isGivenUp_resultOf ..) rfl rfl (hcourse.length_attempts houtcome)⟩
            simp [hstates]
  | @broken e f' hk he =>
      obtain ⟨earlier, last, hcalls, hends⟩ := hk.unhindered hanswers hkeeps hp hread hdone rfl
      refine ⟨earlier, last, hcalls, fun hfree => ?_⟩
      obtain ⟨error, states, closing, hended | ⟨-, fault, hended⟩, -⟩ := hends hfree
      · cases hended
      · exact absurd (Except.error.inj hended) (he fault)

end

/-- A file that cannot be read is taken up, and nothing is asked about it. -/
theorem Kept.of_unread {w : Workshop σ} {path : Text} {issues : List Issue} {f f' : Fixer σ}
    {r : Except Fault (Bool × Option Text)} {e : Fault} (h : Kept w path issues f r f')
    (hread : f.world.reading (w.projectDir.child path) = .error e) :
    r = .error e ∧ f' = f.withHeld ⟨f.world.looked, { path := w.projectDir.child path }⟩ := by
  cases h with
  | unkept hentered =>
      cases hentered with
      | unread he => exact ⟨congrArg _ (Except.error.inj (he.symm.trans hread)), rfl⟩
      | uncopied hread' _ => cases hread.symm.trans hread'
  | committed hmade _ => cases hread.symm.trans hmade.read
  | undone hmade _ _ => cases hread.symm.trans hmade.read

theorem Fixed.of_unread {w : Workshop σ} {path : Text} {issues : List Issue} {f f' : Fixer σ}
    {r : Except Fault FileResult} {fault : FileFault} (h : Fixed w path issues f r f')
    (hread : f.world.reading (w.projectDir.child path) = .error (.file fault)) :
    ∃ error, r = .ok (resultOf path issues [] false (some error)) ∧
      f' = ((f.takenUp path).withHeld
        ⟨(f.takenUp path).world.looked, { path := w.projectDir.child path }⟩).contained path fault := by
  cases h with
  | concluded hk => cases (hk.of_unread hread).1
  | contained hk =>
      obtain ⟨he, rfl⟩ := hk.of_unread hread
      cases he
      exact ⟨_, rfl, rfl⟩
  | broken hk hne =>
      obtain ⟨he, -⟩ := hk.of_unread hread
      exact absurd (Except.error.inj he) (hne fault)

/-- The work on a file goes through the states of a small machine, and puts each attempt on record.

If the file cannot be read, it is rolled back and nothing has been asked. Otherwise there is a list of
attempts, numbered from one on and not more than may be made. In each of them a draft is asked for, and
the project is compiled once if the draft is a usable one and not at all otherwise. Every attempt but the
last one fails and is retried. The last one is accepted, and the file committed, or it is the last that may
be made, and the file rolled back. The conditions are that the file system can be given the path, that the
collaborators answer or fail and are not interrupted, that drafts can be written as bytes, and that what
is written is done. -/
theorem fixFile_history (w : Workshop σ) (hanswers : w.Answers) (hkeeps : w.Keeps World.disk)
    (path : Text) (hp : (w.projectDir.child path).IsNameable) (issues : List Issue) (f : Fixer σ)
    (hdone : ∀ n, f.world.disk n = .done)
    (hfree : ∀ old, f.world.reading (w.projectDir.child path) = .ok old →
      Unhindered (w.projectDir.child path) old (fileCalls w path issues f)) :
    let reading := f.world.reading (w.projectDir.child path)
    let out := (fixFile w path issues).run f
    let entered := fun states =>
      out.2.transitions.reverse = f.transitions.reverse ++ ⟨path, .pending, none⟩ :: states
    (∀ e, reading = .error e →
        fileCalls w path issues f = [] ∧ out.2.attempts = [] ∧
          entered [⟨path, .rolledBack, none⟩] ∧
          ∃ result, out.1 = .ok result ∧ result.IsGivenUp ∧ result.attempts = []) ∧
      ∀ old, reading = .ok old → ∃ earlier last states closing result,
        fileCalls w path issues f = (earlier ++ [last]).flatMap Trial.calls ∧
          out.1 = .ok result ∧ entered (states ++ closing) ∧
          Course path old w.settings.maxAttempts 1 earlier last out.2.attempts states ∧
          Closed path issues w.settings.maxAttempts (earlier.length + 1) last out.2.attempts result
            closing := by
  intro reading out entered
  have hfixed := fixed_fixFile w.journaled path issues f.journaling
  have hrun := run_fixFile_eq w path issues f
  rcases hjournaled : (fixFile w.journaled path issues).run f.journaling with ⟨r, f'⟩
  rw [hjournaled] at hfixed hrun
  dsimp only at hfixed
  have hcalls : fileCalls w path issues f = f'.calls := congrArg (·.2.calls) hjournaled
  have hresult : out.1 = r := congrArg Prod.fst hrun
  have hattempts : out.2.attempts = f'.attempts := congrArg (·.2.attempts) hrun
  have hentered (states : List Transition)
      (h : f'.transitions.reverse = f.transitions.reverse ++ ⟨path, .pending, none⟩ :: states) :
      entered states := by
    have htransitions : out.2.transitions = f'.transitions := congrArg (·.2.transitions) hrun
    show out.2.transitions.reverse = _
    rw [htransitions, h]
  have hcallsStart : f.journaling.calls = [] := rfl
  have hstart : f.journaling.transitions = f.transitions := rfl
  rw [hcalls, hresult, hattempts]
  refine ⟨fun e hread => ?_, fun old hread => ?_⟩
  · obtain ⟨fault, rfl⟩ := World.exists_file_of_reading hp hread
    obtain ⟨error, rfl, rfl⟩ := hfixed.of_unread hread
    exact ⟨rfl, rfl, hentered _ (by simp [withHeld, hstart]), _, rfl, isGivenUp_resultOf .., rfl⟩
  · obtain ⟨earlier, last, hmade, hends⟩ := hfixed.unhindered hanswers hkeeps hp hread hdone
    rw [hcallsStart, List.nil_append] at hmade
    obtain ⟨result, states, closing, hr, hstates, hcourse, hclosed⟩ :=
      hends (by rw [← hmade, ← hcalls]; exact hfree old hread)
    exact ⟨earlier, last, states, closing, result, hmade, hr, hentered _ hstates, hcourse, hclosed⟩

/-- If nothing compiles, three attempts are made at the empty file, and it is rolled back. If everything
does, one of them is accepted. -/
theorem fixFile_history_emptyFile :
    (∃ earlier last states,
        ((fixFile (small false) [0x61] []).run emptyFile).2.transitions.reverse =
            ⟨[0x61], .pending, none⟩ ::
              (states ++ [⟨[0x61], .failed, some 3⟩, ⟨[0x61], .rolledBack, none⟩]) ∧
          Course [0x61] [] 3 1 earlier last
            ((fixFile (small false) [0x61] []).run emptyFile).2.attempts states) ∧
      ∃ earlier last states,
        ((fixFile (small true) [0x61] []).run emptyFile).2.transitions.reverse =
            ⟨[0x61], .pending, none⟩ :: (states ++
              [⟨[0x61], .success, some (earlier.length + 1)⟩, ⟨[0x61], .committed, none⟩]) ∧
          Course [0x61] [] 3 1 earlier last
            ((fixFile (small true) [0x61] []).run emptyFile).2.attempts states := by
  have hread : emptyFile.world.reading (Path.child {} [0x61]) = .ok [] := rfl
  have hp : (Path.child {} [0x61]).IsNameable := by decide
  have hanswers (ok : Bool) : (small ok).Answers :=
    ⟨fun _ _ h => (nomatch h), fun _ _ h => (nomatch h), fun _ _ h => nomatch h⟩
  have hfree {ok : Bool} (hcalls : ∀ c ∈ fileCalls (small ok) [0x61] [] emptyFile,
      c.exchange.Writable ∧ (c.after.write (Path.child {} [0x61]) []).isOk = true) (old : Bytes) :
      Unhindered (Path.child {} [0x61]) old (fileCalls (small ok) [0x61] [] emptyFile) := by
    exact ⟨fun c hc => (hcalls c hc).1, fun c hc _ => ⟨[], exists_of_isOk (hcalls c hc).2⟩⟩
  constructor
  · have hout : hasCommitted ((fixFile (small false) [0x61] []).run emptyFile).1 = false := by
      decide +kernel
    obtain ⟨-, h⟩ := fixFile_history (small false) (hanswers false) (Workshop.keeps_still ..) [0x61] hp []
      emptyFile (fun _ => rfl) fun old _ => hfree (by decide +kernel) old
    obtain ⟨earlier, last, states, closing, result, -, hresult, hstates, hcourse, hclosed⟩ := h [] hread
    rw [hresult] at hout
    cases hclosed with
    | committed _ _ haccepted _ _ _ =>
        simp [hasCommitted, FileResult.isCommitted, haccepted.state] at hout
    | rolledBack _ _ hlast _ _ _ =>
        replace hlast : earlier.length + 1 = 3 := hlast
        rw [hlast] at hstates
        exact ⟨earlier, last, states, hstates, hcourse⟩
  · have hout : hasCommitted ((fixFile (small true) [0x61] []).run emptyFile).1 = true := by
      decide +kernel
    obtain ⟨-, h⟩ := fixFile_history (small true) (hanswers true) (Workshop.keeps_still ..) [0x61] hp []
      emptyFile (fun _ => rfl) fun old _ => hfree (by decide +kernel) old
    obtain ⟨earlier, last, states, closing, result, -, hresult, hstates, hcourse, hclosed⟩ := h [] hread
    rw [hresult] at hout
    cases hclosed with
    | committed _ _ _ _ _ _ => exact ⟨earlier, last, states, hstates, hcourse⟩
    | rolledBack _ _ _ hgivenUp _ _ _ =>
        simp [hasCommitted, FileResult.isCommitted, hgivenUp.state] at hout

/-- A workshop whose compiler is interrupted. -/
def interrupted : Workshop Unit :=
  { small true with
    validator :=
      { compile := fun _ => .ofExcept (.error .interrupted)
        test := fun _ => .ofExcept (.ok { ok := true }) } }

/-- A path with a null character in it is taken up, and there is no result. Neither is there one if the
compiler is interrupted. -/
theorem exists_unfinished :
    let unread := (fixFile (small true) [0] []).run emptyFile
    let stopped := (fixFile interrupted [0x61] []).run emptyFile
    (unread.1 = .error .nullInPath ∧ unread.2.transitions.reverse = [⟨[0], .pending, none⟩]) ∧
      stopped.1 = .error .interrupted ∧ stopped.2.transitions.reverse =
        [⟨[0x61], .pending, none⟩, ⟨[0x61], .drafting, some 1⟩, ⟨[0x61], .validating, some 1⟩] := by
  exact ⟨⟨rfl, by decide +kernel⟩, rfl, by decide +kernel⟩

end Fix

end Mend
