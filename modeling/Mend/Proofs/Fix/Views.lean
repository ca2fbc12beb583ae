import Mend.Proofs.Fix.Journal
import Mend.Proofs.Fix.Run

/-!
# What the collaborators see

If the collaborators leave the files alone, no attempt at a file sees anything of an earlier one. The
drafter is always asked about the file as it was when it was started, and the compiler always finds
the candidate that was drafted last, in a tree that is otherwise as it was then.

## Main definitions

* `Fix.Trial`, `Fix.Trial.Sound` — the calls of one attempt, and what they have to find.
* `Fix.AllShow` — lists of attempts each of which shows something behind the earlier ones.
-/

namespace Mend.Fix

variable {σ : Type}

open Fixer

/-- The calls of one attempt. -/
structure Trial where
  /-- The outcome that is on record, unless the attempt broke the work off. -/
  outcome : Option Outcome
  drafting : Call
  compiling : Option Call

/-- The calls in their order. -/
def Trial.calls (t : Trial) : List Call := t.drafting :: t.compiling.toList

/-- What the collaborators find in an attempt at the file at a path, which had certain contents in the
tree in which the file was started. -/
structure Trial.Sound (target : Path) (start : Tree) (old : Bytes) (t : Trial) : Prop where
  /-- The drafter finds the tree as it was, and is asked about the old contents. -/
  drafted : ∃ request answer, t.drafting.exchange = .draft request answer ∧
    request.source = Utf8.decodeKeeping old ∧ t.drafting.before = start
  /-- The compiler finds the candidate in the file, and every other file as it was. -/
  compiled : ∀ call, t.compiling = some call → ∃ request draft content bytes answer,
    t.drafting.exchange = .draft request (.ok draft) ∧ call.exchange = .compile answer ∧
      draft.content = some content ∧ Utf8.encodeKeeping content = .ok bytes ∧
      call.before.read target = .ok bytes ∧
      ∀ q, target.Apart q → call.before.contents? q = start.contents? q
  /-- Without a candidate nothing is compiled. -/
  uncompiled : t.outcome = some .invalidOutput ∨
    (∃ request e, t.drafting.exchange = .draft request (.error e)) → t.compiling = none

/-! ## One attempt -/

section

variable {w : Workshop σ} {path : Text} {issues : List Issue} {left number : Nat}
  {feedback : Feedback} {candidate : Text} {f f' : Fixer σ}

/-- What is wrong with a candidate is never that there is none. -/
theorem Validated.outcome_ne {ending : Ending} (h : Validated w candidate f (.ok ending) f') :
    ending.outcome ≠ .invalidOutput := by
  generalize hr : Except.ok ending = r at h
  cases h with
  | unencodable _ => cases hr
  | @unwritten _ _ _ r _ _ _ _ =>
      cases r with
      | error e => cases hr
      | ok u =>
          cases hr
          simp [Ending.outcome]
  | unnameable _ _ _ => cases hr
  | judged _ _ hj =>
      cases hj with
      | interrupted _ => cases hr
      | accepted _ _ =>
          cases hr
          simp [Ending.outcome]
      | @rejected _ _ _ r _ _ he _ =>
          cases r with
          | error e => cases hr
          | ok u =>
              cases hr
              rcases refusal_eq_some he with hout | hout <;> simp [hout]

/-- An attempt without a candidate does nothing behind the drafter's answer. -/
theorem Attempted.world_eq {r : Except Fault Ending} {answer : Except Fault Drafting.Draft}
    {s : World σ} (h : Attempted w path issues number feedback f r f')
    (hd : (w.drafter (feedback.request path f.backup.baselineText issues)).run
      (f.entered path .drafting (some number)).world = (answer, s))
    (hr : (∃ e, answer = .error e) ∨ ∃ reason, r = .ok (.invalidOutput reason)) :
    f'.world = s := by
  cases h with
  | interrupted hd' => exact (congrArg Prod.snd (hd'.symm.trans hd))
  | unanswered hd' _ => exact (congrArg Prod.snd (hd'.symm.trans hd))
  | unusable hd' _ => exact (congrArg Prod.snd (hd'.symm.trans hd))
  | validated hd' _ hv =>
      have hanswer := congrArg Prod.fst (hd'.symm.trans hd)
      rcases hr with ⟨e, rfl⟩ | ⟨reason, rfl⟩
      · cases hanswer
      · exact absurd rfl hv.outcome_ne

/-- What is in a tree of which the collaborators leave the files alone: an attempt that is not accepted
leaves it as it found it. -/
theorem Validated.tree_eq {ending : Ending} (hkeeps : w.Keeps World.tree)
    (h : Validated w candidate f (.ok ending) f') (he : ending ≠ .success)
    (hstart : f.world.tree.read f.backup.path = .ok f.backup.baseline) :
    f'.world.tree = f.world.tree := by
  generalize hr : Except.ok ending = r at h
  cases h with
  | unencodable _ => cases hr
  | @unwritten _ _ _ r _ _ hw hrestored =>
      cases r with
      | error e => cases hr
      | ok u =>
          have hwritten := (World.wrote_of_run hw).touched.tree
          have hback := hrestored.touched.tree
          exact (hwritten.trans hback).eq_of_read hstart (hrestored.read (.inl rfl))
  | unnameable _ _ _ => cases hr
  | judged _ hw hj =>
      have hwritten := (World.wrote_of_run hw).touched.tree
      cases hj with
      | interrupted _ => cases hr
      | accepted _ _ =>
          cases hr
          exact absurd rfl he
      | @rejected s _ _ r _ hc _ hrestored =>
          cases r with
          | error e => cases hr
          | ok u =>
              have hcompiled : s.tree = _ := hkeeps.compile_of_run hc
              have hback := hrestored.touched.tree
              replace hback : Tree.SameBut f.backup.path s.tree _ := hback
              rw [hcompiled] at hback
              exact (hwritten.trans hback).eq_of_read hstart (hrestored.read (.inr rfl))

theorem Attempted.tree_eq {ending : Ending} (hkeeps : w.Keeps World.tree)
    (h : Attempted w path issues number feedback f (.ok ending) f') (he : ending ≠ .success)
    (hstart : f.world.tree.read f.backup.path = .ok f.backup.baseline) :
    f'.world.tree = f.world.tree := by
  cases h with
  | unanswered hd _ =>
      have hdrafted := hkeeps.drafter_of_run hd
      exact hdrafted
  | unusable hd _ =>
      have hdrafted := hkeeps.drafter_of_run hd
      exact hdrafted
  | @validated d s _ _ _ hd _ hv =>
      have hdrafted := hkeeps.drafter_of_run hd
      replace hdrafted : s.tree = f.world.tree := hdrafted
      have hvalidated := hv.tree_eq hkeeps he (by
        show s.tree.read f.backup.path = .ok f.backup.baseline
        rw [hdrafted, hstart])
      exact hvalidated.trans hdrafted

end

/-! ## The calls of one attempt -/

section

variable {w : Workshop σ} {path : Text} {issues : List Issue} {left number : Nat}
  {feedback : Feedback} {candidate : Text} {f f' : Fixer (Journaled σ)}

/-- The outcome that is put on record when an attempt ends so. -/
def recorded (r : Except Fault Ending) : Option Outcome := (r.map Ending.outcome).toOption

/-- What the compiler said about a candidate that it refused. -/
theorem answer_of_refusal {answer : Except Fault BuildOutcome} {diagnostic : Text}
    (h : refusal answer = some (.compileFailed diagnostic)) : answer = .ok ⟨false, diagnostic⟩ := by
  cases answer with
  | ok outcome =>
      rw [refusal] at h
      split at h
      case isTrue _ => cases h
      case isFalse hok =>
        cases h
        rw [← Bool.eq_false_iff.2 hok]
  | error e => cases e <;> cases h

theorem Judged.calls {r : Except Fault Ending} (h : Judged w.journaled f r f') :
    ∃ answer t, f'.calls = f.calls ++ [⟨.compile answer, f.world.tree, t⟩] ∧
      ∀ diagnostic, r = .ok (.compileFailed diagnostic) → answer = .ok ⟨false, diagnostic⟩ := by
  cases h with
  | interrupted hc =>
      have hcalls := calls_of_compile hc
      exact ⟨_, _, hcalls, fun _ hr => nomatch hr⟩
  | accepted hc _ =>
      have hcalls := calls_of_compile hc
      exact ⟨_, _, hcalls, fun _ hr => nomatch hr⟩
  | @rejected _ _ _ r _ hc he hr =>
      have hback := congrArg Journaled.calls hr.touched.extra
      have hcalls := hback.trans (calls_of_compile hc)
      refine ⟨_, _, hcalls, fun diagnostic hending => ?_⟩
      cases r with
      | error e => cases hending
      | ok u =>
          cases hending
          exact answer_of_refusal he

/-- A candidate is compiled once, right after it was written, or not at all. If an attempt fails at
that, the compiler has refused the candidate. -/
theorem Validated.calls {r : Except Fault Ending}
    (h : Validated w.journaled candidate f r f') :
    ∃ compiling : Option Call, f'.calls = f.calls ++ compiling.toList ∧
      (∀ call, compiling = some call → ∃ answer bytes, call.exchange = .compile answer ∧
        Utf8.encodeKeeping candidate = .ok bytes ∧
        f.world.tree.write f.backup.path bytes = .ok call.before) ∧
      ∀ diagnostic, r = .ok (.compileFailed diagnostic) →
        ∃ call, compiling = some call ∧ call.exchange = .compile (.ok ⟨false, diagnostic⟩) := by
  cases h with
  | unencodable _ => exact ⟨none, by simp [Fixer.calls, withHeld], by simp, by simp⟩
  | @unwritten _ _ _ r _ _ hw hr =>
      have hwritten := (World.wrote_of_run hw).touched.extra
      have hback := hr.touched.extra
      refine ⟨none, ?_, by simp, ?_⟩
      · simp [Fixer.calls, withHeld, hback, hwritten]
      · cases r <;> simp [Except.map]
  | unnameable _ hw _ =>
      have hwritten := (World.wrote_of_run hw).touched.extra
      refine ⟨none, ?_, by simp, by simp⟩
      simp [Fixer.calls, withHeld, hwritten]
  | @judged bytes s _ _ hbytes hw hj =>
      cases World.wrote_of_run hw with
      | done hwrite =>
          obtain ⟨answer, t, hcalls, hanswer⟩ := hj.calls
          refine ⟨some _, hcalls, ?_, fun diagnostic hr => ⟨_, rfl, by rw [hanswer diagnostic hr]⟩⟩
          rintro call ⟨rfl⟩
          exact ⟨answer, bytes, rfl, hbytes, hwrite⟩

theorem Attempted.trial {r : Except Fault Ending} (hkeeps : w.Keeps World.tree)
    (h : Attempted w.journaled path issues number feedback f r f') :
    ∃ t : Trial, f'.calls = f.calls ++ t.calls ∧ t.outcome = recorded r ∧
      t.Sound f.backup.path f.world.tree f.backup.baseline := by
  cases h with
  | interrupted hd =>
      have hcalls := calls_of_drafter hd
      refine ⟨⟨none, _, none⟩, hcalls, rfl, ⟨_, _, rfl, rfl, rfl⟩, by simp, by simp⟩
  | unanswered hd _ =>
      have hcalls := calls_of_drafter hd
      refine ⟨⟨some .toolError, _, none⟩, hcalls, rfl, ⟨_, _, rfl, rfl, rfl⟩, by simp, by simp⟩
  | unusable hd hc =>
      have hcalls := calls_of_drafter hd
      obtain ⟨reason, rfl⟩ := candidateOf_eq_error hc
      refine ⟨⟨some .invalidOutput, _, none⟩, hcalls, rfl, ⟨_, _, rfl, rfl, rfl⟩, by simp, by simp⟩
  | @validated d s candidate _ _ hd hc hv =>
      have hdrafting := calls_of_drafter hd
      obtain ⟨compiling, hcompiling, hsound, -⟩ := hv.calls
      have hcalls := hcompiling.trans ((congrArg (· ++ _) hdrafting).trans (List.append_assoc ..))
      have htree := hkeeps.journaled.drafter_of_run hd
      refine ⟨⟨recorded r, _, compiling⟩, hcalls, rfl, ⟨_, _, rfl, rfl, rfl⟩, ?_, ?_⟩
      · intro call hcall
        obtain ⟨answer, bytes, hexchange, hbytes, hwrite⟩ := hsound call hcall
        refine ⟨_, d, candidate, bytes, answer, rfl, hexchange, candidateOf_eq_ok hc, hbytes,
          Tree.read_of_write hwrite, fun q hapart => ?_⟩
        rw [Tree.contents?_of_write hwrite hapart]
        exact congrArg (·.contents? q) htree
      · rintro (hout | ⟨request, e, he⟩)
        · cases r with
          | error e => cases hout
          | ok ending => exact absurd (Option.some.inj hout) hv.outcome_ne
        · cases he

/-! ## All attempts at a file -/

@[simp] theorem attempts_refused (f : Fixer σ) (path : Text) (number : Nat) (ending : Ending)
    (again : Bool) :
    (f.refused path number ending again).attempts = f.attempts ++ [ending.attempt number] := by
  cases again <;> rfl

@[simp] theorem tree_refused (f : Fixer σ) (path : Text) (number : Nat) (ending : Ending)
    (again : Bool) : (f.refused path number ending again).world.tree = f.world.tree := by
  cases again <;> rfl

@[simp] theorem calls_refused (f : Fixer (Journaled σ)) (path : Text) (number : Nat)
    (ending : Ending) (again : Bool) : (f.refused path number ending again).calls = f.calls := by
  cases again <;> rfl

@[simp] theorem outcome_attempt (ending : Ending) (number : Nat) :
    (ending.attempt number).outcome = ending.outcome := by
  cases ending <;> rfl

/-- The attempts of a state of a run, in terms of their outcomes. -/
def Fixer.outcomes (f : Fixer σ) : List Outcome := f.attempts.map (·.outcome)

theorem Attempted.attempts_eq {w : Workshop σ} {f f' : Fixer σ} {r : Except Fault Ending}
    (h : Attempted w path issues number feedback f r f') : f'.attempts = f.attempts := by
  cases h with
  | interrupted _ => rfl
  | unanswered _ _ => rfl
  | unusable _ _ => rfl
  | validated _ _ hv =>
      cases hv with
      | unencodable _ => rfl
      | unwritten _ _ _ => rfl
      | unnameable _ _ _ => rfl
      | judged _ _ hj => cases hj <;> rfl

/-- Each attempt of a list shows what it should behind the earlier ones, which are others and those
before it in the list. -/
def AllShow (shows : List Trial → Trial → Prop) (others trials : List Trial) : Prop :=
  ∀ earlier t later, trials = earlier ++ t :: later → shows (others ++ earlier) t

section

variable {shows : List Trial → Trial → Prop} {others trials : List Trial} {t : Trial}

theorem AllShow.nil : AllShow shows others [] := fun _ _ _ hsplit => by simp at hsplit

theorem AllShow.cons (ht : shows others t) (h : AllShow shows (others ++ [t]) trials) :
    AllShow shows others (t :: trials) := by
  intro earlier u later hsplit
  cases earlier with
  | nil =>
      obtain ⟨rfl, -⟩ := List.cons.inj hsplit
      rwa [List.append_nil]
  | cons v earlier =>
      obtain ⟨rfl, hrest⟩ := List.cons.inj hsplit
      have hu := h earlier u later hrest
      rwa [List.append_assoc, List.singleton_append] at hu

/-- If each attempt shows what it should where something holds before it, and this holds again when the
attempt is followed by another one, then all attempts show what they should. -/
theorem Attempts.exists_trials {r : Except Fault (Option Text)}
    (shows : List Trial → Trial → Prop) (holds : List Trial → Feedback → Fixer (Journaled σ) → Prop)
    (others : List Trial)
    (hstep : ∀ {earlier number feedback f f'} {r : Except Fault Ending}, holds earlier feedback f →
      Attempted w.journaled path issues number feedback f r f' →
        ∃ t : Trial, f'.calls = f.calls ++ t.calls ∧ t.outcome = recorded r ∧ shows earlier t ∧
          ∀ ending, r = .ok ending → ending ≠ .success → ∀ again,
            holds (earlier ++ [t]) (feedback.after ending) (f'.refused path number ending again))
    (h : Attempts w.journaled path issues left number feedback f r f')
    (hholds : holds others feedback f) :
    ∃ trials : List Trial, f'.calls = f.calls ++ trials.flatMap Trial.calls ∧
      f'.outcomes = f.outcomes ++ trials.filterMap (·.outcome) ∧ AllShow shows others trials := by
  induction h generalizing others with
  | @givenUp number feedback f =>
      have hentered : (f.entered path .failed (some f.attempts.length)).calls = f.calls := rfl
      exact ⟨[], by simp [hentered], by simp [outcomes], .nil⟩
  | broken h =>
      obtain ⟨t, hcalls, houtcome, ht, -⟩ := hstep hholds h
      refine ⟨[t], by simp [hcalls], ?_, .cons ht .nil⟩
      simp [outcomes, h.attempts_eq, houtcome, recorded, Except.map, Except.toOption]
  | @accepted left number feedback f f' h =>
      obtain ⟨t, hcalls, houtcome, ht, -⟩ := hstep hholds h
      have haccepted : (f'.accepted path number).calls = f'.calls := rfl
      refine ⟨[t], by simp [haccepted, hcalls], ?_, .cons ht .nil⟩
      simp [outcomes, Fixer.accepted, h.attempts_eq, houtcome, recorded, Except.map,
        Except.toOption]
  | @refused left number feedback f g f' ending r h he hrest ih =>
      obtain ⟨t, hcalls, houtcome, ht, hagain⟩ := hstep hholds h
      obtain ⟨trials, hmore, houtcomes, hall⟩ := ih _ (hagain ending rfl he _)
      refine ⟨t :: trials, by simp [hmore, hcalls], ?_, .cons ht hall⟩
      rw [houtcomes]
      simp [outcomes, h.attempts_eq, houtcome, recorded, Except.map, Except.toOption]

end

theorem Attempts.trials {r : Except Fault (Option Text)} (hkeeps : w.Keeps World.tree)
    (h : Attempts w.journaled path issues left number feedback f r f')
    (hstart : f.world.tree.read f.backup.path = .ok f.backup.baseline) :
    ∃ trials : List Trial, f'.calls = f.calls ++ trials.flatMap Trial.calls ∧
      f'.outcomes = f.outcomes ++ trials.filterMap (·.outcome) ∧
      ∀ t ∈ trials, t.Sound f.backup.path f.world.tree f.backup.baseline := by
  generalize htarget : f.backup.path = target at hstart ⊢
  generalize hold : f.backup.baseline = old at hstart ⊢
  generalize htree : f.world.tree = start at hstart ⊢
  obtain ⟨trials, hcalls, houtcomes, hall⟩ := h.exists_trials (fun _ t => t.Sound target start old)
    (fun _ _ g => g.backup.path = target ∧ g.backup.baseline = old ∧ g.world.tree = start) [] (by
      rintro earlier number feedback g g' r ⟨rfl, rfl, rfl⟩ ha
      obtain ⟨t, hcalls, houtcome, ht⟩ := ha.trial hkeeps
      refine ⟨t, hcalls, houtcome, ht, ?_⟩
      rintro ending rfl he again
      rw [backup_refused, tree_refused, ha.kept.path, ha.kept.baseline]
      exact ⟨rfl, rfl, ha.tree_eq hkeeps.journaled he hstart⟩) ⟨htarget, hold, htree⟩
  refine ⟨trials, hcalls, houtcomes, fun t ht => ?_⟩
  obtain ⟨earlier, later, hsplit⟩ := List.append_of_mem ht
  exact hall earlier t later hsplit

/-! ## Files and runs -/

/-- With the old contents of a file kept, attempts are made, or else nothing is asked and nothing put on
record. -/
theorem Kept.idle_or_attempts {r : Except Fault (Bool × Option Text)}
    (h : Kept w.journaled path issues f r f') :
    (f'.calls = f.calls ∧ f'.outcomes = f.outcomes) ∨
      ∃ old r g, f.world.tree.read (w.projectDir.child path) = .ok old ∧
        Attempts w.journaled path issues w.settings.maxAttempts 1 {}
          (f.keeping (w.projectDir.child path) old) r g ∧
        f'.calls = g.calls ∧ f'.outcomes = g.outcomes := by
  have hmade {old : Bytes} {r : Except Fault (Option Text)} {g : Fixer (Journaled σ)}
      {left : Except Fault Unit} {held : Held (Journaled σ)}
      (hmade : Made w.journaled path issues f old r g)
      (hleave : Backup.leave.run g.toHeld = (left, held)) :
      ∃ old r g', f.world.tree.read (w.projectDir.child path) = .ok old ∧
        Attempts w.journaled path issues w.settings.maxAttempts 1 {}
          (f.keeping (w.projectDir.child path) old) r g' ∧
        (g.withHeld held).calls = g'.calls ∧ (g.withHeld held).outcomes = g'.outcomes :=
    ⟨_, _, g, World.read_of_reading hmade.read, hmade.attempts,
      congrArg Journaled.calls (Backup.left_of_run hleave).touched.extra, rfl⟩
  cases h with
  | unkept hentered =>
      left
      cases hentered <;> exact ⟨rfl, rfl⟩
  | committed h hleave => exact .inr (hmade h hleave)
  | undone h _ hleave => exact .inr (hmade h hleave)

theorem Fixed.exists_kept {r : Except Fault FileResult}
    (h : Fixed w.journaled path issues f r f') :
    ∃ r' g, Kept w.journaled path issues (f.takenUp path) r' g ∧ f'.calls = g.calls ∧
      f'.outcomes = g.outcomes := by
  cases h with
  | @concluded committed _ f' hk =>
      refine ⟨_, _, hk, congrArg Journaled.calls (extra_concluded f' path committed), ?_⟩
      cases committed <;> rfl
  | contained hk => exact ⟨_, _, hk, rfl, rfl⟩
  | broken hk _ => exact ⟨_, _, hk, rfl, rfl⟩

end

section

variable {w : Workshop σ} {path : Text} (issues : List Issue) {f : Fixer σ}

/-- The state of a run in which the attempts at a file begin. -/
def Fixer.beginning (f : Fixer σ) (path : Text) (target : Path) (old : Bytes) : Fixer (Journaled σ) :=
  (f.journaling.takenUp path).keeping target old

/-- The work on a file consists of the attempts at it, or else nothing is asked and nothing put on
record. -/
theorem idle_or_attempts_fixFile :
    (fileCalls w path issues f = [] ∧ ((fixFile w path issues).run f).2.outcomes = []) ∨
      ∃ old r g, f.world.tree.read (w.projectDir.child path) = .ok old ∧
        Attempts w.journaled path issues w.settings.maxAttempts 1 {}
          (f.beginning path (w.projectDir.child path) old) r g ∧
        fileCalls w path issues f = g.calls ∧
        ((fixFile w path issues).run f).2.outcomes = g.outcomes := by
  have hfixed := fixed_fixFile w.journaled path issues f.journaling
  obtain ⟨r', g', hkept, hcalls, houtcomes⟩ := hfixed.exists_kept
  have hrun : ((fixFile w path issues).run f).2.outcomes = g'.outcomes := by
    rw [run_fixFile_eq]
    exact houtcomes
  rcases hkept.idle_or_attempts with
    ⟨hcalls', houtcomes'⟩ | ⟨old, r, g, hread, hattempts, hcalls', houtcomes'⟩
  · exact .inl ⟨hcalls.trans hcalls', hrun.trans houtcomes'⟩
  · exact .inr ⟨old, r, g, hread, hattempts, hcalls.trans hcalls', hrun.trans houtcomes'⟩

/-- For a file without contents, nothing is asked. -/
theorem fileCalls_of_unread {e : Fault}
    (hread : f.world.tree.read (w.projectDir.child path) = .error e) :
    fileCalls w path issues f = [] := by
  rcases @idle_or_attempts_fixFile σ w path issues f with ⟨hcalls, -⟩ | ⟨old, _, _, hread', -⟩
  · exact hcalls
  · cases hread.symm.trans hread'

end

/-- Whether in all attempts at a file, as far as they are on record, the collaborators find the tree as
it was when the file was started, and in the file what it held then or the last candidate. -/
def SeenAsStarted (w : Workshop σ) (path : Text) (issues : List Issue) (f : Fixer σ) : Prop :=
  match f.world.tree.read (w.projectDir.child path) with
  | .error _ => fileCalls w path issues f = []
  | .ok old => ∃ trials : List Trial, fileCalls w path issues f = trials.flatMap Trial.calls ∧
      ((fixFile w path issues).run f).2.outcomes = trials.filterMap (·.outcome) ∧
      ∀ t ∈ trials, t.Sound (w.projectDir.child path) f.world.tree old

theorem seenAsStarted {w : Workshop σ} (hkeeps : w.Keeps World.tree) (path : Text)
    (issues : List Issue) (f : Fixer σ) : SeenAsStarted w path issues f := by
  rw [SeenAsStarted]
  cases hread : f.world.tree.read (w.projectDir.child path) with
  | error e => exact fileCalls_of_unread issues hread
  | ok old =>
      rcases idle_or_attempts_fixFile issues with
        ⟨hcalls, houtcomes⟩ | ⟨old', r, g, hread', hattempts, hcalls, houtcomes⟩
      · exact ⟨[], hcalls, houtcomes, by simp⟩
      · obtain rfl := Except.ok.inj (hread.symm.trans hread')
        obtain ⟨trials, htrials, hrecorded, hsound⟩ := hattempts.trials hkeeps hread
        exact ⟨trials, hcalls.trans htrials, houtcomes.trans hrecorded, hsound⟩

section

variable {w : Workshop σ}

/-- The calls for a file come behind those that are written down already. -/
theorem calls_run_fixFile (path : Text) (issues : List Issue) (f : Fixer (Journaled σ)) :
    ((fixFile w.journaled path issues).run f).2.calls =
      f.calls ++ fileCalls w path issues (f.mapExtra Journaled.own) := by
  have hbehind := ((mirrors_behind w f.calls).fixFile path issues).run
    (f.mapExtra Journaled.own).journaling
  have hf : (f.mapExtra Journaled.own).journaling.mapExtra (Journaled.behind f.calls) = f := by
    simp [journaling, Fixer.mapExtra, Held.mapExtra, World.mapExtra, Journaled.behind, Fixer.calls]
  rw [hf] at hbehind
  rw [hbehind]
  rfl

/-- A visit in the run without a journal. -/
theorem run_visit_own {g : FileGroup} {total number : Nat} {f f' : Fixer (Journaled σ)}
    {r : Except Fault FileResult}
    (h : Visit.run w.journaled ⟨g, f.announced total number g⟩ = (r, f')) :
    Visit.run w ⟨g, (f.mapExtra Journaled.own).announced total number g⟩ =
      (r, f'.mapExtra Journaled.own) := by
  have hown := ((mirrors_own w).fixFile g.path g.issues).run (f.announced total number g)
  rw [Visit.run] at h
  rw [h] at hown
  exact hown

theorem calls_visit {g : FileGroup} {total number : Nat} {f f' : Fixer (Journaled σ)}
    {r : Except Fault FileResult}
    (h : Visit.run w.journaled ⟨g, f.announced total number g⟩ = (r, f')) :
    f'.calls = f.calls ++
      fileCalls w g.path g.issues ((f.mapExtra Journaled.own).announced total number g) := by
  have hcalls := calls_run_fixFile (w := w) g.path g.issues (f.announced total number g)
  rw [Visit.run] at h
  rw [h] at hcalls
  exact hcalls

/-- The calls of the visits to files, one visit after the other. -/
def visitCalls (w : Workshop σ) (vs : List (Visit σ)) : List Call :=
  vs.flatMap fun v => fileCalls w v.group.path v.group.issues v.before

theorem calls_fixedAll {total number : Nat} {groups : List FileGroup} {f f' : Fixer (Journaled σ)}
    {r : Except Fault (List FileResult × List Text)}
    (h : FixedAll w.journaled total number groups f r f') :
    f'.calls =
      f.calls ++ visitCalls w (visitsFrom w total number groups (f.mapExtra Journaled.own)) := by
  induction h with
  | done => simp [visitsFrom, visitCalls]
  | @stopped number g rest f hc =>
      have hown : (f.mapExtra Journaled.own).world.cancelled = true := hc
      rw [visitsFrom_stopped hown]
      exact (List.append_nil _).symm
  | @broken number g rest f f' e hc hv =>
      have hown : (f.mapExtra Journaled.own).world.cancelled = false := hc
      rw [calls_visit hv, visitsFrom_broken hown (run_visit_own hv)]
      simp [visitCalls]
  | @next number g rest f f' f'' result r hc hv hrest ih =>
      have hown : (f.mapExtra Journaled.own).world.cancelled = false := hc
      rw [ih, calls_visit hv, visitsFrom_next hown (run_visit_own hv)]
      simp [visitCalls]

/-- A call that asks whether the project compiles or passes its tests. -/
def Call.IsCheck (c : Call) : Prop :=
  ∃ answer, c.exchange = .compile answer ∨ c.exchange = .test answer

theorem calls_of_quiet {f g : Fixer (Journaled σ)} (h : g.world.quiet = f.world.quiet) :
    g.calls = f.calls := congrArg (fun s => s.extra.calls) h

theorem Checked.calls {failure : Text} {exchange : Except Fault BuildOutcome → Exchange}
    {a : Act (World σ) BuildOutcome} {f f' : Fixer (Journaled σ)} {r : Except Fault BuildOutcome}
    (h : Checked failure (noted exchange a) f r f') :
    ∃ answer t, f'.calls = f.calls ++ [⟨exchange answer, f.world.tree, t⟩] := by
  have hnoted := calls_noted exchange a f.world
  cases h with
  | interrupted ha =>
      rw [ha] at hnoted
      exact ⟨_, _, hnoted⟩
  | answered ha =>
      rw [ha] at hnoted
      exact ⟨_, _, hnoted⟩
  | failed ha _ =>
      rw [ha] at hnoted
      exact ⟨_, _, hnoted⟩

/-- The check at the end asks for no draft. -/
theorem Certified.calls {report : Report} {f f' : Fixer (Journaled σ)} {r : Except Fault Report}
    (h : Certified w.journaled report f r f') :
    ∃ final, f'.calls = f.calls ++ final ∧ ∀ c ∈ final, c.IsCheck := by
  have hbuilt {r : Except Fault BuildOutcome} {g : Fixer (Journaled σ)}
      (hb : Checked buildFailure (w.journaled.validator.compile w.projectDir) f.building r g) :
      ∃ call, g.calls = f.calls ++ [call] ∧ call.IsCheck := by
    obtain ⟨answer, t, hcalls⟩ := Checked.calls hb
    exact ⟨_, hcalls, answer, .inl rfl⟩
  have htested {r : Except Fault BuildOutcome} {g f' : Fixer (Journaled σ)}
      (hc : Checked testFailure (w.journaled.validator.test w.projectDir) g.testing r f') :
      ∃ call, f'.calls = g.calls ++ [call] ∧ call.IsCheck := by
    obtain ⟨answer, t, hcalls⟩ := Checked.calls hc
    exact ⟨_, hcalls, answer, .inr rfl⟩
  cases h with
  | unbuilt hb =>
      obtain ⟨call, hcall, hcheck⟩ := hbuilt hb
      exact ⟨[call], hcall, by simpa using hcheck⟩
  | built hb _ =>
      obtain ⟨call, hcall, hcheck⟩ := hbuilt hb
      exact ⟨[call], hcall, by simpa using hcheck⟩
  | untested hb _ hc =>
      obtain ⟨call, hcall, hcheck⟩ := hbuilt hb
      obtain ⟨call', hcall', hcheck'⟩ := htested hc
      exact ⟨[call, call'], by simp [hcall', hcall], by simpa using ⟨hcheck, hcheck'⟩⟩
  | @tested _ tests _ g' hb _ hc =>
      obtain ⟨call, hcall, hcheck⟩ := hbuilt hb
      obtain ⟨call', hcall', hcheck'⟩ := htested hc
      have hquiet := calls_of_quiet (quiet_tested g' tests.ok)
      exact ⟨[call, call'], by simp [hquiet, hcall', hcall], by simpa using ⟨hcheck, hcheck'⟩⟩

/-- Where files are picked, the calls of the work on them are those of the visits. -/
theorem calls_of_select {plan : Plan} {keys : Option (List Value)} {f : Fixer σ} {s : Selection}
    {g g' : Fixer (Journaled σ)} {r : Except Fault (List FileResult × List Text)}
    (hs : (select plan keys).run f.journaling = (.ok s, g))
    (hf : FixedAll w.journaled s.groups.length 1 s.groups g r g') :
    g'.calls = visitCalls w (visits w plan keys f) := by
  have hselect := (Workshop.Mirrors.select (g := Journaled.own) plan keys).run f.journaling
  rw [hs] at hselect
  replace hselect : (select plan keys).run f = (.ok s, g.mapExtra Journaled.own) := hselect
  have hquiet := quiet_run_select plan keys f.journaling
  rw [hs] at hquiet
  have hstart : g.calls = [] := calls_of_quiet hquiet
  rw [calls_fixedAll hf, hstart, (visits_of_select hselect).1, List.nil_append]

/-- The calls of a run are those of the visits to the files, and those of the check at the end. -/
theorem runCalls_eq (w : Workshop σ) (plan : Plan) (keys : Option (List Value)) (f : Fixer σ) :
    ∃ final, runCalls w plan keys f = visitCalls w (visits w plan keys f) ++ final ∧
      ∀ c ∈ final, c.IsCheck := by
  have hran := ran_run w.journaled plan keys f.journaling
  rw [runCalls]
  generalize ((run w.journaled plan keys).run f.journaling).2 = f' at hran
  generalize ((run w.journaled plan keys).run f.journaling).1 = r at hran
  cases hran with
  | unselected hs =>
      have hselect := (Workshop.Mirrors.select (g := Journaled.own) plan keys).run f.journaling
      have hquiet := quiet_run_select plan keys f.journaling
      replace hselect : (select plan keys).run f = _ := hselect
      rw [hs] at hselect hquiet
      refine ⟨[], ?_, by simp⟩
      rw [visits, hselect]
      exact calls_of_quiet hquiet
  | broken hs hf => exact ⟨[], by rw [calls_of_select hs hf, List.append_nil], by simp⟩
  | @idle s skipped g g' hs hf =>
      refine ⟨[], ?_, by simp⟩
      rw [calls_of_quiet (quiet_summarized g' _), calls_of_select hs hf, List.append_nil]
  | unchecked hs hf _ hc =>
      obtain ⟨final, hfinal, hchecks⟩ := hc.calls
      exact ⟨final, by rw [hfinal, calls_of_select hs hf], hchecks⟩
  | @checked s results skipped report g g' f' hs hf _ hc =>
      obtain ⟨final, hfinal, hchecks⟩ := hc.calls
      refine ⟨final, ?_, hchecks⟩
      rw [calls_of_quiet (quiet_summarized f' report), hfinal, calls_of_select hs hf]

end

/-- In a run whose collaborators leave the files alone, all calls but those of the check at the end
belong to attempts in which the drafter finds the file as it was when it was started, and the compiler
finds the candidate just drafted and nothing else changed. An attempt without a candidate does
nothing behind the drafter's answer. -/
theorem run_seenAsStarted (w : Workshop σ) (hkeeps : w.Keeps World.tree) (plan : Plan)
    (keys : Option (List Value)) (f : Fixer σ) :
    (∃ final, runCalls w plan keys f = visitCalls w (visits w plan keys f) ++ final ∧
        ∀ c ∈ final, c.IsCheck) ∧
      (∀ v ∈ visits w plan keys f, SeenAsStarted w v.group.path v.group.issues v.before) ∧
      ∀ path issues number feedback (g : Fixer σ),
        let asked := (w.drafter (feedback.request path g.backup.baselineText issues)).run
          (g.entered path .drafting (some number)).world
        let out := (attemptOnce w path issues number feedback).run g
        ((∃ e, asked.1 = .error e) ∨ ∃ reason, out.1 = .ok (.invalidOutput reason)) →
          out.2.world = asked.2 := by
  refine ⟨runCalls_eq w plan keys f, fun v _ => seenAsStarted hkeeps .., ?_⟩
  intro path issues number feedback g asked out hr
  exact (attempted_attemptOnce w path issues number feedback g).world_eq rfl hr

/-- Three attempts, of which none compiles, and the check at the end. -/
theorem run_seenAsStarted_emptyFile :
    (runCalls (small false) smallPlan none emptyFile).length = 8 ∧
      (visits (small false) smallPlan none emptyFile).length = 1 ∧
      ∀ v ∈ visits (small false) smallPlan none emptyFile,
        SeenAsStarted (small false) v.group.path v.group.issues v.before := by
  have hseen := run_seenAsStarted (small false) (Workshop.keeps_still ..) smallPlan none emptyFile
  exact ⟨by decide +kernel, by decide +kernel, hseen.2.1⟩

end Mend.Fix
