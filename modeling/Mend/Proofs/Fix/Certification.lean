import Mend.Proofs.Fix.Run
import Mend.Proofs.Fix.Undoing

/-!
# The check at the end agrees with the commits

If the collaborators leave the files alone and writes succeed, a file whose change is not accepted is
left as it was, to the byte. So the tree that is compiled at the end is the tree that was compiled
when the last change was accepted, or the one that there was at the beginning.

## Main definitions

* `Fix.passes` — whether an answer of the compiler counts as a success.
* `Fix.LastCommit` — a tree that is the one at the last commit, if there was any.
-/

namespace Mend.Fix

variable {σ : Type}

open Fixer

/-- Whether an answer of the compiler counts as a success. -/
def passes : Except Fault BuildOutcome → Bool
  | .ok outcome => outcome.ok
  | .error _ => false

/-- Whether the visit to a file ended with an accepted change. -/
def Visit.isCommitted (w : Workshop σ) (v : Visit σ) : Bool := hasCommitted (v.run w).1

/-! ## One file -/

section

variable {w : Workshop σ} {path : Text} {issues : List Issue} {f f' : Fixer σ}

/-- Nothing stands in the way of the work: the disk does what it is asked, and the compiler is never
interrupted, unless every file can be looked at. -/
structure Workshop.Unimpeded (w : Workshop σ) (s : World σ) : Prop where
  done : ∀ n, s.disk n = .done
  calm : (∀ s', ((w.validator.compile w.projectDir).run s').1 ≠ .error .interrupted) ∨
    w.Keeps World.sight ∧ ∀ n, s.sight n = none

theorem Workshop.Unimpeded.of_eq {s s' : World σ} (h : w.Unimpeded s) (hdisk : s'.disk = s.disk)
    (hsight : w.Keeps World.sight → s'.sight = s.sight) : w.Unimpeded s' := by
  refine ⟨fun n => (congrFun hdisk n).trans (h.done n), h.calm.imp_right ?_⟩
  rintro ⟨hkeeps, hclear⟩
  exact ⟨hkeeps, fun n => (congrFun (hsight hkeeps) n).trans (hclear n)⟩

theorem Workshop.Unimpeded.of_quiet {s s' : World σ} (h : w.Unimpeded s) (hquiet : s'.quiet = s.quiet) :
    w.Unimpeded s' :=
  h.of_eq (congrArg (·.disk) hquiet) fun _ => congrArg (·.sight) hquiet

theorem respects_unimpeded (hdisk : w.Keeps World.disk) (p : Path) :
    w.Respects p fun s s' => w.Unimpeded s → w.Unimpeded s' where
  trans h h' hs := h' (h hs)
  touched h hs := hs.of_eq h.disk fun _ => h.sight
  drafter r s hs := hs.of_eq (hdisk.drafter r s) fun hkeeps => hkeeps.drafter r s
  compile s hs := hs.of_eq (hdisk.compile _ s) fun hkeeps => hkeeps.compile _ s

theorem respects_disk (hkeeps : w.Keeps World.disk) (p : Path) :
    w.Respects p fun s s' => s'.disk = s.disk :=
  Workshop.respects_of_keeps hkeeps.drafter hkeeps.compile (·.disk)

theorem spares_of_keeps (htree : w.Keeps World.tree) (hdisk : w.Keeps World.disk) (p : Path) (t : Tree) :
    w.Spares p t where
  drafter r s := ⟨htree.drafter r s, hdisk.drafter r s⟩
  compile s _ := ⟨htree.compile _ s, hdisk.compile _ s⟩

/-- A file whose change is not accepted leaves the whole tree as it was. -/
theorem Fixed.tree_eq {r : Except Fault FileResult} (htree : w.Keeps World.tree)
    (hdisk : w.Keeps World.disk) (hfree : w.Unimpeded f.world) (h : Fixed w path issues f r f')
    (hr : hasCommitted r = false) : f'.world.tree = f.world.tree := by
  have hleaving := (respects_unimpeded hdisk (w.projectDir.child path)).leaving issues f hfree
  refine h.tree_eq_of_spares (spares_of_keeps htree hdisk _ _) rfl rfl hr hfree.done ?_
  refine hleaving.calm.imp (fun hcalm => ?_) And.right
  rintro ⟨s, -, hs⟩
  exact hcalm s hs

end

/-! ## All files -/

/-- The second tree is the one that the last committed visit left, or the first one if there is no
committed visit. -/
def LastCommit (w : Workshop σ) (vs : List (Visit σ)) (t t' : Tree) : Prop :=
  ((∀ v ∈ vs, v.isCommitted w = false) ∧ t' = t) ∨
    ∃ earlier v later, vs = earlier ++ v :: later ∧ v.isCommitted w = true ∧
      (∀ u ∈ later, u.isCommitted w = false) ∧ t' = (v.run w).2.world.tree

/-- One more visit before the others. -/
theorem LastCommit.cons {w : Workshop σ} {v : Visit σ} {vs : List (Visit σ)} {t t' : Tree}
    (hv : v.isCommitted w = false → (v.run w).2.world.tree = t)
    (h : LastCommit w vs (v.run w).2.world.tree t') : LastCommit w (v :: vs) t t' := by
  rcases h with ⟨hnone, htree⟩ | ⟨earlier, u, later, hvs, hcommitted, hlater, htree⟩
  · cases hc : v.isCommitted w with
    | true => exact .inr ⟨[], v, vs, rfl, hc, hnone, htree⟩
    | false => exact .inl ⟨by simpa using ⟨hc, hnone⟩, htree.trans (hv hc)⟩
  · exact .inr ⟨v :: earlier, u, later, by rw [hvs]; rfl, hcommitted, hlater, htree⟩

section

variable {w : Workshop σ} {total number : Nat} {groups : List FileGroup} {f f' : Fixer σ}
  (htree : w.Keeps World.tree) (hdisk : w.Keeps World.disk)
include htree hdisk

end

/-! ## The check -/

/-- A check leaves the world as the action that was checked leaves it, but for the log. -/
theorem Checked.quiet_eq {failure : Text} {a : Act (World σ) BuildOutcome} {f f' : Fixer σ}
    {r : Except Fault BuildOutcome} (h : Checked failure a f r f') :
    f'.world.quiet = (a.run f.world).2.quiet := by
  cases h with
  | interrupted ha | answered ha | failed ha _ => rw [ha]; rfl

theorem Checked.tree_eq {failure : Text} {a : Act (World σ) BuildOutcome} {f f' : Fixer σ}
    {r : Except Fault BuildOutcome} (h : Checked failure a f r f')
    (ha : ∀ s, (a.run s).2.tree = s.tree) : f'.world.tree = f.world.tree := by
  have htree : f'.world.tree = (a.run f.world).2.tree := congrArg (·.tree) h.quiet_eq
  exact htree.trans (ha f.world)

/-- A check says whether the action that was checked ended well. -/
theorem Checked.ok_eq {failure : Text} {a : Act (World σ) BuildOutcome} {f f' : Fixer σ}
    {outcome : BuildOutcome} (h : Checked failure a f (.ok outcome) f') :
    outcome.ok = passes (a.run f.world).1 := by
  cases h with
  | answered hr =>
      rw [hr]
      rfl
  | failed hr _ =>
      rw [hr]
      rfl

/-- The check at the end compiles the tree that is there, and reports what comes of it. -/
theorem Certified.report_eq {w : Workshop σ} {verdict : Tree → Except Fault BuildOutcome}
    (hverdict : ∀ s, ((w.validator.compile w.projectDir).run s).1 = verdict s.tree)
    (htree : w.Keeps World.tree) {r report : Report} {f f' : Fixer σ}
    (h : Certified w r f (.ok report) f') :
    report.results = r.results ∧ report.buildPassed = some (passes (verdict f.world.tree)) ∧
      f'.world.tree = f.world.tree := by
  have hv : ((w.validator.compile w.projectDir).run f.building.world).1 = verdict f.world.tree :=
    hverdict _
  cases h with
  | built hb _ =>
      have hbuilt := hb.tree_eq (htree.compile _)
      exact ⟨rfl, by rw [← hv, ← hb.ok_eq]; rfl, hbuilt⟩
  | @tested build tests g f' hb _ hc =>
      have hbuilt := hb.tree_eq (htree.compile _)
      have htested := hc.tree_eq (htree.test _)
      have hquiet : (f'.tested tests.ok).world.tree = f'.world.tree :=
        congrArg (·.tree) (quiet_tested f' tests.ok)
      exact ⟨rfl, by rw [← hv, ← hb.ok_eq]; rfl, hquiet.trans (htested.trans hbuilt)⟩

/-! ## Whole runs -/

/-- What the compiler saw and accepted when the last change was accepted. -/
theorem Visit.accepted {w : Workshop σ} (htree : w.Keeps World.tree) {v : Visit σ}
    (hv : v.isCommitted w = true) :
    ∃ bytes found, EndsAccepted (v.target w) bytes found.tree
        (fileCalls w v.group.path v.group.issues v.before) ∧
      w.Accepts found ∧ (v.run w).2.world.tree = found.tree := by
  have hfixed := fixed_fixFile w.journaled v.group.path v.group.issues v.before.journaling
  have hout := run_fixFile_eq w v.group.path v.group.issues v.before
  rw [Visit.isCommitted, Visit.run, hout] at hv
  cases hr : ((fixFile w.journaled v.group.path v.group.issues).run v.before.journaling).1 with
  | error e =>
      rw [hr] at hv
      cases hv
  | ok result =>
      rw [hr] at hv hfixed
      obtain ⟨bytes, found, haccepted⟩ := hfixed.acceptedIn hv
      refine ⟨bytes, found, haccepted.ends, haccepted.accepts, ?_⟩
      rw [Visit.run, hout]
      exact haccepted.tree_eq htree

end Mend.Fix
