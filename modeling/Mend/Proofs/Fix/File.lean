import Mend.Proofs.Fix.Attempt

/-!
# What the work on a file does

The attempts at a file are made with its old contents kept. Whatever way they end, the file is let go
of afterwards, and only a change that was accepted stays.

## Main definitions

* `Fix.Made` — what it means that all attempts at a file are made.
* `Fix.Kept` — the ways in which the attempts with the old contents kept end.
* `Fix.Fixed` — the ways in which the whole work on a file ends.
* `Fix.leavingHeld`, `Fix.leavingWorld` — the file under repair and the world when it is let go of.
-/

namespace Mend.Fix

variable {σ : Type}

open Fixer

/-! ## What attempts leave alone -/

section

variable {w : Workshop σ} {path : Text} {issues : List Issue} {left number : Nat}
  {feedback : Feedback} {candidate : Text} {f f' : Fixer σ}

/-- The backup is of the same file, and as much accepted. -/
structure SameKept (b b' : Backup) : Prop where
  path : b'.path = b.path
  baseline : b'.baseline = b.baseline
  committed : b'.committed = b.committed

namespace SameKept

theorem refl (b : Backup) : SameKept b b := ⟨rfl, rfl, rfl⟩

theorem trans {b b' b'' : Backup} (h : SameKept b b') (h' : SameKept b' b'') : SameKept b b'' :=
  ⟨h'.path.trans h.path, h'.baseline.trans h.baseline, h'.committed.trans h.committed⟩

theorem of_restored {force : Bool} {h h' : Held σ} {r : Except Fault Unit}
    (hr : Backup.Restored force h r h') : SameKept h.backup h'.backup := by
  rcases hr.backup with hb | hb <;> rw [hb]
  · exact refl _
  · exact ⟨rfl, rfl, rfl⟩

end SameKept

theorem Judged.kept {r : Except Fault Ending} (h : Judged w f r f') :
    SameKept f.backup f'.backup := by
  cases h with
  | interrupted _ => exact .refl _
  | accepted _ _ => exact .refl _
  | rejected _ _ hr =>
      have hkept := SameKept.of_restored hr
      exact hkept

theorem Validated.kept {r : Except Fault Ending} (h : Validated w candidate f r f') :
    SameKept f.backup f'.backup := by
  have hchanged : SameKept f.backup f.backup.changed := ⟨rfl, rfl, rfl⟩
  cases h with
  | unencodable _ => exact hchanged
  | unwritten _ _ hr => exact hchanged.trans (SameKept.of_restored hr)
  | unnameable _ _ _ => exact hchanged
  | judged _ _ hj => exact hchanged.trans hj.kept

theorem Attempted.kept {r : Except Fault Ending}
    (h : Attempted w path issues number feedback f r f') : SameKept f.backup f'.backup := by
  cases h with
  | interrupted _ => exact .refl _
  | unanswered _ _ => exact .refl _
  | unusable _ _ => exact .refl _
  | validated _ _ hv => exact hv.kept

@[simp] theorem Fixer.backup_refused (f : Fixer σ) (path : Text) (number : Nat) (ending : Ending)
    (again : Bool) : (f.refused path number ending again).backup = f.backup := by
  cases again <;> rfl

@[simp] theorem Fixer.quiet_refused (f : Fixer σ) (path : Text) (number : Nat) (ending : Ending)
    (again : Bool) : (f.refused path number ending again).world.quiet = f.world.quiet := by
  cases again <;> rfl

/-- The attempts at a file leave its backup as it is, except that an accepted change is noted. -/
theorem Attempts.kept {r : Except Fault (Option Text)}
    (h : Attempts w path issues left number feedback f r f') :
    f'.backup.path = f.backup.path ∧ f'.backup.baseline = f.backup.baseline ∧
      (f.backup.committed = false → (f'.backup.committed = true ↔ r = .ok none)) := by
  induction h with
  | givenUp => simp
  | broken h =>
      have hkept := h.kept
      simp [hkept.path, hkept.baseline, hkept.committed]
  | accepted h =>
      have hkept := h.kept
      exact ⟨hkept.path, hkept.baseline, fun _ => by simp [Fixer.accepted]⟩
  | refused h _ _ ih =>
      have hkept := h.kept
      simpa [hkept.path, hkept.baseline, hkept.committed] using ih

end

/-! ## The attempts with the old contents kept -/

namespace Fixer

/-- The state of a run in which the contents of a file are kept. -/
def keeping (f : Fixer σ) (path : Path) (baseline : Bytes) : Fixer σ :=
  f.withHeld ⟨f.world.copied, Backup.keeping path baseline (f.world.copyName f.world.writes)⟩

end Fixer

/-- All attempts at a file are made, from its old contents to a result and a state of the run. -/
structure Made (w : Workshop σ) (path : Text) (issues : List Issue) (f : Fixer σ) (old : Bytes)
    (r : Except Fault (Option Text)) (f' : Fixer σ) : Prop where
  read : f.world.reading (w.projectDir.child path) = .ok old
  loop : (attemptLoop w path issues).run (f.keeping (w.projectDir.child path) old) = (r, f')
  run : (attempted w path issues).run f = (.ok r, f')

/-- The ways in which the attempts with the old contents kept end. -/
inductive Kept (w : Workshop σ) (path : Text) (issues : List Issue) (f : Fixer σ) :
    Except Fault (Bool × Option Text) → Fixer σ → Prop
  /-- The file cannot be read or not be copied. -/
  | unkept {e : Fault} {h : Held σ}
      (hentered : Backup.Entered (w.projectDir.child path) f.toHeld (.error e) h) :
      Kept w path issues f (.error e) (f.withHeld h)
  | committed {old : Bytes} {f' : Fixer σ} {left : Except Fault Unit} {h : Held σ}
      (hmade : Made w path issues f old (.ok none) f')
      (hleave : Backup.leave.run f'.toHeld = (left, h)) :
      Kept w path issues f (left.map fun () => (true, none)) (f'.withHeld h)
  | undone {old : Bytes} {r : Except Fault (Option Text)} {f' : Fixer σ}
      {left : Except Fault Unit} {h : Held σ} (hmade : Made w path issues f old r f')
      (hr : r ≠ .ok none) (hleave : Backup.leave.run f'.toHeld = (left, h)) :
      Kept w path issues f (left.bind fun () => r.map (false, ·)) (f'.withHeld h)

/-- The work on a file begins with its old contents kept, or it does not begin. -/
theorem entered_or_made (w : Workshop σ) (path : Text) (issues : List Issue) (f : Fixer σ) :
    (∃ e h, Backup.Entered (w.projectDir.child path) f.toHeld (.error e) h ∧
        (attempted w path issues).run f = (.error e, f.withHeld h)) ∨
      ∃ old r f', Made w path issues f old r f' := by
  have hentered := Backup.entered_enter (w.projectDir.child path) f.toHeld
  rcases henter : (Backup.enter (w.projectDir.child path)).run f.toHeld with ⟨e | u, h⟩
  · rw [henter] at hentered
    refine .inl ⟨e, h, hentered, ?_⟩
    simp [attempted, Act.run_bind, henter, withHeld]
  · rw [henter] at hentered
    cases hentered with
    | @kept old hread =>
        rcases hloop : (attemptLoop w path issues).run (f.keeping (w.projectDir.child path) old)
          with ⟨r, f'⟩
        refine .inr ⟨old, r, f', hread, hloop, ?_⟩
        have hbegun := hloop
        simp only [keeping, withHeld] at hbegun
        simp [attempted, Act.run_bind, henter, hbegun]

theorem attempts_of_run {w : Workshop σ} {path : Text} {issues : List Issue} {f f' : Fixer σ}
    {r : Except Fault (Option Text)} (h : (attemptLoop w path issues).run f = (r, f')) :
    Attempts w path issues w.settings.maxAttempts 1 {} f r f' := by
  have ha := attempts_attemptsFrom w path issues w.settings.maxAttempts 1 {} f
  rw [attemptLoop] at h
  rwa [h] at ha

namespace Made

variable {w : Workshop σ} {path : Text} {issues : List Issue} {f f' : Fixer σ} {old : Bytes}
  {r : Except Fault (Option Text)}

theorem attempts (h : Made w path issues f old r f') :
    Attempts w path issues w.settings.maxAttempts 1 {} (f.keeping (w.projectDir.child path) old) r
      f' :=
  attempts_of_run h.loop

theorem path_eq (h : Made w path issues f old r f') :
    f'.backup.path = w.projectDir.child path := h.attempts.kept.1

theorem baseline_eq (h : Made w path issues f old r f') : f'.backup.baseline = old :=
  h.attempts.kept.2.1

theorem committed_iff (h : Made w path issues f old r f') :
    f'.backup.committed = true ↔ r = .ok none := h.attempts.kept.2.2 rfl

end Made

theorem kept_fixKept (w : Workshop σ) (path : Text) (issues : List Issue) (f : Fixer σ) :
    Kept w path issues f ((fixKept w path issues).run f).1 ((fixKept w path issues).run f).2 := by
  rcases entered_or_made w path issues f with ⟨e, h, hentered, hattempted⟩ | ⟨old, r, f', hmade⟩
  · have hrun : (fixKept w path issues).run f = (.error e, f.withHeld h) := by
      simp [fixKept, Act.run_bind, hattempted]
    rw [hrun]
    exact .unkept hentered
  · rcases hleave : Backup.leave.run f'.toHeld with ⟨left, h⟩
    have hrun : (fixKept w path issues).run f =
        (left.bind fun () => r.map (f'.backup.committed, ·), f'.withHeld h) := by
      cases left <;> cases r <;>
        simp [fixKept, Act.run_bind, hmade.run, hleave, withHeld, Except.map, Except.bind]
    rw [hrun]
    by_cases hr : r = .ok none
    · rw [hmade.committed_iff.2 hr]
      subst hr
      exact .committed hmade hleave
    · rw [Bool.eq_false_iff.2 fun hc => hr (hmade.committed_iff.1 hc)]
      exact .undone hmade hr hleave

/-! ## The whole work -/

namespace Fixer

/-- The state of a run that has taken up a file. -/
def takenUp (f : Fixer σ) (path : Text) : Fixer σ := ((takeUp path).run f).2

/-- The state of a run in which it is on record how the work on a file ended. -/
def concluded (f : Fixer σ) (path : Text) (committed : Bool) : Fixer σ :=
  ((conclude path [] committed none).run f).2

/-- The state of a run in which a failed file operation gave a file up. -/
def contained (f : Fixer σ) (path : Text) (fault : FileFault) : Fixer σ :=
  (f.said Log.error [.cat ["Cannot process ", path, ": ", fault.message]]).concluded path false

variable (f : Fixer σ) (path : Text) (committed : Bool) (fault : FileFault)

theorem run_takeUp : (takeUp path).run f = (.ok (), f.takenUp path) := rfl

theorem run_conclude (issues : List Issue) (error : Option Text) :
    (conclude path issues committed error).run f =
      (.ok (resultOf path issues f.attempts committed error), f.concluded path committed) := by
  cases committed <;> rfl

@[simp] theorem quiet_concluded : (f.concluded path committed).world.quiet = f.world.quiet := by
  cases committed <;> rfl

@[simp] theorem tree_concluded : (f.concluded path committed).world.tree = f.world.tree := by
  cases committed <;> rfl

@[simp] theorem extra_concluded : (f.concluded path committed).world.extra = f.world.extra := by
  cases committed <;> rfl

end Fixer

/-- The ways in which the work on a file ends. -/
inductive Fixed (w : Workshop σ) (path : Text) (issues : List Issue) (f : Fixer σ) :
    Except Fault FileResult → Fixer σ → Prop
  | concluded {committed : Bool} {error : Option Text} {f' : Fixer σ}
      (hk : Kept w path issues (f.takenUp path) (.ok (committed, error)) f') :
      Fixed w path issues f (.ok (resultOf path issues f'.attempts committed error))
        (f'.concluded path committed)
  /-- A file operation failed. -/
  | contained {fault : FileFault} {f' : Fixer σ}
      (hk : Kept w path issues (f.takenUp path) (.error (.file fault)) f') :
      Fixed w path issues f (.ok (resultOf path issues f'.attempts false
        (some (.cat ["Cannot process ", path, ": ", fault.message])))) (f'.contained path fault)
  | broken {e : Fault} {f' : Fixer σ}
      (hk : Kept w path issues (f.takenUp path) (.error e) f') (he : ∀ fault, e ≠ .file fault) :
      Fixed w path issues f (.error e) f'

theorem fixed_fixFile (w : Workshop σ) (path : Text) (issues : List Issue) (f : Fixer σ) :
    Fixed w path issues f ((fixFile w path issues).run f).1 ((fixFile w path issues).run f).2 := by
  have hk := kept_fixKept w path issues (f.takenUp path)
  rcases hkept : (fixKept w path issues).run (f.takenUp path) with ⟨e | ⟨committed, error⟩, f'⟩
  · rw [hkept] at hk
    by_cases hfile : ∃ fault, e = .file fault
    · obtain ⟨fault, rfl⟩ := hfile
      have hrun : (fixFile w path issues).run f =
          (.ok (resultOf path issues f'.attempts false
            (some (.cat ["Cannot process ", path, ": ", fault.message]))),
            f'.contained path fault) := by
        simp [fixFile, Act.run_bind, run_takeUp, hkept, verdict, run_conclude,
          Fixer.contained, said]
      rw [hrun]
      exact .contained hk
    · have hrun : (fixFile w path issues).run f = (.error e, f') := by
        cases e <;> simp_all [fixFile, Act.run_bind, run_takeUp, verdict]
      rw [hrun]
      exact .broken hk fun fault he => hfile ⟨fault, he⟩
  · rw [hkept] at hk
    have hrun : (fixFile w path issues).run f =
        (.ok (resultOf path issues f'.attempts committed error),
          f'.concluded path committed) := by
      simp [fixFile, Act.run_bind, run_takeUp, hkept, verdict, run_conclude]
    rw [hrun]
    exact .concluded hk

/-! ## What holds from one end of the work to the other -/

/-- A relation between worlds that nothing done to the file at a path can break: neither the steps of
the fix, which write that file only, nor what the collaborators do meanwhile. -/
structure Workshop.Respects (w : Workshop σ) (p : Path) (R : World σ → World σ → Prop) : Prop where
  trans : ∀ {s s' s''}, R s s' → R s' s'' → R s s''
  touched : ∀ {s s'}, World.Touched p s s' → R s s'
  drafter : ∀ r s, R s ((w.drafter r).run s).2
  compile : ∀ s, R s ((w.validator.compile w.projectDir).run s).2

section

variable {w : Workshop σ} {R : World σ → World σ → Prop} {path : Text} {issues : List Issue}
  {left number : Nat} {feedback : Feedback} {candidate : Text} {p : Path} {f f' : Fixer σ}
  (hR : w.Respects p R)
include hR

namespace Workshop.Respects

theorem quiet {s s' : World σ} (h : s'.quiet = s.quiet) : R s s' := hR.touched (.of_quiet p h)

theorem drafter_of_run {r : Drafting.Request} {s s' : World σ} {answer : Except Fault Drafting.Draft}
    (h : (w.drafter r).run s = (answer, s')) : R s s' := by
  have hd := hR.drafter r s
  rwa [h] at hd

theorem compile_of_run {s s' : World σ} {answer : Except Fault BuildOutcome}
    (h : (w.validator.compile w.projectDir).run s = (answer, s')) : R s s' := by
  have hc := hR.compile s
  rwa [h] at hc

theorem judged {r : Except Fault Ending} (h : Judged w f r f') (hp : f.backup.path = p) :
    R f.world f'.world := by
  subst hp
  cases h with
  | interrupted hc => exact hR.compile_of_run hc
  | accepted hc _ => exact hR.compile_of_run hc
  | rejected hc _ hr => exact hR.trans (hR.compile_of_run hc) (hR.touched hr.touched)

theorem validated {r : Except Fault Ending} (h : Validated w candidate f r f')
    (hp : f.backup.path = p) : R f.world f'.world := by
  subst hp
  cases h with
  | unencodable _ => exact hR.touched (.refl ..)
  | unwritten _ hw hr =>
      exact hR.trans (hR.touched (World.wrote_of_run hw).touched) (hR.touched hr.touched)
  | unnameable _ hw _ => exact hR.touched (World.wrote_of_run hw).touched
  | judged _ hw hj =>
      exact hR.trans (hR.touched (World.wrote_of_run hw).touched) (hR.judged hj rfl)

theorem attempted {r : Except Fault Ending} (h : Attempted w path issues number feedback f r f')
    (hp : f.backup.path = p) : R f.world f'.world := by
  have hentered : R f.world (f.entered path .drafting (some number)).world := hR.quiet rfl
  cases h with
  | interrupted hd => exact hR.trans hentered (hR.drafter_of_run hd)
  | unanswered hd _ => exact hR.trans hentered (hR.drafter_of_run hd)
  | unusable hd _ => exact hR.trans hentered (hR.drafter_of_run hd)
  | @validated d s _ _ _ hd _ hv =>
      have hdrafted := hR.trans hentered (hR.drafter_of_run hd)
      have hnoted := hR.quiet (quiet_entered
        (((f.entered path .drafting (some number)).inWorld s).consumed d.usage) path .validating
        (some number))
      exact hR.trans hdrafted (hR.trans hnoted (hR.validated hv hp))

theorem attempts {r : Except Fault (Option Text)}
    (h : Attempts w path issues left number feedback f r f') (hp : f.backup.path = p) :
    R f.world f'.world := by
  induction h with
  | givenUp => exact hR.quiet rfl
  | broken h => exact hR.attempted h hp
  | accepted h => exact hR.trans (hR.attempted h hp) (hR.quiet rfl)
  | refused h _ _ ih =>
      refine hR.trans (hR.attempted h hp) (hR.trans (hR.quiet (quiet_refused ..)) (ih ?_))
      rw [backup_refused, h.kept.path, hp]

/-- The old contents are kept without anything being changed. -/
theorem copied (s : World σ) : R s s.copied := hR.touched ⟨.refl .., rfl, rfl, rfl, rfl⟩

theorem made {old : Bytes} {r : Except Fault (Option Text)} (h : Made w path issues f old r f')
    (hp : w.projectDir.child path = p) : R f.world f'.world :=
  hR.trans (hR.copied f.world) (hR.attempts h.attempts hp)

theorem left_of_run {old : Bytes} {r : Except Fault (Option Text)} {released : Except Fault Unit}
    {h : Held σ} (hmade : Made w path issues f old r f') (hp : w.projectDir.child path = p)
    (hleave : Backup.leave.run f'.toHeld = (released, h)) : R f.world h.world := by
  have htouched := (Backup.left_of_run hleave).touched
  rw [hmade.path_eq, hp] at htouched
  exact hR.trans (hR.made hmade hp) (hR.touched htouched)

theorem entered {e : Fault} {h : Held σ} (hentered : Backup.Entered p f.toHeld (.error e) h) :
    R f.world h.world := by
  cases hentered with
  | unread _ => exact hR.touched ⟨.refl .., rfl, rfl, rfl, rfl⟩
  | uncopied _ _ => exact hR.copied f.world

theorem kept {r : Except Fault (Bool × Option Text)} (h : Kept w path issues f r f')
    (hp : w.projectDir.child path = p) : R f.world f'.world := by
  cases h with
  | unkept hentered => exact hR.entered (hp ▸ hentered)
  | committed hmade hleave => exact hR.left_of_run hmade hp hleave
  | undone hmade _ hleave => exact hR.left_of_run hmade hp hleave

/-- What nothing on the way can break holds between the world at the beginning of the work on a file
and the world at its end. -/
theorem fixed {r : Except Fault FileResult} (h : Fixed w path issues f r f')
    (hp : w.projectDir.child path = p) : R f.world f'.world := by
  have htaken : R f.world (f.takenUp path).world := hR.quiet rfl
  cases h with
  | concluded hk =>
      exact hR.trans htaken (hR.trans (hR.kept hk hp) (hR.quiet (quiet_concluded ..)))
  | contained hk => exact hR.trans htaken (hR.trans (hR.kept hk hp) (hR.quiet rfl))
  | broken hk _ => exact hR.trans htaken (hR.kept hk hp)

end Workshop.Respects

end

/-! ## Letting go of a file -/

/-- The file under repair and the world in which it is let go of. -/
def leavingHeld (w : Workshop σ) (path : Text) (issues : List Issue) (f : Fixer σ) : Held σ :=
  ((attempted w path issues).run (f.takenUp path)).2.toHeld

/-- The world in which a file is let go of. -/
def leavingWorld (w : Workshop σ) (path : Text) (issues : List Issue) (f : Fixer σ) : World σ :=
  (leavingHeld w path issues f).world

theorem Made.leavingHeld_eq {w : Workshop σ} {path : Text} {issues : List Issue} {f f' : Fixer σ}
    {old : Bytes} {r : Except Fault (Option Text)} (h : Made w path issues (f.takenUp path) old r f') :
    leavingHeld w path issues f = f'.toHeld := by
  rw [leavingHeld, h.run]

theorem Workshop.Respects.leaving {w : Workshop σ} {path : Text} {R : World σ → World σ → Prop}
    (hR : w.Respects (w.projectDir.child path) R) (issues : List Issue) (f : Fixer σ) :
    R f.world (leavingWorld w path issues f) := by
  have htaken : R f.world (f.takenUp path).world := hR.quiet rfl
  rcases entered_or_made w path issues (f.takenUp path) with ⟨e, h, hentered, hrun⟩ | ⟨old, r, f', hmade⟩
  · rw [leavingWorld, leavingHeld, hrun]
    exact hR.trans htaken (hR.entered hentered)
  · rw [leavingWorld, hmade.leavingHeld_eq]
    exact hR.trans htaken (hR.made hmade rfl)

/-- What collaborators leave alone that a write does not concern, stays as it is. -/
theorem Workshop.respects_of_keeps {β : Type} {w : Workshop σ} {view : World σ → β}
    (hdrafter : ∀ r s, view ((w.drafter r).run s).2 = view s)
    (hcompile : ∀ p s, view ((w.validator.compile p).run s).2 = view s) {p : Path}
    (htouched : ∀ {s s'}, World.Touched p s s' → view s' = view s) :
    w.Respects p fun s s' => view s' = view s where
  trans h h' := h'.trans h
  touched := htouched
  drafter := hdrafter
  compile s := hcompile _ s

/-- Whether a change was accepted. -/
def hasCommitted : Except Fault FileResult → Bool
  | .ok result => result.isCommitted
  | .error _ => false

end Mend.Fix
