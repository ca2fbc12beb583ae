import Mend.Fix.Run
import Mend.Proofs.Act

/-!
# What collaborators keep for themselves

No step of a run looks at what the collaborators keep for themselves. If two workshops do the same
but keep something else, their runs are the same in everything but that.

## Main definitions

* `Fix.Workshop.Mirrors g w v` — the workshop `v` does what `w` does and keeps its image under `g`.
-/

namespace Mend

open Act

variable {σ τ : Type} (g : σ → τ)

/-! ## Worlds -/

/-- The world in which the collaborators keep something else. -/
def World.mapExtra (w : World σ) : World τ where
  tree := w.tree
  disk := w.disk
  writes := w.writes
  sight := w.sight
  looks := w.looks
  copyName := w.copyName
  log := w.log
  cancelled := w.cancelled
  searches := w.searches
  extra := g w.extra

/-- The state of a fix in whose world the collaborators keep something else. -/
def Held.mapExtra (h : Held σ) : Held τ := ⟨h.world.mapExtra g, h.backup⟩

/-- The state of a run in whose world the collaborators keep something else. -/
def Fix.Fixer.mapExtra (f : Fix.Fixer σ) : Fix.Fixer τ where
  toHeld := f.toHeld.mapExtra g
  transitions := f.transitions
  usage := f.usage
  attempts := f.attempts

namespace World

theorem mirrors_writeFile (p : Path) (contents : Bytes) :
    Mirrors (mapExtra g) (writeFile p contents) (writeFile p contents) := by
  constructor
  intro w
  simp only [writeFile, Act.run, mapExtra]
  cases w.tree.write p ((w.disk w.writes).written contents) with
  | error e => rfl
  | ok tree => cases w.disk w.writes <;> rfl

theorem mirrors_holds (p : Path) (contents : Bytes) :
    Mirrors (mapExtra g) (holds p contents) (holds p contents) :=
  .bind ⟨fun _ => rfl⟩ fun _ => .ite (.bind ⟨fun _ => rfl⟩ fun _ => .pure _) (.pure _)

theorem mirrors_changeOutside (name : Text) (excused : Option FileProblem) :
    Mirrors (mapExtra g) (changeOutside name excused) (changeOutside name excused) := by
  constructor
  intro w
  simp only [changeOutside, Act.run, mapExtra]
  cases (w.disk w.writes).problem? with
  | none => rfl
  | some problem => by_cases hexcused : excused = some problem <;> simp [hexcused]

end World

namespace Held

theorem mirrors_onWorld {α : Type} {a : Act (World σ) α} {b : Act (World τ) α}
    (h : Mirrors (World.mapExtra g) a b) : Mirrors (mapExtra g) (onWorld a) (onWorld b) := by
  constructor
  intro s
  simp [mapExtra, h.run s.world]

theorem mirrors_setBackup (u : Backup → Backup) :
    Mirrors (mapExtra g) (setBackup u) (setBackup u) :=
  ⟨fun _ => rfl⟩

theorem mirrors_say (level : Log.Level) (parts : List Text) :
    Mirrors (mapExtra g) (onWorld (World.say level parts)) (onWorld (World.say level parts)) :=
  ⟨fun _ => rfl⟩

end Held

/-! ## Backups -/

namespace Backup

open Held

theorem mirrors_enter (path : Path) : Mirrors (mapExtra g) (enter path) (enter path) := by
  refine .bind (mirrors_setBackup g _) fun _ => ?_
  refine .bind (mirrors_onWorld g ⟨fun _ => rfl⟩) fun baseline => ?_
  refine .bind (mirrors_setBackup g _) fun _ => ?_
  refine .bind (mirrors_onWorld g (.get_bind fun w => ?_)) fun name => mirrors_setBackup g _
  exact .bind (World.mirrors_changeOutside g ..) fun _ => .pure _

theorem mirrors_writeCandidate (content : Text) :
    Mirrors (mapExtra g) (writeCandidate content) (writeCandidate content) := by
  refine .bind (mirrors_setBackup g _) fun _ => ?_
  cases Utf8.encodeKeeping content with
  | error i => exact .fail _
  | ok bytes => exact .get_bind fun h => mirrors_onWorld g (World.mirrors_writeFile g ..)

theorem mirrors_putBaseline : Mirrors (mapExtra g) (putBaseline : Act (Held σ) Unit) putBaseline := by
  refine .get_bind fun h => ?_
  refine .bind (mirrors_onWorld g (World.mirrors_writeFile g ..)) fun _ => ?_
  exact .bind (mirrors_setBackup g _) fun _ => mirrors_say g ..

theorem mirrors_restore (force : Bool) : Mirrors (mapExtra g) (restore force) (restore force) := by
  cases force with
  | false => exact .get_bind fun h => .ite (mirrors_putBaseline g) (.pure _)
  | true =>
      refine .bind (.get_bind fun h => mirrors_onWorld g (World.mirrors_holds g ..)) fun intact => ?_
      exact .ite (mirrors_setBackup g _) (mirrors_putBaseline g)

theorem mirrors_dropCopy : Mirrors (mapExtra g) (dropCopy : Act (Held σ) Unit) dropCopy := by
  refine .get_bind fun h => ?_
  have hbackup : (mapExtra g h).backup = h.backup := rfl
  rw [hbackup]
  cases h.backup.copy with
  | none => exact .pure _
  | some name =>
      exact .bind (mirrors_onWorld g (World.mirrors_changeOutside g ..)) fun _ => mirrors_setBackup g _

theorem mirrors_leave : Mirrors (mapExtra g) (leave : Act (Held σ) Unit) leave := by
  refine .bind (.attempt (.get_bind fun h => .ite (.pure _) (mirrors_restore g true))) fun r => ?_
  exact .bind (mirrors_dropCopy g) fun _ => .ofExcept _

end Backup

/-! ## Attempts -/

namespace Fix

open Fixer

theorem mirrors_onHeld {α : Type} {a : Act (Held σ) α} {b : Act (Held τ) α}
    (h : Act.Mirrors (Held.mapExtra g) a b) :
    Act.Mirrors (Fixer.mapExtra g) (onHeld a) (onHeld b) := by
  constructor
  intro f
  simp [Fixer.mapExtra, h.run f.toHeld]

theorem mirrors_onWorld {α : Type} {a : Act (World σ) α} {b : Act (World τ) α}
    (h : Act.Mirrors (World.mapExtra g) a b) :
    Act.Mirrors (Fixer.mapExtra g) (onWorld a) (onWorld b) :=
  mirrors_onHeld g (Held.mirrors_onWorld g h)

theorem mirrors_say (level : Log.Level) (parts : List Text) :
    Act.Mirrors (Fixer.mapExtra g) (say level parts) (say level parts) :=
  ⟨fun _ => rfl⟩

theorem mirrors_transition (path : Text) (state : State) (attempt : Option Nat) :
    Act.Mirrors (Fixer.mapExtra g) (transition path state attempt)
      (transition path state attempt) :=
  ⟨fun _ => rfl⟩

/-- The second workshop does what the first one does, and keeps an image of what that one keeps. -/
structure Workshop.Mirrors (w : Workshop σ) (v : Workshop τ) : Prop where
  projectDir : v.projectDir = w.projectDir
  settings : v.settings = w.settings
  drafter : ∀ r, Act.Mirrors (World.mapExtra g) (w.drafter r) (v.drafter r)
  compile : ∀ p, Act.Mirrors (World.mapExtra g) (w.validator.compile p) (v.validator.compile p)
  test : ∀ p, Act.Mirrors (World.mapExtra g) (w.validator.test p) (v.validator.test p)

namespace Workshop.Mirrors

variable {g} {w : Workshop σ} {v : Workshop τ} (h : Mirrors g w v) (path : Text)
  (issues : List Issue)
include h

theorem draft (r : Drafting.Request) :
    Act.Mirrors (Fixer.mapExtra g) (draft w r) (draft v r) := by
  refine .bind (.caught (mirrors_onWorld g (h.drafter r))) fun answer => ?_
  cases answer with
  | error e => exact .pure _
  | ok d => exact .bind (.modify fun _ => rfl) fun _ => .get_bind fun f => .pure _

theorem judge : Act.Mirrors (Fixer.mapExtra g) (judge w) (judge v) := by
  rw [Fix.judge, Fix.judge, h.projectDir]
  refine .bind (.caught (mirrors_onWorld g (h.compile _))) fun answer => ?_
  cases refusal answer with
  | none => exact .pure _
  | some ending => exact .bind (mirrors_onHeld g (Backup.mirrors_restore g _)) fun _ => .pure _

theorem validate (candidate : Text) :
    Act.Mirrors (Fixer.mapExtra g) (validate w candidate) (validate v candidate) := by
  refine .bind (.attempt (mirrors_onHeld g (Backup.mirrors_writeCandidate g candidate)))
    fun r => ?_
  cases r with
  | ok u => exact h.judge
  | error e =>
      cases e with
      | file fault => exact .bind (mirrors_onHeld g (Backup.mirrors_restore g _)) fun _ => .pure _
      | _ => exact .fail _

theorem attemptOnce (number : Nat) (feedback : Feedback) :
    Act.Mirrors (Fixer.mapExtra g) (attemptOnce w path issues number feedback)
      (attemptOnce v path issues number feedback) := by
  refine .bind (mirrors_transition g ..) fun _ => .get_bind fun f => ?_
  refine .bind (h.draft _) fun r => ?_
  cases r with
  | error ending => exact .pure _
  | ok candidate => exact .bind (mirrors_transition g ..) fun _ => h.validate _

theorem attemptsFrom (left number : Nat) (feedback : Feedback) :
    Act.Mirrors (Fixer.mapExtra g) (attemptsFrom w path issues left number feedback)
      (attemptsFrom v path issues left number feedback) := by
  induction left generalizing number feedback with
  | zero =>
      refine .get_bind fun f => ?_
      exact .bind (mirrors_transition g ..) fun _ => .pure _
  | succ left ih =>
      refine .bind (h.attemptOnce ..) fun ending => ?_
      cases ending with
      | success =>
          refine .bind (mirrors_onHeld g (Held.mirrors_setBackup g _)) fun _ => ?_
          refine .bind (.modify fun _ => rfl) fun _ => ?_
          exact .bind (mirrors_transition g ..) fun _ => .pure _
      | _ =>
          refine .bind (.modify fun _ => rfl) fun _ => .bind (mirrors_say g ..) fun _ => ?_
          exact .iteBind (mirrors_transition g ..) fun _ => ih ..

theorem attempted :
    Act.Mirrors (Fixer.mapExtra g) (attempted w path issues) (attempted v path issues) := by
  rw [Fix.attempted, Fix.attempted, attemptLoop, attemptLoop, h.projectDir, h.settings]
  refine .bind (mirrors_onHeld g (Backup.mirrors_enter g _)) fun _ => ?_
  exact .attempt (h.attemptsFrom ..)

theorem fixFile : Act.Mirrors (Fixer.mapExtra g) (fixFile w path issues) (fixFile v path issues) := by
  have hkept : Act.Mirrors (Fixer.mapExtra g) (fixKept w path issues) (fixKept v path issues) := by
    refine .bind (h.attempted ..) fun r => .get_bind fun f => ?_
    refine .bind (mirrors_onHeld g (Backup.mirrors_leave g)) fun _ => ?_
    exact .bind (.ofExcept _) fun _ => .pure _
  refine .bind (.bind (.modify fun _ => rfl) fun _ => mirrors_transition g ..) fun _ => ?_
  refine .bind (.attempt hkept) fun r => ?_
  refine .bind ?_ fun ⟨committed, error⟩ => .get_bind fun f => ?_
  · cases r with
    | ok r => exact .pure _
    | error e =>
        cases e with
        | file fault => exact .bind (mirrors_say g ..) fun _ => .pure _
        | _ => exact .fail _
  · dsimp only
    refine .ite (.bind (mirrors_say g ..) fun _ => ?_) (.bind (mirrors_say g ..) fun _ => ?_) <;>
      exact .bind (mirrors_transition g ..) fun _ => .pure _

/-! ## Runs -/

theorem fixNext (total number : Nat) (group : FileGroup) :
    Act.Mirrors (Fixer.mapExtra g) (fixNext w total number group)
      (fixNext v total number group) :=
  .bind (mirrors_say g ..) fun _ => h.fixFile ..

theorem fixFiles (total number : Nat) (groups : List FileGroup) :
    Act.Mirrors (Fixer.mapExtra g) (fixFiles w total number groups)
      (fixFiles v total number groups) := by
  induction groups generalizing number with
  | nil => exact .pure _
  | cons group rest ih =>
      refine .get_bind fun f => .ite ?_ ?_
      · exact .bind (mirrors_say g ..) fun _ => .pure _
      · refine .bind (h.fixNext ..) fun result => ?_
        exact .bind (ih _) fun _ => .pure _

theorem certify (r : Report) : Act.Mirrors (Fixer.mapExtra g) (certify w r) (certify v r) := by
  have hcheck (failure : Text) {a : Act (World σ) BuildOutcome} {b : Act (World τ) BuildOutcome}
      (ha : Act.Mirrors (World.mapExtra g) a b) :
      Act.Mirrors (Fixer.mapExtra g) (check failure a) (check failure b) := by
    refine .bind (.caught (mirrors_onWorld g ha)) fun answer => ?_
    cases answer with
    | ok outcome => exact .pure _
    | error e => exact .bind (mirrors_say g ..) fun _ => .pure _
  rw [Fix.certify, Fix.certify, h.projectDir, h.settings]
  refine .bind (mirrors_say g ..) fun _ => .bind (hcheck _ (h.compile _)) fun build => ?_
  refine .ite (.bind (mirrors_say g ..) fun _ => ?_) (.pure _)
  refine .bind (hcheck _ (h.test _)) fun tests => ?_
  exact .iteBind (mirrors_say g ..) fun _ => .pure _

omit h in
theorem select (plan : Plan) (keys : Option (List Value)) :
    Act.Mirrors (Fixer.mapExtra g) (select plan keys) (select plan keys) := by
  refine .bind (.ofExcept _) fun s => ?_
  refine .bind ?_ fun _ => .bind (mirrors_say g ..) fun _ => .pure _
  refine .iteBind (mirrors_say g ..) fun _ => .ite ?_ (.pure _)
  exact .bind (.ofExcept _) fun _ => mirrors_say g ..

theorem run (plan : Plan) (keys : Option (List Value)) :
    Act.Mirrors (Fixer.mapExtra g) (run w plan keys) (run v plan keys) := by
  refine .bind (select plan keys) fun s => ?_
  refine .bind (h.fixFiles ..) fun ⟨results, skipped⟩ => .get_bind fun f => ?_
  dsimp only
  refine .ite (.bind (.pure _) fun report => ?_) (.bind (h.certify _) fun report => ?_) <;>
    exact .bind (mirrors_say g ..) fun _ => .pure _

end Workshop.Mirrors

end Fix

end Mend
