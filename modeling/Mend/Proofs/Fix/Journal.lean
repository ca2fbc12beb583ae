import Mend.Proofs.Fix.File
import Mend.Proofs.Fix.Mirror

/-!
# The journal of a run

What collaborators are asked, what they answer, and the file tree before and after, call by call. A
workshop whose collaborators keep a journal does the same as without one, so the journal says what
happened in the run without it.

## Main definitions

* `Fix.Call` — a call of a collaborator.
* `Fix.Workshop.journaled` — the workshop in which every call is written down.
* `Fix.fileCalls`, `Fix.runCalls` — the calls made for a file and in a run.
* `Fix.Workshop.Keeps`, `Fix.Workshop.still` — collaborators that leave something alone, or everything.
* `Fix.Untouched` — whether a file is changed by collaborators only.
-/

namespace Mend.Fix

variable {σ : Type}

/-- What a collaborator is asked, and what it answers. -/
inductive Exchange where
  | draft (request : Drafting.Request) (answer : Except Fault Drafting.Draft)
  | compile (answer : Except Fault BuildOutcome)
  | test (answer : Except Fault BuildOutcome)

/-- A call of a collaborator, with the tree that it found and the tree that it left. -/
structure Call where
  exchange : Exchange
  before : Tree
  after : Tree

/-- What collaborators keep for themselves, and the calls of them so far. -/
structure Journaled (σ : Type) where
  own : σ
  calls : List Call := []

namespace Journaled

/-- The same after another call. -/
def after (j : Journaled σ) (own : σ) (call : Call) : Journaled σ := ⟨own, j.calls ++ [call]⟩

/-- The same with other calls before those that are written down. -/
def behind (earlier : List Call) (j : Journaled σ) : Journaled σ := ⟨j.own, earlier ++ j.calls⟩

end Journaled

/-- A call that is written down. -/
def noted {α : Type} (exchange : Except Fault α → Exchange) (a : Act (World σ) α) :
    Act (World (Journaled σ)) α := fun s =>
  match a.run (s.mapExtra Journaled.own) with
  | (r, s') => (r, s'.mapExtra fun own => s.extra.after own ⟨exchange r, s.tree, s'.tree⟩)

/-- The workshop in which every call is written down. -/
def Workshop.journaled (w : Workshop σ) : Workshop (Journaled σ) where
  projectDir := w.projectDir
  drafter r := noted (.draft r) (w.drafter r)
  validator := ⟨fun p => noted .compile (w.validator.compile p),
    fun p => noted .test (w.validator.test p)⟩
  settings := w.settings

/-- The state of a run in which nothing is written down yet. -/
def Fixer.journaling (f : Fixer σ) : Fixer (Journaled σ) := f.mapExtra fun own => ⟨own, []⟩

/-- The calls that are written down. -/
def Fixer.calls (f : Fixer (Journaled σ)) : List Call := f.world.extra.calls

/-- The calls made for a file. -/
def fileCalls (w : Workshop σ) (path : Text) (issues : List Issue) (f : Fixer σ) : List Call :=
  ((fixFile w.journaled path issues).run f.journaling).2.calls

/-- The calls made in a run. -/
def runCalls (w : Workshop σ) (plan : Plan) (keys : Option (List Value)) (f : Fixer σ) :
    List Call :=
  ((run w.journaled plan keys).run f.journaling).2.calls

/-! ## The journal changes nothing -/

theorem mirrors_noted {α : Type} (exchange : Except Fault α → Exchange) (a : Act (World σ) α) :
    Act.Mirrors (World.mapExtra Journaled.own) (noted exchange a) a := ⟨fun _ => rfl⟩

/-- Without its journal, a workshop does the same. -/
theorem mirrors_own (w : Workshop σ) : w.journaled.Mirrors Journaled.own w where
  projectDir := rfl
  settings := rfl
  drafter _ := mirrors_noted ..
  compile _ := mirrors_noted ..
  test _ := mirrors_noted ..

/-- What is written down at the end of the work on a file without a journal. -/
theorem run_fixFile_eq (w : Workshop σ) (path : Text) (issues : List Issue) (f : Fixer σ) :
    (fixFile w path issues).run f =
      (((fixFile w.journaled path issues).run f.journaling).1,
        ((fixFile w.journaled path issues).run f.journaling).2.mapExtra Journaled.own) :=
  ((mirrors_own w).fixFile path issues).run f.journaling

theorem run_run_eq (w : Workshop σ) (plan : Plan) (keys : Option (List Value)) (f : Fixer σ) :
    (run w plan keys).run f =
      (((run w.journaled plan keys).run f.journaling).1,
        ((run w.journaled plan keys).run f.journaling).2.mapExtra Journaled.own) :=
  ((mirrors_own w).run plan keys).run f.journaling

theorem mirrors_behind_noted {α : Type} (earlier : List Call)
    (exchange : Except Fault α → Exchange) (a : Act (World σ) α) :
    Act.Mirrors (World.mapExtra (Journaled.behind earlier)) (noted exchange a)
      (noted exchange a) := by
  constructor
  intro s
  simp [noted, Act.run, World.mapExtra, Journaled.behind, Journaled.after]

/-- What is written down already makes no difference. -/
theorem mirrors_behind (w : Workshop σ) (earlier : List Call) :
    w.journaled.Mirrors (Journaled.behind earlier) w.journaled where
  projectDir := rfl
  settings := rfl
  drafter _ := mirrors_behind_noted ..
  compile _ := mirrors_behind_noted ..
  test _ := mirrors_behind_noted ..

/-! ## What a call writes down -/

theorem calls_noted {α : Type} (exchange : Except Fault α → Exchange) (a : Act (World σ) α)
    (s : World (Journaled σ)) :
    ((noted exchange a).run s).2.extra.calls = s.extra.calls ++
      [⟨exchange ((noted exchange a).run s).1, s.tree, ((noted exchange a).run s).2.tree⟩] := rfl

theorem calls_of_drafter {w : Workshop σ} {request : Drafting.Request}
    {s s' : World (Journaled σ)} {answer : Except Fault Drafting.Draft}
    (h : (w.journaled.drafter request).run s = (answer, s')) :
    s'.extra.calls = s.extra.calls ++ [⟨.draft request answer, s.tree, s'.tree⟩] := by
  have hnoted := calls_noted (.draft request) (w.drafter request) s
  rw [Workshop.journaled] at h
  rwa [h] at hnoted

theorem calls_of_compile {w : Workshop σ} {p : Path} {s s' : World (Journaled σ)}
    {answer : Except Fault BuildOutcome}
    (h : (w.journaled.validator.compile p).run s = (answer, s')) :
    s'.extra.calls = s.extra.calls ++ [⟨.compile answer, s.tree, s'.tree⟩] := by
  have hnoted := calls_noted .compile (w.validator.compile p) s
  rw [Workshop.journaled] at h
  rwa [h] at hnoted

/-- All collaborators leave alone what a view of the world shows. -/
structure Workshop.Keeps {β : Type} (w : Workshop σ) (view : World σ → β) : Prop where
  drafter : ∀ r s, view ((w.drafter r).run s).2 = view s
  compile : ∀ p s, view ((w.validator.compile p).run s).2 = view s
  test : ∀ p s, view ((w.validator.test p).run s).2 = view s

section

variable {β : Type} {w : Workshop σ} {view : World σ → β} {s s' : World σ}

theorem Workshop.Keeps.drafter_of_run (h : w.Keeps view) {r : Drafting.Request}
    {answer : Except Fault Drafting.Draft} (hrun : (w.drafter r).run s = (answer, s')) :
    view s' = view s := by
  have hd := h.drafter r s
  rwa [hrun] at hd

theorem Workshop.Keeps.compile_of_run (h : w.Keeps view) {p : Path}
    {answer : Except Fault BuildOutcome} (hrun : (w.validator.compile p).run s = (answer, s')) :
    view s' = view s := by
  have hc := h.compile p s
  rwa [hrun] at hc

end

/-- What a view shows that cannot see the journal, is left alone also with a journal. -/
theorem Workshop.Keeps.journaled {β : Type} {w : Workshop σ} {view : World σ → β}
    (h : w.Keeps view) : w.journaled.Keeps fun s => view (s.mapExtra Journaled.own) where
  drafter r s := h.drafter r (s.mapExtra Journaled.own)
  compile p s := h.compile p (s.mapExtra Journaled.own)
  test p s := h.test p (s.mapExtra Journaled.own)

/-- The workshop whose collaborators touch nothing: the drafter looks at the request only, the
compiler and the tests at the tree only. -/
def Workshop.still (projectDir : Path) (answer : Drafting.Request → Except Fault Drafting.Draft)
    (verdict : Tree → Except Fault BuildOutcome) (settings : FixSettings) : Workshop σ where
  projectDir := projectDir
  drafter r := .ofExcept (answer r)
  validator := ⟨fun _ s => (verdict s.tree, s), fun _ s => (verdict s.tree, s)⟩
  settings := settings

theorem Workshop.keeps_still {β : Type} (projectDir : Path)
    (answer : Drafting.Request → Except Fault Drafting.Draft)
    (verdict : Tree → Except Fault BuildOutcome) (settings : FixSettings) (view : World σ → β) :
    (still projectDir answer verdict settings).Keeps view :=
  ⟨fun _ _ => rfl, fun _ _ => rfl, fun _ _ => rfl⟩

/-- A run that is about to fix the empty file with the name `a`. -/
def emptyFile : Fixer Unit := .start { tree := ⟨.dir [([0x61], .file [])]⟩, extra := () }

/-- The plan to fix that file. -/
def smallPlan : Plan := { groups := [⟨[0x61], []⟩] }

/-- A workshop in which every file is to become an `x`, and everything compiles or nothing does. -/
def small (ok : Bool) : Workshop Unit :=
  .still {} (fun _ => .ok { content := some [0x78] }) (fun _ => .ok { ok }) {}

/-! ## Files that are changed by collaborators only -/

/-- From a tree, through calls, to a tree: the file at a path is changed by the collaborators while
they are called, and at no other time. -/
def Untouched (q : Path) : Tree → List Call → Tree → Prop
  | t, [], t' => t'.contents? q = t.contents? q
  | t, call :: rest, t' => call.before.contents? q = t.contents? q ∧ Untouched q call.after rest t'

theorem Untouched.append {q : Path} {t t' t'' : Tree} {calls more : List Call}
    (h : Untouched q t calls t') (h' : Untouched q t' more t'') :
    Untouched q t (calls ++ more) t'' := by
  induction calls generalizing t with
  | nil =>
      cases more with
      | nil => exact Eq.trans h' h
      | cons call rest => exact ⟨h'.1.trans h, h'.2⟩
  | cons call rest ih => exact ⟨h.1, ih h.2⟩

/-- Calls are written down on the way from one world to another, and only they change the file at a
path. -/
def Reaches (q : Path) (s s' : World (Journaled σ)) : Prop :=
  ∃ calls, s'.extra.calls = s.extra.calls ++ calls ∧ Untouched q s.tree calls s'.tree

theorem Reaches.of_noted {α : Type} (q : Path) (exchange : Except Fault α → Exchange)
    (a : Act (World σ) α) (s : World (Journaled σ)) : Reaches q s ((noted exchange a).run s).2 :=
  ⟨_, calls_noted .., rfl, rfl⟩

/-- Fixing a file changes no other file. -/
theorem respects_reaches (w : Workshop σ) {p q : Path} (hapart : p.Apart q) :
    w.journaled.Respects p (Reaches q) where
  trans := by
    rintro s s' s'' ⟨calls, hcalls, h⟩ ⟨more, hmore, h'⟩
    refine ⟨calls ++ more, ?_, h.append h'⟩
    rw [hmore, hcalls, List.append_assoc]
  touched := by
    intro s s' h
    refine ⟨[], ?_, h.tree.contents?_eq hapart⟩
    rw [h.extra, List.append_nil]
  drafter _ s := Reaches.of_noted ..
  compile s := Reaches.of_noted ..

end Mend.Fix
