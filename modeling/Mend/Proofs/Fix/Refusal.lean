import Mend.Proofs.Fix.History

/-!
# Projects that never compile

In a tree of a kind that cannot be compiled whatever is in its files, no candidate is accepted: what is
written over a file leaves the tree of its kind. So every file is given up, and in the end the tree is
what it was.

## Main definitions

* `Fix.Workshop.Refuses` — workshops that cannot compile trees of some kind.
* `Fix.Stuck` — trees in which a file can be rewritten, but not to any avail.

## Main statements

* `Fix.FixedAll.refused` — no file is committed.
* `Fix.FixedAll.tree_eq_of_refused` — the tree is what it was.
-/

namespace Mend.Fix

variable {σ β : Type}

open Fixer

/-- A workshop that cannot compile trees of some kind, and whose drafter leaves the tree alone. Neither
the drafter nor a write is seen in `view`. -/
structure Workshop.Refuses (w : Workshop σ) (kind : Tree → Prop) (view : World σ → β) : Prop where
  drafter : ∀ r s, ((w.drafter r).run s).2.tree = s.tree
  drafter_view : ∀ r s, view ((w.drafter r).run s).2 = view s
  compile : ∀ s, kind s.tree →
    ∃ e, e ≠ .interrupted ∧ (w.validator.compile w.projectDir).run s = (.error e, s)
  overwritten : ∀ {t t' : Tree} {p : Path} {a b : Bytes},
    kind t → t.write p a = .ok t' → t.read p = .ok b → kind t'
  touched : ∀ {p : Path} {s s' : World σ}, World.Touched p s s' → view s' = view s

/-- A tree of some kind that has a file at a path. -/
structure Stuck (kind : Tree → Prop) (p : Path) (t : Tree) : Prop where
  kind : kind t
  there : ∃ b, t.read p = .ok b

/-- From one world to another, nothing changes in the tree but the file at a path, and nothing in
`view`. -/
structure Leaves (view : World σ → β) (p : Path) (s s' : World σ) : Prop where
  tree : s.tree.SameBut p s'.tree
  view : view s' = view s

section

variable {w : Workshop σ} {kind : Tree → Prop} {view : World σ → β} {path : Text}
  {issues : List Issue} {left number : Nat} {feedback : Feedback} {f f' : Fixer σ}
  (hw : w.Refuses kind view)
include hw

/-! ## One file -/

/-- Writing over a file leaves the tree of its kind. -/
theorem Workshop.Refuses.kind_of_sameBut {p : Path} {t t' : Tree} (hs : Stuck kind p t)
    (hsame : t.SameBut p t') : kind t' := by
  rcases hsame with rfl | ⟨a, hwrite⟩
  · exact hs.kind
  · obtain ⟨b, hread⟩ := hs.there
    exact hw.overwritten hs.kind hwrite hread

theorem Workshop.Refuses.respects (p : Path) :
    w.Respects p fun s s' => Stuck kind p s.tree → Stuck kind p s'.tree ∧ Leaves view p s s' where
  trans h h' hs := by
    obtain ⟨hs', hleaves⟩ := h hs
    obtain ⟨hs'', hleaves'⟩ := h' hs'
    exact ⟨hs'', hleaves.tree.trans hleaves'.tree, hleaves'.view.trans hleaves.view⟩
  touched h hs := by
    refine ⟨⟨hw.kind_of_sameBut hs h.tree, ?_⟩, h.tree, hw.touched h⟩
    rcases h.tree with hsame | ⟨a, hwrite⟩
    · rw [hsame]
      exact hs.there
    · exact ⟨a, Tree.read_of_write hwrite⟩
  drafter r s hs := by
    have htree := hw.drafter r s
    exact ⟨htree ▸ hs, .inl htree, hw.drafter_view r s⟩
  compile s hs := by
    obtain ⟨e, -, he⟩ := hw.compile s hs.kind
    rw [he]
    exact ⟨hs, .inl rfl, rfl⟩

/-- No attempt succeeds: when the candidate is written, the tree is still of its kind. -/
theorem Attempted.ne_success {r : Except Fault Ending}
    (h : Attempted w path issues number feedback f r f')
    (hs : Stuck kind f.backup.path f.world.tree) : r ≠ .ok .success := by
  rintro rfl
  have hR := hw.respects f.backup.path
  cases h.of_success with
  | intro hd _ _ hwritten hcompiled _ =>
      obtain ⟨hdrafted, -⟩ := hR.drafter_of_run hd hs
      obtain ⟨hstuck, -⟩ := hR.touched (World.wrote_of_run hwritten).touched hdrafted
      obtain ⟨e, -, he⟩ := hw.compile _ hstuck.kind
      cases hcompiled.symm.trans he

theorem Attempts.ne_none {r : Except Fault (Option Text)}
    (h : Attempts w path issues left number feedback f r f')
    (hs : Stuck kind f.backup.path f.world.tree) : r ≠ .ok none := by
  induction h with
  | givenUp => simp
  | broken _ => simp
  | accepted h => exact absurd rfl (h.ne_success hw hs)
  | @refused left number feedback f g f' ending r h _ _ ih =>
      obtain ⟨hstuck, -⟩ := (hw.respects f.backup.path).attempted h rfl hs
      apply ih
      rwa [backup_refused, h.kept.path, tree_refused]

/-- A file is not committed. -/
theorem Fixed.hasCommitted_eq_false {r : Except Fault FileResult} (h : Fixed w path issues f r f')
    (hkind : kind f.world.tree) : hasCommitted r = false := by
  cases h with
  | @concluded committed _ g hk =>
      have hcommitted : committed = false := by
        generalize hr : Except.ok (committed, _) = r at hk
        cases hk with
        | unkept _ => cases hr
        | committed hmade _ =>
            have hread := World.read_of_reading hmade.read
            exact absurd rfl (hmade.attempts.ne_none hw ⟨hkind, _, hread⟩)
        | @undone _ r _ left _ _ _ _ =>
            cases left with
            | error e => cases hr
            | ok u =>
                cases r with
                | error e => cases hr
                | ok error => exact congrArg Prod.fst (Except.ok.inj hr)
      rw [hcommitted]
      exact isCommitted_resultOf ..
  | contained _ => exact isCommitted_resultOf ..
  | broken _ _ => rfl

/-- The work on a file leaves everything as it is but perhaps that file. -/
theorem Fixed.leaves {r : Except Fault FileResult} (h : Fixed w path issues f r f')
    (hkind : kind f.world.tree) :
    kind f'.world.tree ∧ Leaves view (w.projectDir.child path) f.world f'.world := by
  cases hread : f.world.tree.read (w.projectDir.child path) with
  | error e =>
      obtain ⟨htree, htouched⟩ := h.of_unreadable hread
      exact ⟨htree ▸ hkind, .inl htree, hw.touched htouched⟩
  | ok b =>
      obtain ⟨hstuck, hleaves⟩ :=
        (hw.respects (w.projectDir.child path)).fixed h rfl ⟨hkind, b, hread⟩
      exact ⟨hstuck.kind, hleaves⟩

omit hw in
theorem Workshop.Refuses.spares {t : Tree} {p : Path} (hw : w.Refuses kind World.disk)
    (hs : Stuck kind p t) : w.Spares p t where
  drafter r s := ⟨hw.drafter r s, hw.drafter_view r s⟩
  compile s hsame := by
    obtain ⟨e, -, he⟩ := hw.compile s (hw.kind_of_sameBut hs hsame)
    rw [he]
    exact ⟨rfl, rfl⟩

omit hw in
/-- If every write is done, the work on a file leaves the tree as it is. -/
theorem Fixed.tree_eq_of_refused {r : Except Fault FileResult} (hw : w.Refuses kind World.disk)
    (h : Fixed w path issues f r f') (hkind : kind f.world.tree)
    (hdone : ∀ n, f.world.disk n = .done) : f'.world.tree = f.world.tree := by
  cases hread : f.world.tree.read (w.projectDir.child path) with
  | error e => exact (h.of_unreadable hread).1
  | ok old =>
      have hstuck : Stuck kind (w.projectDir.child path) f.world.tree := ⟨hkind, old, hread⟩
      refine h.tree_eq_of_spares (hw.spares hstuck) rfl rfl (h.hasCommitted_eq_false hw hkind) hdone
        (.inl ?_)
      rintro ⟨s, hsame, hs⟩
      obtain ⟨e, hne, he⟩ := hw.compile s (hw.kind_of_sameBut hstuck hsame)
      rw [he] at hs
      exact hne (Except.error.inj hs)

/-! ## All files -/

/-- A visit leaves the tree of its kind. -/
theorem Visit.leaves_of_run {total number : Nat} {g : FileGroup} {r : Except Fault FileResult}
    (hv : Visit.run w ⟨g, f.announced total number g⟩ = (r, f')) (hkind : kind f.world.tree) :
    kind f'.world.tree ∧ view f'.world = view f.world := by
  obtain ⟨hkind', hleaves⟩ := (Visit.fixed_of_run hv).leaves hw hkind
  have hannounced : view (f.announced total number g).world = view f.world :=
    hw.touched (.of_quiet {} rfl)
  exact ⟨hkind', hleaves.view.trans hannounced⟩

/-- No file is committed. -/
theorem FixedAll.refused {total : Nat} {groups : List FileGroup}
    {r : Except Fault (List FileResult × List Text)} (h : FixedAll w total number groups f r f')
    (hkind : kind f.world.tree) :
    kind f'.world.tree ∧ view f'.world = view f.world ∧
      ∀ x, r = .ok x → ∀ result ∈ x.1, result.isCommitted = false := by
  induction h with
  | done => exact ⟨hkind, rfl, by simp⟩
  | stopped _ => exact ⟨hkind, hw.touched (.of_quiet {} rfl), by simp⟩
  | broken _ hv =>
      obtain ⟨hkind', hview⟩ := Visit.leaves_of_run hw hv hkind
      exact ⟨hkind', hview, by simp⟩
  | @next _ _ _ _ _ _ _ r _ hv _ ih =>
      obtain ⟨hkind', hview⟩ := Visit.leaves_of_run hw hv hkind
      obtain ⟨hkind'', hview', hresults⟩ := ih hkind'
      refine ⟨hkind'', hview'.trans hview, ?_⟩
      intro x hx
      cases r with
      | error e => cases hx
      | ok x' =>
          cases hx
          rw [List.forall_mem_cons]
          exact ⟨(Visit.fixed_of_run hv).hasCommitted_eq_false hw hkind, hresults x' rfl⟩

omit hw in
/-- If every write is done, the tree is in the end what it was. -/
theorem FixedAll.tree_eq_of_refused {total : Nat} {groups : List FileGroup}
    {r : Except Fault (List FileResult × List Text)} (hw : w.Refuses kind World.disk)
    (h : FixedAll w total number groups f r f') (hkind : kind f.world.tree)
    (hdone : ∀ n, f.world.disk n = .done) : f'.world.tree = f.world.tree := by
  induction h with
  | done => rfl
  | stopped _ => rfl
  | broken _ hv =>
      have htree := (Visit.fixed_of_run hv).tree_eq_of_refused hw hkind hdone
      exact htree
  | next _ hv _ ih =>
      have htree := (Visit.fixed_of_run hv).tree_eq_of_refused hw hkind hdone
      obtain ⟨hkind', hdisk⟩ := Visit.leaves_of_run hw hv hkind
      exact (ih hkind' (hdisk ▸ hdone)).trans htree

/-! ## Whole runs -/

/-- The check at the end fails, and only the tests change anything. -/
theorem Certified.refused {r report : Report} (h : Certified w r f (.ok report) f')
    (hkind : kind f.world.tree) :
    report.results = r.results ∧ report.buildPassed = some false ∧
      (f'.world.quiet = f.world.quiet ∨ w.settings.runTests = true ∧ ∃ s, s.quiet = f.world.quiet ∧
        f'.world.quiet = ((w.validator.test w.projectDir).run s).2.quiet) := by
  obtain ⟨e, -, he⟩ := hw.compile f.building.world hkind
  cases h with
  | built hb _ =>
      have hok := hb.ok_eq
      have hquiet := hb.quiet_eq
      rw [he] at hok hquiet
      exact ⟨rfl, congrArg some hok, .inl hquiet⟩
  | @tested build tests g f' hb ht hc =>
      have hok := hb.ok_eq
      have hquiet := hb.quiet_eq
      rw [he] at hok hquiet
      refine ⟨rfl, congrArg some hok, .inr ⟨ht, g.testing.world, hquiet, ?_⟩⟩
      rw [quiet_tested, hc.quiet_eq]

/-- How a run ends. Behind the work on the files, there is nothing but the tests. -/
theorem Ran.refused {plan : Plan} {keys : Option (List Value)} {report : Report}
    (h : Ran w plan keys f (.ok report) f') (hkind : kind f.world.tree) :
    (∀ r ∈ report.results, r.isCommitted = false) ∧
      report.buildPassed = (if report.results.isEmpty then none else some false) ∧
      ∃ s : World σ, kind s.tree ∧ view s = view f.world ∧
        (w.Refuses kind World.disk → (∀ n, f.world.disk n = .done) → s.tree = f.world.tree) ∧
        (f'.world.quiet = s.quiet ∨ w.settings.runTests = true ∧ report.results ≠ [] ∧
          f'.world.quiet = ((w.validator.test w.projectDir).run s).2.quiet) := by
  have hworked {s : Selection} {g g' : Fixer σ} {x : List FileResult × List Text}
      (hs : (select plan keys).run f = (.ok s, g))
      (hf : FixedAll w s.groups.length 1 s.groups g (.ok x) g') :
      (∀ r ∈ x.1, r.isCommitted = false) ∧ kind g'.world.tree ∧ view g'.world = view f.world ∧
        (w.Refuses kind World.disk → (∀ n, f.world.disk n = .done) →
          g'.world.tree = f.world.tree) := by
    have hquiet := quiet_run_select plan keys f
    rw [hs] at hquiet
    have htree : g.world.tree = f.world.tree := congrArg (·.tree) hquiet
    have hdisk : g.world.disk = f.world.disk := congrArg (·.disk) hquiet
    obtain ⟨hkind', hview, hresults⟩ := hf.refused hw (htree ▸ hkind)
    refine ⟨hresults x rfl, hkind', hview.trans (hw.touched (.of_quiet {} hquiet)), ?_⟩
    intro hw' hdone
    exact (hf.tree_eq_of_refused hw' (htree ▸ hkind) (hdisk ▸ hdone)).trans htree
  cases h with
  | @idle s skipped g g' hs hf =>
      obtain ⟨-, hkind', hview, htree⟩ := hworked hs hf
      exact ⟨by simp [gathered], rfl, g'.world, hkind', hview, htree, .inl (quiet_summarized ..)⟩
  | @checked s results skipped report g g' f' hs hf hne hc =>
      obtain ⟨hresults, hkind', hview, htree⟩ := hworked hs hf
      obtain ⟨hsame, hpassed, hend⟩ := hc.refused hw hkind'
      replace hsame : report.results = results := hsame
      rw [hsame, hpassed]
      refine ⟨hresults, by simp [hne], ?_⟩
      rcases hend with hquiet | ⟨ht, s', hs', hquiet⟩
      · exact ⟨g'.world, hkind', hview, htree, .inl ((quiet_summarized ..).trans hquiet)⟩
      · have hsameTree : s'.tree = g'.world.tree := congrArg (·.tree) hs'
        refine ⟨s', hsameTree ▸ hkind', (hw.touched (.of_quiet {} hs')).trans hview, ?_, ?_⟩
        · exact fun hw' hdone => hsameTree.trans (htree hw' hdone)
        · exact .inr ⟨ht, hne, (quiet_summarized ..).trans hquiet⟩

end

end Mend.Fix
