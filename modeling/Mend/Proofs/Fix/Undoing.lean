import Mend.Proofs.Fix.Atomic

/-!
# Refused candidates are undone

If the collaborators leave the files alone and writes succeed, a candidate that is refused is taken
back as soon as it is refused, and before the file is let go of. Only an interrupted compilation leaves
a candidate where it is until then.

## Main definitions

* `Fix.Workshop.Spares` — a workshop whose collaborators leave a tree and the disk alone.
* `Fix.Workshop.Interrupts` — a workshop whose compiler may be interrupted.

## Main statements

* `Fix.Attempts.tree_eq_or_interrupts` — what attempts leave behind that come to nothing.
* `Fix.Fixed.tree_eq_of_spares` — what the whole work on a file leaves behind if it comes to nothing.
-/

namespace Mend

variable {σ : Type}

/-! ## Writes that nothing stands in the way of -/

namespace World

variable {w w' : World σ} {p : Path} {contents : Bytes}

/-- If the disk does what it is asked, a write that fails leaves the tree as it is. -/
theorem tree_eq_of_run_writeFile {e : Fault} (h : (writeFile p contents).run w = (.error e, w'))
    (hdisk : w.disk w.writes = .done) : w'.tree = w.tree := by
  cases hwrite : w.tree.write p contents with
  | error e' =>
      simp only [writeFile, Act.run, hdisk, Fate.written, hwrite, Prod.mk.injEq] at h
      rw [← h.2]
  | ok t =>
      rw [run_writeFile_of_done hwrite hdisk] at h
      cases h

/-- What is in a file can be told if nothing is in the way. -/
theorem run_holds_of_read {b : Bytes} (hclear : ∀ n, w.sight n = none)
    (hread : w.tree.read p = .ok b) : ((holds p contents).run w).1 = .ok (b == contents) := by
  have hthere : w.seen p (w.tree.isThere p) = .ok true := by
    rw [seen_of_clear (hclear _), Tree.isThere_of_read hread]
  have hreading : w.looked.reading p = .ok b :=
    (seen_of_clear (w := w.looked) (hclear _)).trans hread
  simp [holds, Act.run_bind, hthere, hreading]

/-- A file of a tree that has at most been written can be given its old contents, if nothing is in the
way. -/
theorem recovers_of_sameBut {t : Tree} (hsame : t.SameBut p w.tree)
    (hread : t.read p = .ok contents) (hclear : ∀ n, w.sight n = none)
    (hdone : ∀ n, w.disk n = .done) : w.Recovers p contents := by
  intro hne
  rcases hsame with hsame | ⟨b, hwrite⟩
  · exact absurd (hsame ▸ hread) hne
  · refine ⟨⟨_, run_holds_of_read hclear (Tree.read_of_write hwrite)⟩, ?_⟩
    rw [run_writeFile_of_done (Tree.write_back hwrite hread) (hdone _)]

end World

namespace Backup.Restored

variable {force : Bool} {h h' : Held σ} {r : Except Fault Unit}

/-- Putting the old contents back into a file that has them changes nothing. -/
theorem tree_eq_of_read (hr : Restored force h r h')
    (hread : h.world.tree.read h.backup.path = .ok h.backup.baseline)
    (hdone : ∀ n, h.world.disk n = .done) : h'.world.tree = h.world.tree := by
  cases hr with
  | idle _ _ => rfl
  | intact _ _ => rfl
  | unseen _ _ => rfl
  | written hw =>
      cases World.wrote_of_run hw with
      | done hwrite => exact Tree.eq_of_write_of_read hwrite hread
  | @failed n _ _ _ hw =>
      have hkept := World.tree_eq_of_run_writeFile hw (hdone _)
      exact hkept

/-- Behind a change by this backup, the old contents are put back whether or not the file can be looked
at. -/
theorem tree_eq_of_dirty {t : Tree} {b : Bytes} (hr : Restored false h r h')
    (hdirty : h.backup.dirty = true) (hread : t.read h.backup.path = .ok h.backup.baseline)
    (hwrite : t.write h.backup.path b = .ok h.world.tree) (hdone : ∀ n, h.world.disk n = .done) :
    h'.world.tree = t := by
  have hback := Tree.write_back hwrite hread
  cases hr with
  | idle _ hclean => cases hclean.symm.trans hdirty
  | intact hforce _ => cases hforce
  | unseen hforce _ => cases hforce
  | written hw =>
      cases World.wrote_of_run hw with
      | done hwrite' => exact Except.ok.inj (hwrite'.symm.trans hback)
  | @failed n _ _ _ hw =>
      have hwritten := World.run_writeFile_of_done (w := h.world.afterLooks n) hback (hdone _)
      cases hw.symm.trans hwritten

end Backup.Restored

namespace Fix

open Fixer

/-! ## Collaborators that leave the files alone -/

/-- The second world has the tree and the disk of the first one. -/
structure Spared (s s' : World σ) : Prop where
  tree : s'.tree = s.tree
  disk : s'.disk = s.disk

/-- The collaborators leave the tree and the disk alone, at least as long as the tree is a given one but
perhaps for the file at a path. -/
structure Workshop.Spares (w : Workshop σ) (p : Path) (t : Tree) : Prop where
  drafter : ∀ r s, Spared s ((w.drafter r).run s).2
  compile : ∀ s, t.SameBut p s.tree → Spared s ((w.validator.compile w.projectDir).run s).2

/-- The compiler may be interrupted when the tree is a given one but perhaps for the file at a path. -/
def Workshop.Interrupts (w : Workshop σ) (p : Path) (t : Tree) : Prop :=
  ∃ s, t.SameBut p s.tree ∧ ((w.validator.compile w.projectDir).run s).1 = .error .interrupted

section

variable {w : Workshop σ} {path : Text} {issues : List Issue} {left number : Nat}
  {feedback : Feedback} {candidate : Text} {f f' : Fixer σ} {p : Path} {t : Tree}

theorem Spared.trans {s s' s'' : World σ} (h : Spared s s') (h' : Spared s' s'') : Spared s s'' :=
  ⟨h'.tree.trans h.tree, h'.disk.trans h.disk⟩

variable (hw : w.Spares p t)
include hw

namespace Workshop.Spares

theorem respects :
    w.Respects p fun s s' => t.SameBut p s.tree → t.SameBut p s'.tree ∧ s'.disk = s.disk where
  trans h h' hs := by
    obtain ⟨hs', hdisk⟩ := h hs
    obtain ⟨hs'', hdisk'⟩ := h' hs'
    exact ⟨hs'', hdisk'.trans hdisk⟩
  touched h hs := ⟨hs.trans h.tree, h.disk⟩
  drafter r s hs := by
    have hspared := hw.drafter r s
    exact ⟨hspared.tree ▸ hs, hspared.disk⟩
  compile s hs := by
    have hspared := hw.compile s hs
    exact ⟨hspared.tree ▸ hs, hspared.disk⟩

theorem drafter_of_run {r : Drafting.Request} {s s' : World σ} {answer : Except Fault Drafting.Draft}
    (h : (w.drafter r).run s = (answer, s')) : Spared s s' := by
  have hd := hw.drafter r s
  rwa [h] at hd

theorem compile_of_run {s s' : World σ} {answer : Except Fault BuildOutcome}
    (hs : t.SameBut p s.tree) (h : (w.validator.compile w.projectDir).run s = (answer, s')) :
    Spared s s' := by
  have hc := hw.compile s hs
  rwa [h] at hc

end Workshop.Spares

/-! ## Attempts -/

omit hw in
/-- A file is under repair and nothing has become of it: the tree is as it was, with the old contents of
the file, and the disk does what it is asked. -/
structure Unspoilt (p : Path) (t : Tree) (f : Fixer σ) : Prop where
  path : f.backup.path = p
  read : t.read p = .ok f.backup.baseline
  tree : f.world.tree = t
  done : ∀ n, f.world.disk n = .done

/-- A refused candidate is taken back, unless the compiler was interrupted. -/
theorem Judged.tree_eq_or_interrupts {r : Except Fault Ending} {b : Bytes} (h : Judged w f r f')
    (hpath : f.backup.path = p) (hread : t.read p = .ok f.backup.baseline)
    (hdirty : f.backup.dirty = true) (hwrite : t.write p b = .ok f.world.tree)
    (hdone : ∀ n, f.world.disk n = .done) (hr : r ≠ .ok .success) :
    f'.world.tree = t ∨ w.Interrupts p t := by
  subst hpath
  have hsame := Tree.SameBut.of_write hwrite
  cases h with
  | interrupted hc => exact .inr ⟨_, hsame, congrArg Prod.fst hc⟩
  | accepted _ _ => exact absurd rfl hr
  | rejected hc _ hrestored =>
      have hspared := hw.compile_of_run hsame hc
      refine .inl (hrestored.tree_eq_of_dirty hdirty hread (hspared.tree.symm ▸ hwrite) fun n => ?_)
      exact (congrFun hspared.disk n).trans (hdone n)

theorem Validated.tree_eq_or_interrupts {r : Except Fault Ending}
    (h : Validated w candidate f r f') (hf : Unspoilt p t f) (hr : r ≠ .ok .success) :
    f'.world.tree = t ∨ w.Interrupts p t := by
  obtain ⟨hpath, hread, htree, hdone⟩ := hf
  subst hpath htree
  cases h with
  | unencodable _ => exact .inl rfl
  | unwritten _ hwrite hrestored =>
      have hkept := World.tree_eq_of_run_writeFile hwrite (hdone _)
      have hdisk := (World.wrote_of_run hwrite).touched.disk
      have hback := hrestored.tree_eq_of_read (hkept ▸ hread) fun n => (congrFun hdisk n).trans (hdone n)
      exact .inl (hback.trans hkept)
  | unnameable _ hwrite _ => exact .inl (World.tree_eq_of_run_writeFile hwrite (hdone _))
  | judged _ hwrite hj =>
      have hdisk := (World.wrote_of_run hwrite).touched.disk
      cases World.wrote_of_run hwrite with
      | done htree => exact hj.tree_eq_or_interrupts hw rfl hread rfl htree hdone hr

theorem Attempted.tree_eq_or_interrupts {r : Except Fault Ending}
    (h : Attempted w path issues number feedback f r f') (hf : Unspoilt p t f)
    (hr : r ≠ .ok .success) : f'.world.tree = t ∨ w.Interrupts p t := by
  cases h with
  | interrupted hd => exact .inl ((hw.drafter_of_run hd).tree.trans hf.tree)
  | unanswered hd _ => exact .inl ((hw.drafter_of_run hd).tree.trans hf.tree)
  | unusable hd _ => exact .inl ((hw.drafter_of_run hd).tree.trans hf.tree)
  | validated hd _ hv =>
      have hspared := hw.drafter_of_run hd
      refine hv.tree_eq_or_interrupts hw ⟨hf.path, hf.read, hspared.tree.trans hf.tree, fun n => ?_⟩ hr
      exact (congrFun hspared.disk n).trans (hf.done n)

/-- Attempts that come to nothing leave the tree as it was, unless the compiler was interrupted. -/
theorem Attempts.tree_eq_or_interrupts {r : Except Fault (Option Text)}
    (h : Attempts w path issues left number feedback f r f') (hf : Unspoilt p t f)
    (hr : r ≠ .ok none) : f'.world.tree = t ∨ w.Interrupts p t := by
  induction h with
  | givenUp => exact .inl hf.tree
  | broken h => exact h.tree_eq_or_interrupts hw hf (by simp)
  | accepted _ => exact absurd rfl hr
  | @refused left number feedback f g f' ending r h he _ ih =>
      rcases h.tree_eq_or_interrupts hw hf (by simpa using he) with htree | hinterrupts
      · have hkept := h.kept
        have hquiet := quiet_refused g path number ending (left ≠ 0)
        obtain ⟨-, hdisk⟩ := hw.respects.attempted h hf.path (hf.tree ▸ .refl ..)
        have hdisk' := (congrArg (·.disk) hquiet).trans hdisk
        refine ih ⟨?_, ?_, (congrArg (·.tree) hquiet).trans htree, fun n => ?_⟩ hr
        · rw [backup_refused, hkept.path, hf.path]
        · rw [backup_refused, hkept.baseline, hf.read]
        · exact (congrFun hdisk' n).trans (hf.done n)
      · exact .inr hinterrupts

/-! ## The whole work -/

omit hw in
/-- A file that is none is not touched. -/
theorem Fixed.of_unreadable {r : Except Fault FileResult} {e : Fault} (h : Fixed w path issues f r f')
    (hread : f.world.tree.read (w.projectDir.child path) = .error e) :
    f'.world.tree = f.world.tree ∧ World.Touched (w.projectDir.child path) f.world f'.world := by
  have hkept {r : Except Fault (Bool × Option Text)} {g : Fixer σ}
      (hk : Kept w path issues (f.takenUp path) r g) :
      g.world.tree = f.world.tree ∧ World.Touched (w.projectDir.child path) f.world g.world := by
    have hunread := World.reading_of_read_error hread
    cases hk with
    | unkept hentered => cases hentered <;> exact ⟨rfl, .refl .., rfl, rfl, rfl, rfl⟩
    | committed hmade _ => cases hunread.symm.trans hmade.read
    | undone hmade _ _ => cases hunread.symm.trans hmade.read
  cases h with
  | concluded hk =>
      obtain ⟨htree, htouched⟩ := hkept hk
      exact ⟨(tree_concluded ..).trans htree, htouched.trans (.of_quiet _ (quiet_concluded ..))⟩
  | contained hk =>
      obtain ⟨htree, htouched⟩ := hkept hk
      exact ⟨htree, htouched.trans (.of_quiet _ rfl)⟩
  | broken hk _ => exact hkept hk

theorem Kept.tree_eq_of_spares {r : Except Fault (Bool × Option Text)} (h : Kept w path issues f r f')
    (hp : w.projectDir.child path = p) (ht : f.world.tree = t) (hr : ∀ error, r ≠ .ok (true, error))
    (hdone : ∀ n, f.world.disk n = .done)
    (hcalm : ¬ w.Interrupts p t ∨
      ∀ n, ((attempted w path issues).run f).2.world.sight n = none) :
    f'.world.tree = t := by
  subst hp ht
  have hmade' {old : Bytes} {r : Except Fault (Option Text)} {g : Fixer σ}
      (hmade : Made w path issues f old r g) :
      f.world.tree.SameBut (w.projectDir.child path) g.world.tree ∧ ∀ n, g.world.disk n = .done := by
    obtain ⟨hsame, hdisk⟩ := hw.respects.made hmade rfl (.refl ..)
    exact ⟨hsame, fun n => (congrFun hdisk n).trans (hdone n)⟩
  cases h with
  | unkept hentered => cases hentered <;> rfl
  | @committed _ g left _ hmade hleave =>
      have hleft := Backup.left_of_run hleave
      obtain rfl : left = .ok () :=
        hleft.eq_ok_of_accepted (hmade.committed_iff.2 rfl) ((hmade' hmade).2 _)
      exact absurd rfl (hr none)
  | @undone old r g left k hmade hne hleave =>
      obtain ⟨hsame, hgone⟩ := hmade' hmade
      have hc : g.backup.committed = false :=
        Bool.eq_false_iff.2 fun hc => hne (hmade.committed_iff.1 hc)
      have hread := World.read_of_reading hmade.read
      have hunspoilt : Unspoilt (w.projectDir.child path) f.world.tree
          (f.keeping (w.projectDir.child path) old) := ⟨rfl, hread, rfl, hdone⟩
      have hleft := Backup.left_of_run hleave
      rcases hmade.attempts.tree_eq_or_interrupts hw hunspoilt hne with htree | hinterrupts
      · cases hleft with
        | accepted hc' _ => cases hc.symm.trans hc'
        | undone _ hrestored hdropped =>
            have hread' : g.world.tree.read g.backup.path = .ok g.backup.baseline := by
              rw [htree, hmade.path_eq, hmade.baseline_eq, hread]
            exact hdropped.tree_eq.trans ((hrestored.tree_eq_of_read hread' hgone).trans htree)
      · -- The candidate may still be there. It can be taken back, because the file can be looked at.
        have hclear := hcalm.resolve_left (not_not_intro hinterrupts)
        rw [hmade.run] at hclear
        have hrecovers := World.recovers_of_sameBut hsame hread hclear hgone
        rw [← hmade.path_eq, ← hmade.baseline_eq] at hrecovers
        have hback := hleft.read_of_recovers hc hrecovers
        rw [hmade.path_eq, hmade.baseline_eq] at hback
        have htouched := hleft.touched.tree
        rw [hmade.path_eq] at htouched
        exact (hsame.trans htouched).eq_of_read hread hback

/-- The work on a file whose change is not accepted leaves the whole tree as it was, if the collaborators
leave it alone and writes succeed, and unless the compiler was interrupted and the file cannot be looked
at either. -/
theorem Fixed.tree_eq_of_spares {r : Except Fault FileResult} (h : Fixed w path issues f r f')
    (hp : w.projectDir.child path = p) (ht : f.world.tree = t) (hr : hasCommitted r = false)
    (hdone : ∀ n, f.world.disk n = .done)
    (hcalm : ¬ w.Interrupts p t ∨ ∀ n, (leavingWorld w path issues f).sight n = none) :
    f'.world.tree = t := by
  cases h with
  | @concluded committed _ g hk =>
      obtain rfl : committed = false := by simpa [hasCommitted] using hr
      rw [tree_concluded]
      exact hk.tree_eq_of_spares hw hp ht (by simp) hdone hcalm
  | contained hk =>
      have hkept := hk.tree_eq_of_spares hw hp ht (by simp) hdone hcalm
      exact hkept
  | broken hk _ => exact hk.tree_eq_of_spares hw hp ht (by simp) hdone hcalm

end

end Fix

end Mend
