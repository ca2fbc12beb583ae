import Mend.Fix.Backup
import Mend.Proofs.Act
import Mend.Proofs.Project.Writing

/-!
# What a backup does

Every step of a backup is a case of a short list: what it reads, what it writes, and what becomes of
the backup. The only file that a backup writes is its own.

## Main definitions

* `Tree.SameBut` — trees that differ in one file at most.
* `World.Wrote` — the ways in which a write ends.
* `Backup.Restored` — the ways in which putting the old contents back ends.
* `Backup.Entered`, `Backup.Left` — the ways in which taking up a file and letting go of it end.
-/

namespace Mend

/-! ## Trees that differ in one file -/

/-- The second tree is the first one but perhaps for the file at a path, which has been written. -/
def Tree.SameBut (p : Path) (t t' : Tree) : Prop := t' = t ∨ ∃ b, t.write p b = .ok t'

namespace Tree.SameBut

variable {p q : Path} {t t' t'' : Tree} {b : Bytes}

theorem refl (p : Path) (t : Tree) : SameBut p t t := .inl rfl

theorem of_write (h : t.write p b = .ok t') : SameBut p t t' := .inr ⟨b, h⟩

theorem trans (h : SameBut p t t') (h' : SameBut p t' t'') : SameBut p t t'' := by
  rcases h with rfl | ⟨b, hb⟩
  · exact h'
  · rcases h' with rfl | ⟨c, hc⟩
    · exact .inr ⟨b, hb⟩
    · exact .inr ⟨c, by rw [← write_of_write hb, hc]⟩

/-- If the old contents are at the path again, nothing has changed. -/
theorem eq_of_read (h : SameBut p t t') (hold : t.read p = .ok b) (hnew : t'.read p = .ok b) :
    t' = t := by
  rcases h with rfl | ⟨c, hc⟩
  · rfl
  · have hcb : c = b := by simpa [read_of_write hc] using hnew
    exact eq_of_write_of_read (hcb ▸ hc) hold

theorem contents?_eq (h : SameBut p t t') (hapart : p.Apart q) :
    t'.contents? q = t.contents? q := by
  rcases h with rfl | ⟨c, hc⟩
  · rfl
  · exact contents?_of_write hc hapart

end Tree.SameBut

/-! ## Looking -/

namespace World

variable {σ α : Type}

/-- The world after so many looks. -/
def afterLooks (w : World σ) (n : Nat) : World σ := { w with looks := n }

section

variable {w : World σ} {p : Path} {answer : Except Fault α}

theorem seen_of_clear (h : w.sight w.looks = none) : w.seen p answer = answer := by
  cases answer with
  | error e => rfl
  | ok a =>
      rw [seen, h]
      rfl

theorem eq_of_seen_eq_ok {a : α} (h : w.seen p answer = .ok a) : answer = .ok a := by
  cases answer with
  | error e => cases h
  | ok b =>
      cases hsight : w.sight w.looks with
      | none => rwa [seen_of_clear hsight] at h
      | some obstacle =>
          simp only [seen, hsight] at h
          cases h

/-- A look fails as the tree says, or because something is in the way. -/
theorem eq_or_exists_of_seen_eq_error {e : Fault} (h : w.seen p answer = .error e) :
    answer = .error e ∨ ∃ fault, e = .file fault := by
  cases answer with
  | error e' => exact .inl h
  | ok a =>
      cases hsight : w.sight w.looks with
      | none =>
          rw [seen_of_clear hsight] at h
          cases h
      | some obstacle =>
          simp only [seen, hsight] at h
          exact .inr ⟨_, (Except.error.inj h).symm⟩

theorem seen_error (e : Fault) : w.seen p (.error e : Except Fault α) = .error e := rfl

end

variable {w : World σ} {p : Path} {b contents : Bytes} {e : Fault}

theorem read_of_reading (h : w.reading p = .ok b) : w.tree.read p = .ok b := eq_of_seen_eq_ok h

theorem reading_of_read_error (h : w.tree.read p = .error e) : w.reading p = .error e := by
  rw [reading, h, seen_error]

/-- A file that the file system can be given fails to be read with a file fault. -/
theorem exists_file_of_reading (hp : p.IsNameable) (h : w.reading p = .error e) :
    ∃ fault, e = .file fault :=
  (eq_or_exists_of_seen_eq_error h).elim (Tree.exists_file_of_read hp) id

/-- Looking for contents changes nothing but the number of looks. -/
theorem exists_run_holds (p : Path) (contents : Bytes) (w : World σ) :
    ∃ n, (holds p contents).run w = (((holds p contents).run w).1, w.afterLooks n) := by
  cases hthere : w.seen p (w.tree.isThere p) with
  | error e => exact ⟨_, by simp [holds, Act.run_bind, hthere]; rfl⟩
  | ok there =>
      cases there with
      | false => exact ⟨_, by simp [holds, Act.run_bind, hthere]; rfl⟩
      | true =>
          cases hread : w.looked.reading p with
          | error e => exact ⟨_, by simp [holds, Act.run_bind, hthere, hread]; rfl⟩
          | ok b => exact ⟨_, by simp [holds, Act.run_bind, hthere, hread]; rfl⟩

/-- What is said of the contents of a file is true. -/
theorem holds_iff {held : Bool} (h : ((holds p contents).run w).1 = .ok held) :
    held = true ↔ w.tree.read p = .ok contents := by
  cases hthere : w.seen p (w.tree.isThere p) with
  | error e => simp [holds, Act.run_bind, hthere] at h
  | ok there =>
      have hentry := eq_of_seen_eq_ok hthere
      cases there with
      | false =>
          obtain rfl : held = false := by simpa [holds, Act.run_bind, hthere] using h.symm
          refine ⟨fun hf => (nomatch hf), fun hread => ?_⟩
          rw [Tree.isThere_of_read hread] at hentry
          cases hentry
      | true =>
          cases hread : w.looked.reading p with
          | error e => simp [holds, Act.run_bind, hthere, hread] at h
          | ok b =>
              have hb := read_of_reading hread
              replace hb : w.tree.read p = .ok b := hb
              obtain rfl : (b == contents) = held := by
                simpa [holds, Act.run_bind, hthere, hread] using h
              simp [hb]

/-- Looking for contents in a file that the file system can be given fails with a file fault. -/
theorem exists_file_of_holds (hp : p.IsNameable) (h : ((holds p contents).run w).1 = .error e) :
    ∃ fault, e = .file fault := by
  cases hthere : w.seen p (w.tree.isThere p) with
  | error e' =>
      obtain rfl : e' = e := by simpa [holds, Act.run_bind, hthere] using h
      exact (eq_or_exists_of_seen_eq_error hthere).elim Tree.exists_file_of_isThere id
  | ok there =>
      cases there with
      | false => simp [holds, Act.run_bind, hthere] at h
      | true =>
          cases hread : w.looked.reading p with
          | error e' =>
              obtain rfl : e' = e := by simpa [holds, Act.run_bind, hthere, hread] using h
              exact exists_file_of_reading hp hread
          | ok b => simp [holds, Act.run_bind, hthere, hread] at h

end World

/-! ## Writing -/

namespace World

variable {σ : Type}

/-- The world with another tree, after one more write. -/
def afterWrite (w : World σ) (tree : Tree) : World σ :=
  { w with tree, writes := w.writes + 1 }

/-- The ways in which a write ends. One that fails may have written something else. -/
inductive Wrote (p : Path) (contents : Bytes) (w : World σ) : Except Fault Unit → World σ → Prop
  | done {tree : Tree} (h : w.tree.write p contents = .ok tree) :
      Wrote p contents w (.ok ()) (w.afterWrite tree)
  | failed {e : Fault} {tree : Tree} (h : w.tree.SameBut p tree)
      (he : p.IsNameable → ∃ fault, e = .file fault) :
      Wrote p contents w (.error e) (w.afterWrite tree)

theorem wrote_writeFile (p : Path) (contents : Bytes) (w : World σ) :
    Wrote p contents w ((writeFile p contents).run w).1 ((writeFile p contents).run w).2 := by
  unfold writeFile Act.run
  cases hw : w.tree.write p ((w.disk w.writes).written contents) with
  | error e =>
      simp only [hw]
      exact .failed (.refl ..) fun hp => Tree.exists_file_of_write hp hw
  | ok tree =>
      cases hfate : w.disk w.writes with
      | done =>
          simp only [hfate, Fate.written] at hw
          simp only [hfate, Fate.written, hw]
          exact .done hw
      | refused problem =>
          simp only [hfate] at hw
          simp only [hfate, hw]
          exact .failed (.refl ..) fun _ => ⟨_, rfl⟩
      | cutOff n =>
          simp only [hfate] at hw
          simp only [hfate, hw]
          exact .failed (.of_write hw) fun _ => ⟨_, rfl⟩

/-- The world without the log. -/
def quiet (w : World σ) : World σ := { w with log := [] }

/-- The second world is the first one but perhaps for a file that has been written, and for the log. -/
structure Touched (p : Path) (w w' : World σ) : Prop where
  tree : w.tree.SameBut p w'.tree
  disk : w'.disk = w.disk
  sight : w'.sight = w.sight
  cancelled : w'.cancelled = w.cancelled
  extra : w'.extra = w.extra

theorem Touched.refl (p : Path) (w : World σ) : Touched p w w := ⟨.refl .., rfl, rfl, rfl, rfl⟩

theorem Touched.of_quiet {w w' : World σ} (p : Path) (h : w'.quiet = w.quiet) : Touched p w w' := by
  have htree : w'.tree = w.tree := congrArg (·.tree) h
  exact ⟨.inl htree, congrArg (·.disk) h, congrArg (·.sight) h, congrArg (·.cancelled) h,
    congrArg (·.extra) h⟩

theorem Touched.trans {p : Path} {w w' w'' : World σ} (h : Touched p w w') (h' : Touched p w' w'') :
    Touched p w w'' :=
  ⟨h.tree.trans h'.tree, h'.disk.trans h.disk, h'.sight.trans h.sight,
    h'.cancelled.trans h.cancelled, h'.extra.trans h.extra⟩

theorem Wrote.touched {p : Path} {contents : Bytes} {w w' : World σ} {r : Except Fault Unit}
    (h : Wrote p contents w r w') : Touched p w w' := by
  cases h with
  | done h => exact ⟨.of_write h, rfl, rfl, rfl, rfl⟩
  | failed h _ => exact ⟨h, rfl, rfl, rfl, rfl⟩

/-- What a write did that is known to have ended in some way. -/
theorem wrote_of_run {p : Path} {contents : Bytes} {w w' : World σ} {r : Except Fault Unit}
    (h : (writeFile p contents).run w = (r, w')) : Wrote p contents w r w' := by
  have hw := wrote_writeFile p contents w
  rwa [h] at hw

/-- The world after a file has been read and a copy of it has been made, or tried. -/
def copied (w : World σ) : World σ := w.looked.afterWrite w.tree

/-- The ways in which a change outside the tree ends. -/
inductive Changed (w : World σ) : Except Fault Unit → World σ → Prop
  | done : Changed w (.ok ()) (w.afterWrite w.tree)
  | failed {fault : FileFault} (hdisk : w.disk w.writes ≠ .done) :
      Changed w (.error (.file fault)) (w.afterWrite w.tree)

theorem changed_changeOutside (name : Text) (excused : Option FileProblem) (w : World σ) :
    Changed w ((changeOutside name excused).run w).1 ((changeOutside name excused).run w).2 := by
  unfold changeOutside Act.run
  cases hproblem : (w.disk w.writes).problem? with
  | none =>
      simp only [hproblem]
      exact .done
  | some problem =>
      have hdisk : w.disk w.writes ≠ .done := by
        intro hdone
        rw [hdone] at hproblem
        cases hproblem
      by_cases hexcused : excused = some problem
      · simp only [hproblem, if_pos hexcused]
        exact .done
      · simp only [hproblem, if_neg hexcused]
        exact .failed hdisk

/-- Looks have no influence on writes. -/
theorem run_writeFile_afterLooks (p : Path) (contents : Bytes) (w : World σ) (n : Nat) :
    ((writeFile p contents).run (w.afterLooks n)).1 = ((writeFile p contents).run w).1 := by
  simp only [writeFile, Act.run, afterLooks]
  cases w.tree.write p ((w.disk w.writes).written contents) with
  | error e => rfl
  | ok tree => cases w.disk w.writes <;> rfl

/-- A write that nothing stands in the way of succeeds. -/
theorem run_writeFile_of_done {p : Path} {contents : Bytes} {w : World σ} {tree : Tree}
    (h : w.tree.write p contents = .ok tree) (hdisk : w.disk w.writes = .done) :
    (writeFile p contents).run w = (.ok (), w.afterWrite tree) := by
  unfold writeFile Act.run
  simp only [hdisk, Fate.written, h]
  rfl

/-- Whether a file can be looked at and given certain contents. -/
structure Replaceable (w : World σ) (p : Path) (contents : Bytes) : Prop where
  looked : ∃ held, ((holds p contents).run w).1 = .ok held
  written : ((writeFile p contents).run w).1 = .ok ()

/-- Whether a file has certain contents or can be given them. -/
def Recovers (w : World σ) (p : Path) (contents : Bytes) : Prop :=
  w.tree.read p ≠ .ok contents → w.Replaceable p contents

end World

/-! ## Putting the old contents back -/

namespace Backup

variable {σ : Type}

open Held

/-- The backup after a change by it. -/
def changed (b : Backup) : Backup := { b with dirty := true }

/-- The backup of a file that has its old contents. -/
def clean (b : Backup) : Backup := { b with dirty := false }

/-- The ways in which putting the old contents back ends. -/
inductive Restored (force : Bool) (h : Held σ) : Except Fault Unit → Held σ → Prop
  /-- There was no change to undo. -/
  | idle (hforce : force = false) (hdirty : h.backup.dirty = false) :
      Restored force h (.ok ()) h
  /-- The file has its old contents already. -/
  | intact {n : Nat} (hforce : force = true)
      (hread : h.world.tree.read h.backup.path = .ok h.backup.baseline) :
      Restored force h (.ok ()) ⟨h.world.afterLooks n, h.backup.clean⟩
  /-- The file cannot be looked at. -/
  | unseen {n : Nat} {e : Fault} (hforce : force = true)
      (he : ((World.holds h.backup.path h.backup.baseline).run h.world).1 = .error e) :
      Restored force h (.error e) ⟨h.world.afterLooks n, h.backup⟩
  | written {n : Nat} {w : World σ} {line : Log.Line}
      (hw : (World.writeFile h.backup.path h.backup.baseline).run (h.world.afterLooks n) =
        (.ok (), w)) :
      Restored force h (.ok ()) ⟨{ w with log := line :: w.log }, h.backup.clean⟩
  | failed {n : Nat} {e : Fault} {w : World σ}
      (hneed : force = true → h.world.tree.read h.backup.path ≠ .ok h.backup.baseline)
      (hw : (World.writeFile h.backup.path h.backup.baseline).run (h.world.afterLooks n) =
        (.error e, w)) :
      Restored force h (.error e) ⟨w, h.backup⟩

theorem restored_putBaseline {force : Bool} {h : Held σ} (n : Nat)
    (hneed : force = true → h.world.tree.read h.backup.path ≠ .ok h.backup.baseline) :
    Restored force h (putBaseline.run ⟨h.world.afterLooks n, h.backup⟩).1
      (putBaseline.run ⟨h.world.afterLooks n, h.backup⟩).2 := by
  rcases hw : (World.writeFile h.backup.path h.backup.baseline).run (h.world.afterLooks n)
    with ⟨e | u, w⟩
  · have hrun : putBaseline.run ⟨h.world.afterLooks n, h.backup⟩ = (.error e, ⟨w, h.backup⟩) := by
      simp [putBaseline, Act.run_bind, hw]
    rw [hrun]
    exact .failed hneed hw
  · have hrun : putBaseline.run ⟨h.world.afterLooks n, h.backup⟩ = (.ok (), {
        world := { w with
          log := ⟨Log.debug, .cat ["Restored baseline of ", h.backup.path.toText]⟩ :: w.log }
        backup := h.backup.clean }) := by
      simp [putBaseline, Act.run_bind, hw, clean]
    rw [hrun]
    exact .written hw

/-- Looking whether the file has its old contents changes nothing but the number of looks. -/
theorem exists_run_isIntact (h : Held σ) :
    ∃ n, isIntact.run h = (((World.holds h.backup.path h.backup.baseline).run h.world).1,
      ⟨h.world.afterLooks n, h.backup⟩) := by
  obtain ⟨n, hholds⟩ := World.exists_run_holds h.backup.path h.backup.baseline h.world
  exact ⟨n, by simp [isIntact, Act.run_bind, congrArg Prod.snd hholds]⟩

theorem restored_restore (force : Bool) (h : Held σ) :
    Restored force h ((restore force).run h).1 ((restore force).run h).2 := by
  cases force with
  | false =>
      cases hdirty : h.backup.dirty with
      | false =>
          have hrun : (restore false).run h = (.ok (), h) := by
            simp [restore, Act.run_bind, hdirty]
          rw [hrun]
          exact .idle rfl hdirty
      | true =>
          have hrun : (restore false).run h =
              putBaseline.run ⟨h.world.afterLooks h.world.looks, h.backup⟩ := by
            simp [restore, Act.run_bind, hdirty, World.afterLooks]
          rw [hrun]
          exact restored_putBaseline _ (by simp)
  | true =>
      obtain ⟨n, hintact⟩ := exists_run_isIntact h
      cases hholds : ((World.holds h.backup.path h.backup.baseline).run h.world).1 with
      | error e =>
          rw [hholds] at hintact
          have hrun : (restore true).run h = (.error e, ⟨h.world.afterLooks n, h.backup⟩) := by
            simp [restore, Act.run_bind, hintact]
          rw [hrun]
          exact .unseen rfl hholds
      | ok held =>
          rw [hholds] at hintact
          have hiff := World.holds_iff hholds
          cases held with
          | true =>
              have hrun : (restore true).run h =
                  (.ok (), ⟨h.world.afterLooks n, h.backup.clean⟩) := by
                simp [restore, Act.run_bind, hintact, clean]
              rw [hrun]
              exact .intact rfl (hiff.1 rfl)
          | false =>
              have hrun : (restore true).run h =
                  putBaseline.run ⟨h.world.afterLooks n, h.backup⟩ := by
                simp [restore, Act.run_bind, hintact]
              rw [hrun]
              exact restored_putBaseline n fun _ hread => nomatch hiff.2 hread

namespace Restored

variable {force : Bool} {h h' : Held σ} {r : Except Fault Unit}

theorem touched (hr : Restored force h r h') : World.Touched h.backup.path h.world h'.world := by
  cases hr with
  | idle _ _ => exact .refl ..
  | intact _ _ => exact ⟨.refl .., rfl, rfl, rfl, rfl⟩
  | unseen _ _ => exact ⟨.refl .., rfl, rfl, rfl, rfl⟩
  | written hw =>
      have hw := (World.wrote_of_run hw).touched
      exact ⟨hw.tree, hw.disk, hw.sight, hw.cancelled, hw.extra⟩
  | failed _ hw =>
      have hw := (World.wrote_of_run hw).touched
      exact ⟨hw.tree, hw.disk, hw.sight, hw.cancelled, hw.extra⟩

/-- What is kept of a file stays as it is; only whether it has changed is noted anew. -/
theorem backup (hr : Restored force h r h') : h'.backup = h.backup ∨ h'.backup = h.backup.clean := by
  cases hr with
  | idle _ _ => exact .inl rfl
  | intact _ _ => exact .inr rfl
  | unseen _ _ => exact .inl rfl
  | written _ => exact .inr rfl
  | failed _ _ => exact .inl rfl

/-- Whoever had something to put back, and did not fail, has put it back. -/
theorem read (hr : Restored force h (.ok ()) h') (hwork : force = true ∨ h.backup.dirty = true) :
    h'.world.tree.read h.backup.path = .ok h.backup.baseline := by
  cases hr with
  | idle hforce hdirty => simp [hforce, hdirty] at hwork
  | intact _ hread => exact hread
  | written hw =>
      cases World.wrote_of_run hw with
      | done h => exact Tree.read_of_write h

/-- Putting back fails with a file fault. -/
theorem exists_file {e : Fault} (hr : Restored force h (.error e) h')
    (hp : h.backup.path.IsNameable) : ∃ fault, e = .file fault := by
  cases hr with
  | unseen _ he => exact World.exists_file_of_holds hp he
  | failed _ hw =>
      cases World.wrote_of_run hw with
      | failed _ he => exact he hp

/-- If the old contents are there, or the file can be looked at and written, they are there after they
have been put back by force. -/
theorem read_of_recovers (hr : Restored true h r h')
    (hback : h.world.Recovers h.backup.path h.backup.baseline) :
    h'.world.tree.read h.backup.path = .ok h.backup.baseline := by
  cases hr with
  | idle hforce _ => cases hforce
  | intact _ hread => exact hread
  | unseen _ he =>
      by_cases hread : h.world.tree.read h.backup.path = .ok h.backup.baseline
      · exact hread
      · obtain ⟨held, hheld⟩ := (hback hread).looked
        cases he.symm.trans hheld
  | written hw =>
      cases World.wrote_of_run hw with
      | done h => exact Tree.read_of_write h
  | failed hneed hw =>
      have hwritten := (hback (hneed rfl)).written
      rw [← World.run_writeFile_afterLooks, hw] at hwritten
      cases hwritten

end Restored

/-! ## Taking up a file -/

/-- The backup of a file of which nothing has become yet. -/
def keeping (path : Path) (baseline : Bytes) (copy : Text) : Backup :=
  { path, baseline, copy := some copy }

/-- The ways in which taking up a file ends. -/
inductive Entered (path : Path) (h : Held σ) : Except Fault Unit → Held σ → Prop
  | unread {e : Fault} (he : h.world.reading path = .error e) :
      Entered path h (.error e) ⟨h.world.looked, { path }⟩
  /-- No copy can be made. -/
  | uncopied {baseline : Bytes} {fault : FileFault} (hread : h.world.reading path = .ok baseline)
      (hdisk : h.world.disk h.world.writes ≠ .done) :
      Entered path h (.error (.file fault)) ⟨h.world.copied, { path, baseline }⟩
  | kept {baseline : Bytes} (hread : h.world.reading path = .ok baseline) :
      Entered path h (.ok ())
        ⟨h.world.copied, keeping path baseline (h.world.copyName h.world.writes)⟩

theorem entered_enter (path : Path) (h : Held σ) :
    Entered path h ((enter path).run h).1 ((enter path).run h).2 := by
  cases hread : h.world.reading path with
  | error e =>
      have hrun : (enter path).run h = (.error e, ⟨h.world.looked, { path }⟩) := by
        simp [enter, Act.run_bind, hread]
      rw [hrun]
      exact .unread hread
  | ok baseline =>
      have hlooked : h.world.looked.copyName h.world.looked.writes =
          h.world.copyName h.world.writes := rfl
      have hcopied := World.changed_changeOutside (h.world.copyName h.world.writes) none h.world.looked
      rcases hcopy : (World.changeOutside (h.world.copyName h.world.writes) none).run h.world.looked
        with ⟨e | u, s⟩
      · rw [hcopy] at hcopied
        have hrun : (enter path).run h = (.error e, ⟨s, { path, baseline }⟩) := by
          simp [enter, World.makeCopy, Act.run_bind, hread, hlooked, hcopy]
        rw [hrun]
        cases hcopied with
        | failed hdisk => exact .uncopied hread hdisk
      · rw [hcopy] at hcopied
        have hrun : (enter path).run h =
            (.ok (), ⟨s, keeping path baseline (h.world.copyName h.world.writes)⟩) := by
          simp [enter, World.makeCopy, Act.run_bind, hread, hlooked, hcopy, keeping]
        rw [hrun]
        cases hcopied with
        | done => exact .kept hread

theorem run_writeCandidate (content : Text) (h : Held σ) :
    (writeCandidate content).run h =
      match Utf8.encodeKeeping content with
      | .error i => (.error (.unencodable content i), { h with backup := h.backup.changed })
      | .ok bytes =>
        (((World.writeFile h.backup.path bytes).run h.world).1,
          { world := ((World.writeFile h.backup.path bytes).run h.world).2
            backup := h.backup.changed }) := by
  cases hbytes : Utf8.encodeKeeping content <;>
    simp [writeCandidate, Act.run_bind, hbytes, changed]

/-! ## Letting go of a file -/

/-- The backup without its copy. -/
def released (b : Backup) : Backup := { b with copy := none }

/-- The ways in which removing the copy ends. -/
inductive Dropped (h : Held σ) : Except Fault Unit → Held σ → Prop
  | idle (hcopy : h.backup.copy = none) : Dropped h (.ok ()) h
  | done : Dropped h (.ok ()) ⟨h.world.afterWrite h.world.tree, h.backup.released⟩
  | failed {fault : FileFault} (hdisk : h.world.disk h.world.writes ≠ .done) :
      Dropped h (.error (.file fault)) ⟨h.world.afterWrite h.world.tree, h.backup⟩

theorem dropped_dropCopy (h : Held σ) : Dropped h (dropCopy.run h).1 (dropCopy.run h).2 := by
  cases hcopy : h.backup.copy with
  | none =>
      have hrun : dropCopy.run h = (.ok (), h) := by
        simp [dropCopy, Act.run_bind, hcopy]
      rw [hrun]
      exact .idle hcopy
  | some name =>
      have hchanged := World.changed_changeOutside name (some .missing) h.world
      rcases hremove : (World.changeOutside name (some .missing)).run h.world with ⟨e | u, s⟩
      · rw [hremove] at hchanged
        have hrun : dropCopy.run h = (.error e, ⟨s, h.backup⟩) := by
          simp [dropCopy, Act.run_bind, hcopy, World.removeCopy, hremove]
        rw [hrun]
        cases hchanged with
        | failed hdisk => exact .failed hdisk
      · rw [hremove] at hchanged
        have hrun : dropCopy.run h = (.ok (), ⟨s, h.backup.released⟩) := by
          simp [dropCopy, Act.run_bind, hcopy, World.removeCopy, hremove, released]
        rw [hrun]
        cases hchanged with
        | done => exact .done

namespace Dropped

variable {h h' : Held σ} {r : Except Fault Unit}

theorem tree_eq (hd : Dropped h r h') : h'.world.tree = h.world.tree := by
  cases hd <;> rfl

theorem touched (hd : Dropped h r h') (p : Path) : World.Touched p h.world h'.world := by
  cases hd <;> exact ⟨.refl .., rfl, rfl, rfl, rfl⟩

theorem exists_file {e : Fault} (hd : Dropped h (.error e) h') : ∃ fault, e = .file fault := by
  cases hd with
  | failed _ => exact ⟨_, rfl⟩

end Dropped

/-- The ways in which letting go of a file ends. -/
inductive Left (h : Held σ) : Except Fault Unit → Held σ → Prop
  | accepted {r : Except Fault Unit} {h' : Held σ} (hc : h.backup.committed = true)
      (hd : Dropped h r h') : Left h r h'
  | undone {restored dropped : Except Fault Unit} {g h' : Held σ} (hc : h.backup.committed = false)
      (hr : Restored true h restored g) (hd : Dropped g dropped h') :
      Left h (dropped.bind fun () => restored) h'

/-- To let go of a file with an accepted change is to remove the copy. -/
theorem run_leave_of_committed {h : Held σ} (hc : h.backup.committed = true) :
    leave.run h = dropCopy.run h := by
  rcases hdrop : dropCopy.run h with ⟨e | u, h'⟩ <;>
    simp [leave, Act.run_bind, hc, hdrop]

theorem left_leave (h : Held σ) : Left h (leave.run h).1 (leave.run h).2 := by
  cases hc : h.backup.committed with
  | true =>
      rw [run_leave_of_committed hc]
      exact .accepted hc (dropped_dropCopy h)
  | false =>
      have hr := restored_restore true h
      rcases hrestore : (restore true).run h with ⟨restored, g⟩
      rw [hrestore] at hr
      have hd := dropped_dropCopy g
      have hrun : leave.run h = ((dropCopy.run g).1.bind fun () => restored, (dropCopy.run g).2) := by
        rcases hdrop : dropCopy.run g with ⟨e | u, h'⟩ <;>
          simp [leave, Act.run_bind, hc, hrestore, hdrop, Except.bind]
      rw [hrun]
      exact .undone hc hr hd

namespace Left

variable {h h' : Held σ} {r : Except Fault Unit}

theorem touched (hl : Left h r h') : World.Touched h.backup.path h.world h'.world := by
  cases hl with
  | accepted _ hd => exact hd.touched _
  | undone _ hr hd => exact hr.touched.trans (hd.touched _)

/-- Letting go of a file that the file system can be given fails with a file fault. -/
theorem exists_file {e : Fault} (hl : Left h (.error e) h') (hp : h.backup.path.IsNameable) :
    ∃ fault, e = .file fault := by
  generalize hresult : Except.error e = r at hl
  cases hl with
  | accepted _ hd =>
      subst hresult
      exact hd.exists_file
  | @undone restored dropped _ _ _ hr hd =>
      cases dropped with
      | error e' =>
          cases hresult
          exact hd.exists_file
      | ok u =>
          replace hresult : Except.error e = restored := hresult
          subst hresult
          exact hr.exists_file hp

/-- If the old contents are there, or the file can be looked at and written, they are there when a file
without an accepted change has been let go of. -/
theorem read_of_recovers (hl : Left h r h') (hc : h.backup.committed = false)
    (hback : h.world.Recovers h.backup.path h.backup.baseline) :
    h'.world.tree.read h.backup.path = .ok h.backup.baseline := by
  cases hl with
  | accepted hc' _ => cases hc.symm.trans hc'
  | undone _ hr hd => rw [hd.tree_eq, hr.read_of_recovers hback]

/-- Letting go of a file with an accepted change leaves the tree as it is. -/
theorem tree_eq_of_accepted (hl : Left h r h') (hc : h.backup.committed = true) :
    h'.world.tree = h.world.tree := by
  cases hl with
  | accepted _ hd => exact hd.tree_eq
  | undone hc' _ _ => cases hc.symm.trans hc'

/-- A file with an accepted change is let go of if the copy can be removed. -/
theorem eq_ok_of_accepted (hl : Left h r h') (hc : h.backup.committed = true)
    (hdisk : h.world.disk h.world.writes = .done) : r = .ok () := by
  cases hl with
  | accepted _ hd =>
      cases hd with
      | failed hfailed => exact absurd hdisk hfailed
      | _ => rfl
  | undone hc' _ _ => cases hc.symm.trans hc'

end Left

theorem left_of_run {h h' : Held σ} {r : Except Fault Unit} (hrun : leave.run h = (r, h')) :
    Left h r h' := by
  have hl := left_leave h
  rwa [hrun] at hl

end Backup

end Mend
