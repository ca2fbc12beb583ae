import Mend.Proofs.Fix.Journal

/-!
# A file is fixed entirely or not at all

When the work on a file is over, however it ended, the file holds what it held before or what the
drafter answered last and the compiler accepted. No other file is changed by the work itself.

## Main definitions

* `Fix.EndsAccepted` — calls that end with the acceptance of certain bytes.
* `Fix.Settles` — what letting go of a file depends on.

## Main statements

* `Fix.fixFile_atomic` — what a file holds when the work on it is over.
* `Fix.exists_not_restored` — how it can hold something else.
-/

namespace Mend.Fix

variable {σ : Type}

open Fixer

/-- The last call but one is an answer of the drafter, and the last call finds that answer, in bytes,
in the file at a path of a tree and accepts it. -/
def EndsAccepted (target : Path) (bytes : Bytes) (t : Tree) (calls : List Call) : Prop :=
  ∃ earlier request draft content outcome u u' t',
    calls = earlier ++ [⟨.draft request (.ok draft), u, u'⟩, ⟨.compile (.ok outcome), t, t'⟩] ∧
      draft.content = some content ∧ Utf8.encodeKeeping content = .ok bytes ∧
      t.read target = .ok bytes ∧ outcome.ok = true

/-- What letting go of a file depends on: the copy of the old contents can be removed if a change was
accepted, and if none was, the old contents are there or the file can be looked at and written. -/
structure Settles (target : Path) (old : Bytes) (leaving : Held σ) : Prop where
  accepted : leaving.backup.committed = true → (Backup.dropCopy.run leaving).1 = .ok ()
  undone : leaving.backup.committed = false → leaving.world.Recovers target old

/-! ## Files that are given up -/

section

variable {w : Workshop σ} {path : Text} {issues : List Issue} {f f' : Fixer σ}

/-- Where no change is accepted, the old contents are there in the end, unless they have to be written
and cannot be. -/
theorem Kept.read_of_not_committed {r : Except Fault (Bool × Option Text)} {old : Bytes}
    (h : Kept w path issues f r f') (hread : f.world.tree.read (w.projectDir.child path) = .ok old)
    (hr : ∀ error, r ≠ .ok (true, error))
    (hsettles : Settles (w.projectDir.child path) old ((attempted w path issues).run f).2.toHeld) :
    f'.world.tree.read (w.projectDir.child path) = .ok old := by
  cases h with
  | unkept hentered => cases hentered <;> exact hread
  | @committed _ f' left _ hmade hleave =>
      have hc : f'.backup.committed = true := hmade.committed_iff.2 rfl
      rw [hmade.run] at hsettles
      have hremoved := hsettles.accepted hc
      rw [← Backup.run_leave_of_committed hc, hleave] at hremoved
      obtain rfl : left = .ok () := hremoved
      exact absurd rfl (hr none)
  | @undone old' r f' left h hmade hne hleave =>
      have hc : f'.backup.committed = false :=
        Bool.eq_false_iff.2 fun hc => hne (hmade.committed_iff.1 hc)
      obtain rfl := Except.ok.inj (hread.symm.trans (World.read_of_reading hmade.read))
      rw [hmade.run] at hsettles
      have hback := hsettles.undone hc
      rw [← hmade.path_eq, ← hmade.baseline_eq] at hback
      have hput := (Backup.left_of_run hleave).read_of_recovers hc hback
      rwa [hmade.path_eq, hmade.baseline_eq] at hput

@[simp] theorem isCommitted_resultOf (attempts : List Attempt) (committed : Bool)
    (error : Option Text) :
    (resultOf path issues attempts committed error).isCommitted = committed := by
  cases committed <;> rfl

theorem Fixed.read_of_not_committed {r : Except Fault FileResult} {old : Bytes}
    (h : Fixed w path issues f r f') (hread : f.world.tree.read (w.projectDir.child path) = .ok old)
    (hr : ∀ result, r = .ok result → result.isCommitted = false)
    (hsettles : Settles (w.projectDir.child path) old (leavingHeld w path issues f)) :
    f'.world.tree.read (w.projectDir.child path) = .ok old := by
  cases h with
  | @concluded committed error f' hk =>
      have hcommitted : committed = false := by simpa using hr _ rfl
      rw [tree_concluded]
      exact hk.read_of_not_committed hread (by simp [hcommitted]) hsettles
  | contained hk => exact hk.read_of_not_committed hread (by simp) hsettles
  | broken hk _ => exact hk.read_of_not_committed hread (by simp) hsettles

end

/-! ## Files whose change is accepted -/

section

variable {w : Workshop σ} {path : Text} {issues : List Issue} {left number : Nat}
  {feedback : Feedback} {f f' : Fixer (Journaled σ)}

/-- The compiler accepts the project in a world. -/
def Workshop.Accepts (w : Workshop σ) (s : World σ) : Prop :=
  ∃ outcome, ((w.validator.compile w.projectDir).run s).1 = .ok outcome ∧ outcome.ok = true

/-- What has happened when a change is accepted: the last calls, and what the compiler found. It is
still there if the collaborators leave it alone. -/
structure AcceptedIn (w : Workshop σ) (target : Path) (s : World (Journaled σ)) (bytes : Bytes)
    (found : World σ) : Prop where
  ends : EndsAccepted target bytes found.tree s.extra.calls
  accepts : w.Accepts found
  read_eq : w.Keeps (·.tree.contents? target) → s.tree.read target = .ok bytes
  tree_eq : w.Keeps World.tree → s.tree = found.tree

/-- Nothing but the tree and the journal matters. -/
theorem AcceptedIn.congr {w : Workshop σ} {target : Path} {s s' : World (Journaled σ)}
    {bytes : Bytes} {found : World σ} (h : AcceptedIn w target s bytes found)
    (htree : s'.tree = s.tree) (hextra : s'.extra = s.extra) : AcceptedIn w target s' bytes found :=
  ⟨hextra ▸ h.ends, h.accepts, htree ▸ h.read_eq, htree ▸ h.tree_eq⟩

theorem Accepted.acceptedIn {s : World (Journaled σ)}
    (h : Accepted w.journaled path issues number feedback f s) :
    ∃ bytes found, AcceptedIn w f.backup.path s bytes found := by
  cases h with
  | @intro d s written _ candidate bytes outcome hd hc hbytes hw hv hok =>
      have hdrafting := calls_of_drafter hd
      have hcompiling := calls_of_compile hv
      cases World.wrote_of_run hw with
      | @done tree hwrite =>
          have hread := Tree.read_of_write hwrite
          have hcontent := candidateOf_eq_ok hc
          have hcalls := hcompiling.trans
            ((congrArg (· ++ _) hdrafting).trans (List.append_assoc ..))
          refine ⟨bytes, World.mapExtra Journaled.own _, ?_, ⟨outcome, congrArg Prod.fst hv, hok⟩,
            fun hkeeps => ?_, fun hkeeps => hkeeps.journaled.compile_of_run hv⟩
          · exact ⟨f.calls, _, d, candidate, outcome, _, _, _, hcalls, hcontent, hbytes, hread, hok⟩
          · have hcompiled := hkeeps.journaled.compile_of_run hv
            exact Tree.contents?_eq_some_iff.1
              (hcompiled.trans (Tree.contents?_eq_some_iff.2 hread))

theorem Attempts.acceptedIn
    (h : Attempts w.journaled path issues left number feedback f (.ok none) f') :
    ∃ bytes found, AcceptedIn w f.backup.path f'.world bytes found := by
  generalize hr : Except.ok none = r at h
  induction h with
  | givenUp => cases hr
  | broken _ => cases hr
  | accepted h =>
      obtain ⟨bytes, found, haccepted⟩ := h.of_success.acceptedIn
      exact ⟨bytes, found, haccepted.congr rfl rfl⟩
  | refused h _ _ ih =>
      have hrest := ih hr
      rwa [backup_refused, h.kept.path] at hrest

theorem Fixed.acceptedIn {result : FileResult} (h : Fixed w.journaled path issues f (.ok result) f')
    (hcommitted : result.isCommitted = true) :
    ∃ bytes found, AcceptedIn w (w.projectDir.child path) f'.world bytes found := by
  generalize hr : Except.ok result = r at h
  cases h with
  | @concluded committed error f' hk =>
      cases hr
      obtain rfl : committed = true := by simpa using hcommitted
      generalize hr : Except.ok (true, error) = r at hk
      cases hk with
      | unkept _ => cases hr
      | committed hmade hleave =>
          obtain ⟨bytes, found, haccepted⟩ := hmade.attempts.acceptedIn
          have hleft := Backup.left_of_run hleave
          have htree := hleft.tree_eq_of_accepted (hmade.committed_iff.2 rfl)
          exact ⟨bytes, found, haccepted.congr htree hleft.touched.extra⟩
      | @undone _ r _ left _ _ _ _ =>
          cases left with
          | error e => cases hr
          | ok u => cases r <;> cases hr
  | contained hk =>
      cases hr
      simp at hcommitted
  | broken _ _ => cases hr

end

/-- The work on a file is done entirely or not at all. If no change is accepted, the old contents are
there in the end, whatever the collaborators have done to the file, unless they are gone and the file
cannot be looked at or written, or the copy of them cannot be removed behind a change that was accepted
already. If a change is accepted, the compiler has seen the last answer of the drafter in the file
and has accepted it, and if the collaborators leave the file alone, that is what the file holds. Other
files are changed by the collaborators only. -/
theorem fixFile_atomic (w : Workshop σ) (path : Text) (issues : List Issue) (f : Fixer σ)
    {old : Bytes} (hread : f.world.tree.read (w.projectDir.child path) = .ok old) :
    let target := w.projectDir.child path
    let out := (fixFile w path issues).run f
    ((∀ result, out.1 = .ok result → result.isCommitted = false) →
        Settles target old (leavingHeld w path issues f) →
        out.2.world.tree.read target = .ok old) ∧
      (∀ result, out.1 = .ok result → result.isCommitted = true →
        ∃ bytes t, EndsAccepted target bytes t (fileCalls w path issues f) ∧
          (w.Keeps (·.tree.contents? target) → out.2.world.tree.read target = .ok bytes)) ∧
      ∀ q, target.Apart q →
        Untouched q f.world.tree (fileCalls w path issues f) out.2.world.tree := by
  intro target out
  have hjournaled := fixed_fixFile w.journaled path issues f.journaling
  have hout := run_fixFile_eq w path issues f
  refine ⟨fun hr hsettles => ?_, fun result hr hcommitted => ?_, fun q hapart => ?_⟩
  · exact (fixed_fixFile w path issues f).read_of_not_committed hread hr hsettles
  · have hresult := (congrArg Prod.fst hout).symm.trans hr
    simp only at hresult
    rw [hresult] at hjournaled
    obtain ⟨bytes, found, haccepted⟩ := hjournaled.acceptedIn hcommitted
    refine ⟨bytes, found.tree, haccepted.ends, fun hk => ?_⟩
    show ((fixFile w path issues).run f).2.world.tree.read target = .ok bytes
    rw [hout]
    exact haccepted.read_eq hk
  · obtain ⟨calls, hcalls, huntouched⟩ :=
      (respects_reaches w hapart).fixed hjournaled rfl
    show Untouched q f.world.tree (fileCalls w path issues f)
      ((fixFile w path issues).run f).2.world.tree
    rw [hout]
    have hall : fileCalls w path issues f = calls := hcalls
    rw [hall]
    exact huntouched

/-- A workshop whose drafter deletes all files and fails. -/
def destructive : Workshop Unit :=
  { small true with drafter := fun _ s => (.error (.broken []), { s with tree := {} }) }

theorem fixFile_atomic_emptyFile :
    (∃ bytes t, EndsAccepted (Path.child {} [0x61]) bytes t
        (fileCalls (small true) [0x61] [] emptyFile) ∧
      ((fixFile (small true) [0x61] []).run emptyFile).2.world.tree.read (Path.child {} [0x61]) =
        .ok bytes) ∧
      ((fixFile destructive [0x61] []).run emptyFile).2.world.tree.read (Path.child {} [0x61]) =
        .ok [] := by
  have hread : emptyFile.world.tree.read (Path.child {} [0x61]) = .ok [] := rfl
  constructor
  · have hcommitted : hasCommitted ((fixFile (small true) [0x61] []).run emptyFile).1 = true := by
      decide +kernel
    obtain ⟨-, h, -⟩ := fixFile_atomic (small true) [0x61] [] emptyFile hread
    cases hout : ((fixFile (small true) [0x61] []).run emptyFile).1 with
    | error e => simp [hout, hasCommitted] at hcommitted
    | ok result =>
        rw [hout] at hcommitted
        obtain ⟨bytes, t, hends, hkeeps⟩ := h result hout hcommitted
        exact ⟨bytes, t, hends, hkeeps (Workshop.keeps_still ..)⟩
  · have hcommitted : hasCommitted ((fixFile destructive [0x61] []).run emptyFile).1 = false := by
      decide +kernel
    have hleaving : (leavingHeld destructive [0x61] [] emptyFile).backup.committed = false ∧
        ((World.holds (Path.child {} [0x61]) []).run
          (leavingWorld destructive [0x61] [] emptyFile)).1.isOk = true ∧
        ((World.writeFile (Path.child {} [0x61]) []).run
          (leavingWorld destructive [0x61] [] emptyFile)).1.isOk = true := by decide +kernel
    obtain ⟨hc, hlooked, hwritten⟩ := hleaving
    obtain ⟨h, -, -⟩ := fixFile_atomic destructive [0x61] [] emptyFile hread
    refine h (fun result hresult => ?_) ⟨fun hc' => ?_, fun _ _ => ⟨?_, ?_⟩⟩
    · rw [hresult] at hcommitted
      exact hcommitted
    · cases hc.symm.trans hc'
    · exact exists_of_isOk hlooked
    · exact (exists_of_isOk hwritten).elim fun _ hu => hu

/-! ## Files that are lost -/

/-- A workshop whose drafter writes an `x` into the file, makes it unreadable, and has no usable
answer. -/
def secretive : Workshop Unit :=
  { small true with
    drafter := fun _ s => (.ok { content := none },
      { s with
        tree := ⟨.dir [([0x61], .file [0x78])]⟩
        sight := fun _ => some ⟨.denied, rfl⟩ }) }

/-- A workshop whose drafter puts a directory in the place of the file, and has no usable answer. -/
def displacing : Workshop Unit :=
  { small true with
    drafter := fun _ s => (.ok { content := none }, { s with tree := ⟨.dir [([0x61], .dir [])]⟩ }) }

/-- A run whose third change to the file system is refused: behind the copy and the candidate, that is
the removal of the copy. -/
def stuckCopy : Fixer Unit :=
  emptyFile.inWorld
    { emptyFile.world with disk := fun n => if n = 2 then .refused .denied else .done }

/-- A file that is not committed need not hold what it held before, although no write to it fails. If it
cannot be read when it is let go of, or is a directory then, nothing is written, even where that would
succeed. If the copy cannot be removed, an accepted change stays and is not committed. -/
theorem exists_not_restored :
    let target := Path.child {} [0x61]
    let unread := (fixFile secretive [0x61] []).run emptyFile
    let displaced := (fixFile displacing [0x61] []).run emptyFile
    let stuck := (fixFile (small true) [0x61] []).run stuckCopy
    (unread.1.toOption.map (·.state) = some .rolledBack ∧
        unread.2.world.tree.contents? target = some [0x78] ∧
        ((World.writeFile target []).run (leavingWorld secretive [0x61] [] emptyFile)).1.isOk = true) ∧
      (displaced.1.toOption.map (·.state) = some .rolledBack ∧ displaced.2.world.writes = 2 ∧
        displaced.2.world.tree.contents? target = none) ∧
      stuck.1.toOption.map (·.state) = some .rolledBack ∧ stuck.2.world.writes = 3 ∧
        stuck.2.world.tree.contents? target = some [0x78] := by
  decide +kernel

end Mend.Fix
