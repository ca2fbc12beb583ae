import Mend.Proofs.Fix.Views
import Mend.Proofs.Plan.Selection
import Mend.Proofs.Text.Utf8

/-!
# What ends a run

Whatever goes wrong with a file, the run goes on to the next one, with two exceptions: a path that the
file system cannot be given, and a draft that cannot be written as bytes. Both end the run, and
nothing else does.

## Main definitions

* `Fault.IsCoding` — the faults of texts that the file system cannot be given.
* `Fix.Workshop.Answers` — collaborators that answer or fail, and are not interrupted.
* `Fix.DraftsWritable` — whether all drafts in some calls can be written.
* `Fix.StaysIn` — what must be the case for all that goes wrong with a file to stay with it.
* `Fix.Report.Covers` — reports with one final result for each file.
-/

namespace Mend

/-- Whether a fault says that a text cannot be handed to the file system. -/
def Fault.IsCoding (e : Fault) : Prop := (∃ t i, e = .unencodable t i) ∨ e = .nullInPath

namespace Tree

theorem isCoding_of_checkPath {p : Path} {e : Fault} (h : checkPath p = .error e) : e.IsCoding := by
  rw [checkPath] at h
  split at h
  · exact .inl ⟨_, _, (Except.error.inj h).symm⟩
  · split at h
    · exact .inr (Except.error.inj h).symm
    · cases h

/-- A path that the file system cannot be given is not read. -/
theorem exists_coding_of_read {t : Tree} {p : Path} (hp : ¬ p.IsNameable) :
    ∃ e, t.read p = .error e ∧ e.IsCoding := by
  cases hcheck : checkPath p with
  | error e =>
      refine ⟨e, ?_, isCoding_of_checkPath hcheck⟩
      rw [read, hcheck]
      rfl
  | ok u => exact absurd hcheck hp

end Tree

/-- The file system can be given a path if each code point of it can be written and none is zero. -/
theorem Path.isNameable_iff {p : Path} :
    p.IsNameable ↔ Utf8.IsWritable p.toText ∧ 0 ∉ p.toText := by
  rw [IsNameable, Tree.checkPath, ← Utf8.exists_encodeKeeping_iff]
  cases Utf8.encodeKeeping p.toText with
  | error i => simp
  | ok bytes => by_cases hzero : (0 : Code) ∈ p.toText <;> simp [hzero]

instance (t : Text) : Decidable (Utf8.IsWritable t) :=
  inferInstanceAs (Decidable (∀ c ∈ t, (Text.isScalar c || Utf8.isKept c) = true))

instance (p : Path) : Decidable p.IsNameable := decidable_of_iff _ Path.isNameable_iff.symm

namespace Fix

variable {σ : Type}

open Fixer

/-! ## Collaborators and what they answer -/

/-- Every call of a collaborator ends with an answer or a failure, and is not interrupted. -/
structure Workshop.Answers (w : Workshop σ) : Prop where
  drafter : ∀ r s, ((w.drafter r).run s).1 ≠ .error .interrupted
  compile : ∀ p s, ((w.validator.compile p).run s).1 ≠ .error .interrupted
  test : ∀ p s, ((w.validator.test p).run s).1 ≠ .error .interrupted

theorem Workshop.Answers.journaled {w : Workshop σ} (h : w.Answers) : w.journaled.Answers where
  drafter r s := h.drafter r (s.mapExtra Journaled.own)
  compile p s := h.compile p (s.mapExtra Journaled.own)
  test p s := h.test p (s.mapExtra Journaled.own)

/-- Whether no draft is answered that cannot be written. -/
def Exchange.Writable : Exchange → Prop
  | .draft _ (.ok d) => ∀ content ∈ d.content, Utf8.IsWritable content
  | _ => True

instance : DecidablePred Exchange.Writable
  | .draft _ (.ok d) => inferInstanceAs (Decidable (∀ content ∈ d.content, Utf8.IsWritable content))
  | .draft _ (.error _) => .isTrue trivial
  | .compile _ => .isTrue trivial
  | .test _ => .isTrue trivial

/-- Whether all drafts in some calls can be written. -/
def DraftsWritable (calls : List Call) : Prop := ∀ c ∈ calls, c.exchange.Writable

instance (calls : List Call) : Decidable (DraftsWritable calls) :=
  inferInstanceAs (Decidable (∀ c ∈ calls, c.exchange.Writable))

@[simp] theorem draftsWritable_nil : DraftsWritable [] := by simp [DraftsWritable]

@[simp] theorem draftsWritable_append {calls more : List Call} :
    DraftsWritable (calls ++ more) ↔ DraftsWritable calls ∧ DraftsWritable more := by
  simp [DraftsWritable, or_imp, forall_and]

@[simp] theorem draftsWritable_cons {call : Call} {calls : List Call} :
    DraftsWritable (call :: calls) ↔ call.exchange.Writable ∧ DraftsWritable calls := by
  simp [DraftsWritable]

/-! ## Drafts without a candidate -/

theorem isWritable_of_isUnchanged {content : Text} {old : Bytes}
    (h : isUnchanged content (Utf8.decodeKeeping old) = true) : Utf8.IsWritable content := by
  intro c hc
  have hsame : content.trimRight (· == Text.newline) =
      (Utf8.decodeKeeping old).trimRight (· == Text.newline) := by simpa [isUnchanged] using h
  have hparts := List.takeWhile_append_dropWhile (p := (· == Text.newline)) (l := content.reverse)
  rw [← List.mem_reverse, ← hparts] at hc
  rcases List.mem_append.1 hc with hend | hkept
  · have hline : (c == Text.newline) = true := List.all_eq_true.1 List.all_takeWhile c hend
    obtain rfl : c = Text.newline := by simpa using hline
    rfl
  · have htrim : c ∈ content.trimRight (· == Text.newline) := List.mem_reverse.2 hkept
    rw [hsame] at htrim
    have hold : c ∈ Utf8.decodeKeeping old :=
      List.mem_reverse.1 ((List.dropWhile_sublist _).mem (List.mem_reverse.1 htrim))
    exact Utf8.isWritable_decodeKeeping old c hold

/-- A draft that is no candidate can be written. -/
theorem isWritable_of_candidateOf_eq_error {d : Drafting.Draft} {old : Bytes} {ending : Ending}
    {content : Text} (h : candidateOf d (Utf8.decodeKeeping old) = .error ending)
    (hcontent : d.content = some content) : Utf8.IsWritable content := by
  rw [candidateOf, hcontent] at h
  dsimp only at h
  split at h
  · exact isWritable_of_isUnchanged ‹_›
  · cases h

/-! ## How the work on a file fails -/

/-- As long as something is the case, an action fails with file faults only. If it is not the case, the
action fails with a text that the file system cannot be given. -/
structure EndsAs {α : Type} (contained : Prop) (r : Except Fault α) : Prop where
  file : contained → ∀ e, r = .error e → ∃ fault, e = .file fault
  coding : ¬ contained → ∃ e, r = .error e ∧ e.IsCoding

namespace EndsAs

variable {α β : Type} {p q : Prop} {r : Except Fault α}

theorem of_contained (hp : p) (hr : ∀ e, r = .error e → ∃ fault, e = .file fault) : EndsAs p r :=
  ⟨fun _ => hr, fun h => absurd hp h⟩

theorem of_coding {e : Fault} (hp : ¬ p) (he : e.IsCoding) : EndsAs p (.error e : Except Fault α) :=
  ⟨fun h => absurd h hp, fun _ => ⟨e, rfl, he⟩⟩

theorem congr (h : EndsAs p r) (hpq : p ↔ q) : EndsAs q r := by rwa [propext hpq] at h

theorem map {g : α → β} (h : EndsAs p r) : EndsAs p (r.map g) := by
  cases r with
  | ok a =>
      refine ⟨fun _ e he => (nomatch he), fun hp => ?_⟩
      obtain ⟨e, he, -⟩ := h.coding hp
      cases he
  | error e =>
      refine ⟨fun hp e' he => h.file hp e' ?_, fun hp => ?_⟩
      · cases he
        rfl
      · obtain ⟨e', he, hcoding⟩ := h.coding hp
        cases he
        exact ⟨e, rfl, hcoding⟩

/-- What succeeds is contained. -/
theorem of_ok {a : α} (h : EndsAs p (.ok a : Except Fault α)) : p := by
  by_cases hp : p
  · exact hp
  · obtain ⟨e, he, -⟩ := h.coding hp
    cases he

end EndsAs

section

variable {w : Workshop σ} {candidate : Text} {f f' : Fixer σ}

/-- Compiling a candidate fails only if the old contents cannot be put back. -/
theorem Judged.exists_file (hanswers : w.Answers) {e : Fault} (h : Judged w f (.error e) f')
    (hp : f.backup.path.IsNameable) : ∃ fault, e = .file fault := by
  generalize hr : Except.error e = r at h
  cases h with
  | interrupted hc => exact absurd (congrArg Prod.fst hc) (hanswers.compile _ _)
  | accepted _ _ => cases hr
  | @rejected _ _ _ r _ _ _ hrestored =>
      cases r with
      | error e' =>
          cases hr
          exact hrestored.exists_file hp
      | ok u => cases hr

theorem Validated.endsAs (hanswers : w.Answers) {r : Except Fault Ending}
    (h : Validated w candidate f r f') (hp : f.backup.path.IsNameable) :
    EndsAs (Utf8.IsWritable candidate) r := by
  cases h with
  | unencodable hi =>
      refine .of_coding ?_ (.inl ⟨_, _, rfl⟩)
      rw [← Utf8.exists_encodeKeeping_iff, hi]
      simp
  | @unwritten _ _ _ r _ hbytes _ hr =>
      refine .of_contained (Utf8.exists_encodeKeeping_iff.1 ⟨_, hbytes⟩) fun e he => ?_
      cases r with
      | error e' =>
          cases he
          exact hr.exists_file hp
      | ok u => cases he
  | unnameable hbytes hw he =>
      refine .of_contained (Utf8.exists_encodeKeeping_iff.1 ⟨_, hbytes⟩) fun e' he' => ?_
      cases he'
      cases World.wrote_of_run hw with
      | failed _ hfile => exact hfile hp
  | judged hbytes _ hj =>
      refine .of_contained (Utf8.exists_encodeKeeping_iff.1 ⟨_, hbytes⟩) fun e he => ?_
      cases he
      exact hj.exists_file hanswers hp

end

section

variable {w : Workshop σ} {path : Text} {issues : List Issue} {left number : Nat}
  {feedback : Feedback} {f f' : Fixer (Journaled σ)} (hanswers : w.Answers)
include hanswers

/-- An attempt is contained if its draft can be written. -/
theorem Attempted.endsAs {r : Except Fault Ending}
    (h : Attempted w.journaled path issues number feedback f r f')
    (hp : f.backup.path.IsNameable) :
    ∃ calls, f'.calls = f.calls ++ calls ∧ EndsAs (DraftsWritable calls) r := by
  cases h with
  | interrupted hd =>
      exact absurd (congrArg Prod.fst hd) (hanswers.journaled.drafter _ _)
  | unanswered hd _ =>
      have hcalls := calls_of_drafter hd
      refine ⟨_, hcalls, .of_contained ?_ fun e he => nomatch he⟩
      exact draftsWritable_cons.2 ⟨trivial, draftsWritable_nil⟩
  | unusable hd hc =>
      have hcalls := calls_of_drafter hd
      refine ⟨_, hcalls, .of_contained ?_ fun e he => nomatch he⟩
      refine draftsWritable_cons.2 ⟨fun content hcontent => ?_, draftsWritable_nil⟩
      exact isWritable_of_candidateOf_eq_error hc hcontent
  | validated hd hc hv =>
      have hdrafting := calls_of_drafter hd
      obtain ⟨compiling, hcompiling, hcompile, -⟩ := hv.calls
      have hcalls := hcompiling.trans ((congrArg (· ++ _) hdrafting).trans (List.append_assoc ..))
      have hnone : DraftsWritable compiling.toList := by
        intro call hcall
        obtain ⟨answer, -, hexchange, -⟩ := hcompile call (by simpa using hcall)
        rw [hexchange]
        trivial
      refine ⟨_, hcalls, (hv.endsAs hanswers.journaled hp).congr ?_⟩
      simp [Exchange.Writable, candidateOf_eq_ok hc, hnone]

/-- The attempts at a file are contained if all drafts can be written. -/
theorem Attempts.endsAs {r : Except Fault (Option Text)}
    (h : Attempts w.journaled path issues left number feedback f r f')
    (hp : f.backup.path.IsNameable) :
    ∃ calls, f'.calls = f.calls ++ calls ∧ EndsAs (DraftsWritable calls) r := by
  induction h with
  | givenUp => exact ⟨[], (List.append_nil _).symm, .of_contained (by simp) fun e he => nomatch he⟩
  | broken h =>
      obtain ⟨calls, hcalls, hends⟩ := h.endsAs hanswers hp
      exact ⟨calls, hcalls, hends.map (g := fun _ => none)⟩
  | accepted h =>
      obtain ⟨calls, hcalls, hends⟩ := h.endsAs hanswers hp
      exact ⟨calls, hcalls, hends.map (g := fun _ => none)⟩
  | refused h _ _ ih =>
      obtain ⟨calls, hcalls, hends⟩ := h.endsAs hanswers hp
      obtain ⟨more, hmore, hrest⟩ := ih (by rwa [backup_refused, h.kept.path])
      refine ⟨calls ++ more, by rw [hmore, calls_refused, hcalls, List.append_assoc], ?_⟩
      refine hrest.congr ?_
      simp [hends.of_ok]

end

/-! ## Where faults stay with a file -/

/-- What must be the case for all that goes wrong with a file to stay with it: the file system can be
given its path and all drafts, or else a failure to let go of the file hides the draft. -/
structure StaysIn (target : Path) (calls : List Call) (leaving : Held σ) : Prop where
  nameable : target.IsNameable
  drafts : DraftsWritable calls ∨ ∃ e, (Backup.leave.run leaving).1 = .error e

/-- Whether all that goes wrong with a file stays with it. -/
def IsContained (w : Workshop σ) (path : Text) (issues : List Issue) (f : Fixer σ) : Prop :=
  StaysIn (w.projectDir.child path) (fileCalls w path issues f) (leavingHeld w path issues f)

section

variable {w : Workshop σ} {path : Text} {issues : List Issue} {f f' : Fixer (Journaled σ)}

/-- A file that the file system cannot be given is not read. -/
theorem exists_coding_of_reading {s : World σ} {p : Path} (hp : ¬ p.IsNameable) :
    ∃ e, s.reading p = .error e ∧ e.IsCoding := by
  obtain ⟨e, hread, hcoding⟩ := Tree.exists_coding_of_read (t := s.tree) hp
  exact ⟨e, World.reading_of_read_error hread, hcoding⟩

theorem Made.isNameable {w : Workshop σ} {f f' : Fixer σ} {old : Bytes}
    {r : Except Fault (Option Text)} (h : Made w path issues f old r f') :
    (w.projectDir.child path).IsNameable := by
  by_cases hp : (w.projectDir.child path).IsNameable
  · exact hp
  · obtain ⟨e, he, -⟩ := exists_coding_of_reading (s := f.world) hp
    cases he.symm.trans h.read

theorem Kept.endsAs (hanswers : w.Answers) {r : Except Fault (Bool × Option Text)}
    (h : Kept w.journaled path issues f r f') :
    ∃ calls, f'.calls = f.calls ++ calls ∧
      EndsAs (StaysIn (w.projectDir.child path) calls
        ((attempted w.journaled path issues).run f).2.toHeld) r := by
  cases h with
  | @unkept e h hentered =>
      have hcalls : (f.withHeld h).calls = f.calls ++ [] := by
        cases hentered <;> exact (List.append_nil _).symm
      refine ⟨[], hcalls, ?_⟩
      by_cases hp : (w.projectDir.child path).IsNameable
      · refine .of_contained ⟨hp, .inl draftsWritable_nil⟩ fun e' he' => ?_
        cases he'
        cases hentered with
        | unread he => exact World.exists_file_of_reading hp he
        | uncopied _ _ => exact ⟨_, rfl⟩
      · obtain ⟨e', he', hcoding⟩ := exists_coding_of_reading (s := f.world) hp
        cases hentered with
        | unread he =>
            obtain rfl := Except.error.inj (he'.symm.trans he)
            exact .of_coding (fun h => hp h.nameable) hcoding
        | uncopied hread _ => cases he'.symm.trans hread
  | @committed old f' left h hmade hleave =>
      have hp := hmade.isNameable
      have hleft := Backup.left_of_run hleave
      obtain ⟨calls, hcalls, hends⟩ := hmade.attempts.endsAs hanswers hp
      refine ⟨calls, (congrArg Journaled.calls hleft.touched.extra).trans hcalls, ?_⟩
      refine .of_contained ⟨hp, .inl hends.of_ok⟩ fun e he => ?_
      cases left with
      | error e' =>
          cases he
          exact hleft.exists_file (hmade.path_eq ▸ hp)
      | ok u => cases he
  | @undone old r f' left h hmade _ hleave =>
      have hp := hmade.isNameable
      have hleft := Backup.left_of_run hleave
      obtain ⟨calls, hcalls, hends⟩ := hmade.attempts.endsAs hanswers hp
      refine ⟨calls, (congrArg Journaled.calls hleft.touched.extra).trans hcalls, ?_⟩
      rw [hmade.run]
      cases left with
      | error e =>
          refine .of_contained ⟨hp, .inr ⟨e, congrArg Prod.fst hleave⟩⟩ fun e' he' => ?_
          cases he'
          exact hleft.exists_file (hmade.path_eq ▸ hp)
      | ok u =>
          refine (hends.map (g := (false, ·))).congr ⟨fun hdrafts => ⟨hp, .inl hdrafts⟩, ?_⟩
          rintro ⟨-, hdrafts | ⟨e, he⟩⟩
          · exact hdrafts
          · rw [hleave] at he
            cases he

/-- The work on a file succeeds, or a text that the file system cannot be given breaks it off. -/
theorem Fixed.endsAs (hanswers : w.Answers) {r : Except Fault FileResult}
    (h : Fixed w.journaled path issues f r f') :
    ∃ calls, f'.calls = f.calls ++ calls ∧
      let contained := StaysIn (w.projectDir.child path) calls
        (leavingHeld w.journaled path issues f)
      (contained → ∃ result, r = .ok result) ∧ (¬ contained → ∃ e, r = .error e ∧ e.IsCoding) := by
  cases h with
  | @concluded committed _ f' hk =>
      obtain ⟨calls, hcalls, hends⟩ := hk.endsAs hanswers
      have hconcluded := congrArg Journaled.calls (extra_concluded f' path committed)
      exact ⟨calls, hconcluded.trans hcalls, fun _ => ⟨_, rfl⟩, fun hp => absurd hends.of_ok hp⟩
  | contained hk =>
      obtain ⟨calls, hcalls, hends⟩ := hk.endsAs hanswers
      refine ⟨calls, hcalls, fun _ => ⟨_, rfl⟩, fun hp => ?_⟩
      obtain ⟨e, he, hcoding⟩ := hends.coding hp
      cases he
      obtain ⟨t, i, he⟩ | he := hcoding <;> cases he
  | broken hk he =>
      obtain ⟨calls, hcalls, hends⟩ := hk.endsAs hanswers
      refine ⟨calls, hcalls, fun hp => ?_, fun hp => ?_⟩
      · obtain ⟨fault, hfault⟩ := hends.file hp _ rfl
        exact absurd hfault (he fault)
      · obtain ⟨e', he', hcoding⟩ := hends.coding hp
        cases he'
        exact ⟨_, rfl, hcoding⟩

end

theorem leavingHeld_eq (w : Workshop σ) (path : Text) (issues : List Issue) (f : Fixer σ) :
    leavingHeld w path issues f =
      (leavingHeld w.journaled path issues f.journaling).mapExtra Journaled.own := by
  have hrun := ((mirrors_own w).attempted path issues).run (f.journaling.takenUp path)
  exact congrArg (·.2.toHeld) hrun

/-- The work on a file succeeds if all that goes wrong stays with it, and only then. -/
theorem fixFile_contained {w : Workshop σ} (hanswers : w.Answers) (path : Text)
    (issues : List Issue) (f : Fixer σ) :
    (IsContained w path issues f → ∃ result, ((fixFile w path issues).run f).1 = .ok result) ∧
      (¬ IsContained w path issues f →
        ∃ e, ((fixFile w path issues).run f).1 = .error e ∧ e.IsCoding) := by
  obtain ⟨calls, hcalls, hends⟩ :=
    (fixed_fixFile w.journaled path issues f.journaling).endsAs hanswers
  have hall : fileCalls w path issues f = calls := hcalls
  have hleave := (Backup.mirrors_leave Journaled.own).run
    (leavingHeld w.journaled path issues f.journaling)
  have hiff : IsContained w path issues f ↔ StaysIn (w.projectDir.child path) calls
      (leavingHeld w.journaled path issues f.journaling) := by
    rw [IsContained, hall, leavingHeld_eq]
    constructor
    · rintro ⟨hp, hdrafts⟩
      exact ⟨hp, by rwa [hleave] at hdrafts⟩
    · rintro ⟨hp, hdrafts⟩
      exact ⟨hp, by rwa [hleave]⟩
  rw [run_fixFile_eq, hiff]
  exact hends

/-- The result of the work on a file is about that file, and final. -/
theorem Fixed.result_spec {w : Workshop σ} {path : Text} {issues : List Issue} {f f' : Fixer σ}
    {result : FileResult} (h : Fixed w path issues f (.ok result) f') :
    result.path = path ∧ (result.state = .committed ∨ result.state = .rolledBack) := by
  generalize hr : Except.ok result = r at h
  cases h with
  | @concluded committed _ _ _ =>
      cases hr
      cases committed
      · exact ⟨rfl, .inr rfl⟩
      · exact ⟨rfl, .inl rfl⟩
  | contained _ =>
      cases hr
      exact ⟨rfl, .inr rfl⟩
  | broken _ _ => cases hr

/-! ## Runs -/

/-- Whether all that goes wrong in the visit to a file stays with the file. -/
def Visit.IsContained (w : Workshop σ) (v : Visit σ) : Prop :=
  Fix.IsContained w v.group.path v.group.issues v.before

/-- The results are the final ones of the files of some groups, in their order. -/
structure Covers (groups : List FileGroup) (results : List FileResult) : Prop where
  paths : results.map (·.path) = groups.map (·.path)
  final : ∀ r ∈ results, r.state = .committed ∨ r.state = .rolledBack

theorem Covers.cons {g : FileGroup} {groups : List FileGroup} {r : FileResult}
    {results : List FileResult} (hr : r.path = g.path ∧ (r.state = .committed ∨ r.state = .rolledBack))
    (h : Covers groups results) : Covers (g :: groups) (r :: results) where
  paths := by rw [List.map_cons, List.map_cons, hr.1, h.paths]
  final := by simpa using ⟨hr.2, h.final⟩

section

variable {w : Workshop σ} {total number : Nat} {groups : List FileGroup} {v : Visit σ}
  {f f' : Fixer σ} (hanswers : w.Answers) (hcancelled : w.Keeps World.cancelled)

include hanswers in
theorem Visit.isContained_of_ok {result : FileResult} (h : v.run w = (.ok result, f')) :
    v.IsContained w ∧ result.path = v.group.path ∧
      (result.state = .committed ∨ result.state = .rolledBack) := by
  obtain ⟨-, hbroken⟩ := fixFile_contained hanswers v.group.path v.group.issues v.before
  refine ⟨?_, (Visit.fixed_of_run h).result_spec⟩
  rw [Visit.run] at h
  rw [h] at hbroken
  by_cases hv : v.IsContained w
  · exact hv
  · obtain ⟨e, he, -⟩ := hbroken hv
    cases he

include hanswers in
theorem Visit.not_isContained_of_error {e : Fault} (h : v.run w = (.error e, f')) :
    ¬ v.IsContained w ∧ e.IsCoding := by
  obtain ⟨hdone, hbroken⟩ := fixFile_contained hanswers v.group.path v.group.issues v.before
  rw [Visit.run] at h
  rw [h] at hdone hbroken
  have hv : ¬ v.IsContained w := by
    intro hv
    obtain ⟨result, hresult⟩ := hdone hv
    cases hresult
  obtain ⟨e', he, hcoding⟩ := hbroken hv
  obtain rfl : e = e' := Except.error.inj he
  exact ⟨hv, hcoding⟩

include hcancelled in
theorem Visit.cancelled_eq {r : Except Fault FileResult} (h : v.run w = (r, f')) :
    f'.world.cancelled = v.before.world.cancelled := by
  have hrespects : w.Respects (v.target w) fun s s' => s'.cancelled = s.cancelled :=
    Workshop.respects_of_keeps hcancelled.drafter hcancelled.compile (·.cancelled)
  exact hrespects.fixed (Visit.fixed_of_run h) rfl

include hanswers hcancelled in
/-- Without a request to stop, all files are started one after the other, unless something that goes
wrong with one of them does not stay with it. -/
theorem FixedAll.contained {r : Except Fault (List FileResult × List Text)}
    (h : FixedAll w total number groups f r f') (hf : f.world.cancelled = false) :
    ((∀ v ∈ visitsFrom w total number groups f, v.IsContained w) →
        (visitsFrom w total number groups f).map (·.group) = groups ∧
          ∃ results, r = .ok (results, []) ∧ Covers groups results) ∧
      ((∃ v ∈ visitsFrom w total number groups f, ¬ v.IsContained w) →
        ∃ e, r = .error e ∧ e.IsCoding) := by
  induction h with
  | done => exact ⟨fun _ => ⟨rfl, [], rfl, rfl, by simp⟩, by simp [visitsFrom]⟩
  | stopped hc =>
      rw [hf] at hc
      cases hc
  | broken hc hv =>
      obtain ⟨hout, hcoding⟩ := Visit.not_isContained_of_error hanswers hv
      rw [visitsFrom_broken hc hv]
      exact ⟨fun hall => absurd (hall _ (List.mem_singleton_self _)) hout, fun _ => ⟨_, rfl, hcoding⟩⟩
  | next hc hv _ ih =>
      obtain ⟨hin, hresult⟩ := Visit.isContained_of_ok hanswers hv
      obtain ⟨hdone, hbroken⟩ := ih ((Visit.cancelled_eq hcancelled hv).trans hf)
      rw [visitsFrom_next hc hv]
      constructor
      · intro hall
        obtain ⟨hgroups, results, rfl, hcovers⟩ := hdone fun v hv => hall v (List.mem_cons_of_mem _ hv)
        exact ⟨by rw [List.map_cons, hgroups], _, rfl, hcovers.cons hresult⟩
      · rintro ⟨v, hmem, hout⟩
        rcases List.mem_cons.1 hmem with rfl | hmem
        · exact absurd hin hout
        · obtain ⟨e, rfl, hcoding⟩ := hbroken ⟨v, hmem, hout⟩
          exact ⟨e, rfl, hcoding⟩

end

/-- A check ends with an outcome. -/
theorem Checked.exists_outcome {failure : Text} {a : Act (World σ) BuildOutcome} {f f' : Fixer σ}
    {r : Except Fault BuildOutcome} (h : Checked failure a f r f')
    (ha : ∀ s, (a.run s).1 ≠ .error .interrupted) : ∃ outcome, r = .ok outcome := by
  cases h with
  | interrupted hr => exact absurd (congrArg Prod.fst hr) (ha _)
  | answered _ => exact ⟨_, rfl⟩
  | failed _ _ => exact ⟨_, rfl⟩

/-- The check at the end ends with a report about the same files. -/
theorem Certified.exists_report {w : Workshop σ} (hanswers : w.Answers) {report : Report}
    {f f' : Fixer σ} {r : Except Fault Report} (h : Certified w report f r f') :
    ∃ report', r = .ok report' ∧ report'.results = report.results ∧
      report'.skipped = report.skipped := by
  cases h with
  | unbuilt hb => exact nomatch hb.exists_outcome (hanswers.compile _)
  | built _ _ => exact ⟨_, rfl, rfl, rfl⟩
  | untested _ _ hc => exact nomatch hc.exists_outcome (hanswers.test _)
  | tested _ _ _ => exact ⟨_, rfl, rfl, rfl⟩

theorem exists_select {plan : Plan} {keys : Option (List Value)}
    (hplan : ∀ i ∈ plan.all, i.key.IsText)
    (hkeys : ∀ ks, keys = some ks → ∀ k ∈ ks, k.IsText) (f : Fixer σ) :
    ∃ s g, plan.find keys = .ok s ∧ (select plan keys).run f = (.ok s, g) := by
  obtain ⟨s, hfind, htext⟩ := Plan.exists_find hplan hkeys
  obtain ⟨t, ht⟩ := Report.exists_keyList htext
  have htell : ∃ g, (tellKeys s).run f = (.ok (), g) := by
    by_cases hunlocatable : s.unlocatable = [] <;> by_cases hunknown : s.unknown = [] <;>
      simp [tellKeys, Act.run_bind, hunlocatable, hunknown, ht]
  obtain ⟨g, hg⟩ := htell
  have hs : ∃ g', (select plan keys).run f = (.ok s, g') := by
    simp [select, Act.run_bind, hfind, hg]
  obtain ⟨g', hs⟩ := hs
  exact ⟨s, g', hfind, hs⟩

/-- A run that has picked its files ends like the work on them: with the same fault, or with a report
about them. -/
theorem Ran.exists_fixedAll {w : Workshop σ} (hanswers : w.Answers) {plan : Plan}
    {keys : Option (List Value)} {f f' g : Fixer σ} {r : Except Fault Report} {s : Selection}
    (h : Ran w plan keys f r f') (hs : (select plan keys).run f = (.ok s, g)) :
    ∃ fixed g', FixedAll w s.groups.length 1 s.groups g fixed g' ∧
      (∀ e, fixed = .error e → r = .error e) ∧
      ∀ results skipped, fixed = .ok (results, skipped) →
        ∃ report, r = .ok report ∧ report.results = results ∧ report.skipped = skipped := by
  cases h with
  | unselected hs' => exact nomatch hs.symm.trans hs'
  | broken hs' hf =>
      cases hs.symm.trans hs'
      exact ⟨_, _, hf, fun e he => by cases he; rfl, fun _ _ h => nomatch h⟩
  | idle hs' hf =>
      cases hs.symm.trans hs'
      refine ⟨_, _, hf, fun e he => (nomatch he), fun results skipped hr => ?_⟩
      cases hr
      exact ⟨_, rfl, rfl, rfl⟩
  | unchecked _ _ _ hc => exact nomatch hc.exists_report hanswers
  | checked hs' hf _ hc =>
      cases hs.symm.trans hs'
      obtain ⟨report, hreport, hresults, hskipped⟩ := hc.exists_report hanswers
      refine ⟨_, _, hf, fun e he => (nomatch he), fun results skipped hr => ?_⟩
      cases hr
      exact ⟨report, hreport, hresults, hskipped⟩

/-- What goes wrong in a run stays with the file in whose turn it does, with two exceptions that end
the run: a path that the file system cannot be given, and a draft that cannot be written as bytes.
If there is neither, a run without a request to stop starts every file that was picked, in their
order, and ends with a report that has one final result for each. -/
theorem run_contained (w : Workshop σ) (hanswers : w.Answers) (hcancelled : w.Keeps World.cancelled)
    (plan : Plan) (keys : Option (List Value)) (hplan : ∀ i ∈ plan.all, i.key.IsText)
    (hkeys : ∀ ks, keys = some ks → ∀ k ∈ ks, k.IsText) (f : Fixer σ)
    (hf : f.world.cancelled = false) :
    ∃ s, plan.find keys = .ok s ∧
      ((∀ v ∈ visits w plan keys f, v.IsContained w) →
        (visits w plan keys f).map (·.group) = s.groups ∧
          ∃ report, ((run w plan keys).run f).1 = .ok report ∧ Covers s.groups report.results ∧
            report.skipped = []) ∧
      ((∃ v ∈ visits w plan keys f, ¬ v.IsContained w) →
        ∃ e, ((run w plan keys).run f).1 = .error e ∧ e.IsCoding) := by
  obtain ⟨s, g, hfind, hs⟩ := exists_select hplan hkeys f
  obtain ⟨hvisits, hquiet⟩ := visits_of_select (w := w) hs
  have hg : g.world.cancelled = false := by
    have hsame : g.world.cancelled = f.world.cancelled := congrArg (·.cancelled) hquiet
    rw [hsame, hf]
  have hran := ran_run w plan keys f
  obtain ⟨fixed, g', hfixed, hfailed, hreported⟩ := hran.exists_fixedAll hanswers hs
  obtain ⟨hdone, hbroken⟩ := hfixed.contained hanswers hcancelled hg
  rw [← hvisits] at hdone hbroken
  refine ⟨s, hfind, fun hall => ?_, fun hout => ?_⟩
  · obtain ⟨hgroups, results, hresults, hcovers⟩ := hdone hall
    obtain ⟨report, hreport, hsame, hskipped⟩ := hreported results [] hresults
    exact ⟨hgroups, report, hreport, hsame ▸ hcovers, hskipped⟩
  · obtain ⟨e, he, hcoding⟩ := hbroken hout
    exact ⟨e, hfailed e he, hcoding⟩

/-- A workshop in which every file is to become half a surrogate pair. -/
def unwritable : Workshop Unit :=
  { small true with drafter := fun _ => .ofExcept (.ok { content := some [0xD800] }) }

/-- An `x` is written and reported; half a surrogate pair ends the run. -/
theorem run_contained_emptyFile :
    (∃ report, ((run (small true) smallPlan none).run emptyFile).1 = .ok report ∧
        Covers smallPlan.groups report.results) ∧
      ∃ e, ((run unwritable smallPlan none).run emptyFile).1 = .error e ∧ e.IsCoding := by
  have hplan : ∀ i ∈ smallPlan.all, i.key.IsText := by
    simp [smallPlan, Plan.all, Plan.located]
  constructor
  · have hanswers : (small true).Answers :=
      ⟨fun _ _ h => (nomatch h), fun _ _ h => (nomatch h), fun _ _ h => nomatch h⟩
    obtain ⟨s, hfind, hdone, -⟩ := run_contained (small true) hanswers (Workshop.keeps_still ..)
      smallPlan none hplan (by simp) emptyFile rfl
    obtain rfl := Except.ok.inj hfind
    have hvisits : ∀ v ∈ visits (small true) smallPlan none emptyFile,
        (v.target (small true)).IsNameable ∧
          DraftsWritable (fileCalls (small true) v.group.path v.group.issues v.before) := by
      decide +kernel
    obtain ⟨-, report, hreport, hcovers, -⟩ :=
      hdone fun v hv => ⟨(hvisits v hv).1, .inl (hvisits v hv).2⟩
    exact ⟨report, hreport, hcovers⟩
  · have hanswers : unwritable.Answers :=
      ⟨fun _ _ h => (nomatch h), fun _ _ h => (nomatch h), fun _ _ h => nomatch h⟩
    have hkeeps : unwritable.Keeps World.cancelled :=
      ⟨fun _ _ => rfl, fun _ _ => rfl, fun _ _ => rfl⟩
    obtain ⟨s, -, -, hbroken⟩ := run_contained unwritable hanswers hkeeps smallPlan none hplan
      (by simp) emptyFile rfl
    have hvisit : ∃ v ∈ visits unwritable smallPlan none emptyFile,
        ¬ DraftsWritable (fileCalls unwritable v.group.path v.group.issues v.before) ∧
          (Backup.leave.run
            (leavingHeld unwritable v.group.path v.group.issues v.before)).1.isOk = true := by
      decide +kernel
    obtain ⟨v, hv, hdrafts, hleft⟩ := hvisit
    refine hbroken ⟨v, hv, ?_⟩
    rintro ⟨-, hwritable | ⟨e, he⟩⟩
    · exact hdrafts hwritable
    · rw [he] at hleft
      cases hleft

end Fix

end Mend
