import Mend.Scan.Local
import Mend.Proofs.Act
import Mend.Proofs.Json.Records
import Mend.Proofs.Scan.Keys

/-!
# How a local scan numbers what it finds

Each issue of a scan takes a key that the one factory of the scan gives out for a line of the file in
which the issue lies. Keys are given out in the order of the issues, and some for nothing, to findings
of the model that make no issue. What the detectors find in a file depends on the factory only as far
as it has counted lines of that file.

## Main definitions

* `Issue.isPatternMatch` — issues that a detector reports.
* `Scan.Numbers` — issues of a file that take their keys from a factory.
* `Scan.SameCounts` — factories that have counted the same for a file.

## Main statements

* `Scan.scanFile_step` — what the scan of one file finds, and what it does to the factory.
* `Scan.scanText_congr` — what the detectors find depends on the counts for the file only.
* `Scan.numbers_scanFiles` — the keys and the files of everything that a scan finds.
-/

namespace Mend

/-- Whether an issue is tagged as a match of a pattern. -/
def Issue.isPatternMatch (i : Issue) : Bool := i.tags.any fun t => t.same (.str "pattern")

namespace Scan

open KeyFactory

variable {σ : Type} {path : Text} {keys keys₁ keys₂ : KeyFactory}

/-! ## Taking keys -/

/-- Issues of a file take their keys from those that a factory gives out for lines of the file, each
at most once and in order. -/
structure Numbers (path : Text) (keys : KeyFactory) (issues : List Issue) (keys' : KeyFactory) :
    Prop where
  filePath : ∀ i ∈ issues, i.filePath = .text path
  calls : ∃ calls : List (Text × Int), (∀ call ∈ calls, call.1 = path) ∧ keys' = keys.after calls ∧
    (issues.map (·.key)).Sublist ((keys.given calls).map .text)

namespace Numbers

variable {issues more : List Issue}

theorem nil (path : Text) (keys : KeyFactory) : Numbers path keys [] keys :=
  ⟨by simp, [], by simp, rfl, .slnil⟩

theorem append (h : Numbers path keys issues keys₁) (h' : Numbers path keys₁ more keys₂) :
    Numbers path keys (issues ++ more) keys₂ := by
  obtain ⟨hpath, calls, hcalls, rfl, hkeys⟩ := h
  obtain ⟨hpath', calls', hcalls', rfl, hkeys'⟩ := h'
  refine ⟨List.forall_mem_append.2 ⟨hpath, hpath'⟩, calls ++ calls',
    List.forall_mem_append.2 ⟨hcalls, hcalls'⟩, (after_append ..).symm, ?_⟩
  rw [given_append, List.map_append, List.map_append]
  exact hkeys.append hkeys'

/-- A key that is given out for nothing. -/
theorem spare (path : Text) (keys : KeyFactory) (line : Int) :
    Numbers path keys [] (keys.next path line).2 :=
  ⟨by simp, [(path, line)], by simp, rfl, List.nil_sublist _⟩

/-- An issue that takes the next key. -/
theorem single {i : Issue} {line : Int} (hkey : i.key = .text (keys.next path line).1)
    (hpath : i.filePath = .text path) : Numbers path keys [i] (keys.next path line).2 :=
  ⟨by simpa using hpath, [(path, line)], by simp, rfl, by
    rw [List.map_singleton, hkey]
    exact .refl _⟩

/-- The numbers of other files are left alone. -/
theorem count_eq {other : Text} (h : Numbers path keys issues keys₁) (hother : path ≠ other)
    (line : Int) : keys₁.count (placeText other line) = keys.count (placeText other line) := by
  obtain ⟨-, calls, hcalls, rfl, -⟩ := h
  exact count_after (fun call hcall => hcalls call hcall ▸ hother) keys line

end Numbers

/-! ## Matches of detectors -/

theorem numbers_reportLine (path : Text) (number : Nat) (ds : List Detector) (keys : KeyFactory) :
    Numbers path keys (reportLine path number ds keys).1 (reportLine path number ds keys).2 := by
  induction ds generalizing keys with
  | nil => exact .nil path keys
  | cons d rest ih => exact .append (.single rfl rfl) (ih _)

theorem numbers_scanLines (detectors : List Detector) (path : Text) (number : Nat)
    (lines : List Text) (keys : KeyFactory) :
    Numbers path keys (scanLines detectors path number lines keys).1
      (scanLines detectors path number lines keys).2 := by
  induction lines generalizing number keys with
  | nil => exact .nil path keys
  | cons line rest ih => exact .append (numbers_reportLine ..) (ih ..)

theorem isPatternMatch_reportLine (path : Text) (number : Nat) (ds : List Detector)
    (keys : KeyFactory) : ∀ i ∈ (reportLine path number ds keys).1, i.isPatternMatch = true := by
  induction ds generalizing keys with
  | nil => exact fun i hi => absurd hi List.not_mem_nil
  | cons d rest ih => exact List.forall_mem_cons.2 ⟨rfl, ih _⟩

theorem isPatternMatch_scanLines (detectors : List Detector) (path : Text) (number : Nat)
    (lines : List Text) (keys : KeyFactory) :
    ∀ i ∈ (scanLines detectors path number lines keys).1, i.isPatternMatch = true := by
  induction lines generalizing number keys with
  | nil => exact fun i hi => absurd hi List.not_mem_nil
  | cons line rest ih =>
      exact List.forall_mem_append.2 ⟨isPatternMatch_reportLine _ _ _ _, ih _ _⟩

theorem isPatternMatch_scanText (detectors : List Detector) (path text : Text) (keys : KeyFactory) :
    ∀ i ∈ (scanText detectors path text keys).1, i.isPatternMatch = true :=
  isPatternMatch_scanLines detectors path 1 text.lines keys

/-- Two factories that have counted the same for each line of a file. -/
def SameCounts (path : Text) (keys keys' : KeyFactory) : Prop :=
  ∀ line : Int, keys.count (placeText path line) = keys'.count (placeText path line)

theorem SameCounts.next (h : SameCounts path keys keys₁) (line : Int) :
    (keys.next path line).1 = (keys₁.next path line).1 ∧
      SameCounts path (keys.next path line).2 (keys₁.next path line).2 := by
  refine ⟨?_, fun other => ?_⟩
  · rw [KeyFactory.next, nextAt, KeyFactory.next, nextAt, h line]
  · rw [count_next, count_next, h other]

theorem reportLine_congr (number : Nat) (ds : List Detector) (h : SameCounts path keys keys₁) :
    (reportLine path number ds keys).1 = (reportLine path number ds keys₁).1 ∧
      SameCounts path (reportLine path number ds keys).2 (reportLine path number ds keys₁).2 := by
  induction ds generalizing keys keys₁ with
  | nil => exact ⟨rfl, h⟩
  | cons d rest ih =>
      obtain ⟨hkey, hnext⟩ := h.next (number : Int)
      obtain ⟨hrest, hcounts⟩ := ih hnext
      refine ⟨?_, hcounts⟩
      simp only [reportLine, hkey, hrest]

theorem scanLines_congr (detectors : List Detector) (number : Nat) (lines : List Text)
    (h : SameCounts path keys keys₁) :
    (scanLines detectors path number lines keys).1 =
      (scanLines detectors path number lines keys₁).1 := by
  induction lines generalizing number keys keys₁ with
  | nil => rfl
  | cons line rest ih =>
      obtain ⟨hline, hcounts⟩ :=
        reportLine_congr number (if isComment line then [] else detectors.filter (·.isMatch line)) h
      simp only [scanLines, hline, ih (number + 1) hcounts]

/-- What the detectors find in a file depends on what was counted for that file only. -/
theorem scanText_congr (detectors : List Detector) (text : Text) (h : SameCounts path keys keys₁) :
    (scanText detectors path text keys).1 = (scanText detectors path text keys₁).1 :=
  scanLines_congr detectors 1 text.lines h

/-! ## Findings of a model -/

theorem parts_of_make {d : Issue.Draft} {i : Issue} (h : Issue.make d = .ok i) :
    i.key = d.key ∧ i.filePath = d.filePath ∧ i.tags = d.tags := by
  unfold Issue.make at h
  split at h
  · cases h
  · split at h
    · cases h
    · cases h
      exact ⟨rfl, rfl, rfl⟩

/-- An issue that a finding makes has the key that is given to it, lies in the file, and is no match of
a pattern. -/
theorem parts_of_findingIssue {key : Text} {line : Int} {v : Value} {i : Issue}
    (h : findingIssue path key line v = .ok i) :
    i.key = .text key ∧ i.filePath = .text path ∧ i.isPatternMatch = false := by
  unfold findingIssue at h
  obtain ⟨_, -, h⟩ := exists_of_bind_eq_ok h
  obtain ⟨_, -, h⟩ := exists_of_bind_eq_ok h
  obtain ⟨_, -, h⟩ := exists_of_bind_eq_ok h
  obtain ⟨_, -, h⟩ := exists_of_bind_eq_ok h
  obtain ⟨_, -, h⟩ := exists_of_bind_eq_ok h
  obtain ⟨_, -, h⟩ := exists_of_bind_eq_ok h
  obtain ⟨_, -, h⟩ := exists_of_bind_eq_ok h
  obtain ⟨_, -, h⟩ := exists_of_bind_eq_ok h
  obtain ⟨hkey, hpath, htags⟩ := parts_of_make h
  refine ⟨hkey, hpath, ?_⟩
  rw [Issue.isPatternMatch, htags]
  rfl

/-- A finding takes a key as soon as its line is known, whether or not it makes an issue. -/
theorem numbers_takeFinding (path : Text) (keys : KeyFactory) (v : Value) :
    Numbers path keys (takeFinding path keys v).1.toOption.toList (takeFinding path keys v).2 ∧
      ∀ i ∈ (takeFinding path keys v).1.toOption.toList, i.isPatternMatch = false := by
  unfold takeFinding
  split
  · exact ⟨.nil path keys, by simp [Except.toOption]⟩
  · rename_i line _
    dsimp only
    cases hissue : findingIssue path (keys.next path line).1 line v with
    | error e => exact ⟨.spare path keys line, by simp [Except.toOption]⟩
    | ok i =>
        obtain ⟨hkey, hpath, hmatch⟩ := parts_of_findingIssue hissue
        exact ⟨.single hkey hpath, by simpa [Except.toOption] using hmatch⟩

/-- The findings for a file take keys, and make issues that are no matches of patterns. -/
theorem numbers_takeFindings {vs : List Value} {w w' : World σ} {issues : List Issue}
    (h : (takeFindings path keys vs).run w = (.ok (issues, keys₁), w')) :
    Numbers path keys issues keys₁ ∧ ∀ i ∈ issues, i.isPatternMatch = false := by
  induction vs generalizing keys issues w with
  | nil =>
      cases h
      exact ⟨.nil path _, by simp⟩
  | cons v rest ih =>
      obtain ⟨htake, hmatch⟩ := numbers_takeFinding path keys v
      rw [takeFindings] at h
      rcases hfinding : takeFinding path keys v with ⟨e | i, keys₂⟩
      · rw [hfinding] at h htake
        dsimp only at h
        split at h
        · rw [Act.run_bind_ok (World.run_say ..)] at h
          obtain ⟨hrest, hmatches⟩ := ih h
          exact ⟨htake.append hrest, hmatches⟩
        · cases h
      · rw [hfinding] at h htake hmatch
        dsimp only at h
        rcases hrun : (takeFindings path keys₂ rest).run w with ⟨e | ⟨others, keys₃⟩, w₂⟩
        · rw [Act.run_bind_error hrun] at h
          cases h
        · rw [Act.run_bind_ok hrun] at h
          cases h
          obtain ⟨hrest, hmatches⟩ := ih hrun
          exact ⟨htake.append hrest, List.forall_mem_append.2 ⟨hmatch, hmatches⟩⟩

theorem numbers_deepScan {scanner : DeepScanner σ} {text : Text} {w w' : World σ}
    {issues : List Issue}
    (h : (deepScan scanner path text keys).run w = (.ok (issues, keys₁), w')) :
    Numbers path keys issues keys₁ ∧ ∀ i ∈ issues, i.isPatternMatch = false := by
  rw [deepScan] at h
  rcases hanswer : (scanner path text).caught.run w with ⟨e | r, w₁⟩
  · rw [Act.run_bind_error hanswer] at h
    cases h
  · rw [Act.run_bind_ok hanswer] at h
    cases r with
    | ok findings => exact numbers_takeFindings h
    | error e =>
        cases h
        exact ⟨.nil path _, by simp⟩

/-! ## Files -/

/-- The scan of a file finds what the detectors find, and behind it what the model adds, which is no
match of a pattern. All of it takes keys from the factory. -/
theorem scanFile_step {s : LocalSettings} {detectors : List Detector}
    {model : Option (DeepScanner σ)} {f : SourceFile} {w w' : World σ} {issues : List Issue}
    (h : (scanFile s detectors model keys f).run w = (.ok (issues, keys₁), w')) :
    Numbers f.path keys issues keys₁ ∧ ∃ added,
      issues = (scanText detectors f.path (fileText f.contents) keys).1 ++ added ∧
      ∀ i ∈ added, i.isPatternMatch = false := by
  have hmatched : Numbers f.path keys (scanText detectors f.path (fileText f.contents) keys).1
      (scanText detectors f.path (fileText f.contents) keys).2 := numbers_scanLines ..
  have hnone : (scanText detectors f.path (fileText f.contents) keys) = (issues, keys₁) →
      Numbers f.path keys issues keys₁ ∧ ∃ added,
        issues = (scanText detectors f.path (fileText f.contents) keys).1 ++ added ∧
        ∀ i ∈ added, i.isPatternMatch = false := by
    intro hscan
    rw [hscan] at hmatched ⊢
    exact ⟨hmatched, [], (List.append_nil _).symm, by simp⟩
  unfold scanFile at h
  dsimp only at h
  cases model with
  | none => exact hnone (by cases h; rfl)
  | some scanner =>
      dsimp only at h
      split at h
      · rcases hdeep : (deepScan scanner f.path (fileText f.contents)
          (scanText detectors f.path (fileText f.contents) keys).2).run w with ⟨e | ⟨added, keys₂⟩, w₁⟩
        · rw [Act.run_bind_error hdeep] at h
          cases h
        · rw [Act.run_bind_ok hdeep] at h
          cases h
          obtain ⟨hadded, hmatch⟩ := numbers_deepScan hdeep
          exact ⟨hmatched.append hadded, added, rfl, hmatch⟩
      · exact hnone (by cases h; rfl)

/-- A scan of several files that ends well has scanned the first one and then the others. -/
theorem exists_of_scanFiles_cons {s : LocalSettings} {detectors : List Detector}
    {model : Option (DeepScanner σ)} {f : SourceFile} {rest : List SourceFile} {w w' : World σ}
    {found : List Issue}
    (h : (scanFiles s detectors model keys (f :: rest)).run w = (.ok found, w')) :
    ∃ here keys₁ w₁ others, (scanFile s detectors model keys f).run w = (.ok (here, keys₁), w₁) ∧
      (scanFiles s detectors model keys₁ rest).run w₁ = (.ok others, w') ∧ found = here ++ others := by
  rw [scanFiles] at h
  rcases hfile : (scanFile s detectors model keys f).run w with ⟨e | ⟨here, keys₁⟩, w₁⟩
  · rw [Act.run_bind_error hfile] at h
    cases h
  · rw [Act.run_bind_ok hfile] at h
    rcases hrest : (scanFiles s detectors model keys₁ rest).run w₁ with ⟨e | others, w₂⟩
    · rw [Act.run_bind_error hrest] at h
      cases h
    · rw [Act.run_bind_ok hrest] at h
      cases h
      exact ⟨here, keys₁, w₁, others, rfl, hrest, rfl⟩

/-- All issues of a scan take keys that one factory gives out, and lie in the files of the scan. -/
theorem numbers_scanFiles {s : LocalSettings} {detectors : List Detector}
    {model : Option (DeepScanner σ)} {files : List SourceFile} {w w' : World σ}
    {found : List Issue} (h : (scanFiles s detectors model keys files).run w = (.ok found, w')) :
    (∃ calls, (found.map (·.key)).Sublist ((keys.given calls).map .text)) ∧
      ∀ i ∈ found, ∃ f ∈ files, i.filePath = .text f.path := by
  induction files generalizing keys w found with
  | nil =>
      cases h
      exact ⟨⟨[], .slnil⟩, by simp⟩
  | cons f rest ih =>
      obtain ⟨here, keys₁, w₁, others, hfile, hrest, rfl⟩ := exists_of_scanFiles_cons h
      obtain ⟨⟨hpath, calls, -, rfl, hkeys⟩, -⟩ := scanFile_step hfile
      obtain ⟨⟨calls', hkeys'⟩, hfiles⟩ := ih hrest
      constructor
      · refine ⟨calls ++ calls', ?_⟩
        rw [given_append, List.map_append, List.map_append]
        exact hkeys.append hkeys'
      · intro i hi
        rcases List.mem_append.1 hi with hi | hi
        · exact ⟨f, List.mem_cons_self .., hpath i hi⟩
        · obtain ⟨g, hg, hfile⟩ := hfiles i hi
          exact ⟨g, List.mem_cons_of_mem _ hg, hfile⟩

end Scan

end Mend
