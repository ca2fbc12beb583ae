import Mend.Scan.Local
import Mend.Proofs.Scan.Findings
import Mathlib.Data.List.Forall2

/-!
# What becomes of a local scan when a model misbehaves

A model looks at one file after the other. If it fails on a file, the pattern matches of the file
stand; if it reports a malformed finding, that finding alone is left out. The scan breaks off only if
it is interrupted, or if there is a finding on which it breaks off; then nothing of the scan is left.

## Main definitions

* `matchesIn` — the places where detectors match.
* `Visit`, `visitsIn` — the files of a scan, each with the world in which its turn came.
* `Visit.IsHarmless` — whether the answer of the model for a file lets the scan go on.
* `Visit.Found` — the issues in a file.

## Main statements

* `fetchLocal_contained` — how a local scan ends, from the answers of the model.
-/

namespace Mend.Scan

variable {σ : Type}

/-! ## Pattern matches -/

/-- The places where detectors match in lines that are no comments, by line. -/
def matchesIn (detectors : List Detector) (text : Text) : List (Nat × Detector) :=
  (text.lines.zipIdx 1).flatMap fun (line, number) =>
    if isComment line then [] else (detectors.filter (·.isMatch line)).map (number, ·)

/-- The issue of a match in a file, under some key. -/
def IsIssueOf (path : Text) (place : Nat × Detector) (i : Issue) : Prop :=
  ∃ key, i = patternIssue place.2 path key place.1

theorem isIssueOf_reportLine (path : Text) (number : Nat) (ds : List Detector) (keys : KeyFactory) :
    List.Forall₂ (IsIssueOf path) (ds.map (number, ·)) (reportLine path number ds keys).1 := by
  induction ds generalizing keys with
  | nil => exact .nil
  | cons d rest ih => exact .cons ⟨_, rfl⟩ (ih _)

/-- Each match makes an issue, in order. -/
theorem isIssueOf_scanText (detectors : List Detector) (path text : Text) (keys : KeyFactory) :
    List.Forall₂ (IsIssueOf path) (matchesIn detectors text)
      (scanText detectors path text keys).1 := by
  have hlines (lines : List Text) (number : Nat) (keys : KeyFactory) :
      List.Forall₂ (IsIssueOf path)
        ((lines.zipIdx number).flatMap fun (line, number) =>
          if isComment line then [] else (detectors.filter (·.isMatch line)).map (number, ·))
        (scanLines detectors path number lines keys).1 := by
    induction lines generalizing number keys with
    | nil => exact .nil
    | cons line rest ih =>
        rw [List.zipIdx_cons, List.flatMap_cons]
        refine List.rel_append ?_ (ih (number + 1) _)
        dsimp only
        split
        · exact .nil
        · exact isIssueOf_reportLine path number _ keys
  exact hlines text.lines 1 keys

/-! ## Visits -/

/-- A file whose turn comes, and the world in which it does. -/
structure Visit (σ : Type) where
  file : SourceFile
  before : World σ

variable (s : LocalSettings) (detectors : List Detector) (scanner : DeepScanner σ)

/-- The files of a scan whose turn comes, from some file on. -/
def visitsFrom : KeyFactory → List SourceFile → World σ → List (Visit σ)
  | _, [], _ => []
  | keys, f :: rest, w =>
    ⟨f, w⟩ :: match (scanFile s detectors (some scanner) keys f).run w with
      | (.ok (_, keys'), w') => visitsFrom keys' rest w'
      | (.error _, _) => []

/-- The files of a scan whose turn comes. -/
def visitsIn (projectDir : Path) (w : World σ) : List (Visit σ) :=
  visitsFrom s detectors scanner [] (projectFiles s projectDir w.tree) w

namespace Visit

/-- The text of the file. -/
def text (v : Visit σ) : Text := fileText v.file.contents

/-- What the model answers when it is asked about the file. -/
def answer (v : Visit σ) : Except Fault (List Value) :=
  ((scanner v.file.path v.text).run v.before).1

/-- Whether the scan can go on after the file: the model does not look at it, it fails without being
interrupted, or it reports findings of which none breaks the scan off. -/
def IsHarmless (v : Visit σ) : Prop :=
  isLongEnough s v.text = true →
    match v.answer scanner with
    | .ok findings => ∀ u ∈ findings, ¬Breaks u
    | .error e => e ≠ .interrupted

/-- The issues that the model adds to those of the detectors in a file: none if it does not look at
the file or fails. -/
inductive Added (v : Visit σ) : List Issue → Prop
  | short (h : isLongEnough s v.text = false) : Added v []
  | failed {e : Fault} (h : isLongEnough s v.text = true) (answer : v.answer scanner = .error e) :
      Added v []
  | looked {findings : List Value} {issues : List Issue} (h : isLongEnough s v.text = true)
      (answer : v.answer scanner = .ok findings) (kept : Kept v.file.path findings issues) :
      Added v issues

/-- The issues in a file: those of the matches, and behind them those that the model adds. -/
def Found (v : Visit σ) (issues : List Issue) : Prop :=
  ∃ matched added, issues = matched ++ added ∧
    List.Forall₂ (IsIssueOf v.file.path) (matchesIn detectors v.text) matched ∧
    v.Added s scanner added

end Visit

/-- The faults with which a local scan ends. -/
inductive EndsScan : Fault → Prop
  | interrupted : EndsScan .interrupted
  | finding {e : Fault} (h : IsBreak e) : EndsScan e

variable {s}

/-- The model is asked about a file. -/
theorem deepScan_contained {v : Visit σ} (hlong : isLongEnough s v.text = true) (keys : KeyFactory) :
    (v.IsHarmless s scanner → ∃ added keys' w',
      (deepScan scanner v.file.path v.text keys).run v.before = (.ok (added, keys'), w') ∧
        v.Added s scanner added) ∧
    (¬v.IsHarmless s scanner → ∃ e w',
      (deepScan scanner v.file.path v.text keys).run v.before = (.error e, w') ∧ EndsScan e) := by
  have hanswer : ((scanner v.file.path v.text).run v.before).1 = v.answer scanner := rfl
  rw [deepScan]
  rcases hrun : (scanner v.file.path v.text).run v.before with ⟨r, w₁⟩
  rw [hrun] at hanswer
  obtain rfl : r = v.answer scanner := hanswer
  by_cases hinterrupted : v.answer scanner = .error .interrupted
  · refine ⟨fun h => ?_, fun _ => ⟨.interrupted, w₁, ?_, .interrupted⟩⟩
    · have hharmless := h hlong
      rw [hinterrupted] at hharmless
      exact absurd rfl hharmless
    · refine Act.run_bind_error ?_
      rw [Act.run_caught, hrun, hinterrupted]
  · rw [Act.run_bind_ok (Act.run_caught_of_ne hrun hinterrupted)]
    cases hr : v.answer scanner with
    | error e =>
        refine ⟨fun _ => ⟨[], keys, _, rfl, .failed hlong hr⟩, fun h => absurd (fun _ => ?_) h⟩
        rw [hr] at hinterrupted ⊢
        exact fun he => hinterrupted (he ▸ rfl)
    | ok findings =>
        have hharmless : v.IsHarmless s scanner ↔ ∀ u ∈ findings, ¬Breaks u := by
          rw [Visit.IsHarmless, hr]
          exact ⟨fun h => h hlong, fun h _ => h⟩
        constructor
        · intro h
          obtain ⟨added, keys', w', htake, hkept⟩ :=
            takeFindings_contained (hharmless.1 h) keys w₁
          exact ⟨added, keys', w', htake, .looked hlong hr hkept⟩
        · intro h
          have hbreaks : ∃ u ∈ findings, Breaks u := by simpa using fun hall => h (hharmless.2 hall)
          obtain ⟨e, w', htake, hbreak⟩ := takeFindings_broken hbreaks keys w₁
          exact ⟨e, w', htake, .finding hbreak⟩

variable (s) in
/-- A file whose turn comes is scanned. -/
theorem scanFile_contained (v : Visit σ) (keys : KeyFactory) :
    (v.IsHarmless s scanner → ∃ issues keys' w',
      (scanFile s detectors (some scanner) keys v.file).run v.before = (.ok (issues, keys'), w') ∧
        v.Found s detectors scanner issues) ∧
    (¬v.IsHarmless s scanner → ∃ e w',
      (scanFile s detectors (some scanner) keys v.file).run v.before = (.error e, w') ∧
        EndsScan e) := by
  have hmatched := isIssueOf_scanText detectors v.file.path v.text keys
  have htext : fileText v.file.contents = v.text := rfl
  rw [scanFile, htext]
  dsimp only
  rcases hscan : scanText detectors v.file.path v.text keys with ⟨matched, keys₁⟩
  rw [hscan] at hmatched
  dsimp only
  cases hlong : isLongEnough s v.text with
  | false =>
      rw [if_neg (by decide)]
      refine ⟨fun _ => ⟨matched, keys₁, v.before, rfl, matched, [], by simp, hmatched, .short hlong⟩,
        fun h => absurd (fun hlong' => ?_) h⟩
      rw [hlong] at hlong'
      cases hlong'
  | true =>
      rw [if_pos rfl]
      obtain ⟨hgood, hbad⟩ := deepScan_contained scanner hlong keys₁
      refine ⟨fun h => ?_, fun h => ?_⟩
      · obtain ⟨added, keys', w', hrun, hadded⟩ := hgood h
        exact ⟨matched ++ added, keys', w', by rw [Act.run_bind_ok hrun]; rfl, matched, added, rfl,
          hmatched, hadded⟩
      · obtain ⟨e, w', hrun, hends⟩ := hbad h
        exact ⟨e, w', by rw [Act.run_bind_error hrun], hends⟩

variable {detectors scanner}

/-- If the scan can go on after every file, all files are scanned. -/
theorem scanFiles_contained {files : List SourceFile} {keys : KeyFactory} {w : World σ}
    (h : ∀ v ∈ visitsFrom s detectors scanner keys files w, v.IsHarmless s scanner) :
    ∃ found w', (scanFiles s detectors (some scanner) keys files).run w = (.ok found.flatten, w') ∧
      (visitsFrom s detectors scanner keys files w).map (·.file) = files ∧
      List.Forall₂ (fun v issues => v.Found s detectors scanner issues)
        (visitsFrom s detectors scanner keys files w) found := by
  induction files generalizing keys w with
  | nil => exact ⟨[], w, rfl, rfl, .nil⟩
  | cons f rest ih =>
      obtain ⟨issues, keys₁, w₁, hrun, hfound⟩ :=
        (scanFile_contained s detectors scanner ⟨f, w⟩ keys).1 (h _ (List.mem_cons_self ..))
      have hvisits : visitsFrom s detectors scanner keys (f :: rest) w =
          ⟨f, w⟩ :: visitsFrom s detectors scanner keys₁ rest w₁ := by
        rw [visitsFrom, hrun]
      rw [hvisits] at h ⊢
      obtain ⟨found, w', hrest, hfiles, hall⟩ := ih fun v hv => h v (List.mem_cons_of_mem _ hv)
      refine ⟨issues :: found, w', ?_, by rw [List.map_cons, hfiles], .cons hfound hall⟩
      rw [scanFiles, Act.run_bind_ok hrun, Act.run_bind_ok hrest]
      rfl

/-- If the scan cannot go on after some file, it ends there. -/
theorem scanFiles_broken {files : List SourceFile} {keys : KeyFactory} {w : World σ}
    (h : ∃ v ∈ visitsFrom s detectors scanner keys files w, ¬v.IsHarmless s scanner) :
    ∃ e w', (scanFiles s detectors (some scanner) keys files).run w = (.error e, w') ∧
      EndsScan e := by
  induction files generalizing keys w with
  | nil => obtain ⟨v, hv, -⟩ := h; cases hv
  | cons f rest ih =>
      rw [scanFiles]
      obtain ⟨hgood, hbad⟩ := scanFile_contained s detectors scanner ⟨f, w⟩ keys
      by_cases hharmless : Visit.IsHarmless s scanner ⟨f, w⟩
      · obtain ⟨issues, keys₁, w₁, hrun, -⟩ := hgood hharmless
        obtain ⟨v, hv, hnot⟩ := h
        rw [visitsFrom, hrun] at hv
        rcases List.mem_cons.1 hv with rfl | hv
        · exact absurd hharmless hnot
        · obtain ⟨e, w', hrest, hends⟩ := ih ⟨v, hv, hnot⟩
          exact ⟨e, w', by rw [Act.run_bind_ok hrun, Act.run_bind_error hrest], hends⟩
      · obtain ⟨e, w', hrun, hends⟩ := hbad hharmless
        exact ⟨e, w', Act.run_bind_error hrun, hends⟩

/-! ## How a local scan ends -/

/-- How a local scan with a model ends. If it can go on after every file, it gives all issues that
count, the most severe ones if there are too many: in each file those of the matches, and behind them
those of the findings that make one. A finding that makes none is left out alone, and if the model
fails on a file, only its findings for that file are missing. But if the model is interrupted, or if
it reports a finding on which the scan breaks off, the scan gives nothing. -/
theorem fetchLocal_contained (s : LocalSettings) (projectDir : Path) (detectors : List Detector)
    (scanner : DeepScanner σ) (selectors : Selectors) (w : World σ) :
    let visits := visitsIn s detectors scanner projectDir w
    let ending := ((fetchLocal s projectDir detectors (some scanner) selectors).run w).1
    ((∀ v ∈ visits, v.IsHarmless s scanner) →
      visits.map (·.file) = projectFiles s projectDir w.tree ∧
      ∃ found, List.Forall₂ (fun v issues => v.Found s detectors scanner issues) visits found ∧
        ending = .ok (capped selectors (found.flatten.filter selectors.accepts))) ∧
    ((∃ v ∈ visits, ¬v.IsHarmless s scanner) → ∃ e, ending = .error e ∧ EndsScan e) := by
  intro visits ending
  have hget : (Act.get : Act (World σ) (World σ)).run w = (.ok w, w) := rfl
  constructor
  · intro h
    obtain ⟨found, w', hrun, hfiles, hfound⟩ := scanFiles_contained h
    refine ⟨hfiles, found, hfound, ?_⟩
    show ((fetchLocal s projectDir detectors (some scanner) selectors).run w).1 = _
    rw [fetchLocal, Act.run_bind_ok hget]
    dsimp only
    rw [Act.run_bind_ok hrun, Act.run_bind_ok (World.run_say ..)]
    split <;> rfl
  · intro h
    obtain ⟨e, w', hrun, hends⟩ := scanFiles_broken h
    refine ⟨e, ?_, hends⟩
    show ((fetchLocal s projectDir detectors (some scanner) selectors).run w).1 = _
    rw [fetchLocal, Act.run_bind_ok hget]
    dsimp only
    rw [Act.run_bind_error hrun]

end Mend.Scan
