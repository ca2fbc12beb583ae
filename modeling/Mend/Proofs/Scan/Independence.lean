import Mend.Proofs.Scan.Containment
import Mend.Proofs.Scan.Files
import Mend.Proofs.Scan.Numbering

/-!
# Matches of detectors do not depend on anything else

The detectors look at each file before the model does, and the paths of files are distinct, so when
the turn of a file comes, no line of it has been counted yet, whatever the model has reported for
other files. Hence the matches of detectors, with their keys, are the same in every scan of a tree.
Selectors choose from them and limits cut them off, but neither changes them.

## Main definitions

* `matchesOf` — the matches of detectors in some files.
* `allFound` — everything that a local scan finds, before anything is selected.
* `IsCut` — what counts and is left out because there is too much.
* `exitTree`, `pedant` — a project with one file, and a model that finds fault with every file.

## Main statements

* `filter_scanFiles` — the matches among everything that a scan finds.
* `fetchLocal_matches_agree` — the matches in the results of two scans of a tree.
-/

namespace Mend.Scan

open KeyFactory

variable {σ τ : Type}

/-- The matches of detectors in some files. Each file is looked at as if it were the only one. -/
def matchesOf (detectors : List Detector) (files : List SourceFile) : List Issue :=
  files.flatMap fun f => (scanText detectors f.path (fileText f.contents) []).1

/-- Everything that a local scan finds, whether or not it counts. -/
def allFound (s : LocalSettings) (projectDir : Path) (detectors : List Detector)
    (model : Option (DeepScanner σ)) (w : World σ) : Except Fault (List Issue) :=
  ((scanFiles s detectors model [] (projectFiles s projectDir w.tree)).run w).1

/-- An issue that counts is cut off: there are too many that count, and it is not among the most
severe ones. -/
def IsCut (selectors : Selectors) (found : List Issue) (i : Issue) : Prop :=
  selectors.maxIssues < (found.filter selectors.accepts).length ∧
    i ∉ capBySeverity (found.filter selectors.accepts) selectors.maxIssues

variable {s : LocalSettings} {projectDir : Path} {detectors : List Detector}

/-- A scan of files none of whose lines has been counted finds the same matches as if each file were
the only one. -/
theorem filter_scanFiles {model : Option (DeepScanner σ)} {files : List SourceFile}
    (hdistinct : (files.map (·.path)).Nodup) {keys : KeyFactory}
    (hfresh : ∀ f ∈ files, SameCounts f.path keys []) {w w' : World σ} {found : List Issue}
    (h : (scanFiles s detectors model keys files).run w = (.ok found, w')) :
    found.filter (·.isPatternMatch) = matchesOf detectors files := by
  induction files generalizing keys w found with
  | nil =>
      cases h
      rfl
  | cons f rest ih =>
      rw [List.map_cons, List.nodup_cons] at hdistinct
      obtain ⟨here, keys₁, w₁, others, hfile, hrest, rfl⟩ := exists_of_scanFiles_cons h
      obtain ⟨hnumbers, added, rfl, hadded⟩ := scanFile_step hfile
      -- Only lines of this file have been counted meanwhile.
      have hstill : ∀ g ∈ rest, SameCounts g.path keys₁ [] := by
        intro g hg line
        have hother : f.path ≠ g.path := fun heq =>
          hdistinct.1 (heq ▸ List.mem_map_of_mem hg)
        rw [hnumbers.count_eq hother]
        exact hfresh g (List.mem_cons_of_mem _ hg) line
      rw [List.filter_append, List.filter_append,
        List.filter_eq_self.2 (isPatternMatch_scanText _ _ _ _),
        List.filter_eq_nil_iff.2 fun i hi => by simp [hadded i hi], List.append_nil,
        ih hdistinct.2 hstill hrest, matchesOf, matchesOf, List.flatMap_cons,
        scanText_congr detectors _ (hfresh f (List.mem_cons_self ..))]

/-- A scan that gives a result selects it from everything that it has found. -/
theorem exists_of_fetchLocal {model : Option (DeepScanner σ)} {selectors : Selectors} {w : World σ}
    {r : ScanResult}
    (h : ((fetchLocal s projectDir detectors model selectors).run w).1 = .ok r) :
    ∃ found w', (scanFiles s detectors model [] (projectFiles s projectDir w.tree)).run w =
      (.ok found, w') ∧ r = capped selectors (found.filter selectors.accepts) := by
  have hget : (Act.get : Act (World σ) (World σ)).run w = (.ok w, w) := rfl
  rw [fetchLocal, Act.run_bind_ok hget] at h
  dsimp only at h
  rcases hscan : (scanFiles s detectors model [] (projectFiles s projectDir w.tree)).run w with
    ⟨e | found, w'⟩
  · rw [Act.run_bind_error hscan] at h
    cases h
  · refine ⟨found, w', rfl, ?_⟩
    rw [Act.run_bind_ok hscan, Act.run_bind_ok (World.run_say ..)] at h
    split at h
    · exact (Except.ok.inj h).symm
    · exact (Except.ok.inj h).symm

/-- The matches among everything that a scan of a tree finds. -/
theorem filter_of_fetchLocal {model : Option (DeepScanner σ)} {selectors : Selectors} {w : World σ}
    (hproper : w.tree.IsProper) {r : ScanResult}
    (h : ((fetchLocal s projectDir detectors model selectors).run w).1 = .ok r) :
    ∃ found, allFound s projectDir detectors model w = .ok found ∧
      r = capped selectors (found.filter selectors.accepts) ∧
      found.filter (·.isPatternMatch) = matchesOf detectors (projectFiles s projectDir w.tree) := by
  obtain ⟨found, w', hscan, hr⟩ := exists_of_fetchLocal h
  refine ⟨found, by rw [allFound, hscan], hr, ?_⟩
  exact filter_scanFiles (nodup_projectFiles hproper) (fun _ _ _ => rfl) hscan

theorem mem_issues_capped {selectors : Selectors} {found : List Issue} {i : Issue} (hi : i ∈ found)
    (haccepts : selectors.accepts i = true) (hcut : ¬IsCut selectors found i) :
    i ∈ (capped selectors (found.filter selectors.accepts)).issues := by
  unfold capped
  dsimp only
  split
  · rename_i hmany
    exact not_not.1 fun hnot => hcut ⟨of_decide_eq_true hmany, hnot⟩
  · exact List.mem_filter.2 ⟨hi, haccepts⟩

theorem issues_capped_of_not_truncated {selectors : Selectors} {issues : List Issue}
    (h : (capped selectors issues).truncated = false) : (capped selectors issues).issues = issues :=
  if_neg (by
    have htruncated : decide (selectors.maxIssues < issues.length) = false := h
    simp [htruncated])

theorem mem_iff_of_filter_eq {found found' : List Issue}
    (h : found.filter (·.isPatternMatch) = found'.filter (·.isPatternMatch)) {i : Issue}
    (hmatch : i.isPatternMatch = true) : i ∈ found ↔ i ∈ found' := by
  have hmem : i ∈ found.filter (·.isPatternMatch) ↔ i ∈ found'.filter (·.isPatternMatch) := by rw [h]
  simpa [List.mem_filter, hmatch] using hmem

/-! ## A project with one file -/

/-- The settings of a scan in which the model looks at files of any length. -/
def thorough : LocalSettings := { deepScanMinLines := 1 }

/-- A project with one file, in which the program ends itself. -/
def exitTree : Tree :=
  ⟨.dir [(Text.ofString "A.java", .file ((Text.ofString "System.exit(1);").map (·.toUInt8)))]⟩

/-- A model that finds fault with the first line of every file. -/
def pedant : DeepScanner Unit := fun _ _ =>
  pure [.record [("line_start", .nat 1), ("severity", .str "INFO")]]

theorem isProper_exitTree : exitTree.IsProper := by
  refine .dir (by decide) ?_ ?_
  · rw [List.forall_mem_singleton]
    exact ⟨by decide, by decide⟩
  · rw [List.forall_mem_singleton]
    exact .file _

/-- What a scan of the project finds, without a model and with one that finds fault with everything. -/
theorem run_fetchLocal_exitTree :
    (∃ r w', (fetchLocal thorough {} Detector.standard (none : Option (DeepScanner Unit)) {}).run
      { tree := exitTree, extra := () } = (.ok r, w') ∧ r.truncated = false ∧ r.issues.length = 1 ∧
      r.issues.all (·.isPatternMatch) = true) ∧
    ∃ r w', (fetchLocal thorough {} Detector.standard (some pedant) {}).run
      { tree := exitTree, extra := () } = (.ok r, w') ∧ r.truncated = false ∧ r.issues.length = 2 := by
  have hget : (Act.get : Act (World Unit) (World Unit)).run { tree := exitTree, extra := () } =
      (.ok { tree := exitTree, extra := () }, { tree := exitTree, extra := () }) := rfl
  have hfiles : projectFiles thorough {} exitTree =
      [⟨Text.ofString "A.java", (Text.ofString "System.exit(1);").map (·.toUInt8)⟩] := by cbv
  constructor
  · rw [fetchLocal, Act.run_bind_ok hget]
    dsimp only
    rw [hfiles]
    exact ⟨_, _, rfl, rfl, rfl, rfl⟩
  · have hshown : ((fetchLocal thorough {} Detector.standard (some pedant) {}).run
        { tree := exitTree, extra := () }).1.toOption.map (fun r => (r.truncated, r.issues.length)) =
          some (false, 2) := by
      rw [fetchLocal, Act.run_bind_ok hget]
      dsimp only
      rw [hfiles]
      decide +kernel
    obtain ⟨r, w', hrun, hparts⟩ := exists_ending_of_map_eq_some hshown
    exact ⟨r, w', hrun, Prod.mk.inj hparts⟩

/-! ## Two scans of a tree -/

/-- Two local scans of a tree that give results, whatever their selectors and their models are. Among
all that they find, the matches of detectors are the same, in the same order and with the same keys. A
match that counts for both scans and is cut off in neither is in both results; and if the selectors
accept the same and nothing is cut off, the results have the same matches. -/
theorem fetchLocal_matches_agree {model₁ : Option (DeepScanner σ)} {model₂ : Option (DeepScanner τ)}
    {selectors₁ selectors₂ : Selectors} {w₁ : World σ} {w₂ : World τ} (htree : w₁.tree = w₂.tree)
    (hproper : w₁.tree.IsProper) {r₁ r₂ : ScanResult}
    (h₁ : ((fetchLocal s projectDir detectors model₁ selectors₁).run w₁).1 = .ok r₁)
    (h₂ : ((fetchLocal s projectDir detectors model₂ selectors₂).run w₂).1 = .ok r₂) :
    ∃ found₁ found₂,
      allFound s projectDir detectors model₁ w₁ = .ok found₁ ∧
      r₁ = capped selectors₁ (found₁.filter selectors₁.accepts) ∧
      allFound s projectDir detectors model₂ w₂ = .ok found₂ ∧
      r₂ = capped selectors₂ (found₂.filter selectors₂.accepts) ∧
      found₁.filter (·.isPatternMatch) = found₂.filter (·.isPatternMatch) ∧
      (∀ i, i.isPatternMatch = true → i ∈ found₁ ∨ i ∈ found₂ →
        selectors₁.accepts i = true → selectors₂.accepts i = true →
        ¬IsCut selectors₁ found₁ i → ¬IsCut selectors₂ found₂ i → i ∈ r₁.issues ∧ i ∈ r₂.issues) ∧
      ((∀ i, selectors₁.accepts i = selectors₂.accepts i) →
        r₁.truncated = false → r₂.truncated = false →
        r₁.issues.filter (·.isPatternMatch) = r₂.issues.filter (·.isPatternMatch)) := by
  obtain ⟨found₁, hfound₁, rfl, hmatches₁⟩ := filter_of_fetchLocal hproper h₁
  obtain ⟨found₂, hfound₂, rfl, hmatches₂⟩ := filter_of_fetchLocal (htree ▸ hproper) h₂
  have hsame : found₁.filter (·.isPatternMatch) = found₂.filter (·.isPatternMatch) := by
    rw [hmatches₁, hmatches₂, htree]
  refine ⟨found₁, found₂, hfound₁, rfl, hfound₂, rfl, hsame, ?_, ?_⟩
  · intro i hmatch hi haccepts₁ haccepts₂ hcut₁ hcut₂
    have hiff := mem_iff_of_filter_eq hsame hmatch
    have hi₁ : i ∈ found₁ := hi.elim id hiff.2
    exact ⟨mem_issues_capped hi₁ haccepts₁ hcut₁, mem_issues_capped (hiff.1 hi₁) haccepts₂ hcut₂⟩
  · intro haccepts htruncated₁ htruncated₂
    rw [issues_capped_of_not_truncated htruncated₁, issues_capped_of_not_truncated htruncated₂]
    calc (found₁.filter selectors₁.accepts).filter (·.isPatternMatch)
      _ = (found₁.filter (·.isPatternMatch)).filter selectors₁.accepts := List.filter_comm ..
      _ = (found₂.filter (·.isPatternMatch)).filter selectors₂.accepts := by
          rw [hsame]
          exact List.filter_congr fun i _ => haccepts i
      _ = (found₂.filter selectors₂.accepts).filter (·.isPatternMatch) := List.filter_comm ..

/-- Whether or not a model finds fault with the first line, the call that ends the program is reported
there in the same way. -/
theorem fetchLocal_matches_agree_exit :
    exitTree.IsProper ∧ ∃ r₁ r₂,
      ((fetchLocal thorough {} Detector.standard (none : Option (DeepScanner Unit)) {}).run
        { tree := exitTree, extra := () }).1 = .ok r₁ ∧
      ((fetchLocal thorough {} Detector.standard (some pedant) {}).run
        { tree := exitTree, extra := () }).1 = .ok r₂ ∧
      r₁.issues.length = 1 ∧ r₂.issues.length = 2 ∧
      r₂.issues.filter (·.isPatternMatch) = r₁.issues := by
  obtain ⟨⟨r₁, w₁, hrun₁, hall₁, hlength₁, hmatches⟩, r₂, w₂, hrun₂, hall₂, hlength₂⟩ :=
    run_fetchLocal_exitTree
  have h₁ := congrArg Prod.fst hrun₁
  have h₂ := congrArg Prod.fst hrun₂
  obtain ⟨-, -, -, -, -, -, -, -, hagree⟩ := fetchLocal_matches_agree rfl isProper_exitTree h₁ h₂
  refine ⟨isProper_exitTree, r₁, r₂, h₁, h₂, hlength₁, hlength₂, ?_⟩
  rw [← hagree (fun _ => rfl) hall₁ hall₂]
  exact List.filter_eq_self.2 (List.all_eq_true.1 hmatches)

end Mend.Scan
