import Mend.Proofs.Fix.Mirror
import Mend.Proofs.Scan.Independence
import Mend.Proofs.Text.Lines

/-!
# What a model is asked about

A model that notes what it is asked about does the same as without its notes, so the notes say which
files are handed to it in a scan: the long ones. How long a file is, is read off the line feeds in its
text, of which there is one for each line or one less. If there is one for each line, one line too many
is counted; and if lines end in another way, too few are.

## Main definitions

* `noting` — a model that notes what it is asked about.
* `longFiles` — the files that a model is asked about.

## Main statements

* `fetchLocal_asks` — which files a model is asked about, and how that agrees with the number of lines.
-/

namespace Mend.Scan

open Text Act

variable {σ τ : Type}

/-! ## Notes -/

/-- What a model keeps for itself, and the path and the text of each file that it was asked about. -/
structure Asked (σ : Type) where
  own : σ
  files : List (Text × Text) := []

/-- The model that notes what it is asked about. -/
def noting (scanner : DeepScanner σ) : DeepScanner (Asked σ) := fun path text w =>
  match (scanner path text).run (w.mapExtra Asked.own) with
  | (r, w') => (r, w'.mapExtra fun own => ⟨own, w.extra.files ++ [(path, text)]⟩)

theorem mirrors_noting (scanner : DeepScanner σ) (path text : Text) :
    Mirrors (World.mapExtra Asked.own) (noting scanner path text) (scanner path text) :=
  ⟨fun _ => rfl⟩

theorem files_noting (scanner : DeepScanner σ) (path text : Text) (w : World (Asked σ)) :
    ((noting scanner path text).run w).2.extra.files = w.extra.files ++ [(path, text)] := rfl

/-! ## Scans with other models -/

variable (g : σ → τ) {s : LocalSettings} {projectDir : Path} {detectors : List Detector}
  {selectors : Selectors}

theorem mirrors_say (level : Log.Level) (parts : List Text) :
    Mirrors (World.mapExtra g) (World.say level parts) (World.say level parts) := ⟨fun _ => rfl⟩

theorem mirrors_takeFindings (path : Text) (keys : KeyFactory) (vs : List Value) :
    Mirrors (World.mapExtra g) (takeFindings path keys vs) (takeFindings path keys vs) := by
  induction vs generalizing keys with
  | nil => exact .pure _
  | cons v vs ih =>
      rcases htaken : takeFinding path keys v with ⟨e | issue, keys₁⟩
      · simp only [takeFindings, htaken]
        exact .ite (.bind (mirrors_say g ..) fun _ => ih keys₁) (.fail e)
      · simp only [takeFindings, htaken]
        exact .bind (ih keys₁) fun _ => .pure _

variable {scanner : DeepScanner σ} {other : DeepScanner τ}

section

variable (h : ∀ path text, Mirrors (World.mapExtra g) (scanner path text) (other path text))
include h

theorem mirrors_deepScan (path text : Text) (keys : KeyFactory) :
    Mirrors (World.mapExtra g) (deepScan scanner path text keys) (deepScan other path text keys) := by
  refine .bind (.caught (h path text)) fun r => ?_
  cases r with
  | ok findings => exact mirrors_takeFindings g path keys findings
  | error e => exact .bind (mirrors_say g ..) fun _ => .pure _

theorem mirrors_scanFile (keys : KeyFactory) (f : SourceFile) :
    Mirrors (World.mapExtra g) (scanFile s detectors (some scanner) keys f)
      (scanFile s detectors (some other) keys f) :=
  .ite (.bind (mirrors_deepScan g h ..) fun _ => .pure _) (.pure _)

theorem mirrors_scanFiles (keys : KeyFactory) (files : List SourceFile) :
    Mirrors (World.mapExtra g) (scanFiles s detectors (some scanner) keys files)
      (scanFiles s detectors (some other) keys files) := by
  induction files generalizing keys with
  | nil => exact .pure _
  | cons f rest ih =>
      exact .bind (mirrors_scanFile g h keys f) fun here => .bind (ih here.2) fun _ => .pure _

/-- Two models that do the same but keep something else make no difference to a scan. -/
theorem mirrors_fetchLocal :
    Mirrors (World.mapExtra g) (fetchLocal s projectDir detectors (some scanner) selectors)
      (fetchLocal s projectDir detectors (some other) selectors) := by
  refine .get_bind fun w => .bind (mirrors_scanFiles g h ..) fun found => ?_
  exact .bind (mirrors_say g ..) fun _ => .iteBind (mirrors_say g ..) fun _ => .pure _

end

/-! ## What is noted in a scan -/

variable (s detectors scanner)

theorem extra_takeFindings (path : Text) (keys : KeyFactory) (vs : List Value) (w : World σ) :
    ((takeFindings path keys vs).run w).2.extra = w.extra := by
  induction vs generalizing keys w with
  | nil => rfl
  | cons v vs ih =>
      rcases htaken : takeFinding path keys v with ⟨e | issue, keys₁⟩
      · simp only [takeFindings, htaken]
        split
        · rw [run_bind_ok (World.run_say ..), ih]
        · rfl
      · simp only [takeFindings, htaken]
        rw [state_bind_pure, ih]

/-- A model is asked once about a file that is handed to it. -/
theorem files_deepScan (path text : Text) (keys : KeyFactory) (w : World (Asked σ)) :
    ((deepScan (noting scanner) path text keys).run w).2.extra.files =
      w.extra.files ++ [(path, text)] := by
  have hnoted := files_noting scanner path text w
  rcases hask : (noting scanner path text).run w with ⟨r, w₁⟩
  rw [hask] at hnoted
  by_cases hr : r = .error .interrupted
  · have hcaught : (noting scanner path text).caught.run w = (.error .interrupted, w₁) := by
      rw [run_caught, hask, hr]
    rw [deepScan, run_bind_error hcaught]
    exact hnoted
  · rw [deepScan, run_bind_ok (run_caught_of_ne hask hr)]
    cases r with
    | ok findings => exact (congrArg Asked.files (extra_takeFindings ..)).trans hnoted
    | error e => exact hnoted

/-- The paths and texts of the files among some that are long enough. -/
def longFiles (s : LocalSettings) (files : List SourceFile) : List (Text × Text) :=
  (files.filter fun f => isLongEnough s (fileText f.contents)).map fun f =>
    (f.path, fileText f.contents)

theorem longFiles_cons (s : LocalSettings) (f : SourceFile) (rest : List SourceFile) :
    longFiles s (f :: rest) = longFiles s [f] ++ longFiles s rest := by
  rw [longFiles, longFiles, longFiles, ← List.map_append, ← List.filter_append]
  rfl

theorem files_scanFile (keys : KeyFactory) (f : SourceFile) (w : World (Asked σ)) :
    ((scanFile s detectors (some (noting scanner)) keys f).run w).2.extra.files =
      w.extra.files ++ longFiles s [f] := by
  unfold scanFile
  dsimp only
  split
  · rename_i hlong
    have hasked : longFiles s [f] = [(f.path, fileText f.contents)] := by
      rw [longFiles, List.filter_singleton, hlong]
      rfl
    rw [state_bind_pure, files_deepScan, hasked]
  · rename_i hshort
    have hasked : longFiles s [f] = [] := by
      rw [longFiles, List.filter_singleton, Bool.eq_false_iff.2 hshort]
      rfl
    rw [hasked, List.append_nil]
    rfl

/-- The files that a model is asked about: the long ones among those that are reached, and all files are
reached unless the scan breaks off. -/
theorem files_scanFiles (keys : KeyFactory) (files : List SourceFile) (w : World (Asked σ)) :
    ∃ reached, reached <+: files ∧
      ((scanFiles s detectors (some (noting scanner)) keys files).run w).2.extra.files =
        w.extra.files ++ longFiles s reached ∧
      ∀ found, ((scanFiles s detectors (some (noting scanner)) keys files).run w).1 = .ok found →
        reached = files := by
  induction files generalizing keys w with
  | nil => exact ⟨[], List.nil_prefix, (List.append_nil _).symm, fun _ _ => rfl⟩
  | cons f rest ih =>
      have hasked := files_scanFile s detectors scanner keys f w
      rw [scanFiles]
      rcases hfile : (scanFile s detectors (some (noting scanner)) keys f).run w with
        ⟨e | ⟨here, keys₁⟩, w₁⟩
      · rw [hfile] at hasked
        rw [run_bind_error hfile]
        refine ⟨[f], ⟨rest, rfl⟩, hasked, fun found h => ?_⟩
        cases h
      · rw [hfile] at hasked
        rw [run_bind_ok hfile]
        obtain ⟨reached, hreached, hnoted, hall⟩ := ih keys₁ w₁
        dsimp only at hasked
        rw [hasked, List.append_assoc, ← longFiles_cons] at hnoted
        refine ⟨f :: reached, List.cons_prefix_cons.2 ⟨rfl, hreached⟩, ?_, fun found h => ?_⟩
        · rwa [state_bind_pure]
        · rcases hrest : (scanFiles s detectors (some (noting scanner)) keys₁ rest).run w₁ with
            ⟨e | others, w₂⟩
          · rw [run_bind_error hrest] at h
            cases h
          · rw [hall others (by rw [hrest])]

theorem extra_fetchLocal (projectDir : Path) (model : Option (DeepScanner σ)) (selectors : Selectors)
    (w : World σ) :
    ((fetchLocal s projectDir detectors model selectors).run w).2.extra =
      ((scanFiles s detectors model [] (projectFiles s projectDir w.tree)).run w).2.extra := by
  rw [fetchLocal, run_bind_ok (run_get w)]
  dsimp only
  rcases hscan : (scanFiles s detectors model [] (projectFiles s projectDir w.tree)).run w with
    ⟨e | found, w'⟩
  · rw [run_bind_error hscan]
  · rw [run_bind_ok hscan, run_bind_ok (World.run_say ..)]
    split <;> rfl

/-! ## Long files -/

/-- The count by which a file is long leaves out the lines that the line feeds of its text do not tell,
and is one more than the others. -/
theorem isLongEnough_iff (b : Bytes) :
    isLongEnough s (fileText b) = true ↔
      s.deepScanMinLines + (fileText b).untold ≤ (fileText b).lines.length + 1 := by
  have hlines : (fileText b).lines.length = (fileText b).count newline + (fileText b).untold :=
    length_lines (notMem_unixLines _)
  rw [isLongEnough, decide_eq_true_iff, hlines]
  omega

/-- A file is long just if it has as many lines as are wanted, but for two kinds of files: those that lack
one line while all their lines end in line feeds, and those with enough lines of which too many end in
another way or not at all. -/
theorem isLongEnough_agrees_iff (b : Bytes) :
    (isLongEnough s (fileText b) = true ↔ s.deepScanMinLines ≤ (fileText b).lines.length) ↔
      ¬((fileText b).untold = 0 ∧ s.deepScanMinLines = (fileText b).lines.length + 1) ∧
      ¬(s.deepScanMinLines ≤ (fileText b).lines.length ∧
        (fileText b).lines.length + 1 < s.deepScanMinLines + (fileText b).untold) := by
  rw [isLongEnough_iff]
  omega

/-- What a model is asked about in a local scan. Its notes change nothing. It is asked, in order and
once, about the path and the text of each long file among those that the scan reaches, and the scan
reaches all files if it gives a result. Whether a file is long does not always agree with the number of
the lines that the detectors are given: a file that lacks one line is long as well if all its lines end
in line feeds, and a file with enough lines is not long if too many of them end in another way or not at
all. For all other files it agrees. -/
theorem fetchLocal_asks (projectDir : Path) (selectors : Selectors) (w : World σ) :
    let noted := (fetchLocal s projectDir detectors (some (noting scanner)) selectors).run
      (w.mapExtra fun own => ⟨own, []⟩)
    (fetchLocal s projectDir detectors (some scanner) selectors).run w =
      (noted.1, noted.2.mapExtra Asked.own) ∧
    (∃ reached, reached <+: projectFiles s projectDir w.tree ∧
      noted.2.extra.files = longFiles s reached ∧
      ∀ r, noted.1 = .ok r → reached = projectFiles s projectDir w.tree) ∧
    ∀ b,
      (isLongEnough s (fileText b) = true ↔
        s.deepScanMinLines + (fileText b).untold ≤ (fileText b).lines.length + 1) ∧
      ((isLongEnough s (fileText b) = true ↔ s.deepScanMinLines ≤ (fileText b).lines.length) ↔
        ¬((fileText b).untold = 0 ∧ s.deepScanMinLines = (fileText b).lines.length + 1) ∧
        ¬(s.deepScanMinLines ≤ (fileText b).lines.length ∧
          (fileText b).lines.length + 1 < s.deepScanMinLines + (fileText b).untold)) := by
  intro noted
  refine ⟨?_, ?_, fun b => ⟨isLongEnough_iff s b, isLongEnough_agrees_iff s b⟩⟩
  · exact (mirrors_fetchLocal Asked.own (mirrors_noting scanner)).run
      (w.mapExtra fun own => ⟨own, []⟩)
  · obtain ⟨reached, hreached, hnoted, hall⟩ := files_scanFiles s detectors scanner []
      (projectFiles s projectDir w.tree) (w.mapExtra fun own => ⟨own, []⟩)
    refine ⟨reached, hreached, ?_, fun r hr => ?_⟩
    · exact (congrArg Asked.files (extra_fetchLocal ..)).trans hnoted
    · obtain ⟨found, w', hscan, -⟩ := exists_of_fetchLocal hr
      exact hall found (congrArg Prod.fst hscan)

/-- Two files of which the first one has two lines and the second one three. -/
def briefTree : Tree := ⟨.dir [
  (Text.ofString "A.java", .file [0x61, 0x0A, 0x61, 0x0A]),
  (Text.ofString "B.java", .file [0x62, 0x0C, 0x62, 0x0C, 0x62])]⟩

/-- A model that finds nothing. -/
def content : DeepScanner Unit := fun _ _ => pure []

/-- If three lines are wanted, the model is asked about the file with two. -/
theorem fetchLocal_asks_brief :
    let noted := (fetchLocal { deepScanMinLines := 3 } {} Detector.standard (some (noting content))
      {}).run { tree := briefTree, extra := ⟨(), []⟩ }
    (∃ r, noted.1 = .ok r) ∧
      noted.2.extra.files = [(Text.ofString "A.java", [0x61, 0x0A, 0x61, 0x0A])] ∧
      (fileText [0x61, 0x0A, 0x61, 0x0A]).lines.length = 2 ∧
      (fileText [0x62, 0x0C, 0x62, 0x0C, 0x62]).lines.length = 3 := by
  intro noted
  have hfiles : projectFiles { deepScanMinLines := 3 } {} briefTree =
      [⟨Text.ofString "A.java", [0x61, 0x0A, 0x61, 0x0A]⟩,
        ⟨Text.ofString "B.java", [0x62, 0x0C, 0x62, 0x0C, 0x62]⟩] := by cbv
  have hok : ∃ r, noted.1 = .ok r := by
    show ∃ r, ((fetchLocal { deepScanMinLines := 3 } {} Detector.standard (some (noting content))
      {}).run { tree := briefTree, extra := ⟨(), []⟩ }).1 = .ok r
    rw [fetchLocal, run_bind_ok (run_get _)]
    dsimp only
    rw [hfiles]
    exact ⟨_, rfl⟩
  obtain ⟨-, ⟨reached, -, hasked, hall⟩, -⟩ := fetchLocal_asks { deepScanMinLines := 3 }
    Detector.standard content {} {} { tree := briefTree, extra := () }
  obtain ⟨r, hr⟩ := hok
  rw [hall r hr, hfiles] at hasked
  exact ⟨⟨r, hr⟩, hasked, by decide +kernel, by decide +kernel⟩

end Mend.Scan
