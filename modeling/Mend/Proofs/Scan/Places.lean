import Mend.Proofs.Scan.Identity
import Mend.Proofs.Scan.Pattern
import Mend.Proofs.Text.Lines

/-!
# The line of a match

A match of a detector lies in one line of the text of a file. The number of that line, under which the
match is reported, counts all line ends before the match, not only the line feeds. So it is the number
that whoever counts line feeds would give the line just if no line end of another kind stands before the
match.

## Main definitions

* `Hit` — a match of a detector in a text.
* `Hit.IsReportedBy` — whether an issue reports a match, and under which number.

## Main statements

* `mem_matchesIn_iff` — detectors find all matches, and nothing else.
* `fetchLocal_lineStart` — the line numbers of matches in the result of a local scan.
-/

namespace Mend.Scan

open Text

variable {σ : Type} {d : Detector} {t path : Text} {detectors : List Detector} {keys : KeyFactory}

/-! ## Matches in a text -/

/-- A match of a detector in a text: the pattern of the detector matches a part of a line that is no
comment. -/
structure Hit (d : Detector) (t : Text) where
  above : Text
  start : Text
  hit : Text
  finish : Text
  below : Text
  isLineOf : t.IsLineOf above (start ++ hit ++ finish) below
  isComment : isComment (start ++ hit ++ finish) = false
  matchesAt : d.pattern.MatchesAt start hit finish

namespace Hit

/-- What stands before the match in the text. -/
def before (h : Hit d t) : Text := h.above ++ h.start

theorem before_prefix (h : Hit d t) : h.before <+: t := by
  refine ⟨h.hit ++ h.finish ++ h.below, Eq.trans ?_ h.isLineOf.eq.symm⟩
  simp only [before, List.append_assoc]

/-- All line ends before the match stand above its line. -/
theorem countP_before (h : Hit d t) : h.before.countP isLineEnd = h.above.countP isLineEnd := by
  have hstart : IsOneLine h.start :=
    (isOneLine_append.1 (isOneLine_append.1 h.isLineOf.isOneLine).1).1
  rw [before, List.countP_append, hstart.countP_eq_zero, Nat.add_zero]

end Hit

/-- Detectors match in lines, which are numbered by the line ends before the match. -/
theorem mem_matchesIn_iff (hreturn : 0x0D ∉ t) {number : Nat} :
    (number, d) ∈ matchesIn detectors t ↔
      d ∈ detectors ∧ ∃ hit : Hit d t, number = 1 + hit.before.countP isLineEnd := by
  have hlines (line : Text) (number : Nat) : (line, number) ∈ t.lines.zipIdx 1 ↔
      ∃ above below, t.IsLineOf above line below ∧ number = 1 + above.countP isLineEnd :=
    (lined_lines hreturn).mem_zipIdx_iff
  rw [matchesIn, List.mem_flatMap]
  constructor
  · rintro ⟨⟨line, n⟩, hline, hplace⟩
    dsimp only at hplace
    split at hplace
    · cases hplace
    · rename_i hcomment
      obtain ⟨d', hd, heq⟩ := List.mem_map.1 hplace
      obtain ⟨rfl, rfl⟩ := Prod.mk.inj heq
      obtain ⟨hmem, hmatch⟩ := List.mem_filter.1 hd
      obtain ⟨above, below, hlineOf, rfl⟩ := (hlines _ _).1 hline
      obtain ⟨start, hit, finish, rfl, hat⟩ := Pattern.occursIn_iff.1 hmatch
      let place : Hit d' t :=
        ⟨above, start, hit, finish, below, hlineOf, Bool.eq_false_iff.2 hcomment, hat⟩
      exact ⟨hmem, place, by rw [place.countP_before]⟩
  · rintro ⟨hd, hit, rfl⟩
    refine ⟨_, (hlines _ _).2 ⟨hit.above, hit.below, hit.isLineOf, rfl⟩, ?_⟩
    dsimp only
    rw [hit.isComment, if_neg Bool.false_ne_true, hit.countP_before]
    refine List.mem_map_of_mem (List.mem_filter.2 ⟨hd, ?_⟩)
    exact Pattern.occursIn_iff.2 ⟨_, _, _, rfl, hit.matchesAt⟩

/-- A member of the second one of two related lists is related to a member of the first one. -/
theorem exists_of_forall₂ {α β : Type} {R : α → β → Prop} {l : List α} {l' : List β}
    (h : List.Forall₂ R l l') {b : β} (hb : b ∈ l') : ∃ a ∈ l, R a b := by
  induction h with
  | nil => cases hb
  | @cons a b' l l' hab _ ih =>
      rcases List.mem_cons.1 hb with rfl | hb
      · exact ⟨a, List.mem_cons_self, hab⟩
      · obtain ⟨a', ha', hab'⟩ := ih hb
        exact ⟨a', List.mem_cons_of_mem _ ha', hab'⟩

/-- Whether an issue of a file reports a match. Its line is numbered by the line feeds before the match
and by the line ends of other kinds. -/
structure Hit.IsReportedBy (hit : Hit d t) (path : Text) (i : Issue) : Prop where
  filePath : i.filePath = .text path
  rule : i.rule = .text d.rule
  isPatternMatch : i.isPatternMatch = true
  lineStart : i.lineStart = 1 + hit.before.count newline + hit.before.countP isOtherEnd
  lineEnd : i.lineEnd = i.lineStart

theorem Hit.isReportedBy_of_isIssueOf {hit : Hit d t} {i : Issue}
    (h : IsIssueOf path (1 + hit.before.countP isLineEnd, d) i) : hit.IsReportedBy path i := by
  obtain ⟨key, rfl⟩ := h
  refine ⟨rfl, rfl, rfl, ?_, rfl⟩
  show 1 + hit.before.countP isLineEnd = _
  rw [countP_isLineEnd, Nat.add_assoc]

/-- An issue of a text reports a match in it. -/
theorem exists_hit_of_mem_scanText (hreturn : 0x0D ∉ t) {i : Issue}
    (hi : i ∈ (scanText detectors path t keys).1) :
    ∃ d ∈ detectors, ∃ hit : Hit d t, hit.IsReportedBy path i := by
  obtain ⟨⟨number, d⟩, hplace, hissue⟩ :=
    exists_of_forall₂ (isIssueOf_scanText detectors path t keys) hi
  obtain ⟨hd, hit, rfl⟩ := (mem_matchesIn_iff hreturn).1 hplace
  exact ⟨d, hd, hit, Hit.isReportedBy_of_isIssueOf hissue⟩

/-- Each match in a text is reported. -/
theorem exists_mem_scanText_of_hit (hreturn : 0x0D ∉ t) (hd : d ∈ detectors) (hit : Hit d t)
    (path : Text) (keys : KeyFactory) :
    ∃ i ∈ (scanText detectors path t keys).1, hit.IsReportedBy path i := by
  have hplace := (mem_matchesIn_iff hreturn).2 ⟨hd, hit, rfl⟩
  obtain ⟨i, hi, hissue⟩ :=
    exists_of_forall₂ (isIssueOf_scanText detectors path t keys).flip hplace
  exact ⟨i, hi, Hit.isReportedBy_of_isIssueOf hissue⟩

/-! ## Matches in a project -/

variable {s : LocalSettings} {projectDir : Path} {model : Option (DeepScanner σ)}
  {selectors : Selectors} {w : World σ}

theorem notMem_fileText (b : Bytes) : 0x0D ∉ fileText b := notMem_unixLines _

/-- What a scan finds by patterns is what the detectors find in the files one after the other. -/
theorem mem_scanFiles {files : List SourceFile} {w' : World σ} {found : List Issue}
    (h : (scanFiles s detectors model keys files).run w = (.ok found, w')) :
    (∀ i ∈ found, i.isPatternMatch = true →
      ∃ f ∈ files, ∃ keys', i ∈ (scanText detectors f.path (fileText f.contents) keys').1) ∧
    ∀ f ∈ files, ∃ keys', (scanText detectors f.path (fileText f.contents) keys').1 ⊆ found := by
  induction files generalizing keys w found with
  | nil =>
      cases h
      exact ⟨fun i hi => absurd hi List.not_mem_nil, fun f hf => absurd hf List.not_mem_nil⟩
  | cons f rest ih =>
      obtain ⟨here, keys₁, w₁, others, hfile, hrest, rfl⟩ := exists_of_scanFiles_cons h
      obtain ⟨-, added, rfl, hadded⟩ := scanFile_step hfile
      obtain ⟨hfound, hall⟩ := ih hrest
      constructor
      · intro i hi hmatch
        rcases List.mem_append.1 hi with hi | hi
        · rcases List.mem_append.1 hi with hi | hi
          · exact ⟨f, List.mem_cons_self, keys, hi⟩
          · simp [hadded i hi] at hmatch
        · obtain ⟨g, hg, keys', hg'⟩ := hfound i hi hmatch
          exact ⟨g, List.mem_cons_of_mem _ hg, keys', hg'⟩
      · rintro g hg
        rcases List.mem_cons.1 hg with rfl | hg
        · exact ⟨keys, fun i hi => List.mem_append_left _ (List.mem_append_left _ hi)⟩
        · obtain ⟨keys', hsub⟩ := hall g hg
          exact ⟨keys', fun i hi => List.mem_append_right _ (hsub hi)⟩

/-- The line numbers of matches in the result of a local scan. Each issue that is tagged as a match
reports a match of a detector in the text of a file, under a number that is one more than the number of
line ends before the match: the line feeds and those of other kinds. So it is one more than the number of
line feeds just if no line end of another kind stands before the match. Every match is found, and it is
reported unless it does not count or is cut off. -/
theorem fetchLocal_lineStart {r : ScanResult}
    (h : ((fetchLocal s projectDir detectors model selectors).run w).1 = .ok r) :
    (∀ i ∈ r.issues, i.isPatternMatch = true →
      ∃ f ∈ projectFiles s projectDir w.tree, ∃ d ∈ detectors, ∃ hit : Hit d (fileText f.contents),
        hit.IsReportedBy f.path i ∧
        (i.lineStart = 1 + hit.before.count newline ↔ ∀ c ∈ hit.before, isOtherEnd c = false)) ∧
    ∃ found, allFound s projectDir detectors model w = .ok found ∧
      ∀ f ∈ projectFiles s projectDir w.tree, ∀ d ∈ detectors, ∀ hit : Hit d (fileText f.contents),
        ∃ i ∈ found, hit.IsReportedBy f.path i ∧
          (selectors.accepts i = true → ¬IsCut selectors found i → i ∈ r.issues) := by
  obtain ⟨found, w', hscan, rfl⟩ := exists_of_fetchLocal h
  obtain ⟨hmatches, hall⟩ := mem_scanFiles hscan
  refine ⟨fun i hi hmatch => ?_, found, congrArg Prod.fst hscan, fun f hf d hd hit => ?_⟩
  · have hfound : i ∈ found := List.mem_of_mem_filter ((issues_capped_sublist ..).subset hi)
    obtain ⟨f, hf, keys, hmem⟩ := hmatches i hfound hmatch
    obtain ⟨d, hd, hit, hreport⟩ := exists_hit_of_mem_scanText (notMem_fileText f.contents) hmem
    refine ⟨f, hf, d, hd, hit, hreport, ?_⟩
    rw [hreport.lineStart, Nat.add_eq_left, List.countP_eq_zero]
    exact forall₂_congr fun c _ => by rw [Bool.not_eq_true]
  · obtain ⟨keys, hsub⟩ := hall f hf
    obtain ⟨i, hi, hreport⟩ :=
      exists_mem_scanText_of_hit (notMem_fileText f.contents) hd hit f.path keys
    exact ⟨i, hsub hi, hreport, mem_issues_capped (hsub hi)⟩

/-- A project with one file, whose first line holds nothing but a form feed. -/
def formFeedTree : Tree :=
  ⟨.dir [(Text.ofString "A.java",
    .file ((0x0C :: 0x0A :: Text.ofString "System.exit(1);").map (·.toUInt8)))]⟩

/-- The call on the second line is reported on the third. -/
theorem fetchLocal_lineStart_formFeed :
    ∃ r i, ((fetchLocal thorough {} Detector.standard (none : Option (DeepScanner Unit)) {}).run
        { tree := formFeedTree, extra := () }).1 = .ok r ∧ i ∈ r.issues ∧ i.isPatternMatch = true ∧
      i.lineStart = 3 ∧ ∃ f ∈ projectFiles thorough {} formFeedTree, ∃ d ∈ Detector.standard,
        ∃ hit : Hit d (fileText f.contents), hit.IsReportedBy f.path i ∧
          i.lineStart ≠ 1 + hit.before.count newline := by
  have hfiles : projectFiles thorough {} formFeedTree = [⟨Text.ofString "A.java",
      (0x0C :: 0x0A :: Text.ofString "System.exit(1);").map (·.toUInt8)⟩] := by cbv
  have hrun : ∃ r i, ((fetchLocal thorough {} Detector.standard
      (none : Option (DeepScanner Unit)) {}).run { tree := formFeedTree, extra := () }).1 = .ok r ∧
      i ∈ r.issues ∧ i.isPatternMatch = true ∧ i.lineStart = 3 := by
    rw [fetchLocal, Act.run_bind_ok (Act.run_get _)]
    dsimp only
    rw [hfiles]
    exact ⟨_, _, rfl, List.mem_singleton_self _, rfl, rfl⟩
  obtain ⟨r, i, hr, hi, hmatch, hline⟩ := hrun
  obtain ⟨f, hf, d, hd, hit, hreport, -⟩ := (fetchLocal_lineStart hr).1 i hi hmatch
  refine ⟨r, i, hr, hi, hmatch, hline, f, hf, d, hd, hit, hreport, ?_⟩
  have hf' := hf
  rw [hfiles, List.mem_singleton] at hf'
  subst hf'
  have hcount : hit.before.count newline ≤ 1 := by
    refine (hit.before_prefix.sublist.count_le newline).trans ?_
    decide +kernel
  omega

end Mend.Scan
