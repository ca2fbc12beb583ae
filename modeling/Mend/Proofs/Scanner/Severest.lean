import Mend.Proofs.Scanner.Window
import Mend.Proofs.Stable

/-!
# The most severe findings

If there are more findings than are wanted, each severity is searched on its own, the highest first.
The findings of one severity after the other are the findings in a stable order by descending
severity, so what is fetched are the most severe ones.

## Main definitions

* `bySeverity` — findings in descending order of severity.

## Main statements

* `bySeverity_eq` — a stable order by severity puts one severity after the other.
* `run_narrowed` — what is found by searching one severity after the other.
* `fetchAll_keeps_most_severe` — what a scan of an honest scanner keeps.
-/

namespace Mend.Scanner

variable {σ : Type}

/-- Whether a finding is at least as severe as another one. -/
def isAsSevere (f g : Finding) : Bool := decide (g.severity.rank ≤ f.severity.rank)

theorem isAsSevere_iff {f g : Finding} :
    isAsSevere f g = true ↔ g.severity.rank ≤ f.severity.rank := decide_eq_true_iff

/-- Findings in descending order of severity; those of one severity stay in their order. -/
def bySeverity (fs : List Finding) : List Finding := fs.mergeSort isAsSevere

/-! ## One severity after the other -/

theorem perm_bySeverity (fs : List Finding) : (bySeverity fs).Perm fs := List.mergeSort_perm ..

theorem pairwise_bySeverity (fs : List Finding) :
    (bySeverity fs).Pairwise fun f g => isAsSevere f g = true := by
  simp only [isAsSevere_iff]
  exact pairwise_byRank (fun f : Finding => f.severity.rank) fs

/-- The first findings are as severe as those behind them. -/
theorem rank_le_of_mem_drop {fs : List Finding} {n : Nat} {f g : Finding}
    (hf : f ∈ (bySeverity fs).take n) (hg : g ∈ (bySeverity fs).drop n) :
    g.severity.rank ≤ f.severity.rank := by
  have hsorted := pairwise_bySeverity fs
  rw [← List.take_append_drop n (bySeverity fs), List.pairwise_append] at hsorted
  exact isAsSevere_iff.1 (hsorted.2.2 f hf g hg)

/-- The order is stable: those of one severity stay in their order. -/
theorem filter_bySeverity (fs : List Finding) (s : Severity) :
    (bySeverity fs).filter (·.severity == s) = fs.filter (·.severity == s) := by
  have hclass (f : Finding) : (f.severity == s) = (f.severity.rank == s.rank) := by
    rw [Bool.eq_iff_iff, beq_iff_eq, beq_iff_eq]
    exact ⟨fun h => h ▸ rfl, Severity.rank_injective⟩
  simp only [hclass]
  exact filter_byRank (fun f : Finding => f.severity.rank) fs s.rank

/-- In descending order, those of the highest severity come first. -/
theorem filter_append_filter_of_pairwise {fs : List Finding} {s : Severity}
    (h : fs.Pairwise fun f g => isAsSevere f g = true)
    (hhighest : ∀ f ∈ fs, f.severity.rank ≤ s.rank) :
    fs.filter (·.severity == s) ++ fs.filter (·.severity != s) = fs := by
  induction fs with
  | nil => rfl
  | cons f fs ih =>
      rw [List.pairwise_cons] at h
      have hrest := ih h.2 fun g hg => hhighest g (List.mem_cons_of_mem f hg)
      by_cases hf : f.severity = s
      · rw [List.filter_cons_of_pos (by simpa using hf), List.filter_cons_of_neg (by simpa using hf),
          List.cons_append, hrest]
      · -- Then nothing behind it is of the highest severity either.
        have hlower : f.severity.rank < s.rank :=
          Nat.lt_of_le_of_ne (hhighest f (List.mem_cons_self ..)) fun h => hf (Severity.rank_injective h)
        have hnone : fs.filter (·.severity == s) = [] := by
          rw [List.filter_eq_nil_iff]
          intro g hg hgs
          have hle := isAsSevere_iff.1 (h.1 g hg)
          rw [beq_iff_eq.1 hgs] at hle
          omega
        rw [hnone, List.nil_append] at hrest
        rw [List.filter_cons_of_neg (by simpa using hf), List.filter_cons_of_pos (by simpa using hf),
          hnone, List.nil_append, hrest]

/-- Findings in descending order are those of one severity after the other. -/
theorem flatMap_filter_of_pairwise {fs : List Finding} {ss : List Severity}
    (h : fs.Pairwise fun f g => isAsSevere f g = true)
    (hdescending : ss.Pairwise fun s t => t.rank < s.rank) (hall : ∀ f ∈ fs, f.severity ∈ ss) :
    (ss.flatMap fun s => fs.filter (·.severity == s)) = fs := by
  induction ss generalizing fs with
  | nil => exact (List.eq_nil_iff_forall_not_mem.2 fun f hf => List.not_mem_nil (hall f hf)).symm
  | cons s ss ih =>
      rw [List.pairwise_cons] at hdescending
      have hhighest : ∀ f ∈ fs, f.severity.rank ≤ s.rank := by
        intro f hf
        rcases List.mem_cons.1 (hall f hf) with hs | hs
        · rw [hs]
        · exact Nat.le_of_lt (hdescending.1 _ hs)
      have hrest : (ss.flatMap fun t => fs.filter (·.severity == t)) =
          fs.filter (·.severity != s) := by
        have hlower : ∀ f ∈ fs.filter (·.severity != s), f.severity ∈ ss := by
          intro f hf
          obtain ⟨hf, hne⟩ := List.mem_filter.1 hf
          exact (List.mem_cons.1 (hall f hf)).resolve_left (by simpa using hne)
        rw [← ih (h.filter _) hdescending.2 hlower, List.flatMap_congr]
        intro t ht
        rw [List.filter_filter]
        refine List.filter_congr fun f _ => ?_
        have hts : t ≠ s := fun heq => absurd (hdescending.1 t ht) (by rw [heq]; omega)
        by_cases hft : f.severity = t
        · simp [hft, hts]
        · simp [hft]
      rw [List.flatMap_cons, hrest]
      exact filter_append_filter_of_pairwise h hhighest

/-- A stable order by severity puts one severity after the other. -/
theorem bySeverity_eq (fs : List Finding) :
    (Severity.descending.flatMap fun s => fs.filter (·.severity == s)) = bySeverity fs := by
  have hdescending : Severity.descending.Pairwise fun s t => t.rank < s.rank := by decide
  have hclasses := flatMap_filter_of_pairwise (pairwise_bySeverity fs) hdescending
    fun f _ => by cases f.severity <;> decide
  simpa only [filter_bySeverity] using hclasses

/-! ## Fetching -/

variable {search : Search σ} {q : Query} {size limit pageLimit : Nat} {fs : List Finding}

/-- No finding is of a severity that is passed over. -/
theorem filter_eq_nil_of_passed {facets : Option Facets} {s : Severity}
    (hwanted : ∀ f ∈ fs, f.severity ∈ q.severities)
    (hfacets : isKnownEmpty facets s = true → ∀ f ∈ fs, f.severity ≠ s)
    (hpassed : (!q.severities.elem s || isKnownEmpty facets s) = true) :
    fs.filter (·.severity == s) = [] := by
  rw [List.filter_eq_nil_iff]
  intro f hf hs
  rw [beq_iff_eq] at hs
  rcases Bool.or_eq_true_iff.1 hpassed with hunwanted | hempty
  · have hmem := hwanted f hf
    rw [hs] at hmem
    simp [hmem] at hunwanted
  · exact hfacets hempty f hf hs

/-- Searching some severities one after the other fills up what was found with the first findings of
these severities. -/
theorem run_narrowed {facets : Option Facets}
    (hserves : ∀ s ∈ q.severities,
      Serves search { q with severities := [s] } size (fs.filter (·.severity == s)))
    (hwanted : ∀ f ∈ fs, f.severity ∈ q.severities)
    (hfacets : ∀ s, isKnownEmpty facets s = true → ∀ f ∈ fs, f.severity ≠ s)
    (hsize : q.pageSize = size) (hreach : pageLimit * size ≤ resultWindow)
    (hlimit : limit ≤ pageLimit * size) (ss : List Severity) (found : List Issue) (w : World σ) :
    ∃ w', (narrowed search q pageLimit limit facets ss found).run w =
      (.ok (found ++ ((ss.flatMap fun s => fs.filter (·.severity == s)).take
        (limit - found.length)).map (·.issue)), w') := by
  induction ss generalizing found w with
  | nil => exact ⟨w, by rw [List.flatMap_nil, List.take_nil, List.map_nil, List.append_nil]; rfl⟩
  | cons s ss ih =>
      rw [List.flatMap_cons]
      by_cases hfull : limit ≤ found.length
      · refine ⟨w, ?_⟩
        rw [Nat.sub_eq_zero_of_le hfull, List.take_zero, List.map_nil, List.append_nil, narrowed,
          if_pos hfull]
        rfl
      · rw [narrowed, if_neg hfull]
        by_cases hpassed : (!q.severities.elem s || isKnownEmpty facets s) = true
        · rw [if_pos hpassed, filter_eq_nil_of_passed hwanted (hfacets s) hpassed, List.nil_append]
          exact ih found w
        · have hs : s ∈ q.severities := by
            simp only [Bool.or_eq_true, not_or] at hpassed
            simpa using hpassed.1
          obtain ⟨w₁, hcollect⟩ := run_collect (hserves s hs) hsize (limit - found.length) hreach none
            (by simp) w
          rw [Nat.min_eq_left (by omega)] at hcollect
          rw [if_neg hpassed, Act.run_bind_ok hcollect]
          obtain ⟨w₂, hrest⟩ := ih
            (found ++ ((fs.filter (·.severity == s)).take (limit - found.length)).map (·.issue)) _
          refine ⟨w₂, ?_⟩
          rw [Act.run_bind_ok (World.run_say ..), hrest, List.append_assoc, ← List.map_append,
            List.take_append, List.length_append, List.length_map, List.length_take]
          congr 6
          omega

/-- The most severe findings, if they are too many. -/
theorem run_issuesAfter_of_lt {first : Page}
    (hserves : ∀ s ∈ q.severities,
      Serves search { q with severities := [s] } size (fs.filter (·.severity == s)))
    (hwanted : ∀ f ∈ fs, f.severity ∈ q.severities) (hsize : q.pageSize = size)
    (hreach : pageLimit * size ≤ resultWindow) (hlimit : limit ≤ pageLimit * size)
    (hfirst : Page.Shows first fs size 1) (hmany : limit < fs.length) (w : World σ) :
    ∃ w', (issuesAfter search q pageLimit limit first).run w =
      (.ok (((bySeverity fs).take limit).map (·.issue)), w') := by
  have hfew : ¬(first.total ≤ limit && first.total ≤ resultWindow) = true := by
    rw [hfirst.total]
    simp only [Bool.and_eq_true, decide_eq_true_eq]
    omega
  rw [issuesAfter, if_neg hfew, Act.run_bind_ok (World.run_say ..)]
  obtain ⟨w', hrun⟩ := run_narrowed hserves hwanted hfirst.facets hsize hreach hlimit
    Severity.descending [] _
  exact ⟨w', by rw [hrun, bySeverity_eq]; rfl⟩

/-- From an honest scanner come all findings that count if they are few enough, and otherwise the
most severe ones, in a stable order by severity; findings are said to be left out just if some are. -/
theorem fetchAll_keeps_most_severe {server : Server σ} {s : ScannerSettings} {c : Client}
    {catalogue : List Finding} (hclient : Client.make server s = .ok c)
    (hhonest : Honest server s catalogue) {selectors : Selectors}
    (hreach : selectors.maxIssues ≤ maxPages s.pageSize * s.pageSize) {w w₁ : World σ} {name : Value}
    (hpreflight : (c.preflight server).run w = (.ok name, w₁)) :
    ∃ kept left r w₂, (fetchAll server s selectors).run w = (.ok r, w₂) ∧
      r.issues = kept.map Finding.issue ∧
      kept = (if (wanted selectors catalogue).length ≤ selectors.maxIssues then
        wanted selectors catalogue
        else (bySeverity (wanted selectors catalogue)).take selectors.maxIssues) ∧
      (r.issues.map (·.key)).Nodup ∧ (kept ++ left).Perm (wanted selectors catalogue) ∧
      (∀ f ∈ kept, ∀ g ∈ left, g.severity.rank ≤ f.severity.rank) ∧
      (r.truncated = true ↔ selectors.maxIssues < (wanted selectors catalogue).length) := by
  have hwindow := maxPages_mul_le s
  have hcap : Numeral.fits selectors.maxIssues = true :=
    Numeral.fits_of_lt_million (Nat.lt_of_le_of_lt (Nat.le_trans hreach hwindow) (by decide))
  obtain ⟨hserves, hsingle⟩ := hhonest.serves hclient selectors
  by_cases hfew : (wanted selectors catalogue).length ≤ selectors.maxIssues
  · obtain ⟨r, w₂, hrun, hissues, htruncated⟩ := run_fetch (wanted selectors catalogue) hserves hcap
      (fun first w hfirst => by
        have hall := run_issuesAfter_of_le hserves rfl hwindow hfirst hfew
          (Nat.le_trans hfew (Nat.le_trans hreach hwindow)) w
        rwa [List.take_of_length_le (Nat.le_trans hfew hreach)] at hall) w₁
    refine ⟨wanted selectors catalogue, [], r, w₂, (run_fetchAll hclient hpreflight selectors).trans
      hrun, hissues, (if_pos hfew).symm, ?_, ?_, by simp, ?_⟩
    · rw [hissues]
      exact nodup_keys_issues hhonest.distinct List.filter_sublist.subperm
    · rw [List.append_nil]
    · rw [htruncated]
      omega
  · obtain ⟨r, w₂, hrun, hissues, htruncated⟩ :=
      run_fetch ((bySeverity (wanted selectors catalogue)).take selectors.maxIssues) hserves hcap
        (fun first w hfirst => run_issuesAfter_of_lt hsingle severity_mem_of_mem_wanted rfl
          hwindow hreach hfirst (Nat.lt_of_not_le hfew) w) w₁
    have hperm := perm_bySeverity (wanted selectors catalogue)
    refine ⟨_, (bySeverity (wanted selectors catalogue)).drop selectors.maxIssues, r, w₂,
      (run_fetchAll hclient hpreflight selectors).trans hrun, hissues, (if_neg hfew).symm, ?_, ?_,
      fun f hf g hg => rank_le_of_mem_drop hf hg, ?_⟩
    · rw [hissues]
      exact nodup_keys_issues hhonest.distinct
        ((List.take_sublist ..).subperm.trans (hperm.subperm.trans List.filter_sublist.subperm))
    · rw [List.take_append_drop]
      exact hperm
    · rw [htruncated, List.length_take, hperm.length_eq]
      omega

/-- The three most severe findings of a shop that has seven are fetched in pages of two. -/
theorem fetchAll_keeps_most_severe_shop :
    let s := shopSettings 2 (by decide)
    let k := shop 7 (by decide)
    let selectors : Selectors := { maxIssues := 3 }
    Client.make k.server s = .ok ⟨s⟩ ∧ Honest k.server s k.findings ∧
      selectors.maxIssues ≤ maxPages s.pageSize * s.pageSize ∧
      ∃ name w₁ r w₂, (Client.preflight ⟨s⟩ k.server).run { extra := () } = (.ok name, w₁) ∧
        (fetchAll k.server s selectors).run { extra := () } = (.ok r, w₂) ∧
        r.issues = [shopFinding 0, shopFinding 5, shopFinding 1].map (·.issue) ∧
        r.truncated = true := by
  intro s k selectors
  have hclient : Client.make k.server s = .ok ⟨s⟩ := rfl
  have hhonest : Honest k.server s k.findings := k.honest s
  have hreach : selectors.maxIssues ≤ maxPages s.pageSize * s.pageSize := by decide
  obtain ⟨name, w₁, hpreflight⟩ := k.exists_preflight ⟨s⟩ { extra := () }
  obtain ⟨kept, -, r, w₂, hrun, hissues, hkept, -, -, -, htruncated⟩ :=
    fetchAll_keeps_most_severe hclient hhonest hreach hpreflight
  have hmost : (bySeverity (wanted selectors k.findings)).take 3 =
      [shopFinding 0, shopFinding 5, shopFinding 1] := by
    rw [← bySeverity_eq]
    rfl
  have hmany : selectors.maxIssues < (wanted selectors k.findings).length := by decide
  rw [if_neg (Nat.not_le_of_lt hmany)] at hkept
  exact ⟨hclient, hhonest, hreach, name, w₁, r, w₂, hpreflight, hrun,
    by rw [hissues, hkept, hmost], htruncated.2 hmany⟩

end Mend.Scanner
