import Mend.Proofs.Scanner.Catalogue
import Mend.Proofs.Scanner.Paging
import Mathlib.Data.List.Perm.Subperm

/-!
# The result window

A scan asks for the first page of everything that counts, and goes on with the following pages if
this is not too much. All pages are full ones that lie within the result window, so unless the page
size divides the window, they leave a part of it out.

## Main definitions

* `wanted` — the findings that count.

## Main statements

* `run_fetch` — what is fetched, given what comes after the first page.
* `Honest.serves` — the searches of a scan from an honest scanner.
* `maxPages_mul_of_dvd` — how far the pages of a search reach if their size divides the window.
* `fetchAll_within_window` — what a scan keeps if it does not go by severity.
-/

namespace Mend.Scanner

variable {σ : Type} {search : Search σ} {q : Query} {size limit pageLimit : Nat} {fs : List Finding}

/-! ## Fetching -/

/-- All findings, if they are few enough. -/
theorem run_issuesAfter_of_le {first : Page} (hserves : Serves search q size fs)
    (hsize : q.pageSize = size) (hreach : pageLimit * size ≤ resultWindow)
    (hfirst : Page.Shows first fs size 1) (hlimit : fs.length ≤ limit)
    (hwindow : fs.length ≤ resultWindow) (w : World σ) :
    ∃ w', (issuesAfter search q pageLimit limit first).run w =
      (.ok ((fs.take (pageLimit * size)).map (·.issue)), w') := by
  have hfew : (first.total ≤ limit && first.total ≤ resultWindow) = true := by
    rw [hfirst.total]
    simp [hlimit, hwindow]
  obtain ⟨w', hrun⟩ := run_collect hserves hsize limit hreach (some first)
    (by rintro p ⟨⟩; exact hfirst) w
  refine ⟨w', ?_⟩
  rw [issuesAfter, if_pos hfew, hrun]
  congr 3
  rw [List.take_eq_take_iff]
  omega

/-- The first page of an honest search, with the counts of all findings. -/
theorem Serves.exists_first {s : ScannerSettings} {selectors : Selectors}
    (h : Serves search (queryFor s selectors) s.pageSize fs) (w : World σ) :
    ∃ first w', (search (queryFor s selectors) 1 true).run w = (.ok first, w') ∧
      Page.Shows first fs s.pageSize 1 := by
  have hwindow : 1 * s.pageSize ≤ resultWindow := by
    have hle := s.pageSize_le
    unfold maxPageSize at hle
    unfold resultWindow
    omega
  exact h 1 true w (Nat.le_refl 1) hwindow

/-- A cap that cannot be announced ends the scan. -/
theorem run_fetch_of_not_fits {s : ScannerSettings} {selectors : Selectors}
    (hserves : Serves search (queryFor s selectors) s.pageSize fs)
    (hcap : ¬Numeral.fits selectors.maxIssues = true) (w : World σ) :
    ∃ w', (fetch search s selectors).run w = (.error .numberTooLong, w') := by
  obtain ⟨first, w₁, hfirst, -⟩ := hserves.exists_first w
  refine ⟨w₁, ?_⟩
  unfold fetch
  dsimp only
  rw [Act.run_bind_ok hfirst, Value.textOfInt, if_neg hcap]
  rfl

/-- What is fetched after the first page, and whether findings are left out. -/
theorem run_fetch {s : ScannerSettings} {selectors : Selectors} (kept : List Finding)
    (hserves : Serves search (queryFor s selectors) s.pageSize fs)
    (hcap : Numeral.fits selectors.maxIssues = true)
    (hissues : ∀ first w, Page.Shows first fs s.pageSize 1 → ∃ w',
      (issuesAfter search (queryFor s selectors) (maxPages s.pageSize) selectors.maxIssues first).run
        w = (.ok (kept.map (·.issue)), w')) (w : World σ) :
    ∃ r w', (fetch search s selectors).run w = (.ok r, w') ∧ r.issues = kept.map (·.issue) ∧
      (r.truncated = true ↔ kept.length < fs.length) := by
  obtain ⟨first, w₁, hfirst, hshows⟩ := hserves.exists_first w
  obtain ⟨w₂, hrun⟩ := hissues first _ hshows
  have htotal : ((kept.map (·.issue)).length : Int) < first.total ↔ kept.length < fs.length := by
    rw [hshows.total, List.length_map]
    exact Int.ofNat_lt
  unfold fetch
  dsimp only
  rw [Act.run_bind_ok hfirst, Value.textOfInt, if_pos hcap, Act.ofExcept_ok_bind,
    Act.run_bind_ok (World.run_say ..), Act.run_bind_ok hrun]
  by_cases htruncated : ((kept.map (·.issue)).length : Int) < first.total
  · rw [if_pos (decide_eq_true htruncated)]
    exact ⟨_, _, rfl, rfl, by simpa using htotal⟩
  · rw [if_neg (by simpa using htruncated)]
    exact ⟨_, _, rfl, rfl, by simpa using htotal⟩

theorem run_fetchAll {server : Server σ} {s : ScannerSettings} {c : Client} {w w₁ : World σ}
    {name : Value} (hclient : Client.make server s = .ok c)
    (hpreflight : (c.preflight server).run w = (.ok name, w₁)) (selectors : Selectors) :
    (fetchAll server s selectors).run w = (fetch (c.counted server) s selectors).run w₁ := by
  rw [fetchAll, hclient, Act.ofExcept_ok_bind, Act.run_bind_ok hpreflight]

/-! ## Honest scanners -/

/-- The findings of a catalogue that count. -/
def wanted (selectors : Selectors) (catalogue : List Finding) : List Finding :=
  catalogue.filter fun f => selectors.accepts f.issue

theorem severity_mem_of_mem_wanted {selectors : Selectors} {catalogue : List Finding} (f : Finding)
    (h : f ∈ wanted selectors catalogue) : f.severity ∈ selectors.severities := by
  have haccepts := (List.mem_filter.1 h).2
  rw [Selectors.accepts, Bool.and_eq_true] at haccepts
  exact List.elem_iff.1 haccepts.2

/-- The searches of a scan from an honest scanner: the one for everything that counts, and those for
a single severity. -/
theorem Honest.serves {server : Server σ} {s : ScannerSettings} {c : Client}
    {catalogue : List Finding} (h : Honest server s catalogue)
    (hclient : Client.make server s = .ok c) (selectors : Selectors) :
    Serves (c.counted server) (queryFor s selectors) s.pageSize (wanted selectors catalogue) ∧
      ∀ t ∈ selectors.severities,
        Serves (c.counted server) { queryFor s selectors with severities := [t] } s.pageSize
          ((wanted selectors catalogue).filter (·.severity == t)) := by
  obtain rfl := Client.settings_of_make hclient
  constructor
  · intro page withFacets w hpage hreach
    exact h.run_search (q := queryFor c.settings selectors) rfl rfl rfl hpage hreach withFacets w
  · intro t ht page withFacets w hpage hreach
    have hmatching : ({ queryFor c.settings selectors with severities := [t] } : Query).matching
        catalogue = (wanted selectors catalogue).filter (·.severity == t) := by
      rw [wanted, List.filter_filter]
      refine List.filter_congr fun f _ => ?_
      by_cases hf : f.severity = t
      · subst hf
        simp [Query.wants, queryFor, Selectors.accepts, Finding.issue, ht]
      · simp [Query.wants, queryFor, hf]
    have hsearch := h.run_search (q := { queryFor c.settings selectors with severities := [t] })
      rfl rfl rfl hpage hreach withFacets w
    rw [hmatching] at hsearch
    exact hsearch

/-- Findings of a catalogue with distinct keys make issues with distinct keys. -/
theorem nodup_keys_issues {catalogue kept : List Finding} (h : (catalogue.map (·.key)).Nodup)
    (hkept : kept.Subperm catalogue) : ((kept.map Finding.issue).map (·.key)).Nodup := by
  have hkeys : (kept.map (·.key)).Nodup := by
    obtain ⟨fs, hperm, hsublist⟩ := hkept
    exact (hperm.map _).nodup_iff.1 (h.sublist (hsublist.map _))
  have htexts : (kept.map Finding.issue).map (·.key) = (kept.map (·.key)).map Value.text := by
    rw [List.map_map, List.map_map]
    rfl
  rw [htexts]
  exact hkeys.map fun _ _ => Value.text.inj

/-- If the page size divides the result window, the pages of a search cover it. -/
theorem maxPages_mul_of_dvd {s : ScannerSettings} (h : s.pageSize ∣ resultWindow) :
    maxPages s.pageSize * s.pageSize = resultWindow := by
  have hpos := s.one_le_pageSize
  have hle : s.pageSize ≤ resultWindow := Nat.le_trans s.pageSize_le (by decide)
  rw [maxPages, Nat.max_eq_right (Nat.div_pos hle hpos)]
  exact Nat.div_mul_cancel h

/-- All findings of a shop count. -/
theorem length_wanted_shop {n limit : Nat} (hn : n ≤ resultWindow) (hlimit : 1 ≤ limit) :
    (wanted { maxIssues := limit, one_le_maxIssues := hlimit } (shop n hn).findings).length = n := by
  have hall : wanted { maxIssues := limit, one_le_maxIssues := hlimit } (shop n hn).findings =
      (shop n hn).findings := by
    refine List.filter_eq_self.2 fun f hf => ?_
    obtain ⟨i, -, rfl⟩ := List.mem_map.1 hf
    show Severity.descending.elem (shopSeverity i) = true
    cases shopSeverity i <;> rfl
  rw [hall, shop, List.length_map, List.length_range]

/-- Findings that are few enough to be asked for without regard to their severity come from an honest
scanner in its order and without repetition, up to the last full page within the result window. What
lies behind it is left out, and is said to be. Only if the number of findings that are wanted is too
long to be announced does the scan break off. -/
theorem fetchAll_within_window {server : Server σ} {s : ScannerSettings} {c : Client}
    {catalogue : List Finding} (hclient : Client.make server s = .ok c)
    (hhonest : Honest server s catalogue) {selectors : Selectors}
    (hfew : (wanted selectors catalogue).length ≤ selectors.maxIssues)
    (hwindow : (wanted selectors catalogue).length ≤ resultWindow) {w w₁ : World σ} {name : Value}
    (hpreflight : (c.preflight server).run w = (.ok name, w₁)) :
    (Numeral.fits selectors.maxIssues = true →
      ∃ kept left r w₂, (fetchAll server s selectors).run w = (.ok r, w₂) ∧
        r.issues = kept.map Finding.issue ∧ wanted selectors catalogue = kept ++ left ∧
        left.length = (wanted selectors catalogue).length - maxPages s.pageSize * s.pageSize ∧
        (r.issues.map (·.key)).Nodup ∧ (r.truncated = true ↔ left ≠ []) ∧
        (s.pageSize ∣ resultWindow → left = [])) ∧
    (¬Numeral.fits selectors.maxIssues = true →
      ∃ w₂, (fetchAll server s selectors).run w = (.error .numberTooLong, w₂)) := by
  obtain ⟨hserves, -⟩ := hhonest.serves hclient selectors
  have hfetchAll := run_fetchAll hclient hpreflight selectors
  constructor
  · intro hcap
    obtain ⟨r, w₂, hrun, hissues, htruncated⟩ :=
      run_fetch ((wanted selectors catalogue).take (maxPages s.pageSize * s.pageSize)) hserves hcap
        (fun first w hfirst =>
          run_issuesAfter_of_le hserves rfl (maxPages_mul_le s) hfirst hfew hwindow w) w₁
    refine ⟨_, (wanted selectors catalogue).drop (maxPages s.pageSize * s.pageSize), r, w₂,
      hfetchAll.trans hrun, hissues, (List.take_append_drop ..).symm, List.length_drop .., ?_, ?_,
      fun hdvd => ?_⟩
    · rw [hissues]
      exact nodup_keys_issues hhonest.distinct
        ((List.take_sublist ..).trans List.filter_sublist).subperm
    · rw [htruncated, List.length_take, Ne, List.drop_eq_nil_iff]
      omega
    · rw [maxPages_mul_of_dvd hdvd]
      exact List.drop_eq_nil_of_le hwindow
  · intro hcap
    obtain ⟨w₂, hrun⟩ := run_fetch_of_not_fits hserves hcap w₁
    exact ⟨w₂, hfetchAll.trans hrun⟩

/-- Of a shop with 9541 findings, which could be shown in one search, pages of 477 bring 9540. -/
theorem fetchAll_within_window_shop :
    let s := shopSettings 477 (by decide)
    let k := shop 9541 (by decide)
    let selectors : Selectors := { maxIssues := 10000 }
    Client.make k.server s = .ok ⟨s⟩ ∧ Honest k.server s k.findings ∧
      (wanted selectors k.findings).length = 9541 ∧ 9541 ≤ selectors.maxIssues ∧
      9541 ≤ resultWindow ∧
      ∃ name w₁ r w₂, (Client.preflight ⟨s⟩ k.server).run { extra := () } = (.ok name, w₁) ∧
        (fetchAll k.server s selectors).run { extra := () } = (.ok r, w₂) ∧
        r.issues.length = 9540 ∧ r.truncated = true := by
  intro s k selectors
  have hclient : Client.make k.server s = .ok ⟨s⟩ := rfl
  have hhonest : Honest k.server s k.findings := k.honest s
  have hcount : (wanted selectors k.findings).length = 9541 := length_wanted_shop ..
  have hfew : 9541 ≤ selectors.maxIssues := by decide
  have hwindow : 9541 ≤ resultWindow := by decide
  obtain ⟨name, w₁, hpreflight⟩ := k.exists_preflight ⟨s⟩ { extra := () }
  obtain ⟨kept, left, r, w₂, hrun, hissues, happend, hleft, -, htruncated, -⟩ :=
    (fetchAll_within_window hclient hhonest (hcount.trans_le hfew) (hcount.trans_le hwindow)
      hpreflight).1 (Numeral.fits_of_lt_million (by decide))
  have hone : left.length = 1 := by
    rw [hleft, hcount]
    show 9541 - maxPages 477 * 477 = 1
    decide
  refine ⟨hclient, hhonest, hcount, hfew, hwindow, name, w₁, r, w₂, hpreflight, hrun, ?_, ?_⟩
  · have hlength := congrArg List.length happend
    rw [hcount, List.length_append, hone] at hlength
    rw [hissues, List.length_map]
    omega
  · refine htruncated.2 ?_
    rintro rfl
    cases hone

end Mend.Scanner
