import Mend.Proofs.Scanner.Replies
import Mend.Proofs.Act

/-!
# Going through the pages

A search that shows some findings page by page is gone through until there are enough, until a page
is short or until all are seen, and at most as far as it reaches. What is collected are the first
findings, as many as are wanted and within reach.

## Main definitions

* `Serves` — searches that show some findings page by page.

## Main statements

* `run_collect` — what is collected from such a search.
* `maxPages_mul_le` — how far the pages of a search reach.
-/

namespace Mend.Scanner

variable {σ : Type}

/-- Whether each page of a search that lies within the result window shows the findings. -/
def Serves (search : Search σ) (q : Query) (size : Nat) (fs : List Finding) : Prop :=
  ∀ (page : Nat) (withFacets : Bool) (w : World σ), 1 ≤ page → page * size ≤ resultWindow →
    ∃ p w', (search q page withFacets).run w = (.ok p, w') ∧ Page.Shows p fs size page

/-- What all pages of a search hold together lies within the result window. -/
theorem maxPages_mul_le (s : ScannerSettings) : maxPages s.pageSize * s.pageSize ≤ resultWindow := by
  have hpos := s.one_le_pageSize
  have hle : s.pageSize ≤ resultWindow := Nat.le_trans s.pageSize_le (by decide)
  rw [maxPages, Nat.max_eq_right (Nat.div_pos hle hpos)]
  exact Nat.div_mul_le_self ..

variable {search : Search σ} {q : Query} {size : Nat} {fs : List Finding}

/-- A page adds its issues to those found. -/
theorem run_gather {p : Page} {number : Nat} (h : Page.Shows p fs size number) (limit : Nat)
    (found : List Issue) (w : World σ) :
    ∃ w', (gather limit found p).run w =
      (.ok (found ++ (pageSlice fs size number).map (·.issue),
        decide (limit ≤ (found ++ (pageSlice fs size number).map (·.issue)).length)), w') := by
  obtain ⟨vs, hissues, hdescribes⟩ := h.issues
  obtain ⟨w', hrun⟩ := run_issuesOf hdescribes h.paths w
  refine ⟨w', ?_⟩
  simp only [gather, hissues, Value.elements, Act.ofExcept_ok_bind]
  rw [Act.run_bind_ok hrun]
  rfl

/-- A page that shows findings is full, or it holds all that are left. -/
theorem Page.Shows.size_eq {p : Page} {done : Nat} (h : Page.Shows p fs size (done + 1)) :
    p.size = .ok (min size (fs.length - done * size) : Nat) := by
  obtain ⟨vs, hissues, hdescribes⟩ := h.issues
  have hcount : p.size = .ok vs.length := by rw [Page.size, hissues]; rfl
  rw [hcount, hdescribes.length_eq, pageSlice, Nat.add_sub_cancel, List.length_take,
    List.length_drop]

/-- The findings of some pages and of the next one. -/
theorem take_append_pageSlice (fs : List Finding) (size done : Nat) :
    fs.take (done * size) ++ pageSlice fs size (done + 1) = fs.take ((done + 1) * size) := by
  rw [pageSlice, Nat.add_sub_cancel, Nat.add_mul, Nat.one_mul, List.take_add]

/-- Going through the pages after the first `done` ones. -/
theorem run_eachPage (hserves : Serves search q size fs) (hsize : q.pageSize = size)
    (limit pageLimit : Nat) (hreach : pageLimit * size ≤ resultWindow) (left done : Nat)
    (hleft : done + left = pageLimit) (known : Option Page)
    (hknown : ∀ p, known = some p → Page.Shows p fs size (done + 1)) (w : World σ) :
    ∃ found w', (eachPage search q pageLimit (gather limit) left (done + 1) known
        ((fs.take (done * size)).map (·.issue))).run w = (.ok found, w') ∧
      found.take limit = (fs.take (min limit (pageLimit * size))).map (·.issue) := by
  induction left generalizing done known w with
  | zero =>
      -- The search reaches no further.
      obtain rfl : done = pageLimit := hleft
      exact ⟨_, _, rfl, by rw [← List.map_take, List.take_take]⟩
  | succ left ih =>
      have hdone : (done + 1) * size ≤ pageLimit * size := Nat.mul_le_mul_right size (by omega)
      obtain ⟨p, w₁, hp, hshows⟩ : ∃ p w₁,
          (pageUnlessKnown search q (done + 1) known).run w = (.ok p, w₁) ∧
            Page.Shows p fs size (done + 1) := by
        cases known with
        | none => exact hserves (done + 1) false w (by omega) (Nat.le_trans hdone hreach)
        | some p => exact ⟨p, w, rfl, hknown p rfl⟩
      obtain ⟨w₂, hgather⟩ := run_gather hshows limit ((fs.take (done * size)).map (·.issue)) w₁
      rw [← List.map_append, take_append_pageSlice] at hgather
      have hmul : (done + 1) * size = done * size + size := by rw [Nat.add_mul, Nat.one_mul]
      rw [eachPage, Act.run_bind_ok hp, Act.run_bind_ok hgather]
      dsimp only
      by_cases henough : limit ≤ ((fs.take ((done + 1) * size)).map (·.issue)).length
      · refine ⟨_, w₂, by rw [if_pos (decide_eq_true henough)]; rfl, ?_⟩
        rw [List.length_map, List.length_take] at henough
        rw [← List.map_take, List.take_take, Nat.min_eq_left (by omega), Nat.min_eq_left (by omega)]
      · rw [if_neg (by simpa using henough), hshows.size_eq, Act.ofExcept_ok_bind]
        by_cases hlast : ((min size (fs.length - done * size) : Nat) : Int) < q.pageSize ∨
            p.total ≤ ((done + 1 : Nat) : Int) * q.pageSize
        · refine ⟨_, w₂, by rw [if_pos (by simpa using hlast)]; rfl, ?_⟩
          have hall : fs.length ≤ (done + 1) * size := by
            rw [hsize, hshows.total] at hlast
            rcases hlast with hshort | htotal
            · omega
            · exact_mod_cast htotal
          rw [List.take_of_length_le hall, ← List.map_take]
          congr 1
          rw [List.take_eq_take_iff]
          omega
        · rw [if_neg (by simpa using hlast)]
          exact ih (done + 1) (by omega) none (by simp) w₂

/-- What is collected of a search: the first findings, as many as are wanted and within reach. -/
theorem run_collect (hserves : Serves search q size fs) (hsize : q.pageSize = size)
    (limit : Nat) {pageLimit : Nat} (hreach : pageLimit * size ≤ resultWindow) (known : Option Page)
    (hknown : ∀ p, known = some p → Page.Shows p fs size 1) (w : World σ) :
    ∃ w', (collect search q pageLimit limit known).run w =
      (.ok ((fs.take (min limit (pageLimit * size))).map (·.issue)), w') := by
  obtain ⟨found, w', hrun, hfound⟩ := run_eachPage hserves hsize limit pageLimit hreach pageLimit 0
    (Nat.zero_add pageLimit) known hknown w
  rw [Nat.zero_mul, List.take_zero, List.map_nil] at hrun
  exact ⟨w', by rw [collect, pages, Act.run_bind_ok hrun, hfound]; rfl⟩

end Mend.Scanner
