import Mend.Proofs.Scanner.Legible
import Mend.Proofs.Scanner.Preflight
import Mathlib.Data.List.Perm.Subperm

/-!
# The searches of a scan

A scan asks for the first page of everything that counts, and then either for the pages behind it or,
for one severity after the other, for the pages of that severity alone. It asks for pages in order
and for no more of them than a search may have, whatever the scanner answers.

## Main definitions

* `Ask` — a page of a search that is asked for.
* `Ask.pages`, `Ask.bySeverity` — the pages of one search, and of one search for each severity.
* `Course` — what a scan asks for.

## Main statements

* `Course.page_le`, `Course.length_le` — how many pages a scan asks for.
* `makes_fetch` — the searches of a scan follow a course, and it keeps no more than is wanted.
-/

namespace Mend.Scanner

variable {σ : Type}

/-- A page of a search that is asked for, with or without the counts of all findings. -/
structure Ask where
  query : Query
  page : Nat
  withFacets : Bool := false

namespace Ask

/-- Some pages of a search from page `first` on, in order. -/
def pages (q : Query) (first count : Nat) : List Ask :=
  (List.range' first count).map fun page => { query := q, page }

/-- The first pages of the searches for a single severity, for some severities in order. -/
def bySeverity (q : Query) (runs : List (Severity × Nat)) : List Ask :=
  runs.flatMap fun (severity, count) => pages { q with severities := [severity] } 1 count

theorem pages_succ (q : Query) (first count : Nat) :
    pages q first (count + 1) = { query := q, page := first } :: pages q (first + 1) count := by
  rw [pages, List.range'_succ]
  rfl

theorem length_pages (q : Query) (first count : Nat) : (pages q first count).length = count := by
  simp [pages]

theorem of_mem_pages {q : Query} {first count : Nat} {a : Ask} (h : a ∈ pages q first count) :
    first ≤ a.page ∧ a.page < first + count ∧ a.withFacets = false := by
  obtain ⟨page, hpage, rfl⟩ := List.mem_map.1 h
  obtain ⟨hfirst, hlast⟩ := List.mem_range'_1.1 hpage
  exact ⟨hfirst, hlast, rfl⟩

theorem exists_of_mem_bySeverity {q : Query} {runs : List (Severity × Nat)} {a : Ask}
    (h : a ∈ bySeverity q runs) :
    ∃ run ∈ runs, 1 ≤ a.page ∧ a.page ≤ run.2 ∧ a.withFacets = false := by
  obtain ⟨run, hrun, ha⟩ := List.mem_flatMap.1 h
  obtain ⟨hfirst, hlast, hfacets⟩ := of_mem_pages ha
  exact ⟨run, hrun, hfirst, by omega, hfacets⟩

theorem length_bySeverity_le {q : Query} {runs : List (Severity × Nat)} {most : Nat}
    (h : ∀ run ∈ runs, run.2 ≤ most) : (bySeverity q runs).length ≤ runs.length * most := by
  induction runs with
  | nil => exact Nat.zero_le _
  | cons run rest ih =>
      obtain ⟨hrun, hrest⟩ := List.forall_mem_cons.1 h
      have hlength := ih hrest
      rw [bySeverity, List.flatMap_cons, List.length_append, length_pages, List.length_cons,
        Nat.succ_mul]
      exact Nat.add_comm .. ▸ Nat.add_le_add hlength hrun

end Ask

/-- An exchange in which a page is asked for. -/
def Exchange.IsFor (s : ScannerSettings) (x : Exchange) (a : Ask) : Prop :=
  x.AsksFor s "/api/issues/search" (some (a.query.fields a.page a.withFacets))

theorem isSearchOf_of_isFor {s : ScannerSettings} {made : List Exchange} {asks : List Ask}
    (h : List.Forall₂ (Exchange.IsFor s) made asks) : ∀ x ∈ made, x.IsSearchOf s := by
  induction h with
  | nil => simp
  | cons hx _ ih => exact List.forall_mem_cons.2 ⟨⟨_, _, _, hx⟩, ih⟩

/-! ## Courses -/

/-- What a scan asks for: nothing if it does not come to search; or the first page of everything that
counts, with the counts, and behind it either the next pages of the same search, or the first pages of
searches for a single severity each, the higher severities first. -/
inductive Course (s : ScannerSettings) (selectors : Selectors) : List Ask → Prop
  | silent : Course s selectors []
  | whole {count : Nat} (within : 1 + count ≤ maxPages s.pageSize) :
      Course s selectors (⟨queryFor s selectors, 1, true⟩ :: Ask.pages (queryFor s selectors) 2 count)
  | bySeverity {runs : List (Severity × Nat)}
      (descending : (runs.map (·.1)).Pairwise (· > ·))
      (selected : ∀ run ∈ runs, run.1 ∈ selectors.severities)
      (within : ∀ run ∈ runs, run.2 ≤ maxPages s.pageSize) :
      Course s selectors
        (⟨queryFor s selectors, 1, true⟩ :: Ask.bySeverity (queryFor s selectors) runs)

namespace Course

variable {s : ScannerSettings} {selectors : Selectors} {asks : List Ask}

/-- Only the pages that a search may have are asked for. -/
theorem page_le (h : Course s selectors asks) :
    ∀ a ∈ asks, 1 ≤ a.page ∧ a.page ≤ maxPages s.pageSize := by
  have hone : 1 ≤ maxPages s.pageSize := Nat.le_max_left ..
  intro a ha
  cases h with
  | silent => cases ha
  | whole within =>
      rcases List.mem_cons.1 ha with rfl | ha
      · exact ⟨Nat.le_refl 1, hone⟩
      · obtain ⟨hfirst, hlast, -⟩ := Ask.of_mem_pages ha
        omega
  | bySeverity _ _ within =>
      rcases List.mem_cons.1 ha with rfl | ha
      · exact ⟨Nat.le_refl 1, hone⟩
      · obtain ⟨run, hrun, hfirst, hlast, -⟩ := Ask.exists_of_mem_bySeverity ha
        exact ⟨hfirst, Nat.le_trans hlast (within run hrun)⟩

/-- No more is asked for than the first page and all pages of each severity. -/
theorem length_le (h : Course s selectors asks) : asks.length ≤ 1 + 5 * maxPages s.pageSize := by
  cases h with
  | silent => exact Nat.zero_le _
  | whole within =>
      rw [List.length_cons, Ask.length_pages]
      omega
  | @bySeverity runs descending _ within =>
      have hdistinct : (runs.map (·.1)).Nodup := by
        refine List.Pairwise.imp ?_ descending
        rintro t _ hlt rfl
        exact Nat.lt_irrefl t.rank hlt
      have hfive : runs.length ≤ 5 := by
        have hall : runs.map (·.1) ⊆ Severity.descending := fun t _ => by cases t <;> decide
        rw [← List.length_map (·.1)]
        exact (hdistinct.subperm hall).length_le
      have hlength := Ask.length_bySeverity_le (q := queryFor s selectors) within
      have hall := Nat.mul_le_mul_right (maxPages s.pageSize) hfive
      rw [List.length_cons]
      omega

/-- The counts are asked for with the first page, and never again. -/
theorem withFacets_iff (h : Course s selectors asks) :
    ∀ (i : Nat) (a : Ask), asks[i]? = some a → (a.withFacets = true ↔ i = 0) := by
  have hbehind {first : Ask} (hfirst : first.withFacets = true) {behind : List Ask}
      (hnone : ∀ a ∈ behind, a.withFacets = false) :
      ∀ (i : Nat) (a : Ask), (first :: behind)[i]? = some a → (a.withFacets = true ↔ i = 0) := by
    intro i a ha
    cases i with
    | zero =>
        cases ha
        exact iff_of_true hfirst rfl
    | succ i =>
        have hfacets := hnone a (List.mem_of_getElem? ha)
        simp [hfacets]
  cases h with
  | silent => exact fun i a ha => by cases ha
  | whole => exact hbehind rfl fun a ha => (Ask.of_mem_pages ha).2.2
  | bySeverity =>
      refine hbehind rfl fun a ha => ?_
      obtain ⟨_, -, -, -, hfacets⟩ := Ask.exists_of_mem_bySeverity ha
      exact hfacets

end Course

/-! ## Pages of a search -/

section Pages

variable {s : ScannerSettings} {search : Search (Ledger σ)} {q : Query} {pageLimit limit : Nat}

/-- A search that asks for a page in one question, which is put once at most. -/
def AsksOnce (s : ScannerSettings) (search : Search (Ledger σ)) : Prop :=
  ∀ (q : Query) (page : Nat) (withFacets : Bool), Makes (search q page withFacets)
    (PutOnce s "/api/issues/search" (some (q.fields page withFacets)) fun _ _ => True)

theorem asksOnce_counted (c : Client) (server : Server σ) :
    AsksOnce c.settings (c.counted server.recorded) := by
  intro q page withFacets
  rw [Client.counted]
  refine .modify (u := fun w => { w with searches := w.searches + 1 }) (fun _ => rfl) ?_
  rw [Client.search]
  refine makes_question c server fun reply => ?_
  have hfail (f : ScanFault) : ∃ r, (Act.fail (.scan f) : Act (World (Ledger σ)) Page) =
      Act.ofExcept r ∧ ∀ x, r = .ok x → True :=
    ⟨.error (.scan f), rfl, fun _ _ => trivial⟩
  dsimp only
  split
  · exact hfail _
  · split
    · exact hfail _
    · split
      · exact hfail _
      · split
        · exact hfail _
        · exact ⟨_, rfl, fun _ _ => trivial⟩

/-- Nothing is exchanged while the findings of a page are gone through. -/
theorem makes_gather (found : List Issue) (p : Page) :
    Makes (gather limit found p : Act (World (Ledger σ)) _) fun made _ => made = [] :=
  .of_quiet (fun w => (settles_gather limit found p w).1) fun _ => rfl

/-- Exchanges in which some pages of a search are asked for, at most so many. -/
def AsksPages (s : ScannerSettings) (q : Query) (first most : Nat) (made : List Exchange) : Prop :=
  ∃ count ≤ most, List.Forall₂ (Exchange.IsFor s) made (Ask.pages q first count)

theorem AsksPages.nil (s : ScannerSettings) (q : Query) (first most : Nat) :
    AsksPages s q first most [] :=
  ⟨0, Nat.zero_le _, .nil⟩

/-- A page is asked for, and then those behind it. -/
theorem AsksPages.cons {first most : Nat} {x : Exchange} {made : List Exchange}
    (hx : x.AsksFor s "/api/issues/search" (some (q.fields first false)))
    (h : AsksPages s q (first + 1) most made) : AsksPages s q first (most + 1) (x :: made) := by
  obtain ⟨count, hcount, hmade⟩ := h
  exact ⟨count + 1, Nat.succ_le_succ hcount, by rw [Ask.pages_succ]; exact .cons hx hmade⟩

/-- If a page is there already, only those behind it are asked for. -/
theorem makes_eachPage_some {left number : Nat} (p : Page) (found : List Issue)
    (hnext : ∀ found', Makes (eachPage search q pageLimit (gather limit) left (number + 1) none found')
      fun made _ => AsksPages s q (number + 1) left made) :
    Makes (eachPage search q pageLimit (gather limit) (left + 1) number (some p) found)
      fun made _ => AsksPages s q (number + 1) left made := by
  rw [eachPage, pageUnlessKnown, Act.pure_bind]
  refine .bind (makes_gather found p) (fun made e h => h ▸ .nil ..) fun x made h => ?_
  subst h
  obtain ⟨found', hasEnough⟩ := x
  cases hasEnough with
  | true => exact .pure (.nil ..)
  | false =>
      refine .ofExcept_bind (fun e _ => .nil ..) fun size _ => ?_
      split
      · exact .pure (.nil ..)
      · exact hnext found'

/-- The pages of a search from some page on. -/
theorem makes_eachPage (hsearch : AsksOnce s search) (left number : Nat) (found : List Issue) :
    Makes (eachPage search q pageLimit (gather limit) left number none found)
      fun made _ => AsksPages s q number left made := by
  induction left generalizing number found with
  | zero => exact .say _ _ (.pure (.nil ..))
  | succ left ih =>
      refine .bind (hsearch q number false) (fun made e h => ?_) fun p made h => ?_
      · rcases h with ⟨hasks, _⟩
        exact .cons hasks (.nil ..)
      · rcases h with _ | ⟨hasks, -, -⟩
        exact (makes_eachPage_some p found (ih (number + 1))).imp fun more r h => h.cons hasks

/-- No more is kept than is wanted. -/
theorem makes_take {a : Act (World (Ledger σ)) (List Issue)} {P : List Exchange → Prop}
    (h : Makes a fun made _ => P made) (limit : Nat) :
    Makes (a >>= fun found => pure (found.take limit)) fun made r =>
      P made ∧ ∀ issues, r = .ok issues → issues.length ≤ limit := by
  refine .bind h (fun made e h => ⟨h, fun _ h => by cases h⟩) fun found made h => ?_
  refine .pure ⟨by rwa [List.append_nil], fun issues hissues => ?_⟩
  cases hissues
  exact List.length_take_le ..

theorem makes_collect (hsearch : AsksOnce s search) :
    Makes (collect search q pageLimit limit none) fun made r =>
      AsksPages s q 1 pageLimit made ∧ ∀ issues, r = .ok issues → issues.length ≤ limit :=
  makes_take (makes_eachPage hsearch pageLimit 1 []) limit

/-! ## Searches by severity -/

/-- Exchanges in which the first pages of searches for a single severity are asked for, at most so many
for each of some severities, in order. -/
def AsksBySeverity (s : ScannerSettings) (q : Query) (severities : List Severity) (most : Nat)
    (made : List Exchange) : Prop :=
  ∃ runs : List (Severity × Nat), (runs.map (·.1)).Sublist severities ∧
    (∀ run ∈ runs, run.1 ∈ q.severities ∧ run.2 ≤ most) ∧
    List.Forall₂ (Exchange.IsFor s) made (Ask.bySeverity q runs)

namespace AsksBySeverity

variable {t : Severity} {rest : List Severity} {most : Nat} {made more : List Exchange}

theorem nil (s : ScannerSettings) (q : Query) (severities : List Severity) (most : Nat) :
    AsksBySeverity s q severities most [] :=
  ⟨[], List.nil_sublist _, by simp, .nil⟩

theorem skip (t : Severity) (h : AsksBySeverity s q rest most made) :
    AsksBySeverity s q (t :: rest) most made := by
  obtain ⟨runs, hsublist, hruns, hmade⟩ := h
  exact ⟨runs, hsublist.cons t, hruns, hmade⟩

/-- The pages of a severity are asked for, and then those of the severities behind it. -/
theorem cons (ht : t ∈ q.severities) (hpages : AsksPages s { q with severities := [t] } 1 most made)
    (h : AsksBySeverity s q rest most more) : AsksBySeverity s q (t :: rest) most (made ++ more) := by
  obtain ⟨count, hcount, hmade⟩ := hpages
  obtain ⟨runs, hsublist, hruns, hmore⟩ := h
  exact ⟨(t, count) :: runs, hsublist.cons_cons t, List.forall_mem_cons.2 ⟨⟨ht, hcount⟩, hruns⟩,
    List.rel_append hmade hmore⟩

end AsksBySeverity

theorem makes_narrowed (hsearch : AsksOnce s search) (facets : Option Facets)
    (severities : List Severity) (found : List Issue) (hfound : found.length ≤ limit) :
    Makes (narrowed search q pageLimit limit facets severities found) fun made r =>
      AsksBySeverity s q severities pageLimit made ∧
        ∀ issues, r = .ok issues → issues.length ≤ limit := by
  have hdone (severities : List Severity) {found : List Issue} (hfound : found.length ≤ limit) :
      Makes (pure found : Act (World (Ledger σ)) (List Issue)) fun made r =>
        AsksBySeverity s q severities pageLimit made ∧
          ∀ issues, r = .ok issues → issues.length ≤ limit :=
    .pure ⟨.nil .., fun issues h => by cases h; exact hfound⟩
  induction severities generalizing found with
  | nil => exact hdone [] hfound
  | cons t rest ih =>
      rw [narrowed]
      split
      · exact hdone (t :: rest) hfound
      · split
        · exact (ih found hfound).imp fun made r h => ⟨h.1.skip t, h.2⟩
        · rename_i hasked
          have ht : t ∈ q.severities := by
            simp only [Bool.or_eq_true, Bool.not_eq_true', not_or, Bool.not_eq_false,
              List.elem_eq_mem, decide_eq_true_eq] at hasked
            exact hasked.1
          refine .bind (makes_collect hsearch) (fun made e h => ?_) fun batch made h => ?_
          · rw [← List.append_nil made]
            exact ⟨.cons ht h.1 (.nil ..), fun _ h => by cases h⟩
          · -- The findings of a severity fill up what is still wanted.
            have hfilled : (found ++ batch).length ≤ limit := by
              have hbatch := h.2 batch rfl
              rw [List.length_append]
              omega
            exact .say _ _ ((ih (found ++ batch) hfilled).imp fun more r hrest =>
              ⟨.cons ht h.1 hrest.1, hrest.2⟩)

/-! ## The searches of a scan -/

/-- The searches behind the first one, and what is kept of what they find. -/
theorem makes_issuesAfter (hsearch : AsksOnce s search) (selectors : Selectors) (first : Page) :
    Makes (issuesAfter search (queryFor s selectors) (maxPages s.pageSize) selectors.maxIssues first)
      fun made r =>
        (∃ behind, Course s selectors (⟨queryFor s selectors, 1, true⟩ :: behind) ∧
          List.Forall₂ (Exchange.IsFor s) made behind) ∧
        ∀ issues, r = .ok issues → issues.length ≤ selectors.maxIssues := by
  rw [issuesAfter]
  split
  · obtain ⟨left, hleft⟩ : ∃ left, maxPages s.pageSize = left + 1 :=
      Nat.exists_eq_add_of_le' (Nat.le_max_left ..)
    rw [hleft]
    refine (makes_take (makes_eachPage_some first [] (makes_eachPage hsearch left 2)) _).imp
      fun made r h => ⟨?_, h.2⟩
    obtain ⟨⟨count, hcount, hmade⟩, -⟩ := h
    exact ⟨_, .whole (by omega), hmade⟩
  · refine .say _ _ ((makes_narrowed hsearch first.facets Severity.descending []
      (Nat.zero_le _)).imp fun made r h => ⟨?_, h.2⟩)
    obtain ⟨⟨runs, hsublist, hruns, hmade⟩, -⟩ := h
    have hdescending : Severity.descending.Pairwise (· > ·) := by decide
    exact ⟨_, .bySeverity (hdescending.sublist hsublist) (fun run hrun => (hruns run hrun).1)
      fun run hrun => (hruns run hrun).2, hmade⟩

/-- The exchanges of a scan after it has found everything there, and how it ends. -/
structure Searched (s : ScannerSettings) (selectors : Selectors) (made : List Exchange)
    (r : Except Fault ScanResult) : Prop where
  course : ∃ asks, Course s selectors asks ∧ List.Forall₂ (Exchange.IsFor s) made asks
  ne_nil : made ≠ []
  length_le : ∀ result, r = .ok result → result.issues.length ≤ selectors.maxIssues

/-- The searches of a scan follow a course, and no more is kept than is wanted. -/
theorem makes_fetch (hsearch : AsksOnce s search) (selectors : Selectors) :
    Makes (fetch search s selectors) (Searched s selectors) := by
  have hone : 1 + 0 ≤ maxPages s.pageSize := Nat.le_max_left ..
  refine .bind (hsearch (queryFor s selectors) 1 true) (fun made e h => ?_) fun first made h => ?_
  · rcases h with ⟨hasks, _⟩
    exact ⟨⟨_, .whole hone, .cons hasks .nil⟩, List.cons_ne_nil _ _, fun _ h => by cases h⟩
  · rcases h with _ | @⟨x, _, _, hasks, -, -⟩
    refine .ofExcept_bind (fun e _ => ⟨⟨_, .whole hone, .cons hasks .nil⟩, List.cons_ne_nil _ _,
      fun _ h => by cases h⟩) fun cap _ => ?_
    refine .say _ _ (.bind (makes_issuesAfter hsearch selectors first) (fun more e h => ?_)
      fun issues more h => ?_)
    · obtain ⟨⟨behind, hcourse, hmore⟩, -⟩ := h
      exact ⟨⟨_, hcourse, .cons hasks hmore⟩, List.cons_ne_nil _ _, fun _ h => by cases h⟩
    · obtain ⟨⟨behind, hcourse, hmore⟩, hlength⟩ := h
      have hdone (result : ScanResult) (hresult : result.issues = issues) :
          Makes (pure result : Act (World (Ledger σ)) ScanResult) fun last r =>
            Searched s selectors ([x] ++ (more ++ last)) r := by
        refine .pure ⟨⟨_, hcourse, ?_⟩, List.cons_ne_nil _ _, fun _ h => ?_⟩
        · rw [List.append_nil]
          exact .cons hasks hmore
        · cases h
          rw [hresult]
          exact hlength issues rfl
      dsimp only
      split
      · exact .say _ _ (hdone _ rfl)
      · exact hdone _ rfl

end Pages

end Mend.Scanner
