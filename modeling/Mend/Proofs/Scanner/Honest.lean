import Mend.Proofs.Scanner.Replies
import Mend.Proofs.Text.Joined

/-!
# Honest scanners

A scanner is honest about a catalogue of findings if it answers each search with the page of matching
findings that is asked for. The client writes every search into fields in such a way that the scanner
reads the same search from them. So every page within reach of a search, asked from an honest scanner,
shows the matching findings.

## Main definitions

* `Asks` — what a scanner reads in the fields of a question.
* `Honest` — honest scanners.

## Main statements

* `asks_fields` — the fields of a search ask for it.
* `Honest.run_search` — a page from an honest scanner.
-/

namespace Mend.Scanner

variable {σ : Type}

/-- Whether a search is for findings of this kind. -/
def Query.wants (q : Query) (f : Finding) : Bool :=
  q.categories.elem f.category && q.severities.elem f.severity

/-- The findings of a catalogue that a search is for. -/
def Query.matching (q : Query) (catalogue : List Finding) : List Finding := catalogue.filter q.wants

/-- The value that the fields of a question have under a name, as text. -/
def given (fields : List (Text × Value)) (name : String) : Option Text :=
  (fields.lookup (Text.ofString name)).map (·.shown)

/-- What a scanner reads in the fields of a question: a page of a search, with or without counts. The
names of the categories and of the severities stand between commas. -/
structure Asks (fields : List (Text × Value)) (q : Query) (page : Nat) (withFacets : Bool) : Prop where
  project : given fields "componentKeys" = some q.projectKey
  unresolved : given fields "resolved" = some (Text.ofString "false")
  branch : given fields "branch" = q.branch.filter (!·.isEmpty)
  categories : ∃ t, given fields "types" = some t ∧
    ∀ c : Category, c.name ∈ t.splitOn 0x2C ↔ c ∈ q.categories
  severities : ∃ t, given fields "severities" = some t ∧
    ∀ s : Severity, s.name ∈ t.splitOn 0x2C ↔ s ∈ q.severities
  size : given fields "ps" = some (.ofInt q.pageSize)
  page : given fields "p" = some (.decimal page)
  facets : given fields "facets" =
    if withFacets then some (Text.ofString "types,severities") else none

/-- A scanner that is honest about the findings of a project, asked through a library that gives its
answers back: a search that is put with the access of some settings is answered with the page that it
asks for, and the library does not complain of the status. Nothing is said about pages beyond the
result window. -/
structure Honest (server : Server σ) (s : ScannerSettings) (catalogue : List Finding) : Prop where
  distinct : (catalogue.map (·.key)).Nodup
  answers : ∀ (fields : List (Text × Value)) (state : σ) (q : Query) (size page : Nat)
    (withFacets : Bool), Asks fields q page withFacets → q.projectKey = s.projectKey →
    q.branch.filter (!·.isEmpty) = s.branch.filter (!·.isEmpty) → q.pageSize = size →
    1 ≤ page → page * size ≤ resultWindow →
    ∃ reply, (server.answer (.ofSettings s) ⟨"/api/issues/search", some fields⟩ state).1 =
        .reply reply ∧ reply.status = 200 ∧ reply.complaint? = none ∧
      ∃ d, reply.value = .ok (some d) ∧ Reply.Shows d (q.matching catalogue) size page withFacets

/-! ## Writing a search into fields -/

theorem name_mem_splitOn_iff {α : Type} [BEq α] [LawfulBEq α] {name : α → Text}
    (hinjective : Function.Injective name) (hcomma : ∀ a, (0x2C : Code) ∉ name a)
    (hfilled : ∀ a, name a ≠ []) {all wanted : List α} (hall : ∀ a, a ∈ all) (a : α) :
    name a ∈ (Text.join "," ((all.filter wanted.elem).map name)).splitOn 0x2C ↔ a ∈ wanted := by
  by_cases hnone : (all.filter wanted.elem).map name = []
  · have hempty : all.filter wanted.elem = [] := List.map_eq_nil_iff.1 hnone
    rw [hnone]
    refine iff_of_false (fun h => hfilled a (List.mem_singleton.1 h)) fun ha => ?_
    have hmem : a ∈ all.filter wanted.elem := List.mem_filter.2 ⟨hall a, by simpa using ha⟩
    rw [hempty] at hmem
    cases hmem
  · have hjoin : (Text.join "," ((all.filter wanted.elem).map name)).splitOn 0x2C =
        (all.filter wanted.elem).map name :=
      Text.splitOn_join hnone fun t ht => by
        obtain ⟨b, -, rfl⟩ := List.mem_map.1 ht
        exact hcomma b
    rw [hjoin, List.mem_map_of_injective hinjective, List.mem_filter]
    simp [hall a]

/-- The branch is named unless it is empty. -/
theorem branchFields_eq (q : Query) :
    q.branchFields = ((q.branch.filter (!·.isEmpty)).map
      fun b => (Text.ofString "branch", Value.text b)).toList := by
  unfold Query.branchFields
  cases q.branch with
  | none => rfl
  | some b => cases b <;> rfl

/-- The fields of a search ask for it. -/
theorem asks_fields (q : Query) (page : Nat) (withFacets : Bool) :
    Asks (q.fields page withFacets) q page withFacets where
  project := rfl
  unresolved := rfl
  branch := by
    simp only [Query.fields, branchFields_eq]
    cases q.branch.filter (!·.isEmpty) <;> cases withFacets <;> rfl
  categories := ⟨_, rfl, name_mem_splitOn_iff Category.name_injective
    (by intro c; cases c <;> decide) (by intro c; cases c <;> decide) (by intro c; cases c <;> decide)⟩
  severities := ⟨_, rfl, name_mem_splitOn_iff Severity.name_injective
    (by intro s; cases s <;> decide) (by intro s; cases s <;> decide) (by intro s; cases s <;> decide)⟩
  size := rfl
  page := rfl
  facets := by
    simp only [Query.fields, branchFields_eq]
    cases q.branch.filter (!·.isEmpty) <;> cases withFacets <;> rfl

/-! ## Asking for a page -/

/-- A question to which a reply comes. -/
theorem run_get {c : Client} {server : Server σ} {resource : Text}
    {fields : Option (List (Text × Value))} {reply : Reply} (w : World σ)
    (hreply : (server.answer (.ofSettings c.settings) ⟨resource, fields⟩ w.extra).1 = .reply reply) :
    ∃ w', (c.get server resource fields).run w = (.ok reply, w') := by
  have hask : (server.ask (.ofSettings c.settings) ⟨resource, fields⟩).run w =
      (.ok (.reply reply), { w with
        extra := (server.answer (.ofSettings c.settings) ⟨resource, fields⟩ w.extra).2 }) := by
    rw [← hreply]
    rfl
  refine ⟨{ w with
    extra := (server.answer (.ofSettings c.settings) ⟨resource, fields⟩ w.extra).2 }, ?_⟩
  rw [Client.get, Act.run_bind_ok hask]
  rfl

/-- A page within reach that an honest scanner is asked for shows the matching findings. -/
theorem Honest.run_search {server : Server σ} {c : Client} {catalogue : List Finding}
    (h : Honest server c.settings catalogue) {q : Query}
    (hproject : q.projectKey = c.settings.projectKey) (hbranch : q.branch = c.settings.branch)
    (hsize : q.pageSize = c.settings.pageSize) {page : Nat} (hpage : 1 ≤ page)
    (hreach : page * c.settings.pageSize ≤ resultWindow) (withFacets : Bool) (w : World σ) :
    ∃ p w', (c.counted server q page withFacets).run w = (.ok p, w') ∧
      Page.Shows p (q.matching catalogue) c.settings.pageSize page := by
  obtain ⟨reply, hreply, hstatus, hcomplaint, d, hbody, hshows⟩ :=
    h.answers (q.fields page withFacets) w.extra q c.settings.pageSize page withFacets
      (asks_fields q page withFacets) hproject (by rw [hbranch]) hsize hpage hreach
  obtain ⟨p, hp, hpageShows⟩ := pageOf_of_shows hshows
  obtain ⟨w', hget⟩ := run_get { w with searches := w.searches + 1 } hreply
  have hobj : ∃ fields, d = .obj fields := by
    obtain ⟨vs, hissues, -⟩ := hshows.issues
    cases d with
    | obj fields => exact ⟨fields, rfl⟩
    | _ => cases hissues
  obtain ⟨fields, rfl⟩ := hobj
  have hdocument : reply.document .search = .ok (.obj fields) := by
    rw [Reply.document, hbody]
    rfl
  refine ⟨p, w', ?_, hpageShows⟩
  have hsearch : (c.search server q page withFacets).run { w with searches := w.searches + 1 } =
      (.ok p, w') := by
    rw [Client.search, Act.run_bind_ok hget]
    simp only [hstatus, hcomplaint, hdocument, ok_bind, hp]
    rfl
  exact hsearch

end Mend.Scanner
