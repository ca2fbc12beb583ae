import Mend.Limit
import Mend.Scan.Local
import Mend.Scanner.Client
import Mend.Scanner.Finding

/-!
# Fetching findings

Getting findings from a scanner page by page. A scanner shows only so many findings of one search;
if there are more than that, or more than are wanted, each severity is searched on its own, the
highest first, until there are enough.

## Main definitions

* `resultWindow`, `maxPages` — how far a search reaches.
* `eachPage` — handing the pages of a search to a consumer.
* `collect`, `narrowed` — the findings of a search, and the most severe ones of several.
* `fetchAll` — a scan.
-/

namespace Mend.Scanner

variable {σ α : Type}

/-- The most findings that a scanner shows of one search. -/
def resultWindow : Nat := 10000

/-- The most pages of a search. -/
def maxPages (pageSize : Nat) : Nat := max 1 (resultWindow / pageSize)

/-- Asks for a page of a search. -/
abbrev Search (σ : Type) := Query → (page : Int) → (withFacets : Bool) → Act (World σ) Page

/-- A search of a client, which is counted. -/
def Client.counted (c : Client) (server : Server σ) : Search σ := fun q page withFacets => do
  Act.modify fun w => { w with searches := w.searches + 1 }
  c.search server q page withFacets

/-- A page of a search, which is asked for unless it is known. -/
def pageUnlessKnown (search : Search σ) (q : Query) (number : Nat) : Option Page → Act (World σ) Page
  | some page => pure page
  | none => search q number false

/-- Hands the pages of a search to a consumer, from page `number` on, until the consumer has enough,
a page is short, or all findings were seen. A page is asked for only when it is wanted; `known` is
the next page if it is there already. After `left` pages the search has to stop. -/
def eachPage (search : Search σ) (q : Query) (limit : Nat)
    (consume : α → Page → Act (World σ) (α × Bool)) :
    (left number : Nat) → (known : Option Page) → α → Act (World σ) α
  | 0, _, _, a => do
    World.say Log.warning
      ["Stopped after ", .decimal limit, " pages (result window ", .decimal resultWindow, ")"]
    return a
  | left + 1, number, known, a => do
    let page ← pageUnlessKnown search q number known
    let (a, hasEnough) ← consume a page
    if hasEnough then return a
    else
      let size ← Act.ofExcept page.size
      if size < q.pageSize || page.total ≤ number * q.pageSize then return a
      else eachPage search q limit consume left (number + 1) none a

/-- Hands the pages of a search to a consumer, as far as the search reaches. -/
def pages (search : Search σ) (q : Query) (limit : Nat)
    (consume : α → Page → Act (World σ) (α × Bool)) (known : Option Page) (a : α) :
    Act (World σ) α :=
  eachPage search q limit consume limit 1 known a

/-- The issues of some findings. -/
def issuesOf (components : List (Value × Value)) : List Value → Act (World σ) (List Issue)
  | [] => return []
  | v :: rest => do
    let issue? ← issueOf components v
    return issue?.toList ++ (← issuesOf components rest)

/-- Adds the issues of a page, and tells whether there are enough. -/
def gather (limit : Nat) (found : List Issue) (p : Page) : Act (World σ) (List Issue × Bool) := do
  let found := found ++ (← issuesOf p.components (← Act.ofExcept p.issues.elements))
  return (found, decide (limit ≤ found.length))

/-- The first `limit` issues of a search. -/
def collect (search : Search σ) (q : Query) (pageLimit limit : Nat) (known : Option Page) :
    Act (World σ) (List Issue) := do
  return (← pages search q pageLimit (gather limit) known []).take limit

/-- Whether the counts say that there is no finding of a severity. -/
def isKnownEmpty (facets : Option Facets) (s : Severity) : Bool :=
  match facets with
  | some f => !f.bySeverity.isEmpty && f.severityCount s == 0
  | none => false

/-- Fills up a list to `limit` issues, with those of one severity after the other. -/
def narrowed (search : Search σ) (q : Query) (pageLimit limit : Nat) (facets : Option Facets) :
    List Severity → List Issue → Act (World σ) (List Issue)
  | [], found => return found
  | s :: rest, found => do
    if limit ≤ found.length then return found
    else if !q.severities.elem s || isKnownEmpty facets s then
      narrowed search q pageLimit limit facets rest found
    else
      let batch ←
        collect search { q with severities := [s] } pageLimit (limit - found.length) none
      World.say Log.info ["  ", s.name, ": ", .decimal batch.length, " issues"]
      narrowed search q pageLimit limit facets rest (found ++ batch)

/-- The search for the issues that count. -/
def queryFor (s : ScannerSettings) (selectors : Selectors) : Query where
  projectKey := s.projectKey
  branch := s.branch
  categories := selectors.categories
  severities := selectors.severities
  pageSize := s.pageSize

/-- The issues of a search whose first page is known: all of them, or those of the highest
severities if there are too many. -/
def issuesAfter (search : Search σ) (q : Query) (pageLimit limit : Nat) (first : Page) :
    Act (World σ) (List Issue) :=
  if first.total ≤ limit && first.total ≤ resultWindow then
    collect search q pageLimit limit (some first)
  else do
    World.say Log.info ["Too many matches, narrowing by severity (highest first)"]
    narrowed search q pageLimit limit first.facets Severity.descending []

/-- The issues that count, as far as they are wanted. -/
def fetch (search : Search σ) (s : ScannerSettings) (selectors : Selectors) :
    Act (World σ) ScanResult := do
  let q := queryFor s selectors
  let limit := selectors.maxIssues
  let first ← search q 1 true
  let cap ← Act.ofExcept (Value.textOfInt limit)
  World.say Log.info ["Scanner reports ", .ofInt first.total, " matching issues (cap ", cap, ")"]
  let issues ← issuesAfter search q (maxPages s.pageSize) limit first
  let truncated := decide ((issues.length : Int) < first.total)
  if truncated then
    World.say Log.warning
      ["Returning ", .decimal issues.length, " of ", .ofInt first.total, " issues"]
  return { issues, facets := first.facets, truncated }

/-- Scans a project with a scanner: first sees that everything is there, then fetches. -/
def fetchAll (server : Server σ) (s : ScannerSettings) (selectors : Selectors) :
    Act (World σ) ScanResult := do
  let c ← Act.ofExcept (Client.make server s)
  let _ ← c.preflight server
  fetch (c.counted server) s selectors

end Mend.Scanner
