import Mend.Settings.Basic
import Mend.Issue.Facets

/-!
# Searches

Which findings a search asks for, and the page of them that comes back.

## Main definitions

* `Query`, `Query.fields` — a search, and the fields that put it to the scanner.
* `Page` — a page of findings.
* `facetsOf` — the counts that come with a page.
-/

namespace Mend.Scanner

/-- Which findings a search asks for. -/
structure Query where
  projectKey : Text
  branch : Option Text := none
  categories : List Category := Category.all
  severities : List Severity := Severity.descending
  pageSize : Int := maxPageSize

/-- The categories in the order of their names. -/
def alphabetical : List Category := [.bug, .codeSmell, .vulnerability]

/-- The fields that each page of a search has. -/
def Query.mainFields (q : Query) (page : Int) : List (Text × Value) :=
  let categories := (alphabetical.filter q.categories.elem).map (·.name)
  let severities := (Severity.descending.filter q.severities.elem).map (·.name)
  [("componentKeys", .text q.projectKey), ("resolved", .str "false"),
    ("types", .text (.join "," categories)), ("severities", .text (.join "," severities)),
    ("ps", .int q.pageSize), ("p", .int page)]

/-- The field that names the branch, if a branch is named. -/
def Query.branchFields (q : Query) : List (Text × Value) :=
  match q.branch with
  | some b => if b.isEmpty then [] else [("branch", .text b)]
  | none => []

/-- The field that asks for the counts of all findings, if they are wanted. -/
def facetFields (withFacets : Bool) : List (Text × Value) :=
  if withFacets then [("facets", .str "types,severities")] else []

/-- The fields that ask for a page of a search. -/
def Query.fields (q : Query) (page : Int) (withFacets : Bool := false) : List (Text × Value) :=
  q.mainFields page ++ q.branchFields ++ facetFields withFacets

/-- A page of findings. -/
structure Page where
  number : Int
  /-- How many findings the search has in all. -/
  total : Int
  /-- The findings as the scanner sent them. -/
  issues : Value
  /-- The paths of the files by the names that the scanner has for them. -/
  components : List (Value × Value) := []
  facets : Option Facets := none

/-- How many findings a collection holds. -/
def sizeOf (issues : Value) : Except Fault Nat :=
  match issues with
  | .list l => .ok l.length
  | .text t => .ok t.length
  | .obj fs => .ok fs.length
  | v => .error (.wrongKind (.cat ["object of type '", v.kind, "' has no len()"]))

/-- How many findings a page holds. -/
def Page.size (p : Page) : Except Fault Nat := sizeOf p.issues

/-! ## Facets -/

/-- Notes one count of a facet. -/
def noteCount (property : Value) (f : Facets) (entry : Value) : Except Fault Facets := do
  if property.same (.str "types") then
    let n ← (← entry.require "count").asInt
    return { f with byCategory := f.byCategory.put (← Category.read (← entry.require "val")) n }
  else if property.same (.str "severities") then
    let n ← (← entry.require "count").asInt
    return { f with bySeverity := f.bySeverity.put (← Severity.read (← entry.require "val")) n }
  else return f

/-- Whether a count can be passed over: it is incomplete, or counts something unknown. -/
def isPassedOver : Fault → Bool
  | .missingField _ => true
  | f => f.isInvalidValue

/-- Notes one count of a facet, unless it can be passed over. -/
def noteCountIfKnown (property : Value) (f : Facets) (entry : Value) : Except Fault Facets :=
  match noteCount property f entry with
  | .error e => if isPassedOver e then .ok f else .error e
  | r => r

/-- Notes the counts of a facet. -/
def noteFacet (f : Facets) (facet : Value) : Except Fault Facets := do
  let property ← facet.getD "property" .null
  (← (← facet.getD "values" (.list [])).elements).foldlM (noteCountIfKnown property) f

/-- The counts in a block of facets, if there is one. -/
def facetsOf (block : Value) : Except Fault (Option Facets) :=
  if block.isGiven then do return some (← (← block.elements).foldlM noteFacet {}) else .ok none

end Mend.Scanner
