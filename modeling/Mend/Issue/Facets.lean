import Mend.Issue.Basic
import Mend.Sum

/-!
# Facets

How many issues there are of each category and of each severity. The entries stand in the order in
which they first came up.

## Main definitions

* `Tally` — counts by name.
* `Facets`, `Facets.ofIssues` — the counts of a list of issues.
* `Facets.ofValue`, `Facets.toValue` — facets as documents.
-/

namespace Mend

/-- Counts, each name once, in order of arrival. -/
abbrev Tally (α : Type) := List (α × Int)

namespace Tally

variable {α : Type} [BEq α]

/-- The count of a name. -/
def count (t : Tally α) (a : α) : Int := (t.lookup a).getD 0

/-- Sets the count of a name, in its old place or at the end. -/
def put (a : α) (n : Int) : Tally α → Tally α
  | [] => [(a, n)]
  | (b, m) :: rest => if a == b then (b, n) :: rest else (b, m) :: put a n rest

/-- Counts a name once more. -/
def bump (t : Tally α) (a : α) : Tally α := t.put a (t.count a + 1)

/-- How often each name occurs. -/
def ofList (names : List α) : Tally α := names.foldl bump []

/-- The sum of all counts. -/
def total (t : Tally α) : Int := sumOver (·.2) t

end Tally

/-- The counts of a list of issues. -/
structure Facets where
  byCategory : Tally Category := []
  bySeverity : Tally Severity := []

namespace Facets

/-- The facets of a list of issues. -/
def ofIssues (issues : List Issue) : Facets where
  byCategory := .ofList (issues.map (·.category))
  bySeverity := .ofList (issues.map (·.severity))

/-- How many issues of a severity there are. -/
def severityCount (f : Facets) (s : Severity) : Int := f.bySeverity.count s

/-- The document of facets. -/
def toValue (f : Facets) : Value :=
  .record [
    ("types", .obj (f.byCategory.map fun (k, n) => (k.name, .int n))),
    ("severities", .obj (f.bySeverity.map fun (s, n) => (s.name, .int n)))]

/-- Counts read from the fields of a value. -/
def tallyOf {α : Type} [BEq α] (parse : Text → Except Fault α) (v : Value) :
    Except Fault (Tally α) := do
  (← v.fields "items").foldlM
    (fun tally (name, n) => do
      let a ← parse name
      return tally.put a (← n.asInt)) []

/-- The facets of a document. What is missing counts nothing. -/
def ofValue (v : Value) : Except Fault Facets := do
  let byCategory ← tallyOf Category.parse (← v.getD "types" (.obj []))
  let bySeverity ← tallyOf Severity.parse (← v.getD "severities" (.obj []))
  return { byCategory, bySeverity }

end Facets

end Mend
