import Mend.Issue.Facets
import Mend.Log
import Mend.Sum

/-!
# Plans

A plan groups the issues of a scan by file, before anything is fixed. Grouping is stable: files
stand in the order in which they first come up, and the issues of a file in the order of the scan.
Issues without a file are kept apart, so that the plan accounts for every issue.

## Main definitions

* `Plan`, `FileGroup` — plans and their groups.
* `Plan.ofIssues` — the plan for a list of issues.
* `Plan.all` — every issue of a plan.
* `Plan.toValue`, `Plan.ofValue` — plans as documents.
-/

namespace Mend

/-- The issues of one file. -/
structure FileGroup where
  path : Text
  issues : List Issue

/-- The issues of a scan, grouped by file. -/
structure Plan where
  groups : List FileGroup
  unlocatable : List Issue := []
  facets : Facets := {}
  effort : Int := 0
  usedRemote : Bool := false
  truncated : Bool := false

namespace Plan

/-- The issues that lie in a file, in the order of their files. -/
def located (p : Plan) : List Issue := p.groups.flatMap (·.issues)

/-- Every issue of the plan, those in files first. -/
def all (p : Plan) : List Issue := p.located ++ p.unlocatable

/-- How many issues the plan has. -/
def totalIssues (p : Plan) : Nat := countOver (·.issues.length) p.groups + p.unlocatable.length

/-- How many files the plan has. -/
def fileCount (p : Plan) : Nat := p.groups.length

/-! ## Building a plan -/

/-- The paths of a list of issues, each once, in order of first appearance. -/
def paths (issues : List Issue) : List Text :=
  (issues.filter (·.isLocatable)).foldl
    (fun seen i => if seen.contains i.path then seen else seen ++ [i.path]) []

/-- The plan for a list of issues. Facets that the source does not give are computed. -/
def ofIssues (issues : List Issue) (facets : Option Facets) (usedRemote truncated : Bool) : Plan where
  groups := (paths issues).map fun p => ⟨p, issues.filter fun i => i.isLocatable && i.path == p⟩
  unlocatable := issues.filter fun i => !i.isLocatable
  facets := facets.getD (.ofIssues issues)
  effort := sumOver (fun i => (i.effort : Int)) issues
  usedRemote := usedRemote
  truncated := truncated

/-- What the log says about the issues of a new plan that lie in no file. -/
def warnings (p : Plan) : List Log.Line :=
  if p.unlocatable.isEmpty then []
  else
    [⟨Log.warning, .cat [.decimal p.unlocatable.length,
      " issue(s) have no file path and cannot be fixed"]⟩]

/-- What the log says about the size of a new plan. -/
def sizeLine (p : Plan) : Log.Line :=
  ⟨Log.info, .cat ["Plan: ", .decimal p.totalIssues, " issues in ", .decimal p.fileCount, " files, ",
    .ofInt p.effort, " min estimated effort"]⟩

/-- What the log says about a new plan. -/
def notices (p : Plan) : List Log.Line := p.warnings ++ [p.sizeLine]

/-! ## Documents -/

/-- The document of a plan. -/
def toValue (p : Plan) : Except Fault Value := do
  let groups ← p.groups.mapM fun g => do return (g.path, Value.list (← g.issues.mapM (·.toValue)))
  let unlocatable ← p.unlocatable.mapM (·.toValue)
  return .record [
    ("total_issues", .nat p.totalIssues),
    ("issues_by_file", .obj groups),
    ("unlocatable", .list unlocatable),
    ("facets", p.facets.toValue),
    ("total_effort_minutes", .int p.effort),
    ("used_remote_source", .bool p.usedRemote),
    ("truncated", .bool p.truncated)]

/-- The issues of a collection of documents. -/
def issuesOf (v : Value) : Except Fault (List Issue) := do (← v.elements).mapM Issue.ofValue

/-- The plan of a document. What is missing is empty; the number of issues is not read but counted. -/
def ofValue (v : Value) : Except Fault Plan := do
  let fields ← (← v.getD "issues_by_file" (.obj [])).fields "items"
  let groups ← fields.mapM fun (path, items) => do return FileGroup.mk path (← issuesOf items)
  let unlocatable ← issuesOf (← v.getD "unlocatable" (.list []))
  let facets ← Facets.ofValue (← v.getD "facets" (.obj []))
  let effort ← (← v.getD "total_effort_minutes" (.nat 0)).asInt
  let usedRemote := (← v.getD "used_remote_source" (.bool false)).isGiven
  let truncated := (← v.getD "truncated" (.bool false)).isGiven
  return { groups, unlocatable, facets, effort, usedRemote, truncated }

end Plan

end Mend
