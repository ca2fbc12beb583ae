import Mend.Plan.Basic
import Mend.Limit

/-!
# Plan summaries

A plan as a report for people: where it comes from, how much there is to do, and the issues of the
first files.
-/

namespace Mend.Plan

/-- How many files a summary lists by default. -/
def summaryFiles : Int := 20

/-- The lines about one file. -/
def fileLines (g : FileGroup) : List Text :=
  Text.cat ["- ", g.path, " (", .decimal g.issues.length, ")"] ::
    g.issues.map fun i =>
      .cat ["  - [", i.key.shown, "] ", i.severity.name, " ", i.rule.shown, ": ", i.message.shown]

/-- The lines about the files, of which the first `maxFiles` are listed; a negative number counts
from the end. -/
def filesSection (p : Plan) (maxFiles : Int) : List Text :=
  if p.groups.isEmpty then []
  else
    let rest : Int := p.fileCount - maxFiles
    Text.stack [
      ["", "### Files"],
      (firstOf maxFiles p.groups).flatMap fileLines,
      if rest > 0 then [.cat ["- ... and ", .ofInt rest, " more files"]] else []]

/-- The lines of a summary. -/
def summaryLines (p : Plan) (maxFiles : Int) : Except Fault (List Text) := do
  let effort ← Effort.report p.effort
  return Text.stack [
    ["## Remediation Plan",
     "",
     "### Summary",
     .cat ["- Source: ", if p.usedRemote then "remote scanner" else "local pattern scan"],
     .cat ["- Issues: ", .decimal p.totalIssues, if p.truncated then " (truncated)" else ""],
     .cat ["- Files: ", .decimal p.fileCount],
     .cat ["- Unlocatable issues: ", .decimal p.unlocatable.length],
     .cat ["- Estimated effort: ", effort],
     "",
     "### Severity Breakdown"],
    Severity.descending.map fun s =>
      .cat ["- ", s.title, ": ", .ofInt (p.facets.severityCount s)],
    ["", "### Type Breakdown"],
    Category.all.map fun k => .cat ["- ", k.name, ": ", .ofInt (p.facets.byCategory.count k)],
    p.filesSection maxFiles]

/-- A plan as a report. -/
def summary (p : Plan) (maxFiles : Int) : Except Fault Text :=
  Text.join "\n" <$> p.summaryLines maxFiles

end Mend.Plan
