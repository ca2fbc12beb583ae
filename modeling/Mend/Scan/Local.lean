import Mend.Scan.Files
import Mend.Scan.Matches
import Mend.Scan.Findings
import Mend.Issue.Facets
import Mend.Limit

/-!
# Local scans

A scan of the source files of a project without a scanner service. Detectors always run; a model, if
there is one, only adds to what they find.

## Main definitions

* `ScanResult` — the issues of a scan.
* `capBySeverity` — the most severe issues, in their old order.
* `fetchLocal` — a local scan.
-/

namespace Mend

/-- The issues that a scan gives. -/
structure ScanResult where
  issues : List Issue
  /-- The counts, if the source knows them. -/
  facets : Option Facets := none
  /-- Whether issues were left out because there are too many. -/
  truncated : Bool := false

namespace Scan

variable {σ : Type}

/-- The positions of a list of issues, the most severe issue first and in order among equals. -/
def ranking (issues : List Issue) : List (Nat × Nat) :=
  ((issues.map (·.severity.rank)).zip (List.range issues.length)).mergeSort fun a b => b.1 ≤ a.1

/-- The `limit` most severe issues, in their old order. -/
def capBySeverity (issues : List Issue) (limit : Int) : List Issue :=
  let kept := (firstOf limit (ranking issues)).map (·.2)
  ((issues.zip (List.range issues.length)).filter fun x => kept.contains x.2).map (·.1)

/-- The text of a file: what is no UTF-8 is replaced, and all line ends are line feeds. -/
def fileText (b : Bytes) : Text := (Utf8.decodeReplacing b).unixLines

/-- Whether a model looks at a text. -/
def isLongEnough (s : LocalSettings) (text : Text) : Bool :=
  s.deepScanMinLines ≤ (text.count Text.newline : Int) + 1

/-- The issues in a file: those of the detectors and, behind them, those of the model. -/
def scanFile (s : LocalSettings) (detectors : List Detector) (model : Option (DeepScanner σ))
    (keys : KeyFactory) (f : SourceFile) : Act (World σ) (List Issue × KeyFactory) := do
  let text := fileText f.contents
  let (found, keys) := scanText detectors f.path text keys
  match model with
  | none => return (found, keys)
  | some scanner =>
    if isLongEnough s text then
      let (added, keys) ← deepScan scanner f.path text keys
      return (found ++ added, keys)
    else return (found, keys)

/-- The issues in some files, which share their keys. -/
def scanFiles (s : LocalSettings) (detectors : List Detector) (model : Option (DeepScanner σ)) :
    KeyFactory → List SourceFile → Act (World σ) (List Issue)
  | _, [] => return []
  | keys, f :: rest => do
    let (here, keys) ← scanFile s detectors model keys f
    return here ++ (← scanFiles s detectors model keys rest)

/-- The files of a project as a local scan finds them. -/
def projectFiles (s : LocalSettings) (projectDir : Path) (t : Tree) : List SourceFile :=
  match t.entry projectDir with
  | .ok e => sourceFiles s e
  | .error _ => []

/-- The result of a scan for all accepted issues: the most severe ones if there are too many. -/
def capped (selectors : Selectors) (issues : List Issue) : ScanResult :=
  let truncated := decide (selectors.maxIssues < issues.length)
  { issues := if truncated then capBySeverity issues selectors.maxIssues else issues
    facets := some (.ofIssues issues)
    truncated }

/-- Scans a project. All its files are taken from the tree as it is at the beginning, and each of them
can be read: what a model does to the tree while it looks at a file does not show in the scan. -/
def fetchLocal (s : LocalSettings) (projectDir : Path) (detectors : List Detector)
    (model : Option (DeepScanner σ)) (selectors : Selectors) : Act (World σ) ScanResult := do
  let files := projectFiles s projectDir (← Act.get).tree
  let found ← scanFiles s detectors model [] files
  let accepted := found.filter selectors.accepts
  World.say Log.info
    ["Local scan: ", .decimal accepted.length, " issues in ", .decimal files.length, " files"]
  let result := capped selectors accepted
  if result.truncated then
    World.say Log.warning ["Keeping the ", .decimal selectors.maxIssues, " most severe issues"]
  return result

end Scan

end Mend
