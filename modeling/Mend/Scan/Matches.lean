import Mend.Scan.Detector
import Mend.Scan.Keys
import Mend.Issue.Basic

/-!
# Pattern matches

Running detectors over the lines of a file. Comment lines are passed over.

## Main definitions

* `isComment` — whether a line is a comment.
* `scanText` — the issues that the detectors find in a text.
-/

namespace Mend.Scan

/-- How comment lines begin. -/
def commentMarks : List Text := ["//", "/*", "*", "#"]

/-- Whether a line is a comment, as far as its beginning tells. -/
def isComment (line : Text) : Bool :=
  let rest := line.trimLeft Text.isBlank
  commentMarks.any rest.startsWith

/-- The issue that a detector reports for a line. -/
def patternIssue (d : Detector) (path key : Text) (line : Nat) : Issue where
  key := .text key
  rule := .text d.rule
  category := d.category
  severity := d.severity
  message := .text d.message
  filePath := .text path
  lineStart := line
  lineEnd := line
  effort := d.effort
  tags := [.str "pattern"]
  component := .null

/-- The issues that some detectors report for a line, all of which match. -/
def reportLine (path : Text) (line : Nat) : List Detector → KeyFactory → List Issue × KeyFactory
  | [], keys => ([], keys)
  | d :: rest, keys =>
    let (key, keys) := keys.next path line
    let (issues, keys) := reportLine path line rest keys
    (patternIssue d path key line :: issues, keys)

/-- The issues in the lines of a file from line `line` on. -/
def scanLines (detectors : List Detector) (path : Text) :
    (line : Nat) → List Text → KeyFactory → List Issue × KeyFactory
  | _, [], keys => ([], keys)
  | line, t :: rest, keys =>
    let hits := if isComment t then [] else detectors.filter fun d => d.isMatch t
    let (here, keys) := reportLine path line hits keys
    let (issues, keys) := scanLines detectors path (line + 1) rest keys
    (here ++ issues, keys)

/-- The issues that the detectors find in a text. -/
def scanText (detectors : List Detector) (path text : Text) (keys : KeyFactory) :
    List Issue × KeyFactory :=
  scanLines detectors path 1 text.lines keys

end Mend.Scan
