import Mend.Json.Reader
import Mend.Text.Utf8

/-!
# Faults

Everything that can go wrong, as causes. The wording of each cause is given once, by the `message`
functions; the rest of the library works with the causes.

## Main definitions

* `ConfigFault` — a setting that is missing or invalid.
* `ScanFault` — a scanner that cannot be reached, refuses, or answers nonsense.
* `ToolFault` — a build or drafting tool that could not do its work.
* `FileFault` — a file operation that failed.
* `Fault` — any of these, or a value that is not of the expected form.
-/

namespace Mend

/-- Why a file operation failed. -/
inductive FileProblem where
  | missing
  | denied
  | notDirectory
  | isDirectory
  | nameTooLong
  | exists
  | unwritable
  /-- The disk is full. That is found out while writing, when the file is open already. -/
  | noSpace
  /-- The device does not work. That is found out when the file is open already, too. -/
  | deviceError
deriving DecidableEq, Repr

/-- The number of a problem. -/
def FileProblem.number : FileProblem → Nat
  | .missing => 2
  | .deviceError => 5
  | .denied => 13
  | .exists => 17
  | .notDirectory => 20
  | .isDirectory => 21
  | .noSpace => 28
  | .unwritable => 30
  | .nameTooLong => 36

/-- The wording of a problem. -/
def FileProblem.reason : FileProblem → Text
  | .missing => "No such file or directory"
  | .denied => "Permission denied"
  | .exists => "File exists"
  | .notDirectory => "Not a directory"
  | .isDirectory => "Is a directory"
  | .noSpace => "No space left on device"
  | .unwritable => "Read-only file system"
  | .nameTooLong => "File name too long"
  | .deviceError => "Input/output error"

/-- The number and wording of a problem. -/
def FileProblem.message (p : FileProblem) : Text :=
  .cat ["[Errno ", .decimal p.number, "] ", p.reason]

/-- A file operation that failed, with the path it was given. -/
structure FileFault where
  problem : FileProblem
  path : Text
deriving DecidableEq, Repr

/-- The wording of a failed file operation. An open file is not named. -/
def FileFault.message (f : FileFault) : Text :=
  match f.problem with
  | .noSpace | .deviceError => f.problem.message
  | problem => .cat [problem.message, ": ", f.path.quoted]

/-- A setting that is missing or invalid. -/
inductive ConfigFault where
  | emptyUrl
  | emptyProjectKey
  | pageSize (n : Int)
  | timeout
  | maxAttempts
  | buildTimeout
  | maxIssues (n : Int)
  | noTypes
  | noSeverities
  | keysOutsideFix
  | notInteger (name value : Text)
  | unknownType (values : Text)
  | unknownSeverity (values : Text)
  | planUnreadable (path reason : Text)
  | halfScanner

/-- The wording of an invalid setting. -/
def ConfigFault.message : ConfigFault → Text
  | .emptyUrl => "Scanner URL must not be empty"
  | .emptyProjectKey => "Scanner project key must not be empty"
  | .pageSize n => .cat ["page_size must be between 1 and 500, got ", .ofInt n]
  | .timeout => "timeout must be positive"
  | .maxAttempts => "max_attempts must be at least 1"
  | .buildTimeout => "build_timeout must be positive"
  | .maxIssues n => .cat ["max_issues must be positive, got ", .ofInt n]
  | .noTypes => "At least one issue type must be selected"
  | .noSeverities => "At least one severity must be selected"
  | .keysOutsideFix => "Issue keys can only be selected in fix mode"
  | .notInteger name value => .cat [name, " must be an integer, got ", value.quoted]
  | .unknownType values => .cat ["Unknown issue type in ", values.quoted]
  | .unknownSeverity values => .cat ["Unknown severity in ", values.quoted]
  | .planUnreadable path reason => .cat ["Cannot load plan from ", path, ": ", reason]
  | .halfScanner => "Both --sonar-url and --project-key are required for a remote scan"

/-- The kinds of scan faults, by what the user has to mend. -/
inductive ScanFault where
  /-- The scanner cannot be reached or is not ready. -/
  | connection (message : Text)
  /-- The scanner does not accept the credentials. -/
  | auth (message : Text)
  /-- The project does not exist. -/
  | projectMissing (message : Text)
  /-- The project may not be seen. -/
  | projectPermission (message : Text)
  /-- The search itself failed. -/
  | search (message : Text)

/-- The wording of a scan fault. -/
def ScanFault.message : ScanFault → Text
  | .connection m | .auth m | .projectMissing m | .projectPermission m | .search m => m

/-- The name under which a kind of scan fault is reported. -/
def ScanFault.name : ScanFault → Text
  | .connection _ => "ScannerConnectionError"
  | .auth _ => "ScannerAuthError"
  | .projectMissing _ => "ProjectNotFoundError"
  | .projectPermission _ => "ProjectPermissionError"
  | .search _ => "ScanError"

/-- A tool that could not do its work. -/
inductive ToolFault where
  | noBuildFile (dir : Text)
  | cannotRun (command : Text) (cause : FileFault)
  | timedOut (command : Text) (seconds : Text)
  | drafter (cause : Text)
  | validator (cause : Text)
  | candidateUnwritable (cause : FileFault)
  | other (message : Text)

/-- The wording of a tool fault. -/
def ToolFault.message : ToolFault → Text
  | .noBuildFile dir =>
    .cat ["No compile command for Java sources in ", dir,
      ": add pom.xml or build.gradle, or pass an explicit compile command"]
  | .cannotRun command cause => .cat ["Cannot run ", command, ": ", cause.message]
  | .timedOut command seconds => .cat [command, " timed out after ", seconds, "s"]
  | .drafter cause => .cat ["Rewriter failed: ", cause]
  | .validator cause => .cat ["Build validator failed: ", cause]
  | .candidateUnwritable cause => .cat ["Cannot write candidate: ", cause.message]
  | .other message => message

/-- Anything that can go wrong. -/
inductive Fault where
  /-- A field that must be there is not. -/
  | missingField (name : Text)
  /-- A text that is not the name of a member of a closed list. -/
  | notOneOf (what value : Text)
  | notNumeral (t : Text)
  | numeralTooLong (digits : Nat)
  /-- A number that would be written with more digits than a numeral may have. -/
  | numberTooLong
  | undefinedNumber
  | infiniteNumber
  /-- A value of a kind that the operation does not take. -/
  | wrongKind (message : Text)
  /-- A value of a kind that does not have the operation. -/
  | lacks (kind operation : Text)
  | negativeEffort (n : Int)
  | negativeLines (first last : Int)
  | undecodable (failure : Utf8.Failure)
  | unencodable (t : Text) (position : Nat)
  | nullInPath
  | badDocument (failure : Json.Failure)
  | openQuotation
  | openEscape
  | config (fault : ConfigFault)
  /-- The library through which scanners are asked refuses with this text. -/
  | web (message : Text)
  | scan (fault : ScanFault)
  | tool (fault : ToolFault)
  | file (fault : FileFault)
  /-- A model session, a collaborator or a server that broke off with this text. -/
  | broken (message : Text)
  /-- The work was broken off from outside. No one on the way may go on as if it had failed. -/
  | interrupted

/-- The first two hundred characters of a text. -/
def clipped (t : Text) : Text := t.take 200

/-- The wording of an undecodable run of bytes. -/
def Utf8.Failure.message (f : Utf8.Failure) : Text :=
  let place :=
    match f.run with
    | [b] => Text.cat ["byte 0x", Text.hex 2 b.toNat, " in position ", .decimal f.position]
    | run =>
      Text.cat ["bytes in position ", .decimal f.position, "-",
        .decimal (f.position + run.length - 1)]
  let reason : Text :=
    match f.defect with
    | .start => "invalid start byte"
    | .continuation => "invalid continuation byte"
    | .ending => "unexpected end of data"
  .cat ["'utf-8' codec can't decode ", place, ": ", reason]

/-- The wording of a code point that has no encoding. -/
def unencodableMessage (t : Text) (position : Nat) : Text :=
  let run := (t.drop position).takeWhile fun c => !Text.isScalar c
  let place :=
    match run with
    | [c] => Text.cat ["character '\\u", Text.hex 4 c, "' in position ", .decimal position]
    | _ =>
      Text.cat ["characters in position ", .decimal position, "-",
        .decimal (position + run.length - 1)]
  .cat ["'utf-8' codec can't encode ", place, ": surrogates not allowed"]

/-- The wording of a fault. -/
def Fault.message : Fault → Text
  | .missingField name => name.quoted
  | .notOneOf what value => .cat [value.quoted, " is not a valid ", what]
  | .notNumeral t => .cat ["invalid literal for int() with base 10: ", clipped t.quoted]
  | .numeralTooLong digits => Numeral.refusal digits
  | .numberTooLong =>
    "Exceeds the limit (4300 digits) for integer string conversion; use sys.set_int_max_str_digits() to increase the limit"
  | .undefinedNumber => "cannot convert float NaN to integer"
  | .infiniteNumber => "cannot convert float infinity to integer"
  | .wrongKind message => message
  | .lacks kind operation => .cat ["'", kind, "' object has no attribute '", operation, "'"]
  | .negativeEffort n => .cat ["effort_minutes must be non-negative, got ", .ofInt n]
  | .negativeLines first last =>
    .cat ["line numbers must be non-negative, got ", .ofInt first, "-", .ofInt last]
  | .undecodable failure => failure.message
  | .unencodable t position => unencodableMessage t position
  | .nullInPath => "embedded null byte"
  | .badDocument failure => failure.message
  | .openQuotation => "No closing quotation"
  | .openEscape => "No escaped character"
  | .config fault => fault.message
  | .web message => message
  | .scan fault => fault.message
  | .tool fault => fault.message
  | .file fault => fault.message
  | .broken message => message
  | .interrupted => []

/-- Whether a fault means that a value of the right kind is not acceptable. -/
def Fault.isInvalidValue : Fault → Bool
  | .notOneOf .. | .notNumeral _ | .numeralTooLong _ | .numberTooLong | .undefinedNumber
  | .negativeEffort _ | .negativeLines .. | .undecodable _ | .unencodable .. | .nullInPath
  | .badDocument _ | .openQuotation | .openEscape | .config _ => true
  | _ => false

/-- Whether a fault means that a value has not the expected form, so that a record holding it can be
left out. -/
def Fault.isMalformedValue : Fault → Bool
  | .wrongKind _ => true
  | f => f.isInvalidValue

end Mend
