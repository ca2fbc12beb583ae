import Mend.Json.Access

/-!
# Kinds of errors

The kinds under which errors are reported. Errors of a scan end the whole operation; errors of a
fix attempt concern one file and lead to the next attempt. Each kind but the first belongs to a more
general one.

## Main definitions

* `ErrorKind`, `ErrorKind.parent?`, `ErrorKind.ancestors` — the kinds and their order.
* `Report`, `ErrorKind.report` — an error of a kind, with its text and its details.
-/

namespace Mend

/-- The kinds of errors. -/
inductive ErrorKind where
  | remediation
  | config
  | scan
  | scannerConnection
  | scannerAuth
  | projectNotFound
  | projectPermission
  | fixAttempt
  | compileFailed
  | invalidDraft
  | toolInvocation
  | retriesExhausted
deriving DecidableEq, Repr

namespace ErrorKind

/-- The name of a kind. -/
def name : ErrorKind → Text
  | remediation => "RemediationError"
  | config => "ConfigError"
  | scan => "ScanError"
  | scannerConnection => "ScannerConnectionError"
  | scannerAuth => "ScannerAuthError"
  | projectNotFound => "ProjectNotFoundError"
  | projectPermission => "ProjectPermissionError"
  | fixAttempt => "FixAttemptError"
  | compileFailed => "CompileFailed"
  | invalidDraft => "InvalidRewriteOutput"
  | toolInvocation => "ToolInvocationError"
  | retriesExhausted => "RetriesExhausted"

/-- All kinds. -/
def all : List ErrorKind :=
  [remediation, config, scan, scannerConnection, scannerAuth, projectNotFound, projectPermission,
   fixAttempt, compileFailed, invalidDraft, toolInvocation, retriesExhausted]

/-- The more general kind that a kind belongs to. -/
def parent? : ErrorKind → Option ErrorKind
  | remediation => none
  | config | scan | fixAttempt | retriesExhausted => some remediation
  | scannerConnection | scannerAuth | projectNotFound | projectPermission => some scan
  | compileFailed | invalidDraft | toolInvocation => some fixAttempt

/-- How far a kind is below the most general one. -/
def depth : ErrorKind → Nat
  | remediation => 0
  | config | scan | fixAttempt | retriesExhausted => 1
  | _ => 2

theorem depth_of_parent? {k p : ErrorKind} (h : k.parent? = some p) : p.depth < k.depth := by
  cases k <;> simp_all [parent?] <;> subst h <;> decide

/-- A kind and all kinds it belongs to. -/
def ancestors (k : ErrorKind) : List ErrorKind :=
  match _h : k.parent? with
  | none => [k]
  | some p => k :: ancestors p
termination_by k.depth
decreasing_by exact depth_of_parent? _h

/-- Whether an error of this kind means that a given value is invalid. -/
def isInvalidValue (k : ErrorKind) : Bool := k == config

/-- An error of a kind: its text and its details. -/
structure Report where
  kind : ErrorKind
  text : Text
  details : List (Text × Value) := []

/-- Refuses an argument list of the wrong length. -/
def wrongCount (k : ErrorKind) : Except Fault Report :=
  .error (.wrongKind (.cat [k.name, " takes other arguments"]))

/-- The error of a kind made from positional arguments. A fix attempt has a diagnostic; an exhausted
budget of attempts names the file, the number of attempts and the last error. -/
def report (k : ErrorKind) (args : List Value) : Except Fault Report :=
  if k == retriesExhausted then
    match args with
    | [file, attempts] => .ok (exhausted file attempts .null)
    | [file, attempts, last] => .ok (exhausted file attempts last)
    | _ => wrongCount k
  else if k.ancestors.elem fixAttempt then
    match args with
    | [m] => .ok ⟨k, m.shown, [("diagnostic", .text [])]⟩
    | [m, d] => .ok ⟨k, m.shown, [("diagnostic", d)]⟩
    | _ => wrongCount k
  else
    match args with
    | [] => .ok ⟨k, [], []⟩
    | [m] => .ok ⟨k, m.shown, []⟩
    | ms => .ok ⟨k, .cat ["(", .join ", " (ms.map (·.repr)), ")"], []⟩
where
  /-- The error of a file whose attempts are used up. -/
  exhausted (file attempts last : Value) : Report :=
    let reason : Text := if last.isGiven then .cat [" (", last.shown, ")"] else []
    ⟨retriesExhausted, .cat [file.shown, ": gave up after ", attempts.shown, " attempt(s)", reason],
      [("file_path", file), ("attempts", attempts), ("last_error", last)]⟩

end ErrorKind

end Mend
